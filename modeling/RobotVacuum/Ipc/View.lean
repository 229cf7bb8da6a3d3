import RobotVacuum.Ipc.Event
import RobotVacuum.Ipc.Mutex

/-!
# One thread at a time

What the operations of the kernel do to a single thread, apart from when it gets the processor.
`Kernel.view` is the control block of a thread without what scheduling is about (which of the
ready threads runs, the priorities, the yield bit, the ticks), together with the wait lists the
thread is linked in. A scheduling or a change of priority changes no view, and every other
operation changes the views of the threads it is about and no other.
-/

set_option linter.unusedSectionVars false

namespace RobotVacuum

/-- A ready thread and the running one are told apart by the scheduler only. -/
def ThreadState.phase : ThreadState → ThreadState
  | .running => .ready
  | st => st

namespace ThreadState

variable {st : ThreadState}

@[simp] theorem phase_eq_init : st.phase = .init ↔ st = .init := by cases st <;> simp [phase]
@[simp] theorem phase_eq_suspend : st.phase = .suspend ↔ st = .suspend := by
  cases st <;> simp [phase]
@[simp] theorem phase_eq_close : st.phase = .close ↔ st = .close := by cases st <;> simp [phase]
@[simp] theorem phase_eq_ready : st.phase = .ready ↔ st = .ready ∨ st = .running := by
  cases st <;> simp [phase]
@[simp] theorem phase_ne_running : st.phase ≠ .running := by cases st <;> simp [phase]

end ThreadState

/-- The control block without what scheduling is about. -/
def Thread.core (th : Thread) : Thread :=
  { th with
    stat := { th.stat with state := th.stat.state.phase, yield := false }
    threadTimer := { th.threadTimer with activated := false }
    currentPriority := 0
    numberMask := 0
    remainingTick := 0
    tickCount := 0
    endFlag := false }

namespace Thread

variable {th th' : Thread}

@[simp] theorem core_state : th.core.stat.state = th.stat.state.phase := rfl
@[simp] theorem core_signal : th.core.stat.signal = th.stat.signal := rfl
@[simp] theorem core_signalPending : th.core.stat.signalPending = th.stat.signalPending := rfl
@[simp] theorem core_signalWait : th.core.stat.signalWait = th.stat.signalWait := rfl
@[simp] theorem core_error : th.core.error = th.error := rfl
@[simp] theorem core_sigPending : th.core.sigPending = th.sigPending := rfl
@[simp] theorem core_sigMask : th.core.sigMask = th.sigMask := rfl
@[simp] theorem core_siList : th.core.siList = th.siList := rfl
@[simp] theorem core_deliverable : th.core.deliverable = th.deliverable := rfl
@[simp] theorem core_object : th.core.object = th.object := rfl
@[simp] theorem core_attached : th.core.threadTimer.attached = th.threadTimer.attached := rfl
@[simp] theorem core_preemptableFlag : th.core.preemptableFlag = th.preemptableFlag := rfl

/-- The core is the frame and the phase. -/
theorem core_eq (hf : th'.frame = th.frame) (hs : th'.stat.state.phase = th.stat.state.phase) :
    th'.core = th.core := by
  unfold core
  obtain ⟨o, ⟨s, y, g, w, p⟩, _, _, _, _, _, _, _, _, _, _, _, ⟨a, b⟩, _, _, _⟩ := th
  obtain ⟨o', ⟨s', y', g', w', p'⟩, _, _, _, _, _, _, _, _, _, _, _, ⟨a', b'⟩, _, _, _⟩ := th'
  simp only [frame, mk.injEq, Stat.mk.injEq, RtTimer.mk.injEq] at hf hs ⊢
  simp_all

end Thread

namespace Kernel

variable {T Q : Type} [DecidableEq T] [DecidableEq Q]

/-- What an operation can change about a thread, besides scheduling. -/
structure View (Q : Type) where
  thread : Thread
  waits : Q → Prop

/-- The view of a thread. -/
def view (k : Kernel T Q) (t : T) : View Q where
  thread := (k.thread t).core
  waits q := t ∈ k.queue (.wait q)

namespace View

/-- The thread is ready and in no wait list. -/
def resumed (v : View Q) : View Q where
  thread := v.thread.withState .ready
  waits _ := False

/-- The thread is suspended in a wait list. -/
def suspendedIn (v : View Q) (q : Q) : View Q where
  thread := v.thread.withState .suspend
  waits q' := q' = q

end View

variable {k k' : Kernel T Q} {t x : T} {q : Q} {f : Thread → Thread} {arg : BitVec 32}
  {flag : IpcFlag}

theorem view_eq (hf : (k'.thread t).frame = (k.thread t).frame)
    (hs : (k'.state t).phase = (k.state t).phase)
    (hq : ∀ q, t ∈ k'.queue (.wait q) ↔ t ∈ k.queue (.wait q)) : k'.view t = k.view t := by
  unfold view
  rw [Thread.core_eq hf hs]
  exact congrArg _ (funext fun q => propext (hq q))

/-- Equal control blocks and equal wait lists give equal views. -/
theorem view_congr (ht : k'.thread t = k.thread t)
    (hq : ∀ q, t ∈ k'.queue (.wait q) ↔ t ∈ k.queue (.wait q)) : k'.view t = k.view t :=
  view_eq (congrArg _ ht) (by rw [state, ht]) hq

@[simp] theorem raise_view {e : Fault} : (k.raise e).view t = k.view t := rfl

theorem modify_view_of_ne (h : t ≠ x) : (k.modify x f).view t = k.view t :=
  view_congr (modify_thread_of_ne h) fun _ => Iff.rfl

/-- A write outside the core. -/
theorem modify_view_of_core (hf : (f (k.thread x)).core = (k.thread x).core) :
    (k.modify x f).view t = k.view t := by
  unfold view
  rw [modify_thread]
  split
  · next ht => rw [hf, ht]; rfl
  · rfl

theorem modify_view_self : (k.modify t f).view t =
    { thread := (f (k.thread t)).core, waits := (k.view t).waits } := by
  unfold view
  rw [modify_thread_same]
  rfl

/-- A write that does not look at what scheduling is about. -/
theorem modify_view_of_comm (hf : ∀ th, (f th).core = f th.core) :
    (k.modify t f).view t = { k.view t with thread := f (k.view t).thread } := by
  rw [modify_view_self, hf]
  rfl

/-! ### Scheduling -/

namespace ReadyQueueInv

/-- A thread that is not suspended is in no wait list. -/
theorem not_mem_wait (h : ReadyQueueInv k) (hs : k.state t ≠ .suspend) :
    t ∉ k.queue (.wait q) := fun hm => hs (h.wait hm)

/-- A scheduling exchanges the running thread with a ready one at most. -/
theorem rtSchedule_phase (h : ReadyQueueInv k) :
    (k.rtSchedule.state t).phase = (k.state t).phase := by
  rcases rtSchedule_cases h with ⟨-, heq⟩ | ⟨-, p, x, hx, ⟨hkeep, heq⟩ | ⟨-, heq⟩⟩
  · rw [heq]
  · simp only [keepsProcessor, Bool.and_eq_true, decide_eq_true_eq] at hkeep
    rw [heq, keepCurrent_state hkeep.1]
  · rw [heq, giveTo_state (h.ne_current hx.mem)]
    split
    · next ht =>
      have hr : k.state x = .ready := (h.ready_iff x).mpr ⟨p, hx.mem⟩
      rw [ht, hr]
      rfl
    · split
      · next hc =>
        rw [hc.1, hc.2]
        rfl
      · rfl

/-- A scheduling leaves the wait lists alone. -/
theorem rtSchedule_wait (h : ReadyQueueInv k) :
    k.rtSchedule.queue (.wait q) = k.queue (.wait q) := by
  rcases rtSchedule_cases h with ⟨-, heq⟩ | ⟨-, p, x, hx, ⟨hkeep, heq⟩ | ⟨-, heq⟩⟩
  · rw [heq]
  · simp only [keepsProcessor, Bool.and_eq_true, decide_eq_true_eq] at hkeep
    rw [heq, keepCurrent_queue]
    refine ListFamily.remove_of_not_mem (h.not_mem_wait ?_)
    rw [state, hkeep.1]
    decide
  · have hr : k.state x = .ready := (h.ready_iff x).mpr ⟨p, hx.mem⟩
    have hxq : x ∉ k.queue (.wait q) := h.not_mem_wait (by simp [hr])
    rw [heq, giveTo_queue (h.ne_current hx.mem)]
    split
    · rw [ListFamily.remove_of_not_mem (by simpa using hxq), ListFamily.append_of_ne (by simp)]
    · exact ListFamily.remove_of_not_mem hxq

@[simp] theorem rtSchedule_view (h : ReadyQueueInv k) : k.rtSchedule.view t = k.view t :=
  view_eq rtSchedule_frame h.rtSchedule_phase fun _ => by rw [h.rtSchedule_wait]

/-- The thread a scheduling dispatches is running. -/
theorem rtSchedule_current (h : ReadyQueueInv k) :
    k.rtSchedule.currentThread = k.currentThread ∨
      k.rtSchedule.state k.rtSchedule.currentThread = .running := by
  rcases rtSchedule_cases h with ⟨-, heq⟩ | ⟨-, p, x, hx, ⟨-, heq⟩ | ⟨-, heq⟩⟩
  · exact .inl (by rw [heq])
  · exact .inl (by rw [heq, keepCurrent_currentThread])
  · refine .inr ?_
    rw [heq, giveTo_currentThread, giveTo_state (h.ne_current hx.mem), if_pos rfl]

end ReadyQueueInv

/-! ### What no scheduling touches -/

/-- The scheduler lock and the pool of signal nodes. -/
def shared (k : Kernel T Q) : ℕ × ℕ := (k.schedulerLockNest, k.siginfoPool)

@[simp] theorem record_shared {e : QueueEvent ℕ T} : (k.record e).shared = k.shared := rfl
@[simp] theorem rtListRemove_shared : (k.rtListRemove t).shared = k.shared := rfl

@[simp] theorem rtScheduleInsertThread_shared : (k.rtScheduleInsertThread t).shared = k.shared := by
  unfold rtScheduleInsertThread accessTable
  split
  · rfl
  · dsimp only
    split <;> rfl

/-! ### Waiting and waking -/

section Wait

theorem setState_view_of_ne {st : ThreadState} (h : t ≠ x) : (k.setState x st).view t = k.view t :=
  modify_view_of_ne h

@[simp] theorem stopThreadTimer_view : (k.stopThreadTimer x).view t = k.view t := by
  have he := SchedEq.stopThreadTimer k x
  exact view_eq stopThreadTimer_frame (by rw [he.state]) fun _ => by rw [he.queue]

theorem rtScheduleRemoveThread_view (h : ReadyQueueInv k) (hx : k.state x ≠ .suspend) :
    (k.rtScheduleRemoveThread x).view t = k.view t :=
  view_congr (by simp) fun q => by
    rw [rtScheduleRemoveThread_queue, ListFamily.remove_of_not_mem (h.not_mem_wait hx)]

/-- Queueing a thread as ready. -/
theorem rtScheduleInsertThread_view : (k.rtScheduleInsertThread x).view t =
    if t = x then { thread := (k.view t).thread.withState .ready, waits := (k.view t).waits }
    else k.view t := by
  have hq : ∀ q, t ∈ (k.rtScheduleInsertThread x).queue (.wait q) ↔ t ∈ k.queue (.wait q) := by
    intro q
    rw [rtScheduleInsertThread_queue]
    split
    · rfl
    · rw [ListFamily.append_of_ne (by simp)]
  split
  · next ht =>
    subst ht
    refine View.mk.injEq .. ▸ ⟨?_, funext fun q => propext (hq q)⟩
    rw [rtScheduleInsertThread_thread, setState, modify_thread_same]
    split <;> rfl
  · next ht =>
    refine view_congr ?_ hq
    rw [rtScheduleInsertThread_thread, setState, modify_thread_of_ne ht]

/-- Resuming a suspended thread makes it ready and takes it out of its wait list. -/
theorem rtThreadResume_view (h : ReadyQueueInv k) : (k.rtThreadResume x).view t =
    if t = x ∧ k.isThread x = true ∧ k.state x = .suspend then (k.view t).resumed
    else k.view t := by
  unfold rtThreadResume
  by_cases hthread : k.isThread x = true
  · by_cases hs : k.state x = .suspend
    · have hrem : (k.rtListRemove x).view t = if t = x then
          { thread := (k.view t).thread, waits := fun _ => False } else k.view t := by
        split
        · next ht =>
          subst ht
          refine View.mk.injEq .. ▸ ⟨rfl, funext fun q => eq_false ?_⟩
          exact h.table.proper.not_mem_remove
        · next ht =>
          refine view_congr rfl fun q => ?_
          rw [rtListRemove_queue, h.table.proper.mem_remove]
          exact and_iff_right ht
      simp only [hthread, hs, Bool.not_true, Bool.false_eq_true, if_false, ne_eq, not_true_eq_false,
        rtScheduleInsertThread_view, stopThreadTimer_view, hrem, and_true]
      split
      · rfl
      · rfl
    · simp [hthread, hs]
  · simp [hthread]

theorem rtThreadSuspend_view_of_ne (h : ReadyQueueInv k) (ht : t ≠ x) :
    (k.rtThreadSuspend x).view t = k.view t := by
  unfold rtThreadSuspend
  split
  · rfl
  · split
    · rfl
    · next hs =>
      split
      · rfl
      · rw [stopThreadTimer_view, setState_view_of_ne ht, rtScheduleRemoveThread_view h]
        intro hsusp
        simp [hsusp] at hs

theorem rtListInsertWait_view_of_ne (ht : t ≠ x) :
    (k.rtListInsertWait q x flag).view t = k.view t :=
  view_congr (by simp) fun q' => by
    rw [mem_rtListInsertWait]
    simp [ht]

theorem ipcListSuspend_view_of_ne (q : Q) (flag : IpcFlag) (h : ReadyQueueInv k) (ht : t ≠ x) :
    (k.ipcListSuspend q x flag).view t = k.view t := by
  unfold ipcListSuspend
  split
  · rfl
  · rw [rtListInsertWait_view_of_ne ht, rtThreadSuspend_view_of_ne h ht]

/-- The running thread suspends itself. -/
theorem rtThreadSuspend_view (h : ReadyQueueInv k) (ha : Attached k t) (hr : k.state t = .running)
    (ht : t = k.currentThread) : (k.rtThreadSuspend t).view t =
      { thread := (k.view t).thread.withState .suspend, waits := fun _ => False } := by
  have hcore : ((k.rtThreadSuspend t).thread t).core = ((k.thread t).withState .suspend).core := by
    refine Thread.core_eq (rtThreadSuspend_frame.trans Thread.frame_withState.symm) ?_
    have := rtThreadSuspend_state (x := t) ha hr ht
    rw [if_pos rfl] at this
    exact congrArg _ this
  refine View.mk.injEq .. ▸ ⟨hcore, funext fun q => eq_false ?_⟩
  rw [rtThreadSuspend_queue ha hr ht]
  exact h.table.proper.not_mem_remove

/-- The running thread waits. -/
theorem ipcListSuspend_view (q : Q) (flag : IpcFlag) (h : ReadyQueueInv k) (ha : Attached k t)
    (hr : k.state t = .running) (ht : t = k.currentThread) :
    (k.ipcListSuspend q t flag).view t = (k.view t).suspendedIn q := by
  have hs := rtThreadSuspend_view h ha hr ht
  rw [ipcListSuspend, if_neg (by simp [hr])]
  refine View.mk.injEq .. ▸ ⟨?_, funext fun q' => propext ?_⟩
  · rw [rtListInsertWait_thread]
    exact congrArg View.thread hs
  · rw [mem_rtListInsertWait]
    have := congrFun (congrArg View.waits hs) q'
    simp only [view, eq_iff_iff, iff_false] at this
    simp [this]

end Wait

/-! ### Priorities, starting and ending -/

section Control

/-- Changing a priority is about scheduling only. -/
@[simp] theorem rtThreadControl_view (h : ReadyQueueInv k) :
    (k.rtThreadControl x arg).view t = k.view t := by
  unfold rtThreadControl
  split
  · rfl
  · split
    · next hr =>
      rw [rtScheduleInsertThread_view, modify_view_of_core rfl,
        rtScheduleRemoveThread_view h (by simp [hr])]
      split
      · next ht =>
        subst ht
        have hready : (k.view t).thread.withState .ready = (k.view t).thread := by
          simp [view, Thread.withState, Thread.core, hr, ThreadState.phase]
        rw [hready]
      · rfl
    · exact modify_view_of_core rfl

/-- The control block of a thread about to be started. -/
theorem ReadyQueueInv.beforeStart (h : ReadyQueueInv k) (hs : k.state x = .init) :
    ReadyQueueInv (k.modify x fun th =>
      { th with
        currentPriority := th.initPriority
        numberMask := priorityMask 32 th.initPriority
        stat := { state := .suspend } }) := by
  have hl : ¬ k.queue.Linked x := h.not_linked (by simp [hs]) (by simp [hs])
  refine h.modifyUnlinked hl ?_ ?_ fun _ => rfl <;> simp

/-- Starting a thread is about that thread. -/
theorem rtThreadStartupQueue_view_of_ne (h : ReadyQueueInv k) (ht : t ≠ x) :
    (k.rtThreadStartupQueue x).view t = k.view t := by
  unfold rtThreadStartupQueue
  split
  · rfl
  · next hs =>
    split
    · rfl
    · rw [rtThreadResume_view (h.beforeStart (not_not.mp hs)), if_neg (fun hc => ht hc.1),
        modify_view_of_ne ht]

/-- A thread that was not started becomes ready, and its flag bits are cleared. -/
theorem rtThreadStartupQueue_view (h : ReadyQueueInv k) (hs : k.state x = .init)
    (hx : k.isThread x = true) : (k.rtThreadStartupQueue x).view x =
      { thread := { (k.view x).thread with stat := { state := .ready } }
        waits := fun _ => False } := by
  have hinv := h.beforeStart hs
  simp only [rtThreadStartupQueue, hs, hx, ne_eq, not_true_eq_false, if_false, Bool.not_true,
    Bool.false_eq_true]
  rw [rtThreadResume_view hinv, if_pos]
  · rw [modify_view_self]
    rfl
  · refine ⟨rfl, ?_, ?_⟩
    · simpa [isThread] using hx
    · rw [modify_state, if_pos rfl]

@[simp] theorem rtThreadStartupQueue_currentThread :
    (k.rtThreadStartupQueue x).currentThread = k.currentThread := by
  unfold rtThreadStartupQueue
  split_ifs <;> simp

@[simp] theorem rtThreadDetach_currentThread :
    (k.rtThreadDetach x).currentThread = k.currentThread := by
  unfold rtThreadDetach
  split
  · rfl
  · split
    · rfl
    · rw [(SchedEq.detachObject _ x).current, close, modify_currentThread,
        (SchedEq.detachThreadTimer _ x).current, (SchedEq.rtThreadFreeSig _ x).current]
      split <;> simp

theorem detachThreadTimer_view_of_ne (ht : t ≠ x) : (k.detachThreadTimer x).view t = k.view t := by
  unfold detachThreadTimer
  split
  · rfl
  · exact modify_view_of_ne ht

theorem detachObject_view_of_ne (ht : t ≠ x) : (k.detachObject x).view t = k.view t := by
  unfold detachObject
  split
  · exact modify_view_of_ne ht
  · rfl

theorem rtThreadFreeSig_view_of_ne (ht : t ≠ x) : (k.rtThreadFreeSig x).view t = k.view t :=
  modify_view_of_ne (f := fun th => { th with siList := [] }) ht

theorem close_view_of_ne (ht : t ≠ x) : (k.close x).view t = k.view t := modify_view_of_ne ht

/-- Unlinking a thread from whatever list it is in. -/
theorem rtScheduleRemoveThread_view_of_ne (h : ReadyQueueInv k) (ht : t ≠ x) :
    (k.rtScheduleRemoveThread x).view t = k.view t :=
  view_congr (by simp) fun q => by
    rw [rtScheduleRemoveThread_queue, h.table.proper.mem_remove]
    exact and_iff_right ht

/-- Detaching a thread is about that thread. -/
theorem rtThreadDetach_view_of_ne (h : ReadyQueueInv k) (ht : t ≠ x) :
    (k.rtThreadDetach x).view t = k.view t := by
  unfold rtThreadDetach
  split
  · rfl
  · split
    · rfl
    · rw [detachObject_view_of_ne ht, close_view_of_ne ht, detachThreadTimer_view_of_ne ht,
        rtThreadFreeSig_view_of_ne ht]
      split
      · exact rtScheduleRemoveThread_view_of_ne h ht
      · rfl

/-- Detaching closes the thread, unless it was closed before or is no static thread. -/
theorem rtThreadDetach_view_self : (k.rtThreadDetach x).view x = k.view x ∨
    k.state x ≠ .close ∧ ((k.rtThreadDetach x).view x).thread.stat = Stat.closed := by
  unfold rtThreadDetach
  split
  · exact .inl rfl
  · split
    · exact .inl rfl
    · next hs =>
      have hobject : ∀ k : Kernel T Q, ((k.detachObject x).thread x).stat = (k.thread x).stat := by
        intro k
        unfold detachObject
        split
        · rw [modify_thread_same]
        · rfl
      have hclose : ∀ k : Kernel T Q, ((k.close x).thread x).stat = Stat.closed := by
        intro k
        rw [close, modify_thread_same]
      refine .inr ⟨hs, ?_⟩
      simp only [view, Thread.core, hobject, hclose]
      rfl

/-- The end of the running thread changes no other thread. -/
theorem threadExit_view_of_ne (h : ReadyQueueInv k) (ht : t ≠ k.currentThread) :
    k.threadExit.view t = k.view t := by
  have hfree := SchedEq.rtThreadFreeSig k k.currentThread
  unfold threadExit
  rw [h.beforeExit.rtSchedule_view, detachObject_view_of_ne ht, detachThreadTimer_view_of_ne ht,
    close_view_of_ne ht, rtScheduleRemoveThread_view_of_ne (h.of_schedEq hfree) ht,
    rtThreadFreeSig_view_of_ne ht]

/-- The running thread is closed at its end. -/
theorem threadExit_state_self (h : ReadyQueueInv k) :
    k.threadExit.state k.currentThread = .close := by
  rw [← ThreadState.phase_eq_close, threadExit, h.beforeExit.rtSchedule_phase,
    (SchedEq.detachObject _ _).state, (SchedEq.detachThreadTimer _ _).state, close, modify_state,
    if_pos rfl]
  rfl

/-- A tick changes no view. -/
@[simp] theorem rtTickCharge_view (h : ReadyQueueInv k) : k.rtTickCharge.view t = k.view t := by
  unfold rtTickCharge
  dsimp only
  split
  · rw [(h.charged.of_schedEq (.modify rfl rfl rfl)).rtSchedule_view, modify_view_of_core rfl]
    exact modify_view_of_core (k := { k with tick := k.tick + 1 }) rfl
  · exact modify_view_of_core (k := { k with tick := k.tick + 1 }) rfl

theorem rtTickCharge_wait (h : ReadyQueueInv k) :
    k.rtTickCharge.queue (.wait q) = k.queue (.wait q) := by
  unfold rtTickCharge
  dsimp only
  split
  · rw [(h.charged.of_schedEq (.modify rfl rfl rfl)).rtSchedule_wait]
    rfl
  · rfl

end Control

/-! ### Mutexes and events -/

section Objects

variable {m : Mutex T} {addr : T → BitVec 32} {a : BitVec 32} {e : RtErr}

theorem setError_view_of_ne (ht : t ≠ x) : (k.setError x e).view t = k.view t :=
  modify_view_of_ne ht

theorem ReadyQueueInv.setError (h : ReadyQueueInv k) : ReadyQueueInv (k.setError x e) :=
  h.of_schedEq (.modify rfl rfl rfl)

@[simp] theorem changeOwnerPriority_view (h : ReadyQueueInv k) :
    (k.changeOwnerPriority m addr x).view t = k.view t := by
  unfold changeOwnerPriority
  split
  · rfl
  · split
    · exact rtThreadControl_view h
    · rfl

theorem ReadyQueueInv.changeOwnerPriority (h : ReadyQueueInv k) :
    ReadyQueueInv (k.changeOwnerPriority m addr x) := by
  unfold Kernel.changeOwnerPriority
  split
  · exact h.raise _
  · split
    · exact h.rtThreadControl
    · exact h

@[simp] theorem changeOwnerPriority_currentThread :
    (k.changeOwnerPriority m addr x).currentThread = k.currentThread := by
  unfold changeOwnerPriority
  split
  · rfl
  · split <;> simp

@[simp] theorem restorePriority_view (h : ReadyQueueInv k) :
    (k.restorePriority m x a).view t = k.view t := by
  unfold restorePriority
  split
  · exact rtThreadControl_view h
  · rfl

theorem ReadyQueueInv.restorePriority (h : ReadyQueueInv k) :
    ReadyQueueInv (k.restorePriority m x a) := by
  unfold Kernel.restorePriority
  split
  · exact h.rtThreadControl
  · exact h

@[simp] theorem restorePriority_currentThread :
    (k.restorePriority m x a).currentThread = k.currentThread := by
  unfold restorePriority
  split <;> simp

/-- The first waiting thread gets the mutex; no other thread is changed. -/
theorem handOver_view (h : ReadyQueueInv k) : (k.handOver m q).1.view t = k.view t ∨
    t ∈ k.queue (.wait q) ∧ (k.handOver m q).2.1.owner = some t ∧
      (k.handOver m q).1.view t = (k.view t).resumed := by
  unfold handOver
  split
  · next s l hq =>
    dsimp only
    split
    · exact .inl rfl
    · rw [rtThreadResume_view h]
      split
      · next hc =>
        refine .inr ⟨?_, ?_, rfl⟩
        · rw [hc.1, hq]
          exact List.mem_cons_self
        · rw [hc.1]
          simp only [Mutex.addHold]
          split <;> rfl
      · exact .inl rfl
  · split <;> exact .inl rfl

theorem ReadyQueueInv.handOver (h : ReadyQueueInv k) : ReadyQueueInv (k.handOver m q).1 := by
  unfold Kernel.handOver
  split
  · dsimp only
    split
    · exact h
    · exact h.rtThreadResume
  · split <;> exact h

@[simp] theorem handOver_currentThread : (k.handOver m q).1.currentThread = k.currentThread := by
  unfold handOver
  split
  · dsimp only
    split
    · rfl
    · exact rtThreadResume_currentThread
  · split <;> rfl

/-- Releasing a mutex wakes at most its first waiting thread, which then owns it. -/
theorem rtMutexRelease_view (h : ReadyQueueInv k) (ht : t ≠ k.currentThread) :
    (k.rtMutexRelease m q a).1.view t = k.view t ∨
    t ∈ k.queue (.wait q) ∧ (k.rtMutexRelease m q a).2.1.owner = some t ∧
      (k.rtMutexRelease m q a).1.view t = (k.view t).resumed := by
  unfold rtMutexRelease
  dsimp only
  split
  · exact .inl (setError_view_of_ne ht)
  · split
    · have hrest := h.restorePriority (m := m.dropHold) (x := k.currentThread) (a := a)
      have hwait : t ∈ (k.restorePriority m.dropHold k.currentThread a).queue (.wait q) ↔
          t ∈ k.queue (.wait q) :=
        Eq.to_iff (congrFun (congrArg View.waits (restorePriority_view h)) q)
      rw [← restorePriority_view (m := m.dropHold) (x := k.currentThread) (a := a) h, ← hwait]
      exact handOver_view hrest
    · exact .inl rfl

theorem ReadyQueueInv.rtMutexRelease (h : ReadyQueueInv k) :
    ReadyQueueInv (k.rtMutexRelease m q a).1 := by
  unfold Kernel.rtMutexRelease
  dsimp only
  split
  · exact h.setError
  · split
    · exact h.restorePriority.handOver
    · exact h

@[simp] theorem rtMutexRelease_currentThread :
    (k.rtMutexRelease m q a).1.currentThread = k.currentThread := by
  unfold rtMutexRelease
  dsimp only
  split_ifs <;> simp [setError]

@[simp] theorem eventSendWalk_currentThread {set : BitVec 32} {l : List T} :
    (k.eventSendWalk set l).1.currentThread = k.currentThread :=
  eventSendWalk_induct (P := fun k' => k'.currentThread = k.currentThread) rfl fun _ _ _ _ h => by
    rw [eventResume_currentThread, h]

/-- A thread handed its flags. -/
def View.receive (v : View Q) (received : BitVec 32) : View Q :=
  { v.resumed with thread := { v.resumed.thread with eventSet := received } }

theorem eventResume_view (h : ReadyQueueInv k) {received : BitVec 32}
    (hx : k.isThread x = true) (hs : k.state x = .suspend) :
    (k.eventResume x received).view t =
      if t = x then (k.view t).receive received else k.view t := by
  have hinv : ReadyQueueInv (k.modify x fun th => { th with eventSet := received }) :=
    h.of_schedEq (.modify rfl rfl rfl)
  rw [eventResume, rtThreadResume_view hinv]
  split
  · next hc =>
    obtain ⟨rfl, -⟩ := hc
    rw [if_pos rfl, modify_view_self]
    rfl
  · next hc =>
    have hne : t ≠ x := fun ht => hc ⟨ht, by simpa [isThread] using hx, by
      rw [modify_state, if_pos rfl]; exact hs⟩
    rw [if_neg hne, modify_view_of_ne hne]

/-- A resumed thread leaves its wait list, and the others keep their order. -/
theorem eventResume_wait {received : BitVec 32} (hthread : k.isThread t = true)
    (hs : k.state t = .suspend) :
    (k.eventResume t received).queue (.wait q) = (k.queue (.wait q)).erase t := by
  rw [eventResume, rtThreadResume, if_neg, if_neg]
  · rw [rtScheduleInsertThread_queue]
    have he := SchedEq.stopThreadTimer
      ((k.modify t fun th => { th with eventSet := received }).rtListRemove t) t
    split
    · rw [he.queue]
      rfl
    · rw [ListFamily.append_of_ne (by simp), he.queue]
      rfl
  · rw [modify_state, if_pos rfl]
    exact not_not.mpr hs
  · simpa [isThread] using hthread

/-- What a wait for an event reads of a control block, read off the view. -/
theorem view_fields (h : k'.view x = k.view x) :
    (k'.thread x).eventSet = (k.thread x).eventSet ∧
      (k'.thread x).eventInfo = (k.thread x).eventInfo ∧
      (k'.thread x).error = (k.thread x).error ∧ (Attached k x → Attached k' x) := by
  have hcore : (k'.thread x).core = (k.thread x).core := congrArg View.thread h
  have hobject : (k'.thread x).object = (k.thread x).object := congrArg (·.object) hcore
  have htimer : (k'.thread x).threadTimer.attached = (k.thread x).threadTimer.attached :=
    congrArg (·.threadTimer.attached) hcore
  exact ⟨congrArg (·.eventSet) hcore, congrArg (·.eventInfo) hcore, congrArg (·.error) hcore,
    fun ha => ⟨hobject ▸ ha.object, htimer ▸ ha.timer⟩⟩

theorem Attached.eventResume {received : BitVec 32} (h : Attached k t) :
    Attached (k.eventResume x received) t := by
  have hmodify : Attached (k.modify x fun th => { th with eventSet := received }) t := by
    by_cases ht : t = x
    · subst ht
      exact ⟨by rw [modify_thread_same]; exact h.object, by rw [modify_thread_same]; exact h.timer⟩
    · exact ⟨by rw [modify_thread_of_ne ht]; exact h.object,
        by rw [modify_thread_of_ne ht]; exact h.timer⟩
  exact hmodify.of_frame rtThreadResume_frame

/-- The walk hands flags to the threads it resumes and changes no other thread. -/
theorem eventSendWalk_view (set : BitVec 32) (l : List T) (h : ReadyQueueInv k)
    (hs : ∀ x ∈ l, k.state x = .suspend) (hx : ∀ x ∈ l, k.isThread x = true) (hl : l.Nodup) :
    (t ∉ (k.eventSendWalk set l).2.2.1 → (k.eventSendWalk set l).1.view t = k.view t) ∧
    (t ∈ (k.eventSendWalk set l).2.2.1 →
      ∃ received, (k.eventSendWalk set l).1.view t = (k.view t).receive received) := by
  induction l generalizing k set with
  | nil => exact ⟨fun _ => rfl, fun ht => absurd ht List.not_mem_nil⟩
  | cons x l ih =>
    have hxl : x ∉ l := (List.nodup_cons.mp hl).1
    rw [eventSendWalk]
    dsimp only
    split
    · exact ⟨fun _ => rfl, fun ht => absurd ht List.not_mem_nil⟩
    · exact ih _ h (fun y hy => hs y (List.mem_cons_of_mem _ hy))
        (fun y hy => hx y (List.mem_cons_of_mem _ hy)) (List.nodup_cons.mp hl).2
    · -- the thread in front is resumed, and the others are as they were
      set received := eventReceived (k.thread x) set
      have hview : ∀ y, (k.eventResume x received).view y =
          if y = x then (k.view y).receive received else k.view y := fun y =>
        eventResume_view h (hx x List.mem_cons_self) (hs x List.mem_cons_self)
      have hother : ∀ y ∈ l, (k.eventResume x received).view y = k.view y := fun y hy => by
        rw [hview, if_neg]
        rintro rfl
        exact hxl hy
      have hcore : ∀ y ∈ l, ((k.eventResume x received).thread y).core = (k.thread y).core :=
        fun y hy => congrArg View.thread (hother y hy)
      have hinv : ReadyQueueInv (k.eventResume x received) := h.eventResume
      have hsusp : ∀ y ∈ l, (k.eventResume x received).state y = .suspend := fun y hy => by
        have hph := congrArg (·.stat.state) (hcore y hy)
        simp only [Thread.core_state] at hph
        rw [← ThreadState.phase_eq_suspend, state, hph, ThreadState.phase_eq_suspend]
        exact hs y (List.mem_cons_of_mem _ hy)
      have hthread : ∀ y ∈ l, (k.eventResume x received).isThread y = true := fun y hy => by
        have hobj := congrArg (·.object) (hcore y hy)
        simp only [Thread.core_object] at hobj
        rw [isThread, hobj]
        exact hx y (List.mem_cons_of_mem _ hy)
      have hrest := ih (if (k.thread x).eventInfo.clear then set &&& ~~~received else set) hinv
        hsusp hthread (List.nodup_cons.mp hl).2
      have hsub := @eventSendWalk_subset _ _ _ _ (k.eventResume x received)
        (if (k.thread x).eventInfo.clear then set &&& ~~~received else set) l
      constructor
      · intro ht
        rw [List.mem_cons, not_or] at ht
        rw [hrest.1 ht.2, hview, if_neg ht.1]
      · intro ht
        rcases List.mem_cons.mp ht with rfl | ht
        · refine ⟨received, ?_⟩
          rw [hrest.1 fun hm => hxl (hsub hm), hview, if_pos rfl]
        · obtain ⟨r, hr⟩ := hrest.2 ht
          exact ⟨r, by rw [hr, hother t (hsub ht)]⟩

end Objects

end Kernel

end RobotVacuum
