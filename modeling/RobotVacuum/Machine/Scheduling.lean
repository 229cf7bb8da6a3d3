import RobotVacuum.Machine.Calls

/-!
# Scheduling in all runs of a machine

`KernelOk` is what the kernel relies on: the ready lists are in order, a thread that is not closed
is registered, and the running thread has been started. Every step of a machine keeps it
(`SchedOk.step`), so what `step_disturbed` says of one step holds along every run: a thread that
does not execute is disturbed and nothing else.
-/

set_option linter.unusedSectionVars false

namespace RobotVacuum

namespace Kernel

variable {T Q : Type} [DecidableEq T] [DecidableEq Q]

/-- An operation neither makes a thread new again, nor opens a closed one, nor detaches one that
it does not close. -/
structure View.Kept (v v' : View Q) : Prop where
  new : v'.thread.stat.state = .init → v.thread.stat.state = .init
  registered : v'.thread.stat.state ≠ .close → v.thread.stat.state ≠ .close ∧
    v'.thread.object = v.thread.object ∧
      v'.thread.threadTimer.attached = v.thread.threadTimer.attached

/-- What the kernel relies on in every run. -/
structure KernelOk (k : Kernel T Q) : Prop where
  ready : ReadyQueueInv k
  attached : ∀ t, k.state t ≠ .close → Attached k t
  current : k.state k.currentThread ≠ .init

variable {k k' : Kernel T Q} {t x : T} {q : Q} {f : Thread → Thread} {v v' v'' : View Q}
  {m : Mutex T} {addr : T → BitVec 32} {arg : BitVec 32}

namespace View.Kept

theorem refl : View.Kept v v := ⟨id, fun h => ⟨h, rfl, rfl⟩⟩

theorem of_eq (h : v' = v) : View.Kept v v' := h ▸ refl

theorem trans (h : View.Kept v v') (h' : View.Kept v' v'') : View.Kept v v'' where
  new hs := h.new (h'.new hs)
  registered hs := by
    obtain ⟨hs', hobject', htimer'⟩ := h'.registered hs
    obtain ⟨hs, hobject, htimer⟩ := h.registered hs'
    exact ⟨hs, hobject'.trans hobject, htimer'.trans htimer⟩

/-- A thread that is suspended, resumed or linked. -/
theorem withState {st : ThreadState} {w : Q → Prop} (hv : v.thread.stat.state ≠ .close)
    (hst : st ≠ .init) : View.Kept v ⟨v.thread.withState st, w⟩ where
  new hs := absurd hs hst
  registered _ := ⟨hv, rfl, rfl⟩

theorem closed (h : v'.thread.stat.state = .close) : View.Kept v v' where
  new hs := by rw [h] at hs; cases hs
  registered hs := absurd h hs

end View.Kept

namespace KernelOk

theorem of_view (h : KernelOk k) (hr : ReadyQueueInv k')
    (hv : ∀ t, View.Kept (k.view t) (k'.view t))
    (hc : k'.currentThread = k.currentThread ∨ k'.state k'.currentThread = .running) :
    KernelOk k' where
  ready := hr
  attached t hs := by
    obtain ⟨hopen, hobject, htimer⟩ :=
      (hv t).registered fun hc => hs (ThreadState.phase_eq_close.mp hc)
    have hatt := h.attached t fun hc => hopen (ThreadState.phase_eq_close.mpr hc)
    exact ⟨fun hd => hatt.object (hobject.symm.trans hd), htimer.trans hatt.timer⟩
  current hs := by
    rcases hc with hc | hc
    · have hnew := (hv k'.currentThread).new (ThreadState.phase_eq_init.mpr hs)
      exact h.current (hc ▸ ThreadState.phase_eq_init.mp hnew)
    · rw [hs] at hc
      cases hc

theorem close_iff_of_view (h : k'.view x = k.view x) :
    k'.state x = .close ↔ k.state x = .close := by
  have hphase : (k'.state x).phase = (k.state x).phase := congrArg (·.thread.stat.state) h
  rw [← ThreadState.phase_eq_close, hphase, ThreadState.phase_eq_close]

/-- A running thread that is not suspended and not closed is running. -/
theorem running (h : KernelOk k) (hclose : k.state k.currentThread ≠ .close)
    (hs : k.state k.currentThread ≠ .suspend) : k.state k.currentThread = .running := by
  have hready := h.ready.current
  have hinit := h.current
  generalize k.state k.currentThread = st at *
  cases st <;> first | rfl | contradiction

theorem raise (h : KernelOk k) (e : Fault) : KernelOk (k.raise e) :=
  h.of_view (h.ready.raise e) (fun _ => .refl) (.inl rfl)

/-- Writing a control block outside the scheduling. -/
theorem modify (h : KernelOk k)
    (hf : ∀ th, (f th).stat.state = th.stat.state ∧ (f th).currentPriority = th.currentPriority ∧
      (f th).numberMask = th.numberMask ∧ (f th).object = th.object ∧
      (f th).threadTimer.attached = th.threadTimer.attached) : KernelOk (k.modify x f) := by
  obtain ⟨hst, hprio, hmask, hobject, htimer⟩ := hf (k.thread x)
  refine h.of_view (h.ready.modify hst hprio hmask) (fun t => ?_) (.inl rfl)
  by_cases ht : t = x
  · subst ht
    have hphase : ((k.modify t f).view t).thread.stat.state = (k.view t).thread.stat.state := by
      rw [modify_view_self]
      exact congrArg ThreadState.phase hst
    refine ⟨fun hs => hphase.symm.trans hs, fun hs => ⟨hphase ▸ hs, ?_⟩⟩
    rw [modify_view_self]
    exact ⟨hobject, htimer⟩
  · exact .of_eq (modify_view_of_ne ht)

theorem setError (h : KernelOk k) {r : RtErr} : KernelOk (k.setError x r) :=
  h.modify fun _ => ⟨rfl, rfl, rfl, rfl, rfl⟩

theorem rtSchedule (h : KernelOk k) : KernelOk k.rtSchedule :=
  h.of_view h.ready.rtSchedule (fun _ => .of_eq h.ready.rtSchedule_view)
    h.ready.rtSchedule_current

theorem rtTickCharge (h : KernelOk k) : KernelOk k.rtTickCharge := by
  have hcharge : KernelOk (({ k with tick := k.tick + 1 } : Kernel T Q).modify k.currentThread
      fun th => { th with remainingTick := th.remainingTick - 1, tickCount := th.tickCount - 1 }) :=
    modify (h.of_view (h.ready.of_schedEq ⟨rfl, rfl, rfl, rfl, fun _ => rfl, fun _ => rfl,
      fun _ => rfl⟩) (fun _ => .refl) (.inl rfl)) fun _ => ⟨rfl, rfl, rfl, rfl, rfl⟩
  unfold Kernel.rtTickCharge
  dsimp only
  split
  · exact (hcharge.modify (by exact fun _ => ⟨rfl, rfl, rfl, rfl, rfl⟩)).rtSchedule
  · exact hcharge

theorem rtThreadResume (h : KernelOk k) : KernelOk (k.rtThreadResume x) := by
  refine h.of_view h.ready.rtThreadResume (fun t => ?_) (.inl rtThreadResume_currentThread)
  rw [rtThreadResume_view h.ready]
  split
  · next hc =>
    obtain ⟨rfl, -, hs⟩ := hc
    refine .withState (fun hclose => ?_) (by decide)
    exact absurd ((ThreadState.phase_eq_close.mp hclose).symm.trans hs) (by simp)
  · exact .refl

theorem rtThreadControl (h : KernelOk k) : KernelOk (k.rtThreadControl x arg) :=
  h.of_view h.ready.rtThreadControl (fun _ => .of_eq (rtThreadControl_view h.ready))
    (.inl rtThreadControl_currentThread)

theorem rtThreadStartupQueue (h : KernelOk k) : KernelOk (k.rtThreadStartupQueue x) := by
  refine h.of_view h.ready.rtThreadStartupQueue (fun t => ?_)
    (.inl rtThreadStartupQueue_currentThread)
  by_cases ht : t = x
  · subst ht
    by_cases hs : k.state t = .init
    · have hopen : k.state t ≠ .close := by rw [hs]; decide
      rw [rtThreadStartupQueue_view h.ready hs (h.attached t hopen).isThread]
      refine ⟨(by simp), fun _ => ⟨fun hc => hopen (ThreadState.phase_eq_close.mp hc), rfl, rfl⟩⟩
    · unfold Kernel.rtThreadStartupQueue
      rw [if_pos hs]
      exact .refl
  · exact .of_eq (rtThreadStartupQueue_view_of_ne h.ready ht)

theorem rtThreadDetach (h : KernelOk k) : KernelOk (k.rtThreadDetach x) := by
  refine h.of_view h.ready.rtThreadDetach (fun t => ?_) (.inl rtThreadDetach_currentThread)
  by_cases ht : t = x
  · subst ht
    rcases rtThreadDetach_view_self (k := k) (x := t) with heq | ⟨-, hstat⟩
    · exact .of_eq heq
    · exact .closed (by rw [hstat]; rfl)
  · exact .of_eq (rtThreadDetach_view_of_ne h.ready ht)

theorem threadExit_current (h : KernelOk k) : k.threadExit.currentThread = k.currentThread ∨
    k.threadExit.state k.threadExit.currentThread = .running := by
  have hobject : ∀ k' : Kernel T Q, (k'.detachObject k.currentThread).currentThread =
      k'.currentThread := fun k' => (SchedEq.detachObject k' _).current
  have htimer : ∀ k' : Kernel T Q, (k'.detachThreadTimer k.currentThread).currentThread =
      k'.currentThread := fun k' => (SchedEq.detachThreadTimer k' _).current
  have hremove : ∀ k' : Kernel T Q, (k'.rtScheduleRemoveThread k.currentThread).currentThread =
      k'.currentThread := fun _ => rtScheduleRemoveThread_currentThread
  rcases h.ready.beforeExit.rtSchedule_current with hc | hr
  · refine .inl (hc.trans ?_)
    rw [hobject, htimer]
    exact hremove _
  · exact .inr hr

theorem threadExit (h : KernelOk k) : KernelOk k.threadExit := by
  have hclosed := threadExit_state_self h.ready
  refine h.of_view h.ready.threadExit (fun t => ?_) h.threadExit_current
  by_cases ht : t = k.currentThread
  · subst ht
    exact .closed (ThreadState.phase_eq_close.mpr hclosed)
  · exact .of_eq (threadExit_view_of_ne h.ready ht)

theorem rtThreadSuspend (h : KernelOk k) (hx : x = k.currentThread)
    (hr : k.state x = .running) : KernelOk (k.rtThreadSuspend x) := by
  have hopen : k.state x ≠ .close := by rw [hr]; decide
  refine h.of_view h.ready.rtThreadSuspend (fun t => ?_) (.inl rtThreadSuspend_currentThread)
  by_cases ht : t = x
  · subst ht
    rw [rtThreadSuspend_view h.ready (h.attached t hopen) hr hx]
    exact .withState (fun hc => hopen (ThreadState.phase_eq_close.mp hc)) (by decide)
  · exact .of_eq (rtThreadSuspend_view_of_ne h.ready ht)

theorem ipcListSuspend {flag : IpcFlag} (h : KernelOk k) (hx : x = k.currentThread)
    (hclose : k.state x ≠ .close) : KernelOk (k.ipcListSuspend q x flag) := by
  by_cases hs : k.state x = .suspend
  · rw [Kernel.ipcListSuspend, if_pos hs]
    exact h.raise _
  · have hr : k.state x = .running := by
      subst hx
      exact h.running hclose hs
    have hatt := h.attached x hclose
    refine h.of_view (h.ready.ipcListSuspend hatt hr hx) (fun t => ?_)
      (.inl ipcListSuspend_currentThread)
    by_cases ht : t = x
    · subst ht
      rw [ipcListSuspend_view q flag h.ready hatt hr hx]
      exact .withState (fun hc => hclose (ThreadState.phase_eq_close.mp hc)) (by decide)
    · exact .of_eq (ipcListSuspend_view_of_ne q flag h.ready ht)

theorem rtListInsertWait {flag : IpcFlag} (h : KernelOk k) (hs : k.state x = .suspend)
    (hw : ∀ q, x ∉ k.queue (.wait q)) : KernelOk (k.rtListInsertWait q x flag) := by
  have hlinked : ¬k.queue.Linked x := fun ⟨l, hm⟩ => by
    cases l with
    | ready p =>
      have hready := (h.ready.ready_iff x).mpr ⟨p, hm⟩
      rw [hs] at hready
      cases hready
    | wait q => exact hw q hm
  refine h.of_view (h.ready.rtListInsertWait hs hlinked) (fun t => ?_)
    (.inl rtListInsertWait_currentThread)
  have hthread : ((k.rtListInsertWait q x flag).view t).thread = (k.view t).thread := by
    simp [view]
  exact ⟨fun hn => hthread ▸ hn, fun hn => by rw [hthread] at hn ⊢; exact ⟨hn, rfl, rfl⟩⟩

theorem changeOwnerPriority (h : KernelOk k) : KernelOk (k.changeOwnerPriority m addr x) :=
  h.of_view h.ready.changeOwnerPriority (fun _ => .of_eq (changeOwnerPriority_view h.ready))
    (.inl changeOwnerPriority_currentThread)

/-- The calls of the machine wait without a timeout. -/
theorem rtMutexTake (h : KernelOk k) (hclose : k.state k.currentThread ≠ .close) :
    KernelOk (k.rtMutexTake m q addr (-1)).1 := by
  unfold Kernel.rtMutexTake
  dsimp only
  split
  · exact h.setError
  · split
    · exact h.setError
    · rw [if_neg (by decide), Kernel.rtMutexWait, if_neg (by decide)]
      refine h.setError.changeOwnerPriority.ipcListSuspend ?_ ?_
      · rw [changeOwnerPriority_currentThread]
        rfl
      · rw [Ne, close_iff_of_view (changeOwnerPriority_view h.setError.ready), setError_state]
        exact hclose

theorem handOver (h : KernelOk k) : KernelOk (k.handOver m q).1 := by
  unfold Kernel.handOver
  split
  · dsimp only
    split
    · exact h
    · exact h.rtThreadResume
  · split
    · exact h
    · exact h

theorem rtMutexRelease {a : BitVec 32} (h : KernelOk k) : KernelOk (k.rtMutexRelease m q a).1 := by
  have hrestore : KernelOk (k.restorePriority m k.currentThread a) := by
    unfold Kernel.restorePriority
    split
    · exact h.rtThreadControl
    · exact h
  unfold Kernel.rtMutexRelease
  dsimp only
  split
  · exact h.setError
  · split
    · exact hrestore.handOver
    · exact h

theorem eventSendWalk {set : BitVec 32} {l : List T} (h : KernelOk k) :
    KernelOk (k.eventSendWalk set l).1 :=
  eventSendWalk_induct (P := KernelOk) h fun _ _ _ _ h => by
    rw [eventResume]
    exact (h.modify (by exact fun _ => ⟨rfl, rfl, rfl, rfl, rfl⟩)).rtThreadResume

end KernelOk

end Kernel

namespace Machine

open Kernel (ReadyQueueInv Attached KernelOk)

variable {T E M B D V : Type} [DecidableEq T] [DecidableEq E] [DecidableEq M] [DecidableEq B]
  [DecidableEq D]

variable {s s' : Machine T E M B D V} {p : Platform T E M D} {t x : T} {m : M}
  {i : Label T E M B D V}

/-- What holds in all runs of a machine: the kernel is in order, and a thread that has suspended
itself for a mutex but not queued for it yet is in no wait list. -/
structure SchedOk (s : Machine T E M B D V) : Prop where
  kernel : KernelOk s.kernel
  linking : ∀ t m, (s.ctx t).call = some (.take m .link) → ∀ q, t ∉ s.kernel.queue (.wait q)

/-! ### The kernel -/

section KernelSteps

theorem rtEventSend_kernelOk {e : E} {set : BitVec 32} (h : KernelOk s.kernel) :
    KernelOk (s.rtEventSend e set).1.kernel := h.eventSendWalk

theorem perform_kernelOk (h : KernelOk s.kernel) (a : Act T E M B D V) :
    KernelOk (s.perform p a).kernel := by
  have htimer : ∀ d y, KernelOk (s.setTimer d y).kernel := fun d y => by
    unfold setTimer
    split
    · exact h.raise _
    · exact h
  cases a with
  | «local» | take m | mbRecv b wait | kill tid signo => exact h
  | recv e set option =>
    simp only [perform]
    split <;> exact h
  | send e set =>
    simp only [perform]
    split
    · exact h
    · split <;> exact rtEventSend_kernelOk h
  | release m =>
    simp only [perform]
    split <;> exact h.rtMutexRelease
  | mbSend b v =>
    simp only [perform]
    split
    · exact h.rtThreadResume
    · exact h
  | mask signo =>
    simp only [perform, modifyCurrent, withKernel_kernel]
    exact h.modify (by exact fun _ => ⟨rfl, rfl, rfl, rfl, rfl⟩)
  | unmask signo =>
    simp only [perform, rtSignalUnmask]
    split <;>
      (simp only [setCall_kernel, modifyCurrent, withKernel_kernel]
       exact h.modify (by exact fun _ => ⟨rfl, rfl, rfl, rfl, rfl⟩))
  | control t arg => exact h.rtThreadControl
  | setPreemptableFlag t b =>
    simp only [perform, withKernel_kernel, Kernel.setPreemptableFlag]
    exact h.modify (by exact fun _ => ⟨rfl, rfl, rfl, rfl, rfl⟩)
  | startup t => exact h.rtThreadStartupQueue
  | detach t => exact h.rtThreadDetach
  | exit => exact h.threadExit
  | timerStart d | timerStop d | timerDetach d => exact htimer _ _
  | setTaskStarted duration =>
    simp only [perform, withKernel_kernel, Kernel.setTaskStarted]
    exact h.modify (by exact fun _ => ⟨rfl, rfl, rfl, rfl, rfl⟩)
  | setTaskEnded =>
    simp only [perform, withKernel_kernel, Kernel.setTaskEnded]
    exact h.modify (by exact fun _ => ⟨rfl, rfl, rfl, rfl, rfl⟩)

theorem stepRecv_kernelOk (h : KernelOk s.kernel) (hclose : s.kernel.state s.current ≠ .close)
    {e : E} {set : BitVec 32} {option : EventOption} {stage : RecvStage} :
    KernelOk (s.stepRecv e set option stage).kernel := by
  cases stage with
  | reset => exact h.setError
  | enter =>
    simp only [stepRecv]
    split
    · exact h.raise _
    · simp only [takeFlags]
      exact h.modify (by exact fun _ => ⟨rfl, rfl, rfl, rfl, rfl⟩)
    · refine KernelOk.ipcListSuspend
        (h.modify (by exact fun _ => ⟨rfl, rfl, rfl, rfl, rfl⟩)) rfl ?_
      rw [Kernel.modify_state]
      split
      · exact hclose
      · exact hclose
  | check =>
    simp only [stepRecv]
    split <;> exact h
  | ret => exact h

theorem stepTake_kernelOk (h : SchedOk s) (hclose : s.kernel.state s.current ≠ .close)
    {stage : TakeStage} (hcall : (s.ctx s.current).call = some (.take m stage)) :
    KernelOk (s.stepTake p m stage).kernel := by
  have hk := h.kernel
  cases stage with
  | enter =>
    simp only [stepTake]
    split <;> exact hk.rtMutexTake hclose
  | check =>
    simp only [stepTake]
    split <;> exact hk
  | test =>
    simp only [stepTake]
    split <;> exact hk
  | decrement | setOwner | setOriginal | addHold => exact hk
  | boost => exact hk.changeOwnerPriority
  | suspend =>
    simp only [stepTake]
    split
    · exact hk.raise _
    · next hs => exact hk.rtThreadSuspend rfl (hk.running hclose hs)
  | link =>
    simp only [stepTake]
    split
    · exact hk.raise _
    · next hs =>
      simp only [reschedule_kernel, setCall_kernel, withKernel_kernel]
      exact hk.rtListInsertWait (not_not.mp hs) (h.linking _ _ hcall)

theorem stepMbRecv_kernelOk (h : KernelOk s.kernel) (hclose : s.kernel.state s.current ≠ .close)
    {b : B} {wait : Bool} {stage : MailStage} :
    KernelOk (s.stepMbRecv b wait stage).kernel := by
  cases stage with
  | enter =>
    simp only [stepMbRecv]
    split
    · split
      · exact h
      · exact h.setError.ipcListSuspend rfl (by rw [Kernel.setError_state]; exact hclose)
    · split
      · exact h
      · exact h.rtThreadResume
  | check =>
    simp only [stepMbRecv]
    split <;> exact h

theorem signalDeliver_kernelOk (h : KernelOk s.kernel) : KernelOk (s.signalDeliver x).kernel := by
  unfold signalDeliver
  dsimp only
  split
  · exact h
  · split
    · simp only [reschedule_kernel, finish_kernel, withKernel_kernel]
      exact h.rtThreadResume.modify (by exact fun _ => ⟨rfl, rfl, rfl, rfl, rfl⟩)
    · split
      · simp only [setCtx_kernel, finish_kernel, withKernel_kernel]
        exact h.modify (by exact fun _ => ⟨rfl, rfl, rfl, rfl, rfl⟩)
      · split
        · simp only [reschedule_kernel, setCtx_kernel, finish_kernel, withKernel_kernel]
          exact h.modify (by exact fun _ => ⟨rfl, rfl, rfl, rfl, rfl⟩)
        · exact h

theorem stepKill_kernelOk (h : KernelOk s.kernel) {signo : Signo} {stage : KillStage} :
    KernelOk (s.stepKill x signo stage).kernel := by
  cases stage with
  | check =>
    simp only [stepKill]
    split <;> exact h
  | alloc =>
    simp only [stepKill]
    split
    · exact h
    · exact h.of_view (h.ready.of_schedEq ⟨rfl, rfl, rfl, rfl, fun _ => rfl, fun _ => rfl,
        fun _ => rfl⟩) (fun _ => .refl) (.inl rfl)
  | enqueue =>
    simp only [stepKill, setCall_kernel, withKernel_kernel]
    exact h.modify (by exact fun _ => ⟨rfl, rfl, rfl, rfl, rfl⟩)
  | deliver => exact signalDeliver_kernelOk h

theorem handleLoop_kernelOk (h : KernelOk s.kernel) {b : Bool} :
    KernelOk (s.handleLoop b).kernel := by
  unfold handleLoop
  dsimp only
  split
  · split <;>
      (simp only [setCtx_kernel, withKernel_kernel]
       exact h.modify (by exact fun _ => ⟨rfl, rfl, rfl, rfl, rfl⟩))
  · simp only [setCtx_kernel, withKernel_kernel]
    exact h.modify (by exact fun _ => ⟨rfl, rfl, rfl, rfl, rfl⟩)

theorem enterHandleSig_kernelOk (h : KernelOk s.kernel) {b : Bool} :
    KernelOk (s.enterHandleSig b).kernel := by
  unfold enterHandleSig
  dsimp only
  split
  · exact handleLoop_kernelOk h
  · split
    · exact h
    · simp only [setCtx_kernel, withKernel_kernel]
      exact h.modify (by exact fun _ => ⟨rfl, rfl, rfl, rfl, rfl⟩)

theorem returnHandler_kernelOk (h : KernelOk s.kernel) {b : Bool} :
    KernelOk (s.returnHandler b).kernel := by
  have herr := h.setError (x := s.current) (r := .eintr)
  have hpool : KernelOk
      { s.kernel.setError s.current .eintr with siginfoPool := s.kernel.siginfoPool + 1 } :=
    herr.of_view (herr.ready.of_schedEq ⟨rfl, rfl, rfl, rfl, fun _ => rfl, fun _ => rfl,
      fun _ => rfl⟩) (fun _ => .refl) (.inl rfl)
  exact handleLoop_kernelOk hpool

theorem afterSwitch_kernelOk (h : KernelOk s.kernel) : KernelOk s.afterSwitch.kernel := by
  unfold afterSwitch
  split
  · simp only [setCtx_kernel, withKernel_kernel]
    exact h.modify (by exact fun _ => ⟨rfl, rfl, rfl, rfl, rfl⟩)
  · exact h

theorem rtTimerTimeout_kernelOk (h : KernelOk s.kernel) (d : D) :
    KernelOk (rtTimerTimeout p s d).kernel := by
  unfold rtTimerTimeout
  dsimp only
  split
  · exact (rtEventSend_kernelOk h).rtSchedule
  · exact rtEventSend_kernelOk h

theorem rtTickIncrease_kernelOk (h : KernelOk s.kernel) (due : List D) :
    KernelOk (s.rtTickIncrease p due).kernel := by
  have hrun : ∀ r : Machine T E M B D V, KernelOk r.kernel →
      KernelOk (due.foldl (rtTimerTimeout p) r).kernel := by
    induction due with
    | nil => exact fun _ h => h
    | cons d due ih => exact fun r h => ih _ (rtTimerTimeout_kernelOk h d)
  exact hrun _ h.rtTickCharge

end KernelSteps

/-! ### Between suspending and queueing -/

section Linking

variable {owns : M → Prop} {c : Call T E M B}

/-- A thread between the two statements is in no wait list, unless it was closed there. -/
def LinkOk (v : ThreadView T E M B V) : Prop :=
  ∀ m, v.ctx.call = some (.take m .link) → v.state = .close ∨ ∀ q, ¬v.waits q

/-- A disturbance queues no thread. -/
theorem linkOk_of_disturbed {v v' : ThreadView T E M B V} (h : ThreadView.Disturbed owns v v')
    (hv : LinkOk v) : LinkOk v' := by
  cases h with
  | granted received hs hw | woken hs hw => exact fun m _ => .inr fun q => id
  | signalled hs => exact fun m _ => .inr fun q => id
  | started hs => exact fun m _ => .inr fun q => id
  | enqueued | framed | flagged => exact hv
  | detached hne hc => exact fun m _ => .inl hc

theorem SchedOk.linkOk (h : SchedOk s) : LinkOk (s.view t) :=
  fun m hm => .inr fun q hq => h.linking t m hm q hq

/-- The thread is not between the two statements. -/
def Off (s : Machine T E M B D V) (t : T) : Prop := ∀ m, (s.ctx t).call ≠ some (.take m .link)

namespace Off

theorem of_calls (h : s.Off t) (hc : s'.calls t = s.calls t) : s'.Off t := by
  have hcall : (s'.ctx t).call = (s.ctx t).call := congrArg Prod.fst hc
  exact fun m => hcall ▸ h m

theorem setCtx (h : s.Off t) {f : Ctx T E M B V → Ctx T E M B V}
    (hf : ∀ c, (f c).call = c.call ∨ ∀ m, (f c).call ≠ some (.take m .link)) :
    (s.setCtx x f).Off t := by
  intro m
  simp only [Machine.setCtx, Function.update_apply]
  split
  · next hx =>
    subst hx
    rcases hf (s.ctx t) with heq | hne
    · rw [heq]
      exact h m
    · exact hne m
  · exact h m

theorem withKernel (h : s.Off t) {k : Kernel T (WaitQueue E M B)} : (s.withKernel k).Off t := h

theorem setMutex (h : s.Off t) {y : Mutex T} : (s.setMutex m y).Off t := h

theorem setRet (h : s.Off t) {r : RtErr} : (s.setRet r).Off t := h.setCtx fun _ => .inl rfl

theorem finish (h : s.Off t) {r : RtErr} : (s.finish r).Off t := h.setCtx fun _ => .inr (by simp)

theorem reschedule (h : s.Off t) : s.reschedule.Off t := h.setCtx fun _ => .inl rfl

theorem setCall (h : s.Off t) (hc : ∀ m, c ≠ .take m .link) : (s.setCall c).Off t :=
  h.setCtx fun _ => .inr fun m heq => hc m (Option.some.inj heq)

theorem beginCall (h : s.Off t) (hc : ∀ m, c ≠ .take m .link) : (s.beginCall c).Off t :=
  h.setCtx fun _ => .inr fun m heq => hc m (Option.some.inj heq)

theorem perform (h : s.Off t) (a : Act T E M B D V) : (s.perform p a).Off t := by
  cases a with
  | «local» | mask signo | control t arg | setPreemptableFlag t b | exit | setTaskStarted duration
  | setTaskEnded => exact h
  | take m | mbRecv b wait => exact h.beginCall (by simp)
  | kill tid signo => exact h.setCall (by simp)
  | recv e set option =>
    simp only [Machine.perform]
    split
    · exact h.setRet
    · exact h.beginCall (by simp)
  | send e set =>
    have hsend : (s.rtEventSend e set).1.Off t := h.of_calls rtEventSend_calls
    simp only [Machine.perform]
    split
    · exact h.setRet
    · split
      · exact hsend.setRet.reschedule
      · exact hsend.setRet
  | release m =>
    simp only [Machine.perform]
    split
    · exact reschedule (setRet (setMutex (withKernel h)))
    · exact setRet (setMutex (withKernel h))
  | mbSend b v =>
    have hmail : ({ s with
        mailbox := Function.update s.mailbox b ((s.mailbox b).rtMbSend v).1 } :
          Machine T E M B D V).Off t := h
    simp only [Machine.perform]
    split
    · exact reschedule (withKernel (setRet hmail))
    · exact setRet hmail
  | unmask signo =>
    simp only [Machine.perform, rtSignalUnmask]
    split
    · exact setCall h (by simp)
    · exact h
  | startup x => exact reschedule (withKernel h)
  | detach x => exact setRet (withKernel h)
  | timerStart d | timerStop d | timerDetach d => exact h.of_calls setTimer_calls

/-- A step inside a call, other than the two around that point. -/
theorem stepCall (h : s.Off t) (hs : ∀ m, c ≠ .take m .suspend) (hl : ∀ m, c ≠ .take m .link) :
    (s.stepCall p c).Off t := by
  cases c with
  | recv e set option stage =>
    simp only [Machine.stepCall]
    cases stage with
    | reset => exact setCall h (by simp)
    | enter =>
      simp only [stepRecv]
      split
      · exact h
      · intro m
        simp only [takeFlags, Function.update_apply]
        split
        · simp
        · exact h m
      · exact reschedule (setCall (withKernel h) (by simp))
    | check =>
      simp only [stepRecv]
      split
      · exact finish h
      · exact setCall (setCtx h (by exact fun _ => .inl rfl)) (by simp)
    | ret => exact finish h
  | take m stage =>
    simp only [Machine.stepCall]
    cases stage with
    | enter =>
      simp only [stepTake]
      split
      · exact finish (setMutex (withKernel h))
      · exact reschedule (setCall (setMutex (withKernel h)) (by simp))
    | check =>
      simp only [stepTake]
      split
      · exact setCall h (by simp)
      · exact finish h
    | test =>
      simp only [stepTake]
      split <;> exact setCall h (by simp)
    | decrement | setOwner | setOriginal => exact setCall (setMutex h) (by simp)
    | boost => exact setCall (withKernel h) (by simp)
    | addHold => exact finish (setMutex h)
    | suspend => exact absurd rfl (hs m)
    | link => exact absurd rfl (hl m)
  | mbRecv b wait stage =>
    simp only [Machine.stepCall]
    cases stage with
    | enter =>
      simp only [stepMbRecv]
      split
      · split
        · exact finish h
        · exact reschedule (setCall (withKernel h) (by simp))
      · have hmail : ({ s with mailbox := Function.update s.mailbox b (s.mailbox b).take.1 } :
            Machine T E M B D V).Off t := h
        split
        · exact finish (setCtx hmail (by exact fun _ => .inl rfl))
        · exact reschedule (withKernel (finish (setCtx hmail (by exact fun _ => .inl rfl))))
    | check =>
      simp only [stepMbRecv]
      split
      · exact finish h
      · exact setCall h (by simp)
  | kill tid signo stage =>
    simp only [Machine.stepCall]
    cases stage with
    | check =>
      simp only [stepKill]
      split
      · exact finish h
      · exact setCall h (by simp)
    | alloc =>
      simp only [stepKill]
      split
      · exact setCall h (by simp)
      · exact setCall (withKernel h) (by simp)
    | enqueue => exact setCall (withKernel h) (by simp)
    | deliver =>
      simp only [stepKill]
      unfold signalDeliver
      dsimp only
      split
      · exact finish h
      · split
        · exact reschedule (finish (withKernel h))
        · split
          · exact setCtx (finish (withKernel h)) (by exact fun _ => .inl rfl)
          · split
            · exact reschedule (setCtx (finish (withKernel h)) (by exact fun _ => .inl rfl))
            · exact finish h

end Off

theorem linkOk_of_disturbances {v v' : ThreadView T E M B V}
    (h : Relation.ReflTransGen (ThreadView.Disturbed owns) v v') (hv : LinkOk v) : LinkOk v' := by
  induction h with
  | refl => exact hv
  | tail _ hd ih => exact linkOk_of_disturbed hd ih

/-- A closed thread is in no wait list. -/
theorem not_mem_of_linkOk (hk : KernelOk s.kernel) (h : LinkOk (s.view t))
    (hm : (s.ctx t).call = some (.take m .link)) (q : WaitQueue E M B) :
    t ∉ s.kernel.queue (.wait q) := by
  intro hq
  rcases h m hm with hc | hw
  · exact absurd ((ThreadState.phase_eq_close.mp hc).symm.trans (hk.ready.wait hq)) (by simp)
  · exact hw q hq

/-- A step that changes neither the call of a thread nor its wait lists. -/
theorem SchedOk.linking_of_calls (h : SchedOk s) (hc : s'.calls t = s.calls t)
    (hq : ∀ q, t ∈ s'.kernel.queue (.wait q) → t ∈ s.kernel.queue (.wait q))
    (hm : (s'.ctx t).call = some (.take m .link)) (q : WaitQueue E M B) :
    t ∉ s'.kernel.queue (.wait q) := by
  have hcall : (s'.ctx t).call = (s.ctx t).call := congrArg Prod.fst hc
  exact fun hw => h.linking t m (hcall ▸ hm) q (hq q hw)

theorem handleLoop_queue {b : Bool} : (s.handleLoop b).kernel.queue = s.kernel.queue := by
  unfold handleLoop
  dsimp only
  split
  · split <;> rfl
  · rfl

theorem enterHandleSig_queue {b : Bool} : (s.enterHandleSig b).kernel.queue = s.kernel.queue := by
  unfold enterHandleSig
  dsimp only
  split
  · exact handleLoop_queue
  · split <;> rfl

theorem afterSwitch_queue : s.afterSwitch.kernel.queue = s.kernel.queue := by
  unfold afterSwitch
  split <;> rfl

/-- A step inside the call of the running thread. -/
theorem SchedOk.linking_stepCall (h : SchedOk s) (hclose : s.kernel.state s.current ≠ .close)
    (hcall : (s.ctx s.current).call = some c)
    (hm : ((s.stepCall p c).ctx s.current).call = some (.take m .link)) (q : WaitQueue E M B) :
    s.current ∉ (s.stepCall p c).kernel.queue (.wait q) := by
  by_cases hs : ∃ m', c = .take m' .suspend
  · obtain ⟨m', rfl⟩ := hs
    simp only [Machine.stepCall, stepTake] at hm ⊢
    split at hm
    · rw [withKernel_ctx, hcall] at hm
      cases hm
    · next hsus =>
      rw [if_neg hsus]
      have hview := Kernel.rtThreadSuspend_view h.kernel.ready (h.kernel.attached _ hclose)
        (h.kernel.running hclose hsus) rfl
      intro hq
      have hwaits : (((s.kernel.rtThreadSuspend s.current).view s.current).waits q) := hq
      rw [hview] at hwaits
      exact hwaits
  · by_cases hl : ∃ m', c = .take m' .link
    · obtain ⟨m', rfl⟩ := hl
      simp only [Machine.stepCall, stepTake] at hm ⊢
      split at hm
      · next hne =>
        rw [if_pos hne]
        exact h.linking _ _ hcall q
      · simp [Machine.setCall, Machine.reschedule, Machine.setCtx, Machine.withKernel,
          Machine.current] at hm
    · have hoff : s.Off s.current := fun m' hm' =>
        hl ⟨m', Option.some.inj (hcall.symm.trans hm')⟩
      exact absurd hm (hoff.stepCall (fun m' heq => hs ⟨m', heq⟩)
        (fun m' heq => hl ⟨m', heq⟩) m)

/-- A statement of the running thread. -/
theorem SchedOk.linking_act (h : SchedOk s) {a : Act T E M B D V}
    (hstep : s.stepAct p a = some s')
    (hm : (s'.ctx s.current).call = some (.take m .link)) (q : WaitQueue E M B) :
    s.current ∉ s'.kernel.queue (.wait q) := by
  by_cases hoff : s.Off s.current
  · have hs' : s' = s.perform p a := by
      unfold stepAct at hstep
      split at hstep <;> split at hstep <;> cases hstep <;> rfl
    rw [hs'] at hm
    exact absurd hm (hoff.perform a m)
  · obtain ⟨m', hlink⟩ := not_forall_not.mp hoff
    unfold stepAct at hstep
    split at hstep
    · split at hstep
      · next ha =>
        cases hstep
        have hno := h.linking _ _ hlink q
        cases a with
        | «local» | mask signo | setPreemptableFlag x b => exact hno
        | control x arg =>
          intro hq
          have hview := @Kernel.rtThreadControl_view _ _ _ _ _ s.current x arg h.kernel.ready
          exact hno ((congrArg (·.waits q) hview).mp hq)
        | _ => exact absurd ha.1 (by simp [Act.inHandler])
      · cases hstep
    · split at hstep
      · next hat =>
        rw [hat.1.2.2] at hlink
        cases hlink
      · cases hstep

end Linking

/-! ### Runs -/

theorem SchedOk.step (h : SchedOk s) (hstep : s.step p i = some s') : SchedOk s' := by
  have hk := h.kernel
  cases i with
  | tick due =>
    simp only [Machine.step] at hstep
    split at hstep
    · cases hstep
      have hk' := rtTickIncrease_kernelOk (p := p) hk due
      have hdist : ∀ t, Relation.ReflTransGen (ThreadView.Disturbed fun _ : M => True) (s.view t)
          ((s.rtTickIncrease p due).view t) := fun t =>
        rtTickIncrease_view hk.ready hk.attached due
      exact ⟨hk', fun t m hm =>
        not_mem_of_linkOk hk' (linkOk_of_disturbances (hdist t) h.linkOk) hm⟩
    · cases hstep
  | act a =>
    have hothers := fun t => step_disturbed (t := t) hstep hk.ready hk.attached
    simp only [Machine.step] at hstep
    split at hstep
    · have hs' : s' = s.perform p a := by
        unfold stepAct at hstep
        split at hstep <;> split at hstep <;> cases hstep <;> rfl
      have hk' : KernelOk s'.kernel := hs' ▸ perform_kernelOk hk a
      refine ⟨hk', fun t m hm => ?_⟩
      by_cases ht : t = s.current
      · subst ht
        exact h.linking_act hstep hm
      · exact not_mem_of_linkOk hk' (linkOk_of_disturbances (hothers t ht) h.linkOk) hm
    · cases hstep
  | hret =>
    have hothers := fun t => step_disturbed (t := t) hstep hk.ready hk.attached
    have hcalls := (step_hret hstep).1
    simp only [Machine.step] at hstep
    split at hstep
    · unfold stepHret at hstep
      split at hstep
      · cases hstep
        have hk' := returnHandler_kernelOk hk (b := ‹Bool›)
        refine ⟨hk', fun t m hm => ?_⟩
        by_cases ht : t = s.current
        · refine h.linking_of_calls (hcalls t) (fun q hq => ?_) hm
          rw [returnHandler, handleLoop_queue] at hq
          exact hq
        · exact not_mem_of_linkOk hk' (linkOk_of_disturbances (hothers t ht) h.linkOk) hm
      · cases hstep
    · cases hstep
  | kern =>
    have hothers := fun t => step_disturbed (t := t) hstep hk.ready hk.attached
    simp only [Machine.step] at hstep
    split at hstep
    · next hrun =>
      suffices hown : KernelOk s'.kernel ∧ ∀ m, (s'.ctx s.current).call = some (.take m .link) →
          ∀ q, s.current ∉ s'.kernel.queue (.wait q) by
        refine ⟨hown.1, fun t m hm => ?_⟩
        by_cases ht : t = s.current
        · subst ht
          exact hown.2 m hm
        · exact not_mem_of_linkOk hown.1 (linkOk_of_disturbances (hothers t ht) h.linkOk) hm
      unfold stepKern at hstep
      split at hstep <;> cases hstep
      · exact ⟨enterHandleSig_kernelOk hk, fun m hm => h.linking_of_calls enterHandleSig_calls
          (fun q hq => by rwa [enterHandleSig_queue] at hq) hm⟩
      · exact ⟨hk.rtSchedule, fun m hm => h.linking_of_calls callSchedule_calls
          (fun q hq => by rwa [← hk.ready.rtSchedule_wait]) hm⟩
      · exact ⟨afterSwitch_kernelOk hk, fun m hm => h.linking_of_calls afterSwitch_calls
          (fun q hq => by rwa [afterSwitch_queue] at hq) hm⟩
      · next c _ _ hc =>
        refine ⟨?_, fun m hm => h.linking_stepCall hrun.2 hc hm⟩
        cases c with
        | recv e set option stage => exact stepRecv_kernelOk hk hrun.2
        | take m stage => exact stepTake_kernelOk h hrun.2 hc
        | mbRecv b wait stage => exact stepMbRecv_kernelOk hk hrun.2
        | kill tid signo stage => exact stepKill_kernelOk hk
    · cases hstep

end Machine

end RobotVacuum
