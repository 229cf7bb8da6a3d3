import RobotVacuum.Machine.Machine
import RobotVacuum.Ipc.View
import Mathlib.Logic.Relation

/-!
# One thread of a machine

The view of a thread in a machine: what `Kernel.view` has of its control block, and where it
stands. `Disturbed` lists what a step of the machine can do to a thread other than the one that
executes it, and `step_disturbed` says that it does nothing else. So a property of the view of
one thread holds in all runs if the thread itself keeps it and no disturbance breaks it.
-/

set_option linter.unusedSectionVars false

namespace RobotVacuum

open Kernel (ReadyQueueInv Attached)

/-- The view of a thread in a machine, and how many waits for an event were satisfied for it. -/
structure ThreadView (T E M B V : Type) extends Kernel.View (WaitQueue E M B) where
  ctx : Ctx T E M B V
  grants : ℕ

namespace ThreadView

variable {T E M B V : Type}

/-- The scheduling state, a running thread counting as ready. -/
abbrev state (v : ThreadView T E M B V) : ThreadState := v.thread.stat.state

/-- The thread was resumed. -/
def resume (v : ThreadView T E M B V) : ThreadView T E M B V :=
  { v with toView := v.toView.resumed }

/-- Write the control block. -/
def modify (v : ThreadView T E M B V) (f : Thread → Thread) : ThreadView T E M B V :=
  { v with thread := f v.thread }

/-- Write where the thread stands. -/
def setCtx (v : ThreadView T E M B V) (f : Ctx T E M B V → Ctx T E M B V) :
    ThreadView T E M B V :=
  { v with ctx := f v.ctx }

/-- An event was sent and the flags the thread waits for were there. -/
def grant (v : ThreadView T E M B V) (received : BitVec 32) : ThreadView T E M B V :=
  { (v.resume.modify fun th => { th with eventSet := received }).setCtx
      fun x => { x with granted := true } with grants := v.grants + 1 }

/-- What can happen to a thread by a step of another thread or by an interrupt, where `owns` are
the mutexes it owns afterwards. -/
inductive Disturbed (owns : M → Prop) : ThreadView T E M B V → ThreadView T E M B V → Prop
  | granted {v : ThreadView T E M B V} {e : E} (received : BitVec 32) :
    v.state = .suspend → v.waits (.event e) → Disturbed owns v (v.grant received)
  /-- The thread was the first to wait for a mutex, a mail or room for a mail. -/
  | woken {v : ThreadView T E M B V} {q : WaitQueue E M B} :
    v.state = .suspend → v.waits q → (∀ e, q ≠ .event e) → (∀ m, q = .mutex m → owns m) →
    Disturbed owns v v.resume
  /-- A signal was queued. -/
  | enqueued {v : ThreadView T E M B V} (signo : Signo) :
    Disturbed owns v (v.modify fun th =>
      { th with
        siList := th.siList ++ [signo]
        sigPending := Function.update th.sigPending signo true })
  /-- A signal was delivered to the suspended thread. -/
  | signalled {v : ThreadView T E M B V} :
    v.state = .suspend → v.thread.deliverable = true →
    Disturbed owns v (v.resume.modify fun th =>
      { th with stat := { th.stat with signal := true, signalPending := true } })
  /-- A signal was delivered to the thread as a frame on its stack. -/
  | framed {v : ThreadView T E M B V} :
    v.state ≠ .suspend → v.thread.deliverable = true → v.thread.stat.signal = false →
    Disturbed owns v ((v.modify fun th =>
      { th with stat := { th.stat with signal := true, signalPending := false } }).setCtx
        fun x => { x with sig := .entry false })
  /-- The thread was started. -/
  | started {v : ThreadView T E M B V} :
    v.state = .init → Disturbed owns v { v with
      thread := { v.thread with stat := { state := .ready } }, waits := fun _ => False }
  /-- The preemptable flag of the thread was written. -/
  | flagged {v : ThreadView T E M B V} (b : Bool) :
    Disturbed owns v (v.modify fun th => { th with preemptableFlag := b })
  /-- The thread was detached. -/
  | detached {v v' : ThreadView T E M B V} :
    v.state ≠ .close → v'.state = .close → v'.ctx = v.ctx → v'.grants = v.grants →
    v'.thread.stat.signalWait = false → Disturbed owns v v'

end ThreadView

namespace Machine

variable {T E M B D V : Type} [DecidableEq T] [DecidableEq E] [DecidableEq M] [DecidableEq B]
  [DecidableEq D]

variable {s s' : Machine T E M B D V} {p : Platform T E M D} {t x : T}
  {k : Kernel T (WaitQueue E M B)} {f : Ctx T E M B V → Ctx T E M B V}

/-- The view of a thread. -/
def view (s : Machine T E M B D V) (t : T) : ThreadView T E M B V where
  toView := s.kernel.view t
  ctx := s.ctx t
  grants := s.grants t

/-! ### The view after the basic updates -/

section Basic

theorem view_eq (hk : s'.kernel.view t = s.kernel.view t) (hc : s'.ctx t = s.ctx t)
    (hg : s'.grants t = s.grants t) : s'.view t = s.view t := by
  unfold view
  rw [hk, hc, hg]

@[simp] theorem view_state : (s.view t).state = (s.kernel.state t).phase := rfl
@[simp] theorem view_thread : (s.view t).thread = (s.kernel.thread t).core := rfl
@[simp] theorem view_ctx : (s.view t).ctx = s.ctx t := rfl

@[simp] theorem withKernel_kernel : (s.withKernel k).kernel = k := rfl
@[simp] theorem withKernel_ctx : (s.withKernel k).ctx = s.ctx := rfl
@[simp] theorem withKernel_mutex : (s.withKernel k).mutex = s.mutex := rfl
@[simp] theorem withKernel_mailbox : (s.withKernel k).mailbox = s.mailbox := rfl
@[simp] theorem withKernel_event : (s.withKernel k).event = s.event := rfl
@[simp] theorem setCtx_kernel : (s.setCtx x f).kernel = s.kernel := rfl
@[simp] theorem setCtx_mutex : (s.setCtx x f).mutex = s.mutex := rfl
@[simp] theorem setCtx_mailbox : (s.setCtx x f).mailbox = s.mailbox := rfl
@[simp] theorem setCtx_event : (s.setCtx x f).event = s.event := rfl
@[simp] theorem setCtx_grants : (s.setCtx x f).grants = s.grants := rfl
@[simp] theorem setMutex_kernel {m : M} {y : Mutex T} : (s.setMutex m y).kernel = s.kernel := rfl
@[simp] theorem setMutex_ctx {m : M} {y : Mutex T} : (s.setMutex m y).ctx = s.ctx := rfl

@[simp] theorem withKernel_current : (s.withKernel k).current = k.currentThread := rfl
@[simp] theorem setCtx_current : (s.setCtx x f).current = s.current := rfl
@[simp] theorem setMutex_current {m : M} {y : Mutex T} : (s.setMutex m y).current = s.current := rfl
@[simp] theorem setRet_current {r : RtErr} : (s.setRet r).current = s.current := rfl
@[simp] theorem finish_current {r : RtErr} : (s.finish r).current = s.current := rfl
@[simp] theorem setCall_current {c : Call T E M B} : (s.setCall c).current = s.current := rfl
@[simp] theorem reschedule_current : s.reschedule.current = s.current := rfl
@[simp] theorem modifyCurrent_current {g : Thread → Thread} :
    (s.modifyCurrent g).current = s.current := rfl
@[simp] theorem setRet_kernel {r : RtErr} : (s.setRet r).kernel = s.kernel := rfl
@[simp] theorem finish_kernel {r : RtErr} : (s.finish r).kernel = s.kernel := rfl
@[simp] theorem setCall_kernel {c : Call T E M B} : (s.setCall c).kernel = s.kernel := rfl
@[simp] theorem reschedule_kernel : s.reschedule.kernel = s.kernel := rfl
@[simp] theorem setRet_mutex {r : RtErr} : (s.setRet r).mutex = s.mutex := rfl
@[simp] theorem finish_mutex {r : RtErr} : (s.finish r).mutex = s.mutex := rfl
@[simp] theorem setCall_mutex {c : Call T E M B} : (s.setCall c).mutex = s.mutex := rfl
@[simp] theorem reschedule_mutex : s.reschedule.mutex = s.mutex := rfl

@[simp] theorem setCtx_ctx_self : (s.setCtx t f).ctx t = f (s.ctx t) := by simp [setCtx]

theorem setCtx_ctx_of_ne (h : t ≠ x) : (s.setCtx x f).ctx t = s.ctx t := by
  simp [setCtx, h]

theorem setCtx_view_of_ne (h : t ≠ x) : (s.setCtx x f).view t = s.view t :=
  view_eq rfl (setCtx_ctx_of_ne h) rfl

@[simp] theorem setCtx_view_self : (s.setCtx t f).view t = (s.view t).setCtx f := by
  simp [view, ThreadView.setCtx]

theorem withKernel_view (h : k.view t = s.kernel.view t) : (s.withKernel k).view t = s.view t :=
  view_eq h rfl rfl

@[simp] theorem setMutex_view {m : M} {y : Mutex T} : (s.setMutex m y).view t = s.view t := rfl

end Basic

/-! ### What a step does to other threads -/

section Others

variable {e : E} {set : BitVec 32} {owns : M → Prop}

open Relation (ReflGen ReflTransGen)

/-- The threads in a wait list are suspended, and registered if they are not closed. -/
theorem waiting (h : ReadyQueueInv s.kernel)
    (ha : ∀ t, s.kernel.state t ≠ .close → Attached s.kernel t) {q : WaitQueue E M B}
    (ht : t ∈ s.kernel.queue (.wait q)) :
    s.kernel.state t = .suspend ∧ s.kernel.isThread t = true :=
  ⟨h.wait ht, (ha t (by simp [h.wait ht])).isThread⟩

/-- A step that leaves the view of a thread alone does not disturb it. -/
private theorem undisturbed (h : s'.view t = s.view t) :
    ReflGen (ThreadView.Disturbed owns) (s.view t) (s'.view t) := h ▸ .refl

/-- Sending an event grants the flags to some of the threads that wait for it. -/
theorem rtEventSend_view (h : ReadyQueueInv s.kernel)
    (ha : ∀ t, s.kernel.state t ≠ .close → Attached s.kernel t) :
    ReflGen (ThreadView.Disturbed owns) (s.view t) ((s.rtEventSend e set).1.view t) := by
  have hwalk := Kernel.eventSendWalk_view (t := t) (k := s.kernel) (s.event e ||| set)
    (s.kernel.queue (.wait (.event e))) h (fun x hx => (waiting h ha hx).1)
    (fun x hx => (waiting h ha hx).2) (h.table.proper.nodup _)
  by_cases ht : t ∈ (s.kernel.eventSendWalk (s.event e ||| set)
      (s.kernel.queue (.wait (.event e)))).2.2.1
  · obtain ⟨received, hr⟩ := hwalk.2 ht
    have hm := Kernel.eventSendWalk_subset ht
    have heq : (s.rtEventSend e set).1.view t = (s.view t).grant received := by
      simp only [view, rtEventSend, grant, hr, if_pos ht]
      rfl
    rw [heq]
    exact .single (.granted received (by simp [(waiting h ha hm).1]) hm)
  · refine undisturbed (view_eq (hwalk.1 ht) ?_ ?_)
    · simp only [rtEventSend, grant, if_neg ht]
    · simp only [rtEventSend, grant, if_neg ht]

@[simp] theorem rtEventSend_current : (s.rtEventSend e set).1.current = s.current :=
  Kernel.eventSendWalk_currentThread

theorem rtEventSend_queue (h : ReadyQueueInv s.kernel) :
    ReadyQueueInv (s.rtEventSend e set).1.kernel := h.eventSendWalk

@[simp] theorem setRet_view_of_ne {r : RtErr} (h : t ≠ s.current) :
    (s.setRet r).view t = s.view t := setCtx_view_of_ne h

@[simp] theorem finish_view_of_ne {r : RtErr} (h : t ≠ s.current) :
    (s.finish r).view t = s.view t := setCtx_view_of_ne h

@[simp] theorem setCall_view_of_ne {c : Call T E M B} (h : t ≠ s.current) :
    (s.setCall c).view t = s.view t := setCtx_view_of_ne h

@[simp] theorem beginCall_view_of_ne {c : Call T E M B} (h : t ≠ s.current) :
    (s.beginCall c).view t = s.view t := setCtx_view_of_ne h

@[simp] theorem reschedule_view_of_ne (h : t ≠ s.current) : s.reschedule.view t = s.view t :=
  setCtx_view_of_ne h

@[simp] theorem setTimer_view {d : D} {y : RtTimer} : (s.setTimer d y).view t = s.view t := by
  unfold setTimer
  split <;> rfl

@[simp] theorem modifyCurrent_view_of_ne {g : Thread → Thread} (h : t ≠ s.current) :
    (s.modifyCurrent g).view t = s.view t := withKernel_view (Kernel.modify_view_of_ne h)

/-- Resuming the first thread of a wait list wakes it and no other. -/
theorem rtThreadResume_view {q : WaitQueue E M B} (h : ReadyQueueInv s.kernel)
    (hx : x ∈ s.kernel.queue (.wait q)) (he : ∀ e, q ≠ .event e)
    (hm : ∀ m, q = .mutex m → t = x → owns m) :
    ReflGen (ThreadView.Disturbed owns) (s.view t)
      ((s.withKernel (s.kernel.rtThreadResume x)).view t) := by
  have hview := Kernel.rtThreadResume_view (t := t) (x := x) h
  split at hview
  · next hc =>
    obtain ⟨rfl, -, hs⟩ := hc
    have heq : (s.withKernel (s.kernel.rtThreadResume t)).view t = (s.view t).resume := by
      simp only [view, withKernel_kernel, hview]
      rfl
    rw [heq]
    exact .single (.woken (by simp [hs]) hx he fun m hq => hm m hq rfl)
  · exact undisturbed (withKernel_view hview)

/-- A statement of the running thread. -/
theorem perform_view (a : Act T E M B D V) (h : ReadyQueueInv s.kernel)
    (ha : ∀ t, s.kernel.state t ≠ .close → Attached s.kernel t) (ht : t ≠ s.current) :
    ReflGen (ThreadView.Disturbed fun m => ((s.perform p a).mutex m).owner = some t) (s.view t)
      ((s.perform p a).view t) := by
  cases a with
  | «local» => exact .refl
  | recv e set option =>
    refine undisturbed ?_
    simp only [perform]
    split <;> simp [ht]
  | send e set =>
    simp only [perform]
    split
    · exact undisturbed (setRet_view_of_ne ht)
    · split
      · rw [reschedule_view_of_ne (by simpa using ht), setRet_view_of_ne (by simpa using ht)]
        exact rtEventSend_view h ha
      · rw [setRet_view_of_ne (by simpa using ht)]
        exact rtEventSend_view h ha
  | take m => exact undisturbed (by simp [perform, ht])
  | release m =>
    have hcur := Kernel.rtMutexRelease_currentThread (k := s.kernel) (m := s.mutex m)
      (q := .mutex m) (a := p.originalAddr m)
    have hview : (s.perform p (.release m)).view t =
        (s.withKernel (s.kernel.rtMutexRelease (s.mutex m) (.mutex m) (p.originalAddr m)).1).view
          t := by
      simp only [perform]
      split
      · rw [reschedule_view_of_ne (by simpa [hcur] using ht),
          setRet_view_of_ne (by simpa [hcur] using ht), setMutex_view]
      · rw [setRet_view_of_ne (by simpa [hcur] using ht), setMutex_view]
    have howner : (s.perform p (.release m)).mutex m =
        (s.kernel.rtMutexRelease (s.mutex m) (.mutex m) (p.originalAddr m)).2.1 := by
      simp only [perform]
      split <;> simp [setMutex]
    rw [hview]
    rcases Kernel.rtMutexRelease_view (m := s.mutex m) (q := .mutex m) (a := p.originalAddr m)
      h ht with heq | ⟨hw, hown, heq⟩
    · exact undisturbed (withKernel_view heq)
    · have hres : (s.withKernel (s.kernel.rtMutexRelease (s.mutex m) (.mutex m)
          (p.originalAddr m)).1).view t = (s.view t).resume := by
        simp only [view, withKernel_kernel, heq]
        rfl
      rw [hres]
      refine .single (.woken (by simp [(waiting h ha hw).1]) hw (fun e => by simp) fun m' hq => ?_)
      cases hq
      rw [howner, hown]
  | mbSend b v =>
    simp only [perform]
    split
    · next w l hr hq =>
      rw [reschedule_view_of_ne (by simpa using ht)]
      set s₁ := { s with mailbox := Function.update s.mailbox b ((s.mailbox b).rtMbSend v).1 }.setRet
        ((s.mailbox b).rtMbSend v).2
      have hs₁ : s₁.view t = s.view t := setRet_view_of_ne ht
      rw [← hs₁]
      exact rtThreadResume_view (q := .mail b) h (hq ▸ List.mem_cons_self) (by simp) (by simp)
    · rw [setRet_view_of_ne (by simpa using ht)]
      exact .refl
  | mbRecv b wait => exact undisturbed (by simp [perform, ht])
  | kill tid signo => exact undisturbed (by simp [perform, ht])
  | mask signo => exact undisturbed (by simp [perform, ht])
  | unmask signo =>
    refine undisturbed ?_
    simp only [perform, rtSignalUnmask]
    split
    · rw [setCall_view_of_ne (by simpa using ht), modifyCurrent_view_of_ne ht]
    · rw [modifyCurrent_view_of_ne ht]
  | control x arg => exact undisturbed (withKernel_view (Kernel.rtThreadControl_view h))
  | setPreemptableFlag x b =>
    by_cases hx : t = x
    · subst hx
      have heq : (s.perform p (.setPreemptableFlag t b)).view t =
          (s.view t).modify fun th => { th with preemptableFlag := b } := by
        simp only [view, perform, withKernel_kernel, Kernel.setPreemptableFlag,
          Kernel.modify_view_self]
        rfl
      rw [heq]
      exact .single (.flagged b)
    · exact undisturbed (withKernel_view (Kernel.modify_view_of_ne hx))
  | startup x =>
    have hre : (s.perform p (.startup x)).view t =
        (s.withKernel (s.kernel.rtThreadStartupQueue x)).view t :=
      reschedule_view_of_ne (by simpa using ht)
    rw [hre]
    by_cases hx : t = x
    · subst hx
      by_cases hs : s.kernel.state t = .init
      · have hthread := (ha t (by simp [hs])).isThread
        have heq : (s.withKernel (s.kernel.rtThreadStartupQueue t)).view t = { s.view t with
            thread := { (s.view t).thread with stat := { state := .ready } }
            waits := fun _ => False } := by
          simp only [view, withKernel_kernel, Kernel.rtThreadStartupQueue_view h hs hthread]
          rfl
        rw [heq]
        exact .single (.started (by simp [hs]))
      · refine undisturbed (withKernel_view ?_)
        rw [Kernel.rtThreadStartupQueue, if_pos hs]
        rfl
    · exact undisturbed (withKernel_view (Kernel.rtThreadStartupQueue_view_of_ne h hx))
  | detach x =>
    have hre : (s.perform p (.detach x)).view t =
        (s.withKernel (s.kernel.rtThreadDetach x)).view t :=
      setRet_view_of_ne (by simpa using ht)
    rw [hre]
    by_cases hx : t = x
    · subst hx
      rcases Kernel.rtThreadDetach_view_self (k := s.kernel) (x := t) with heq | ⟨hs, heq⟩
      · exact undisturbed (withKernel_view heq)
      · have hstat : ((s.withKernel (s.kernel.rtThreadDetach t)).view t).thread.stat =
            Stat.closed := heq
        refine .single (.detached (by simpa using hs) ?_ rfl rfl ?_)
        · rw [ThreadView.state, hstat]
          rfl
        · rw [hstat]
          rfl
    · exact undisturbed (withKernel_view (Kernel.rtThreadDetach_view_of_ne h hx))
  | exit => exact undisturbed (withKernel_view (Kernel.threadExit_view_of_ne h ht))
  | timerStart d => exact undisturbed (by simp [perform])
  | timerStop d => exact undisturbed (by simp [perform])
  | timerDetach d => exact undisturbed (by simp [perform])
  | setTaskStarted duration =>
    exact undisturbed (withKernel_view (Kernel.modify_view_of_ne ht))
  | setTaskEnded => exact undisturbed (withKernel_view (Kernel.modify_view_of_ne ht))

theorem takeFlags_view_of_ne {option : EventOption} (ht : t ≠ s.current) :
    (s.takeFlags e set option).view t = s.view t := by
  refine view_eq ?_ ?_ ?_
  · exact Kernel.modify_view_of_ne (f := fun th =>
      { th with eventSet := s.event e &&& set, eventInfo := option }) ht
  · exact Function.update_of_ne ht ..
  · exact Function.update_of_ne ht ..

/-- A step of `rt_event_recv`. -/
theorem stepRecv_view (h : ReadyQueueInv s.kernel) (ht : t ≠ s.current) {option : EventOption}
    {stage : RecvStage} : (s.stepRecv e set option stage).view t = s.view t := by
  cases stage with
  | reset =>
    rw [stepRecv, setCall_view_of_ne (by simpa [Kernel.setError] using ht)]
    exact withKernel_view (Kernel.setError_view_of_ne ht)
  | enter =>
    simp only [stepRecv]
    split
    · rfl
    · exact takeFlags_view_of_ne ht
    · rw [reschedule_view_of_ne (by simpa using ht), setCall_view_of_ne (by simpa using ht)]
      refine withKernel_view ?_
      rw [Kernel.ipcListSuspend_view_of_ne _ _ (h.of_schedEq (.modify rfl rfl rfl)) ht,
        Kernel.modify_view_of_ne ht]
  | check =>
    simp only [stepRecv]
    split
    · exact finish_view_of_ne ht
    · rw [setCall_view_of_ne (by simpa using ht), setCtx_view_of_ne ht]
  | ret => exact finish_view_of_ne ht

theorem rtMutexTake_view {m : Mutex T} {q : WaitQueue E M B} (addr : T → BitVec 32) (time : ℤ)
    (h : ReadyQueueInv k) (ht : t ≠ k.currentThread) :
    (k.rtMutexTake m q addr time).1.view t = k.view t := by
  have hset : ∀ {r}, (k.setError k.currentThread r).view t = k.view t :=
    Kernel.setError_view_of_ne ht
  unfold Kernel.rtMutexTake
  dsimp only
  split
  · exact hset
  · split
    · exact hset
    · split
      · rw [Kernel.setError_view_of_ne ht, hset]
      · have hwait : ((((k.setError k.currentThread .eok).changeOwnerPriority m addr
            k.currentThread).ipcListSuspend q k.currentThread .prio)).view t = k.view t := by
          rw [Kernel.ipcListSuspend_view_of_ne _ _ h.setError.changeOwnerPriority ht,
            Kernel.changeOwnerPriority_view h.setError, hset]
        unfold Kernel.rtMutexWait Kernel.startThreadTimer
        dsimp only
        split
        · split
          · rw [Kernel.raise_view, hwait]
          · rw [Kernel.modify_view_of_core rfl, hwait]
        · exact hwait

@[simp] theorem startThreadTimer_currentThread :
    (k.startThreadTimer x).currentThread = k.currentThread := by
  unfold Kernel.startThreadTimer
  split <;> rfl

@[simp] theorem rtMutexTake_currentThread {m : Mutex T} {q : WaitQueue E M B}
    (addr : T → BitVec 32) (time : ℤ) :
    (k.rtMutexTake m q addr time).1.currentThread = k.currentThread := by
  unfold Kernel.rtMutexTake Kernel.rtMutexWait
  dsimp only
  split_ifs <;> simp [Kernel.setError]

/-- A step of `rt_mutex_take`. -/
theorem stepTake_view (h : ReadyQueueInv s.kernel) (ht : t ≠ s.current) {m : M}
    {stage : TakeStage} : (s.stepTake p m stage).view t = s.view t := by
  cases stage with
  | enter =>
    have hcur := rtMutexTake_currentThread (k := s.kernel) (m := s.mutex m) (q := .mutex m)
      p.addr (-1)
    have hview := rtMutexTake_view (k := s.kernel) (m := s.mutex m) (q := .mutex m)
      p.addr (-1) h ht
    simp only [stepTake]
    split
    · rw [finish_view_of_ne (by simpa [hcur] using ht), setMutex_view]
      exact withKernel_view hview
    · rw [reschedule_view_of_ne (by simpa [hcur] using ht),
        setCall_view_of_ne (by simpa [hcur] using ht), setMutex_view]
      exact withKernel_view hview
  | check =>
    simp only [stepTake]
    split
    · exact setCall_view_of_ne ht
    · exact finish_view_of_ne ht
  | test =>
    simp only [stepTake]
    split <;> exact setCall_view_of_ne ht
  | decrement => exact setCall_view_of_ne ht
  | setOwner => exact setCall_view_of_ne ht
  | setOriginal => exact setCall_view_of_ne ht
  | addHold => exact finish_view_of_ne ht
  | boost =>
    rw [stepTake, setCall_view_of_ne (by simpa using ht)]
    exact withKernel_view (Kernel.changeOwnerPriority_view h)
  | suspend =>
    simp only [stepTake]
    split
    · rfl
    · rw [setCall_view_of_ne (by simpa using ht)]
      exact withKernel_view (Kernel.rtThreadSuspend_view_of_ne h ht)
  | link =>
    simp only [stepTake]
    split
    · rfl
    · rw [reschedule_view_of_ne (by simpa using ht), setCall_view_of_ne (by simpa using ht)]
      exact withKernel_view (Kernel.rtListInsertWait_view_of_ne ht)

/-- A step of `rt_mb_recv`, which may wake a thread that waits for room. -/
theorem stepMbRecv_view (h : ReadyQueueInv s.kernel) (ht : t ≠ s.current) {b : B}
    {wait : Bool} {stage : MailStage} :
    ReflGen (ThreadView.Disturbed owns) (s.view t) ((s.stepMbRecv b wait stage).view t) := by
  cases stage with
  | enter =>
    simp only [stepMbRecv]
    split
    · split
      · exact undisturbed (finish_view_of_ne ht)
      · refine undisturbed ?_
        rw [reschedule_view_of_ne (by simpa [Kernel.setError] using ht),
          setCall_view_of_ne (by simpa [Kernel.setError] using ht)]
        refine withKernel_view ?_
        rw [Kernel.ipcListSuspend_view_of_ne _ _ h.setError ht, Kernel.setError_view_of_ne ht]
    · have htaken : ∀ f r, (({ s with
          mailbox := Function.update s.mailbox b (s.mailbox b).take.1 }.setCtx s.current f).finish
            r).view t = s.view t := by
        intro f r
        rw [finish_view_of_ne (by simpa using ht), setCtx_view_of_ne ht]
        rfl
      split
      · exact undisturbed (htaken _ _)
      · next w l hq =>
        rw [reschedule_view_of_ne (by simpa using ht), ← htaken]
        exact rtThreadResume_view (q := .mailSender b) h (hq ▸ List.mem_cons_self) (by simp)
          (by simp)
  | check =>
    simp only [stepMbRecv]
    split
    · exact undisturbed (finish_view_of_ne ht)
    · exact undisturbed (setCall_view_of_ne ht)

/-- `_signal_deliver`. -/
theorem signalDeliver_view (h : ReadyQueueInv s.kernel)
    (ha : ∀ t, s.kernel.state t ≠ .close → Attached s.kernel t) (ht : t ≠ s.current) :
    ReflGen (ThreadView.Disturbed owns) (s.view t) ((s.signalDeliver x).view t) := by
  unfold signalDeliver
  dsimp only
  split
  · exact undisturbed (finish_view_of_ne ht)
  · next hd =>
    have hd : (s.kernel.thread x).deliverable = true := by simpa using hd
    split
    · next hs =>
      rw [reschedule_view_of_ne (by simpa using ht), finish_view_of_ne (by simpa using ht)]
      by_cases hx : t = x
      · subst hx
        have hthread := (ha t (by simp [hs])).isThread
        have hview := Kernel.rtThreadResume_view (t := t) (x := t) h
        rw [if_pos ⟨rfl, hthread, hs⟩] at hview
        have heq : (s.withKernel ((s.kernel.rtThreadResume t).modify t fun th => { th with
            stat := { th.stat with signal := true, signalPending := true } })).view t =
              (s.view t).resume.modify fun th => { th with
                stat := { th.stat with signal := true, signalPending := true } } := by
          simp only [view, withKernel_kernel]
          rw [Kernel.modify_view_of_comm (by intro; rfl), hview]
          rfl
        rw [heq]
        exact .single (.signalled (by simp [hs]) hd)
      · refine undisturbed (withKernel_view ?_)
        rw [Kernel.modify_view_of_ne hx, Kernel.rtThreadResume_view h, if_neg fun hc => hx hc.1]
    · next hs =>
      split
      · next hx =>
        have hx : t ≠ x := hx ▸ ht
        refine undisturbed ?_
        rw [setCtx_view_of_ne hx, finish_view_of_ne (by simpa using ht)]
        exact withKernel_view (Kernel.modify_view_of_ne hx)
      · split
        · next hsig =>
          rw [reschedule_view_of_ne (by simpa using ht)]
          by_cases hx : t = x
          · subst hx
            have heq : ((s.withKernel (s.kernel.modify t fun th => { th with
                stat := { th.stat with signal := true, signalPending := false } })).finish
                  .eok).view t = (s.view t).modify fun th => { th with
                    stat := { th.stat with signal := true, signalPending := false } } := by
              rw [finish_view_of_ne (by simpa using ht)]
              simp only [view, withKernel_kernel]
              rw [Kernel.modify_view_of_comm (by intro; rfl)]
              rfl
            rw [setCtx_view_self, heq]
            exact .single (.framed (by simpa using hs) hd (by simpa using hsig))
          · refine undisturbed ?_
            rw [setCtx_view_of_ne hx, finish_view_of_ne (by simpa using ht)]
            exact withKernel_view (Kernel.modify_view_of_ne hx)
        · exact undisturbed (finish_view_of_ne ht)

/-- A step of `rt_thread_kill`. -/
theorem stepKill_view (h : ReadyQueueInv s.kernel)
    (ha : ∀ t, s.kernel.state t ≠ .close → Attached s.kernel t) (ht : t ≠ s.current)
    {signo : Signo} {stage : KillStage} :
    ReflGen (ThreadView.Disturbed owns) (s.view t) ((s.stepKill x signo stage).view t) := by
  cases stage with
  | check =>
    simp only [stepKill]
    split
    · exact undisturbed (finish_view_of_ne ht)
    · exact undisturbed (setCall_view_of_ne ht)
  | alloc =>
    simp only [stepKill]
    split
    · exact undisturbed (setCall_view_of_ne ht)
    · exact undisturbed (setCall_view_of_ne ht)
  | enqueue =>
    rw [stepKill, setCall_view_of_ne (by simpa using ht)]
    by_cases hx : t = x
    · subst hx
      have heq : (s.withKernel (s.kernel.modify t fun th => { th with
          siList := th.siList ++ [signo]
          sigPending := Function.update th.sigPending signo true })).view t =
            (s.view t).modify fun th => { th with
              siList := th.siList ++ [signo]
              sigPending := Function.update th.sigPending signo true } := by
        simp only [view, withKernel_kernel]
        rw [Kernel.modify_view_of_comm (by intro; rfl)]
        rfl
      rw [heq]
      exact .single (.enqueued signo)
    · exact undisturbed (withKernel_view (Kernel.modify_view_of_ne hx))
  | deliver => exact signalDeliver_view h ha ht

/-- A step inside a call. -/
theorem stepCall_view (h : ReadyQueueInv s.kernel)
    (ha : ∀ t, s.kernel.state t ≠ .close → Attached s.kernel t) (ht : t ≠ s.current)
    {c : Call T E M B} :
    ReflGen (ThreadView.Disturbed owns) (s.view t) ((s.stepCall p c).view t) := by
  cases c with
  | recv e set option stage => exact undisturbed (stepRecv_view h ht)
  | take m stage => exact undisturbed (stepTake_view h ht)
  | mbRecv b wait stage => exact stepMbRecv_view h ht
  | kill tid signo stage => exact stepKill_view h ha ht

/-- The steps of the signal layer and of the scheduling layer touch no other thread. -/
theorem handleLoop_view (ht : t ≠ s.current) {b : Bool} : (s.handleLoop b).view t = s.view t := by
  have hmod : ∀ g f, ((s.withKernel (s.kernel.modify s.current g)).setCtx s.current f).view t =
      s.view t := fun g f => by
    rw [setCtx_view_of_ne ht]
    exact withKernel_view (Kernel.modify_view_of_ne ht)
  unfold handleLoop
  dsimp only
  split
  · split <;> exact hmod _ _
  · exact hmod _ _

theorem enterHandleSig_view (ht : t ≠ s.current) {b : Bool} :
    (s.enterHandleSig b).view t = s.view t := by
  unfold enterHandleSig
  dsimp only
  split
  · exact handleLoop_view ht
  · split
    · exact setCtx_view_of_ne ht
    · rw [setCtx_view_of_ne ht]
      exact withKernel_view (Kernel.modify_view_of_ne ht)

theorem returnHandler_view (ht : t ≠ s.current) {b : Bool} :
    (s.returnHandler b).view t = s.view t := by
  rw [returnHandler, handleLoop_view (by simpa [Kernel.setError] using ht)]
  exact withKernel_view (Kernel.setError_view_of_ne ht)

theorem callSchedule_view (h : ReadyQueueInv s.kernel) (ht : t ≠ s.current) :
    s.callSchedule.view t = s.view t := by
  unfold callSchedule
  dsimp only
  rw [setCtx_view_of_ne ht]
  exact withKernel_view h.rtSchedule_view

theorem afterSwitch_view (ht : t ≠ s.current) : s.afterSwitch.view t = s.view t := by
  unfold afterSwitch
  split
  · rw [setCtx_view_of_ne ht]
    exact withKernel_view (Kernel.modify_view_of_ne ht)
  · exact setCtx_view_of_ne ht

/-- A thread that is not closed is registered before and after a disturbance. -/
theorem attached_of_disturbed {o : M → Prop}
    (h : ReflGen (ThreadView.Disturbed o) (s.view t) (s'.view t))
    (ha : s.kernel.state t ≠ .close → Attached s.kernel t) (hs : s'.kernel.state t ≠ .close) :
    Attached s'.kernel t := by
  have hkeep : ∀ {v v' : ThreadView T E M B V}, ThreadView.Disturbed o v v' →
      v'.state ≠ .close → v.state ≠ .close ∧ v'.thread.object = v.thread.object ∧
        v'.thread.threadTimer.attached = v.thread.threadTimer.attached := fun h hs => by
    cases h with
    | granted received hv | woken hv | signalled hv => exact ⟨by rw [hv]; decide, rfl, rfl⟩
    | started hv => exact ⟨by rw [hv]; decide, rfl, rfl⟩
    | enqueued | framed | flagged => exact ⟨hs, rfl, rfl⟩
    | detached hne hclose => exact absurd hclose hs
  have hclosed : ∀ r : Machine T E M B D V, (r.view t).state = .close ↔
      r.kernel.state t = .close := fun r => ThreadState.phase_eq_close
  generalize hv : s.view t = v at h
  generalize hv' : s'.view t = v' at h
  have hopen : v'.state ≠ .close := fun hc => hs ((hclosed s').mp (hv' ▸ hc))
  have hsame : v.state ≠ .close ∧ v'.thread.object = v.thread.object ∧
      v'.thread.threadTimer.attached = v.thread.threadTimer.attached := by
    cases h with
    | refl => exact ⟨hopen, rfl, rfl⟩
    | single h => exact hkeep h hopen
  obtain ⟨hne, hobject, htimer⟩ := hsame
  have hatt := ha fun hc => hne (hv ▸ (hclosed s).mpr hc)
  subst hv hv'
  exact ⟨fun hd => hatt.object (hobject.symm.trans hd), htimer.trans hatt.timer⟩

/-- The timeout function of a timer. -/
theorem rtTimerTimeout_view (h : ReadyQueueInv s.kernel)
    (ha : ∀ t, s.kernel.state t ≠ .close → Attached s.kernel t) (d : D) :
    ReflGen (ThreadView.Disturbed owns) (s.view t) ((rtTimerTimeout p s d).view t) := by
  have hsend : ReflGen (ThreadView.Disturbed owns) (s.view t)
      ((s.rtEventSend (p.timeout d).1 (p.timeout d).2).1.view t) := rtEventSend_view h ha
  unfold rtTimerTimeout
  dsimp only
  split
  · rw [withKernel_view (rtEventSend_queue h).rtSchedule_view]
    exact hsend
  · exact hsend

/-- The timers of a tick, each of which may resume a thread. -/
theorem rtTickIncrease_view (h : ReadyQueueInv s.kernel)
    (ha : ∀ t, s.kernel.state t ≠ .close → Attached s.kernel t) (due : List D) :
    ReflTransGen (ThreadView.Disturbed owns) (s.view t) ((s.rtTickIncrease p due).view t) := by
  have hrun : ∀ (r : Machine T E M B D V), ReadyQueueInv r.kernel →
      (∀ t, r.kernel.state t ≠ .close → Attached r.kernel t) →
      ReflTransGen (ThreadView.Disturbed owns) (r.view t)
        ((due.foldl (rtTimerTimeout p) r).view t) := by
    induction due with
    | nil => exact fun r _ _ => .refl
    | cons d due ih =>
      intro r h ha
      have hone : ReflGen (ThreadView.Disturbed owns) (r.view t)
          ((rtTimerTimeout p r d).view t) := rtTimerTimeout_view h ha d
      refine hone.to_reflTransGen.trans (ih _ ?_ fun x hx => ?_)
      · unfold rtTimerTimeout
        dsimp only
        split
        · exact (rtEventSend_queue h).rtSchedule
        · exact rtEventSend_queue h
      · exact attached_of_disturbed (o := owns) (rtTimerTimeout_view h ha d) (ha x) hx
  have hcharge : ∀ x, (s.withKernel s.kernel.rtTickCharge).view x = s.view x :=
    fun x => withKernel_view (Kernel.rtTickCharge_view h)
  rw [← hcharge t]
  exact hrun _ h.rtTickCharge fun x hx =>
    attached_of_disturbed (o := owns) (undisturbed (hcharge x)) (ha x) hx

/-- A step of the machine does to a thread that does not execute it nothing but disturb it. -/
theorem step_disturbed {i : Label T E M B D V} (hstep : s.step p i = some s')
    (h : ReadyQueueInv s.kernel) (ha : ∀ t, s.kernel.state t ≠ .close → Attached s.kernel t)
    (ht : t ≠ s.current) :
    ReflTransGen (ThreadView.Disturbed fun m => (s'.mutex m).owner = some t) (s.view t)
      (s'.view t) := by
  cases i with
  | act a =>
    simp only [step] at hstep
    split at hstep
    · have hs' : s' = s.perform p a := by
        unfold stepAct at hstep
        split at hstep <;> split at hstep <;> cases hstep <;> rfl
      rw [hs']
      exact (perform_view a h ha ht).to_reflTransGen
    · cases hstep
  | hret =>
    simp only [step] at hstep
    split at hstep
    · unfold stepHret at hstep
      split at hstep
      · cases hstep
        exact (undisturbed (returnHandler_view ht)).to_reflTransGen
      · cases hstep
    · cases hstep
  | kern =>
    simp only [step] at hstep
    split at hstep
    · unfold stepKern at hstep
      split at hstep <;> cases hstep
      · exact (undisturbed (enterHandleSig_view ht)).to_reflTransGen
      · exact (undisturbed (callSchedule_view h ht)).to_reflTransGen
      · exact (undisturbed (afterSwitch_view ht)).to_reflTransGen
      · exact (stepCall_view h ha ht).to_reflTransGen
    · cases hstep
  | tick due =>
    simp only [step] at hstep
    split at hstep
    · cases hstep
      exact rtTickIncrease_view h ha due
    · cases hstep

end Others

end Machine

end RobotVacuum
