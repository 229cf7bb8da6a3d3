import RobotVacuum.Machine.SignalState

/-!
# Blocked signals

Only `rt_signal_unmask`, which a thread calls for itself, unblocks a signal. So a thread that has
blocked all its signals and does not unblock one stays `Deaf`: whatever is queued for it, and
however it is woken, no handler ever runs in it.
-/

set_option linter.unusedSectionVars false

namespace RobotVacuum

/-! ### The masks in the kernel -/

namespace Kernel

variable {T Q : Type} [DecidableEq T] [DecidableEq Q]
variable {k k' : Kernel T Q} {t x : T} {q : Q} {f : Thread → Thread} {flag : IpcFlag}

/-- The signal masks of all threads. -/
def masks (k : Kernel T Q) : T → Signo → Bool := fun t => (k.thread t).sigMask

theorem masks_of_frame (h : ∀ t, (k'.thread t).frame = (k.thread t).frame) :
    k'.masks = k.masks :=
  funext fun t => Thread.of_frame (·.sigMask) (fun _ => rfl) (h t)

theorem modify_masks (h : (f (k.thread t)).sigMask = (k.thread t).sigMask) :
    (k.modify t f).masks = k.masks := by
  funext x
  simp only [masks, modify_thread]
  split
  · next hx => rw [h, hx]
  · rfl

theorem masks_of_signals (h : k'.signals = k.signals) : k'.masks = k.masks :=
  congrArg (fun (σ : T → SignalState) t => (σ t).sigMask) h

@[simp] theorem raise_masks {e : Fault} : (k.raise e).masks = k.masks := rfl

@[simp] theorem setError_masks {e : RtErr} : (k.setError t e).masks = k.masks :=
  masks_of_signals setError_signals

@[simp] theorem rtSchedule_masks : k.rtSchedule.masks = k.masks := masks_of_signals rtSchedule_signals

@[simp] theorem rtThreadResume_masks : (k.rtThreadResume t).masks = k.masks :=
  masks_of_signals rtThreadResume_signals

@[simp] theorem rtThreadSuspend_masks : (k.rtThreadSuspend t).masks = k.masks :=
  masks_of_signals rtThreadSuspend_signals

@[simp] theorem rtListInsertWait_masks : (k.rtListInsertWait q t flag).masks = k.masks :=
  masks_of_signals rtListInsertWait_signals

@[simp] theorem ipcListSuspend_masks : (k.ipcListSuspend q t flag).masks = k.masks :=
  masks_of_signals ipcListSuspend_signals

@[simp] theorem rtThreadControl_masks {arg : BitVec 32} :
    (k.rtThreadControl t arg).masks = k.masks := masks_of_signals rtThreadControl_signals

@[simp] theorem changeOwnerPriority_masks {m : Mutex T} {addr : T → BitVec 32} :
    (k.changeOwnerPriority m addr t).masks = k.masks := masks_of_signals changeOwnerPriority_signals

@[simp] theorem rtMutexTake_masks {m : Mutex T} {addr : T → BitVec 32} :
    (k.rtMutexTake m q addr (-1)).1.masks = k.masks := masks_of_signals rtMutexTake_signals

@[simp] theorem rtMutexRelease_masks {m : Mutex T} {a : BitVec 32} :
    (k.rtMutexRelease m q a).1.masks = k.masks := masks_of_signals rtMutexRelease_signals

@[simp] theorem eventSendWalk_masks {set : BitVec 32} {l : List T} :
    (k.eventSendWalk set l).1.masks = k.masks := masks_of_signals eventSendWalk_signals

@[simp] theorem rtThreadStartupQueue_masks : (k.rtThreadStartupQueue t).masks = k.masks := by
  unfold rtThreadStartupQueue
  split_ifs
  · rfl
  · rfl
  · rw [rtThreadResume_masks, modify_masks rfl]

private theorem closed_masks (h : k'.masks = k.masks) :
    ((((k'.detachThreadTimer t).close t).detachObject t).masks = k.masks) ∧
      (((k'.close t).detachThreadTimer t).detachObject t).masks = k.masks := by
  have hobject : ∀ k'' : Kernel T Q, (k''.detachObject t).masks = k''.masks := fun k'' => by
    unfold detachObject
    split
    · exact modify_masks rfl
    · rfl
  have htimer : ∀ k'' : Kernel T Q, (k''.detachThreadTimer t).masks = k''.masks := fun k'' => by
    unfold detachThreadTimer
    split
    · rfl
    · exact modify_masks rfl
  have hclose : ∀ k'' : Kernel T Q, (k''.close t).masks = k''.masks := fun k'' =>
    modify_masks rfl
  simp only [hobject, htimer, hclose, h, and_self]

@[simp] theorem rtThreadDetach_masks : (k.rtThreadDetach t).masks = k.masks := by
  have hfree : ∀ k'' : Kernel T Q, (k''.rtThreadFreeSig t).masks = k''.masks := fun k'' =>
    modify_masks (k := k'') (t := t) (f := fun th => { th with siList := [] }) rfl
  have hremove : (k.rtScheduleRemoveThread t).masks = k.masks :=
    masks_of_frame fun _ => by rw [rtScheduleRemoveThread_thread]
  unfold rtThreadDetach
  split_ifs
  · rfl
  · rfl
  · exact (closed_masks ((hfree _).trans hremove)).1
  · exact (closed_masks (hfree _)).1

@[simp] theorem threadExit_masks : k.threadExit.masks = k.masks := by
  have hfree : (k.rtThreadFreeSig k.currentThread).masks = k.masks :=
    modify_masks (k := k) (f := fun th => { th with siList := [] }) rfl
  have hremove : ((k.rtThreadFreeSig k.currentThread).rtScheduleRemoveThread
      k.currentThread).masks = (k.rtThreadFreeSig k.currentThread).masks :=
    masks_of_frame fun _ => by rw [rtScheduleRemoveThread_thread]
  unfold threadExit
  rw [rtSchedule_masks]
  exact (closed_masks (hremove.trans hfree)).2

@[simp] theorem rtTickCharge_masks : k.rtTickCharge.masks = k.masks := by
  have hcharge : ∀ {k' : Kernel T Q} {f : Thread → Thread} (t : T), k'.masks = k.masks →
      (∀ th, (f th).sigMask = th.sigMask) → (k'.modify t f).masks = k.masks :=
    fun t h hf => (modify_masks (hf _)).trans h
  unfold rtTickCharge
  dsimp only
  split
  · rw [rtSchedule_masks]
    exact hcharge _ (hcharge _ rfl fun _ => rfl) fun _ => rfl
  · exact hcharge _ rfl fun _ => rfl

end Kernel

/-! ### Threads that handle no signal -/

namespace Machine

variable {T E M B D V : Type} [DecidableEq T] [DecidableEq E] [DecidableEq M] [DecidableEq B]
  [DecidableEq D]

variable {s s' : Machine T E M B D V} {p : Platform T E M D} {t x : T}
  {k : Kernel T (WaitQueue E M B)} {f : Ctx T E M B V → Ctx T E M B V}

/-- All signals of the thread are blocked, and it runs no handler. -/
structure Deaf (s : Machine T E M B D V) (t : T) : Prop where
  blocked : ∀ n, s.kernel.masks t n = false
  idle : ∀ b n, (s.ctx t).sig ≠ .running b n

namespace Deaf

theorem not_deliverable (h : Deaf s t) : (s.kernel.thread t).deliverable = false := by
  have hmask := h.blocked
  simp only [Kernel.masks] at hmask
  simp [Thread.deliverable, hmask]

theorem withKernel (h : Deaf s t) (hk : k.masks = s.kernel.masks) : Deaf (s.withKernel k) t :=
  ⟨fun n => by rw [show (s.withKernel k).kernel = k from rfl, hk, h.blocked], h.idle⟩

theorem setCtx (h : Deaf s t)
    (hf : ∀ c, (f c).sig = c.sig ∨ ∀ b n, (f c).sig ≠ .running b n) : Deaf (s.setCtx x f) t := by
  refine ⟨h.blocked, fun b n => ?_⟩
  simp only [Machine.setCtx, Function.update_apply]
  split
  · next hx =>
    subst hx
    rcases hf (s.ctx t) with heq | hne
    · rw [heq]
      exact h.idle b n
    · exact hne b n
  · exact h.idle b n

theorem setCall (h : Deaf s t) {c : Call T E M B} : Deaf (s.setCall c) t :=
  h.setCtx fun _ => .inl rfl

theorem finish (h : Deaf s t) {r : RtErr} : Deaf (s.finish r) t := h.setCtx fun _ => .inl rfl

theorem reschedule (h : Deaf s t) : Deaf s.reschedule t := h.setCtx fun _ => .inl rfl

theorem setRet (h : Deaf s t) {r : RtErr} : Deaf (s.setRet r) t := h.setCtx fun _ => .inl rfl

theorem beginCall (h : Deaf s t) {c : Call T E M B} : Deaf (s.beginCall c) t :=
  h.setCtx fun _ => .inl rfl

theorem setMutex (h : Deaf s t) {m : M} {y : Mutex T} : Deaf (s.setMutex m y) t :=
  ⟨h.blocked, h.idle⟩

theorem modify (h : Deaf s t) {g : Thread → Thread} (hg : ∀ th, (g th).sigMask = th.sigMask) :
    Deaf (s.withKernel (s.kernel.modify x g)) t :=
  h.withKernel (Kernel.modify_masks (hg _))

theorem rtEventSend (h : Deaf s t) {e : E} {set : BitVec 32} :
    Deaf (s.rtEventSend e set).1 t := by
  unfold Machine.rtEventSend grant
  dsimp only
  refine ⟨fun n => ?_, fun b n => ?_⟩
  · dsimp only
    rw [Kernel.eventSendWalk_masks, h.blocked]
  · dsimp only
    split
    · exact h.idle b n
    · exact h.idle b n

theorem handleLoop (h : Deaf s t) {c : Bool} : Deaf (s.handleLoop c) t := by
  unfold Machine.handleLoop
  have hend : Deaf ((s.withKernel (s.kernel.modify s.current fun th =>
      { th with stat := { th.stat with signal := false } })).setCtx s.current fun x =>
        { x with sig := .none }) t :=
    setCtx (h.modify (by exact fun _ => rfl)) fun _ => .inr fun _ _ => by simp
  dsimp only
  split
  · next hd =>
    split
    · exact hend
    · have hne : t ≠ s.current := fun heq => by
        rw [← heq, h.not_deliverable] at hd
        cases hd
      refine ⟨fun n => ?_, fun b n => ?_⟩
      · simp only [Machine.setCtx, Machine.withKernel]
        rw [Kernel.modify_masks rfl, h.blocked]
      · simp only [Machine.setCtx, Machine.withKernel, Function.update_of_ne hne]
        exact h.idle b n
  · exact hend

theorem stepRecv (h : Deaf s t) {e : E} {set : BitVec 32} {option : EventOption} {r : RecvStage} :
    Deaf (s.stepRecv e set option r) t := by
  cases r with
  | reset => exact (h.withKernel Kernel.setError_masks).setCall
  | enter =>
    simp only [Machine.stepRecv]
    split
    · exact h.withKernel rfl
    · refine ⟨fun n => ?_, fun b n => ?_⟩
      · simp only [takeFlags]
        rw [Kernel.modify_masks rfl, h.blocked]
      · simp only [takeFlags, Function.update_apply]
        split
        · next hx => exact hx ▸ h.idle b n
        · exact h.idle b n
    · refine ((h.withKernel ?_).setCall).reschedule
      rw [Kernel.ipcListSuspend_masks, Kernel.modify_masks rfl]
  | check =>
    simp only [Machine.stepRecv]
    split
    · exact h.finish
    · exact (h.setCtx (by exact fun _ => .inl rfl)).setCall
  | ret => exact h.finish

theorem stepTake (h : Deaf s t) {m : M} {r : TakeStage} : Deaf (s.stepTake p m r) t := by
  cases r with
  | enter =>
    simp only [Machine.stepTake]
    split
    · exact ((h.withKernel Kernel.rtMutexTake_masks).setMutex).finish
    · exact ((h.withKernel Kernel.rtMutexTake_masks).setMutex).setCall.reschedule
  | check =>
    simp only [Machine.stepTake]
    split
    · exact h.setCall
    · exact h.finish
  | test =>
    simp only [Machine.stepTake]
    split
    · exact h.setCall
    · exact h.setCall
  | decrement => exact h.setMutex.setCall
  | setOwner => exact h.setMutex.setCall
  | setOriginal => exact h.setMutex.setCall
  | addHold => exact h.setMutex.finish
  | boost => exact (h.withKernel Kernel.changeOwnerPriority_masks).setCall
  | suspend =>
    simp only [Machine.stepTake]
    split
    · exact h.withKernel rfl
    · exact (h.withKernel Kernel.rtThreadSuspend_masks).setCall
  | link =>
    simp only [Machine.stepTake]
    split
    · exact h.withKernel rfl
    · exact (h.withKernel Kernel.rtListInsertWait_masks).setCall.reschedule

theorem stepMbRecv (h : Deaf s t) {b : B} {wait : Bool} {r : MailStage} :
    Deaf (s.stepMbRecv b wait r) t := by
  cases r with
  | enter =>
    simp only [Machine.stepMbRecv]
    split
    · split
      · exact h.finish
      · refine ((h.withKernel ?_).setCall).reschedule
        rw [Kernel.ipcListSuspend_masks, Kernel.setError_masks]
    · have hmail : Deaf { s with mailbox := Function.update s.mailbox b (s.mailbox b).take.1 } t :=
        ⟨h.blocked, h.idle⟩
      have hfin := (hmail.setCtx (x := s.current)
        (f := fun x => { x with mail := some (s.mailbox b).take.2, granted := true })
        fun _ => .inl rfl).finish (r := .eok)
      split
      · exact hfin
      · exact (hfin.withKernel Kernel.rtThreadResume_masks).reschedule
  | check =>
    simp only [Machine.stepMbRecv]
    split
    · exact h.finish
    · exact h.setCall

theorem signalDeliver (h : Deaf s t) : Deaf (s.signalDeliver x) t := by
  unfold Machine.signalDeliver
  dsimp only
  split_ifs
  · exact h.finish
  · exact (h.withKernel ((Kernel.modify_masks rfl).trans
      Kernel.rtThreadResume_masks)).finish.reschedule
  · exact setCtx (h.modify (by exact fun _ => rfl)).finish fun _ => .inr fun _ _ => by simp
  · exact reschedule
      (setCtx (h.modify (by exact fun _ => rfl)).finish fun _ => .inr fun _ _ => by simp)
  · exact h.finish

theorem stepKill (h : Deaf s t) {n : Signo} {r : KillStage} : Deaf (s.stepKill x n r) t := by
  cases r with
  | check =>
    simp only [Machine.stepKill]
    split
    · exact h.finish
    · exact h.setCall
  | alloc =>
    simp only [Machine.stepKill]
    split
    · exact h.setCall
    · exact (h.withKernel (by exact rfl)).setCall
  | enqueue => exact (h.modify (by exact fun _ => rfl)).setCall
  | deliver => exact h.signalDeliver

theorem perform (h : Deaf s t) (a : Act T E M B D V) (ha : ∀ n, a = .unmask n → s.current ≠ t) :
    Deaf (s.perform p a) t := by
  cases a with
  | «local» => exact h
  | recv e set option =>
    simp only [Machine.perform]
    split
    · exact h.setRet
    · exact h.beginCall
  | send e set =>
    simp only [Machine.perform]
    split
    · exact h.setRet
    · split
      · exact h.rtEventSend.setRet.reschedule
      · exact h.rtEventSend.setRet
  | take m => exact h.beginCall
  | release m =>
    simp only [Machine.perform]
    have hk := ((h.withKernel (Kernel.rtMutexRelease_masks (m := s.mutex m) (q := .mutex m)
      (a := p.originalAddr m))).setMutex (m := m)
      (y := (s.kernel.rtMutexRelease (s.mutex m) (.mutex m) (p.originalAddr m)).2.1)).setRet
      (r := (s.kernel.rtMutexRelease (s.mutex m) (.mutex m) (p.originalAddr m)).2.2.1)
    split
    · exact hk.reschedule
    · exact hk
  | mbSend b v =>
    have hmail : Deaf { s with
        mailbox := Function.update s.mailbox b ((s.mailbox b).rtMbSend v).1 } t :=
      ⟨h.blocked, h.idle⟩
    simp only [Machine.perform]
    split
    · exact (hmail.setRet.withKernel Kernel.rtThreadResume_masks).reschedule
    · exact hmail.setRet
  | mbRecv b wait => exact h.beginCall
  | kill tid signo => exact h.setCall
  | mask signo =>
    refine ⟨fun n => ?_, h.idle⟩
    have hn := h.blocked n
    simp only [Machine.perform, modifyCurrent, Machine.withKernel, Kernel.masks,
      Kernel.modify_thread] at hn ⊢
    split
    · next hx =>
      subst hx
      by_cases hsig : n = signo
      · simp [hsig]
      · simpa [hsig] using hn
    · exact hn
  | unmask signo =>
    have hne : t ≠ s.current := fun hx => ha signo rfl hx.symm
    have hm : Deaf (s.modifyCurrent fun th =>
        { th with sigMask := Function.update th.sigMask signo true }) t := by
      refine ⟨fun n => ?_, h.idle⟩
      simp only [modifyCurrent, Machine.withKernel, Kernel.masks, Kernel.modify_thread, if_neg hne]
      exact h.blocked n
    simp only [Machine.perform, rtSignalUnmask]
    split
    · exact hm.setCall
    · exact hm
  | control x arg => exact h.withKernel Kernel.rtThreadControl_masks
  | setPreemptableFlag x b => exact h.modify fun _ => rfl
  | startup x => exact (h.withKernel Kernel.rtThreadStartupQueue_masks).reschedule
  | detach x => exact (h.withKernel Kernel.rtThreadDetach_masks).setRet
  | exit => exact h.withKernel Kernel.threadExit_masks
  | timerStart d =>
    simp only [Machine.perform, setTimer]
    split
    · exact h.withKernel rfl
    · exact ⟨h.blocked, h.idle⟩
  | timerStop d =>
    simp only [Machine.perform, setTimer]
    split
    · exact h.withKernel rfl
    · exact ⟨h.blocked, h.idle⟩
  | timerDetach d =>
    simp only [Machine.perform, setTimer]
    split
    · exact h.withKernel rfl
    · exact ⟨h.blocked, h.idle⟩
  | setTaskStarted n => exact h.modify fun _ => rfl
  | setTaskEnded => exact h.modify fun _ => rfl

theorem rtTickIncrease (h : Deaf s t) {due : List D} : Deaf (s.rtTickIncrease p due) t := by
  unfold Machine.rtTickIncrease
  have hcharge : Deaf (s.withKernel s.kernel.rtTickCharge) t :=
    h.withKernel Kernel.rtTickCharge_masks
  generalize s.withKernel s.kernel.rtTickCharge = s' at hcharge
  induction due generalizing s' with
  | nil => exact hcharge
  | cons d due ih =>
    refine ih _ ?_
    unfold rtTimerTimeout
    dsimp only
    split
    · exact hcharge.rtEventSend.withKernel Kernel.rtSchedule_masks
    · exact hcharge.rtEventSend

/-- A thread that has blocked all its signals stays deaf, unless it unblocks one. -/
theorem step (h : Deaf s t) {l : Label T E M B D V} (hs : s.step p l = some s')
    (hl : ∀ n, l = .act (.unmask n) → s.current ≠ t) : Deaf s' t := by
  cases l with
  | tick due =>
    simp only [Machine.step] at hs
    split at hs
    · cases hs
      exact h.rtTickIncrease
    · cases hs
  | act a =>
    have ha : ∀ n, a = .unmask n → s.current ≠ t := fun n hn => hl n (hn ▸ rfl)
    simp only [Machine.step, stepAct] at hs
    split at hs
    · split at hs <;> split at hs <;> cases hs <;> exact h.perform a ha
    · cases hs
  | hret =>
    simp only [Machine.step, stepHret] at hs
    split at hs
    · split at hs
      · cases hs
        refine handleLoop (h.withKernel ?_)
        exact Kernel.setError_masks
      · cases hs
    · cases hs
  | kern =>
    simp only [Machine.step, stepKern] at hs
    split at hs
    · split at hs
      · cases hs
        unfold enterHandleSig
        dsimp only
        split_ifs
        · exact h.handleLoop
        · exact h.setCtx fun _ => .inr fun _ _ => by simp
        · exact setCtx (h.modify (by exact fun _ => rfl)) fun _ => .inr fun _ _ => by simp
      · cases hs
      · cases hs
        unfold callSchedule
        exact setCtx (h.withKernel Kernel.rtSchedule_masks) (by exact fun _ => .inl rfl)
      · cases hs
        unfold afterSwitch
        split
        · exact setCtx (h.modify (by exact fun _ => rfl)) fun _ => .inr fun _ _ => by simp
        · exact h.setCtx fun _ => .inl rfl
      · cases hs
        unfold stepCall
        split
        · exact h.stepRecv
        · exact h.stepTake
        · exact h.stepMbRecv
        · exact h.stepKill
      · cases hs
    · cases hs

end Deaf

end Machine

end RobotVacuum
