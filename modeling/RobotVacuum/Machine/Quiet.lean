import RobotVacuum.Machine.Queued

/-!
# Steps that are not about signals

Statements and calls other than those of the signal code leave the signals of every thread alone,
and change where only the running thread stands (`Machine.Quiet`). The tick leaves both alone.
-/

set_option linter.unusedSectionVars false

namespace RobotVacuum

namespace Kernel

variable {T Q : Type} [DecidableEq T] [DecidableEq Q] {k : Kernel T Q}

@[simp] theorem rtTickCharge_signals : k.rtTickCharge.signals = k.signals := by
  have hcharge : ∀ {k' : Kernel T Q} {f : Thread → Thread} (t : T), k'.signals = k.signals →
      (∀ th, (f th).signals = th.signals) → (k'.modify t f).signals = k.signals :=
    fun t h hf => (modify_signals (hf _)).trans h
  unfold rtTickCharge
  dsimp only
  split
  · rw [rtSchedule_signals]
    exact hcharge _ (hcharge _ rfl fun _ => rfl) fun _ => rfl
  · exact hcharge _ rfl fun _ => rfl

end Kernel

/-! ### Steps that are not about signals -/

namespace Machine

open Kernel (KernelOk)

variable {T E M B D V : Type} [DecidableEq T] [DecidableEq E] [DecidableEq M] [DecidableEq B]
  [DecidableEq D]

variable {s s' s₁ : Machine T E M B D V} {p : Platform T E M D} {t x : T}
  {k : Kernel T (WaitQueue E M B)} {c : Call T E M B} {n : Signo} {i : Label T E M B D V}

/-- The signals of all threads are left alone, and only the running thread goes on. -/
structure Quiet (s s' : Machine T E M B D V) : Prop where
  signals : s'.kernel.signals = s.kernel.signals
  sig : ∀ t, (s'.ctx t).sig = (s.ctx t).sig
  sched : ∀ t, t ≠ s.current → (s'.ctx t).sched = (s.ctx t).sched
  call : ∀ t, t ≠ s.current → (s'.ctx t).call = (s.ctx t).call
  current : s'.current = s.current

namespace Quiet

theorem refl : Quiet s s := ⟨rfl, fun _ => rfl, fun _ _ => rfl, fun _ _ => rfl, rfl⟩

theorem withKernel (h : Quiet s s₁) (hk : k.signals = s₁.kernel.signals)
    (hc : k.currentThread = s₁.kernel.currentThread) : Quiet s (s₁.withKernel k) :=
  ⟨hk.trans h.signals, h.sig, h.sched, h.call, hc.trans h.current⟩

theorem setMutex (h : Quiet s s₁) {m : M} {y : Mutex T} : Quiet s (s₁.setMutex m y) :=
  ⟨h.signals, h.sig, h.sched, h.call, h.current⟩

theorem setCtx (h : Quiet s s₁) {f : Ctx T E M B V → Ctx T E M B V} (hf : ∀ c, (f c).sig = c.sig) :
    Quiet s (s₁.setCtx s₁.current f) := by
  refine ⟨h.signals, fun t => ?_, fun t ht => ?_, fun t ht => ?_, h.current⟩
  · by_cases ht : t = s₁.current
    · subst ht
      rw [setCtx_ctx_self, hf, h.sig]
    · rw [setCtx_ctx_of_ne ht, h.sig]
  · rw [setCtx_ctx_of_ne (h.current.symm ▸ ht), h.sched t ht]
  · rw [setCtx_ctx_of_ne (h.current.symm ▸ ht), h.call t ht]

theorem setRet (h : Quiet s s₁) {r : RtErr} : Quiet s (s₁.setRet r) := h.setCtx fun _ => rfl

theorem finish (h : Quiet s s₁) {r : RtErr} : Quiet s (s₁.finish r) := h.setCtx fun _ => rfl

theorem reschedule (h : Quiet s s₁) : Quiet s s₁.reschedule := h.setCtx fun _ => rfl

theorem setCall (h : Quiet s s₁) : Quiet s (s₁.setCall c) := h.setCtx fun _ => rfl

theorem beginCall (h : Quiet s s₁) : Quiet s (s₁.beginCall c) := h.setCtx fun _ => rfl

theorem setTimer {d : D} {y : RtTimer} : Quiet s (s.setTimer d y) := by
  unfold Machine.setTimer
  split
  · exact Quiet.refl.withKernel rfl rfl
  · exact ⟨rfl, fun _ => rfl, fun _ _ => rfl, fun _ _ => rfl, rfl⟩

end Quiet

theorem rtEventSend_ctx {e : E} {set : BitVec 32} : ((s.rtEventSend e set).1.ctx t).sig =
    (s.ctx t).sig ∧ ((s.rtEventSend e set).1.ctx t).sched = (s.ctx t).sched ∧
      ((s.rtEventSend e set).1.ctx t).call = (s.ctx t).call := by
  simp only [rtEventSend, grant]
  split <;> exact ⟨rfl, rfl, rfl⟩

theorem rtEventSend_quiet {e : E} {set : BitVec 32} : Quiet s (s.rtEventSend e set).1 :=
  ⟨Kernel.eventSendWalk_signals, fun _ => rtEventSend_ctx.1, fun _ _ => rtEventSend_ctx.2.1,
    fun _ _ => rtEventSend_ctx.2.2, rtEventSend_current⟩

theorem perform_quiet {a : Act T E M B D V} (ha : a.writesSignals = false) :
    Quiet s (s.perform p a) := by
  have hsignals := perform_signals (s := s) (p := p) ha
  cases a with
  | «local» => exact .refl
  | take m => exact Quiet.refl.beginCall
  | mbRecv b wait => exact Quiet.refl.beginCall
  | kill t n => exact Quiet.refl.setCall
  | recv e set option =>
    simp only [perform]
    split
    · exact Quiet.refl.setRet
    · exact Quiet.refl.beginCall
  | send e set =>
    simp only [perform]
    split
    · exact Quiet.refl.setRet
    · split
      · exact rtEventSend_quiet.setRet.reschedule
      · exact rtEventSend_quiet.setRet
  | release m =>
    have hrelease : Quiet s (s.withKernel
        (s.kernel.rtMutexRelease (s.mutex m) (.mutex m) (p.originalAddr m)).1) :=
      Quiet.refl.withKernel Kernel.rtMutexRelease_signals Kernel.rtMutexRelease_currentThread
    simp only [perform]
    split
    · exact hrelease.setMutex.setRet.reschedule
    · exact hrelease.setMutex.setRet
  | mbSend b v =>
    have hmail : Quiet s ({ s with
        mailbox := Function.update s.mailbox b ((s.mailbox b).rtMbSend v).1 } :
          Machine T E M B D V) := ⟨rfl, fun _ => rfl, fun _ _ => rfl, fun _ _ => rfl, rfl⟩
    simp only [perform]
    split
    · exact (hmail.setRet.withKernel Kernel.rtThreadResume_signals
        Kernel.rtThreadResume_currentThread).reschedule
    · exact hmail.setRet
  | control t arg =>
    exact Quiet.refl.withKernel Kernel.rtThreadControl_signals Kernel.rtThreadControl_currentThread
  | setPreemptableFlag t b | setTaskStarted duration | setTaskEnded =>
    exact Quiet.refl.withKernel hsignals rfl
  | timerStart d | timerStop d | timerDetach d => exact .setTimer
  | mask | unmask | startup | detach | exit => cases ha

theorem stepCall_quiet (hc : ∀ t n stage, c ≠ .kill t n stage) : Quiet s (s.stepCall p c) := by
  have hsignals := stepCall_signals (s := s) (p := p) hc
  cases c with
  | recv e set option stage =>
    simp only [stepCall] at hsignals ⊢
    cases stage with
    | reset =>
      have hreset : (s.kernel.setError s.current .eok).signals = s.kernel.signals :=
        Kernel.setError_signals
      exact (Quiet.refl.withKernel hreset rfl).setCall
    | enter =>
      simp only [stepRecv] at hsignals ⊢
      split at hsignals
      · exact Quiet.refl.withKernel rfl rfl
      · refine ⟨hsignals, fun t => ?_, fun t ht => ?_, fun t ht => ?_, rfl⟩
        · by_cases ht : t = s.current
          · subst ht
            simp [takeFlags]
          · simp [takeFlags, ht]
        · simp [takeFlags, ht]
        · simp [takeFlags, ht]
      · refine Quiet.reschedule (Quiet.setCall (Quiet.withKernel .refl hsignals ?_))
        exact Kernel.ipcListSuspend_currentThread
    | check =>
      simp only [stepRecv]
      split
      · exact Quiet.refl.finish
      · refine Quiet.setCall (Quiet.setCtx .refl ?_)
        exact fun _ => rfl
    | ret => exact Quiet.refl.finish
  | take m stage =>
    simp only [stepCall]
    cases stage with
    | enter =>
      have htake : Quiet s
          (s.withKernel (s.kernel.rtMutexTake (s.mutex m) (.mutex m) p.addr (-1)).1) :=
        Quiet.refl.withKernel Kernel.rtMutexTake_signals (rtMutexTake_currentThread ..)
      simp only [stepTake]
      split
      · exact htake.setMutex.finish
      · exact htake.setMutex.setCall.reschedule
    | check =>
      simp only [stepTake]
      split
      · exact Quiet.refl.setCall
      · exact Quiet.refl.finish
    | test =>
      simp only [stepTake]
      split <;> exact Quiet.refl.setCall
    | decrement | setOwner | setOriginal => exact Quiet.refl.setMutex.setCall
    | addHold => exact Quiet.refl.setMutex.finish
    | boost =>
      exact (Quiet.refl.withKernel Kernel.changeOwnerPriority_signals
        Kernel.changeOwnerPriority_currentThread).setCall
    | suspend =>
      simp only [stepTake]
      split
      · exact Quiet.refl.withKernel rfl rfl
      · exact (Quiet.refl.withKernel Kernel.rtThreadSuspend_signals
          Kernel.rtThreadSuspend_currentThread).setCall
    | link =>
      have hlink : (s.kernel.rtListInsertWait (.mutex m) s.current .prio).signals =
        s.kernel.signals := Kernel.rtListInsertWait_signals
      simp only [stepTake]
      split
      · exact Quiet.refl.withKernel rfl rfl
      · refine Quiet.reschedule (Quiet.setCall (Quiet.withKernel .refl hlink ?_))
        exact Kernel.rtListInsertWait_currentThread
  | mbRecv b wait stage =>
    simp only [stepCall]
    cases stage with
    | enter =>
      simp only [stepMbRecv]
      split
      · split
        · exact Quiet.refl.finish
        · refine Quiet.reschedule (Quiet.setCall (Quiet.withKernel .refl ?_ ?_))
          · rw [Kernel.ipcListSuspend_signals, Kernel.setError_signals]
          · exact Kernel.ipcListSuspend_currentThread
      · have hmail : Quiet s ({ s with
            mailbox := Function.update s.mailbox b (s.mailbox b).take.1 } :
              Machine T E M B D V) := ⟨rfl, fun _ => rfl, fun _ _ => rfl, fun _ _ => rfl, rfl⟩
        have htaken := (hmail.setCtx
          (f := fun x => { x with mail := some (s.mailbox b).take.2, granted := true })
          (by exact fun _ => rfl)).finish (r := .eok)
        split
        · exact htaken
        · exact (htaken.withKernel Kernel.rtThreadResume_signals
            Kernel.rtThreadResume_currentThread).reschedule
    | check =>
      simp only [stepMbRecv]
      split
      · exact Quiet.refl.finish
      · exact Quiet.refl.setCall
  | kill t n stage => exact absurd rfl (hc t n stage)

/-- The tick and its timers are not about signals. -/
theorem rtTickIncrease_quiet {due : List D} :
    (s.rtTickIncrease p due).kernel.signals = s.kernel.signals ∧ ∀ t,
      ((s.rtTickIncrease p due).ctx t).sig = (s.ctx t).sig ∧
        ((s.rtTickIncrease p due).ctx t).sched = (s.ctx t).sched ∧
          ((s.rtTickIncrease p due).ctx t).call = (s.ctx t).call := by
  have hrun : ∀ r : Machine T E M B D V,
      (due.foldl (rtTimerTimeout p) r).kernel.signals = r.kernel.signals ∧ ∀ t,
        ((due.foldl (rtTimerTimeout p) r).ctx t).sig = (r.ctx t).sig ∧
          ((due.foldl (rtTimerTimeout p) r).ctx t).sched = (r.ctx t).sched ∧
            ((due.foldl (rtTimerTimeout p) r).ctx t).call = (r.ctx t).call := by
    induction due with
    | nil => exact fun _ => ⟨rfl, fun _ => ⟨rfl, rfl, rfl⟩⟩
    | cons d due ih =>
      intro r
      obtain ⟨hsignals, hctx⟩ := ih (rtTimerTimeout p r d)
      have hone : (rtTimerTimeout p r d).kernel.signals = r.kernel.signals ∧
          (rtTimerTimeout p r d).ctx =
            (r.rtEventSend (p.timeout d).1 (p.timeout d).2).1.ctx := by
        unfold rtTimerTimeout
        dsimp only
        split
        · exact ⟨Kernel.rtSchedule_signals.trans Kernel.eventSendWalk_signals, rfl⟩
        · exact ⟨Kernel.eventSendWalk_signals, rfl⟩
      refine ⟨hsignals.trans hone.1, fun t => ?_⟩
      obtain ⟨hsig, hsched, hcall⟩ := hctx t
      obtain ⟨hsig', hsched', hcall'⟩ := (rtEventSend_ctx : ((r.rtEventSend (p.timeout d).1
        (p.timeout d).2).1.ctx t).sig = (r.ctx t).sig ∧ _)
      rw [hone.2] at hsig hsched hcall
      exact ⟨hsig.trans hsig', hsched.trans hsched', hcall.trans hcall'⟩
  have hcharge : s.kernel.rtTickCharge.signals = s.kernel.signals := by
    exact Kernel.rtTickCharge_signals
  obtain ⟨hsignals, hctx⟩ := hrun (s.withKernel s.kernel.rtTickCharge)
  exact ⟨hsignals.trans hcharge, hctx⟩

end Machine

end RobotVacuum
