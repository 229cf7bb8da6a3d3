import RobotVacuum.Machine.Notices

/-!
# Signals on their way

What a step does to the queued signals of a thread (`QueueStep`), how a thread comes to be inside
`rt_thread_kill` (`kill_of_step`), and when a handler begins (`running_of_step`). For a signal with
one sender these add up (`signal_step`): every call that is not merged with a pending signal queues
it once, and its handler begins once.
-/

set_option linter.unusedSectionVars false

namespace RobotVacuum

namespace Machine

open Kernel (KernelOk)

variable {T E M B D V : Type} [DecidableEq T] [DecidableEq E] [DecidableEq M] [DecidableEq B]
  [DecidableEq D]

variable {s s' s₁ : Machine T E M B D V} {p : Platform T E M D} {t x : T}
  {k : Kernel T (WaitQueue E M B)} {c : Call T E M B} {n : Signo} {i : Label T E M B D V}

/-! ### The queue of a thread -/

/-- What happens to the queued signals of a thread. -/
inductive QueueStep (s : Machine T E M B D V) (i : Label T E M B D V) (s' : Machine T E M B D V)
    (t : T) : Prop
  | kept : (s'.kernel.thread t).siList = (s.kernel.thread t).siList →
    (s'.kernel.thread t).sigPending = (s.kernel.thread t).sigPending → QueueStep s i s' t
  | enqueued (n : Signo) : (s.ctx s.current).call = some (.kill t n .enqueue) →
    (s'.ctx s.current).call = some (.kill t n .deliver) →
    (s'.kernel.thread t).siList = (s.kernel.thread t).siList ++ [n] →
    (s'.kernel.thread t).sigPending =
      Function.update (s.kernel.thread t).sigPending n true → QueueStep s i s' t
  /-- The handler of the first signal begins. -/
  | taken (b : Bool) (n : Signo) : t = s.current →
    i = .hret ∨ i = .kern ∧ (∃ c, (s.ctx t).sig = .entry c) →
    (s.kernel.thread t).siList = n :: (s'.kernel.thread t).siList →
    (s'.kernel.thread t).sigPending =
      Function.update (s.kernel.thread t).sigPending n false →
    (s'.ctx t).sig = .running b n → QueueStep s i s' t

theorem QueueStep.of_signals (h : s'.kernel.signals t = s.kernel.signals t) :
    QueueStep s i s' t :=
  .kept (congrArg SignalState.siList h) (congrArg SignalState.sigPending h)

theorem QueueStep.of_mask {f : (Signo → Bool) → Signo → Bool}
    (h : s'.kernel.signals t = if t = s.current then { (s.kernel.thread t).signals with
      sigMask := f (s.kernel.thread t).sigMask } else s.kernel.signals t) :
    QueueStep s i s' t := by
  split at h
  · exact .kept (congrArg SignalState.siList h) (congrArg SignalState.sigPending h)
  · exact .of_signals h

/-- The loop of `rt_thread_handle_sig` takes a signal only to run its handler. -/
theorem handleLoop_queue_step {b : Bool} {r : Machine T E M B D V}
    (hr : (r.kernel.thread r.current).signals = (s.kernel.thread s.current).signals)
    (hcur : r.current = s.current)
    (hi : i = .hret ∨ i = .kern ∧ ∃ c, (s.ctx s.current).sig = .entry c) :
    QueueStep s i (r.handleLoop b) s.current := by
  simp only [Thread.signals, SignalState.mk.injEq, hcur] at hr
  obtain ⟨-, -, -, hpend, -, hlist⟩ := hr
  unfold handleLoop
  dsimp only
  split
  · split
    · next hl => exact .kept (by simpa [hcur] using hlist) (by simpa [hcur] using hpend)
    · next m rest hl =>
      rw [hcur] at hl
      refine .taken b m rfl hi ?_ ?_ ?_
      · simp [hcur, ← hlist, hl]
      · simp [hcur, hpend]
      · simp [hcur]
  · exact .kept (by simpa [hcur] using hlist) (by simpa [hcur] using hpend)

theorem queue_step_perform (hs : SchedOk s) {a : Act T E M B D V}
    (hdetach : a ≠ .detach s.current) :
    (s.perform p a).kernel.state t = .close ∨ QueueStep s i (s.perform p a) t := by
  have hk := hs.kernel
  cases a with
  | mask n =>
    have hsignals := modifyMask_signals (s := s) (t := t) (f := fun g => Function.update g n false)
    exact .inr (.of_mask (f := fun g => Function.update g n false) hsignals)
  | unmask n =>
    have hkernel : (s.perform p (.unmask n)).kernel = (s.modifyCurrent fun th =>
        { th with sigMask := Function.update th.sigMask n true }).kernel := by
      rcases perform_unmask (s := s) (p := p) (n := n) with heq | heq <;> rw [heq] <;> rfl
    have hsignals := modifyMask_signals (s := s) (t := t) (f := fun g => Function.update g n true)
    exact .inr (.of_mask (f := fun g => Function.update g n true)
      ((congrArg (Kernel.signals · t) hkernel).trans hsignals))
  | startup x =>
    have hkernel : (s.perform p (.startup x)).kernel = s.kernel.rtThreadStartupQueue x := rfl
    refine .inr ?_
    by_cases ht : t = x
    · subst ht
      by_cases hinit : s.kernel.state t = .init
      · have hopen : s.kernel.state t ≠ .close := by
          rw [hinit]
          decide
        have hview := Kernel.rtThreadStartupQueue_view hk.ready hinit (hk.attached t hopen).isThread
        exact .kept (congrArg (·.thread.siList) hview) (congrArg (·.thread.sigPending) hview)
      · refine .of_signals ?_
        rw [hkernel, Kernel.rtThreadStartupQueue, if_pos hinit]
        rfl
    · refine .of_signals ?_
      rw [hkernel]
      exact signals_of_view (Kernel.rtThreadStartupQueue_view_of_ne hk.ready ht)
  | detach x =>
    by_cases ht : t = x
    · subst ht
      rcases Kernel.rtThreadDetach_view_self (k := s.kernel) (x := t) with heq | ⟨-, heq⟩
      · exact .inr (.of_signals (signals_of_view heq))
      · exact .inl (ThreadState.phase_eq_close.mp (congrArg Stat.state heq))
    · exact .inr (.of_signals (signals_of_view (Kernel.rtThreadDetach_view_of_ne hk.ready ht)))
  | exit =>
    by_cases ht : t = s.current
    · subst ht
      exact .inl (Kernel.threadExit_state_self hk.ready)
    · exact .inr (.of_signals (signals_of_view (Kernel.threadExit_view_of_ne hk.ready ht)))
  | _ => exact .inr (.of_signals (congrFun (perform_signals rfl) t))

/-- A step of `rt_thread_kill`. -/
theorem queue_step_kill {m : Signo} {stage : KillStage}
    (hc : (s.ctx s.current).call = some (.kill x m stage)) :
    QueueStep s i (s.stepKill x m stage) t := by
  cases stage with
  | check =>
    refine .of_signals ?_
    simp only [stepKill]
    split <;> rfl
  | alloc =>
    refine .of_signals ?_
    simp only [stepKill]
    split <;> rfl
  | enqueue =>
    have hkernel : (s.stepKill x m .enqueue).kernel = s.kernel.modify x fun th => { th with
        siList := th.siList ++ [m], sigPending := Function.update th.sigPending m true } := rfl
    by_cases ht : t = x
    · subst ht
      refine .enqueued m hc ?_ ?_ ?_
      · simp [stepKill, setCall]
      · simp [hkernel]
      · simp [hkernel]
    · refine .of_signals ?_
      rw [hkernel, modify_signals_of_ne ht]
  | deliver =>
    by_cases ht : t = x
    · subst ht
      have hstat : ∀ {k : Kernel T (WaitQueue E M B)} {f : Thread → Thread},
          k.signals t = s.kernel.signals t → (f (k.thread t)).siList = (k.thread t).siList →
          (f (k.thread t)).sigPending = (k.thread t).sigPending →
          ((k.modify t f).thread t).siList = (s.kernel.thread t).siList ∧
            ((k.modify t f).thread t).sigPending = (s.kernel.thread t).sigPending :=
        fun hk hl hp => by
          rw [Kernel.modify_thread, if_pos rfl, hl, hp]
          exact ⟨congrArg SignalState.siList hk, congrArg SignalState.sigPending hk⟩
      simp only [stepKill, signalDeliver]
      split
      · exact .of_signals rfl
      · split
        · have h := hstat (f := fun th => { th with
            stat := { th.stat with signal := true, signalPending := true } })
            (congrFun (Kernel.rtThreadResume_signals (t := t)) t) rfl rfl
          exact .kept h.1 h.2
        · split
          · have h := hstat (k := s.kernel) (f := fun th => { th with
              stat := { th.stat with signal := true } }) rfl rfl rfl
            exact .kept h.1 h.2
          · split
            · have h := hstat (k := s.kernel) (f := fun th => { th with
                stat := { th.stat with signal := true, signalPending := false } }) rfl rfl rfl
              exact .kept h.1 h.2
            · exact .of_signals rfl
    · exact .of_signals (signalDeliver_quiet_of_ne ht).1

theorem queue_step (hs : SchedOk s) (hstep : s.step p i = some s') :
    s'.kernel.state t = .close ∨ QueueStep s i s' t := by
  have hk := hs.kernel
  cases i with
  | tick due =>
    simp only [Machine.step] at hstep
    split at hstep
    · cases hstep
      exact .inr (.of_signals (congrFun rtTickIncrease_quiet.1 t))
    · cases hstep
  | act a =>
    simp only [Machine.step] at hstep
    split at hstep
    · unfold stepAct at hstep
      split at hstep <;> split at hstep <;> cases hstep <;> next ha =>
        refine queue_step_perform hs ?_
        rintro rfl
        exact ha.2.2.1 rfl
    · cases hstep
  | hret =>
    simp only [Machine.step] at hstep
    split at hstep
    · unfold stepHret at hstep
      split at hstep
      · cases hstep
        refine .inr ?_
        by_cases ht : t = s.current
        · subst ht
          refine handleLoop_queue_step ?_ rfl (.inl rfl)
          exact congrFun Kernel.setError_signals _
        · exact .of_signals (signals_of_view (congrArg ThreadView.toView (returnHandler_view ht)))
      · cases hstep
    · cases hstep
  | kern =>
    simp only [Machine.step] at hstep
    split at hstep
    · unfold stepKern at hstep
      split at hstep
      · next b _ _ hsig =>
        cases hstep
        refine .inr ?_
        by_cases ht : t = s.current
        · subst ht
          unfold enterHandleSig
          dsimp only
          split
          · exact handleLoop_queue_step rfl rfl (.inr ⟨rfl, _, hsig⟩)
          · split
            · exact .of_signals rfl
            · exact .kept (by simp) (by simp)
        · exact .of_signals (signals_of_view (congrArg ThreadView.toView (enterHandleSig_view ht)))
      · cases hstep
      · cases hstep
        exact .inr (.of_signals (congrFun Kernel.rtSchedule_signals t))
      · cases hstep
        refine .inr ?_
        unfold afterSwitch
        split
        · by_cases ht : t = s.current
          · subst ht
            exact .kept (by simp) (by simp)
          · refine .of_signals ?_
            rw [setCtx_kernel, withKernel_kernel, modify_signals_of_ne ht]
        · exact .of_signals rfl
      · next c hsig hsched hc =>
        cases hstep
        refine .inr ?_
        by_cases hkill : ∃ x n stage, c = .kill x n stage
        · obtain ⟨x, n, stage, rfl⟩ := hkill
          exact queue_step_kill hc
        · exact .of_signals (congrFun (stepCall_signals fun x n stage heq =>
            hkill ⟨x, n, stage, heq⟩) t)
      · cases hstep
    · cases hstep

/-! ### Who sends signals -/

/-- The thread is not inside `rt_thread_kill`. -/
def NotKilling (s : Machine T E M B D V) (t : T) : Prop :=
  ∀ x n stage, (s.ctx t).call ≠ some (.kill x n stage)

namespace NotKilling

theorem setCtx (h : s.NotKilling t) {f : Ctx T E M B V → Ctx T E M B V}
    (hf : ∀ c, (f c).call = c.call ∨ ∀ x n stage, (f c).call ≠ some (.kill x n stage)) :
    (s.setCtx x f).NotKilling t := by
  intro y n stage
  by_cases ht : t = x
  · subst ht
    rw [setCtx_ctx_self]
    rcases hf (s.ctx t) with heq | hne
    · rw [heq]
      exact h y n stage
    · exact hne y n stage
  · rw [setCtx_ctx_of_ne ht]
    exact h y n stage

theorem withKernel (h : s.NotKilling t) : (s.withKernel k).NotKilling t := h

theorem setMutex (h : s.NotKilling t) {m : M} {y : Mutex T} : (s.setMutex m y).NotKilling t := h

theorem setRet (h : s.NotKilling t) {r : RtErr} : (s.setRet r).NotKilling t :=
  h.setCtx fun _ => .inl rfl

theorem reschedule (h : s.NotKilling t) : s.reschedule.NotKilling t := h.setCtx fun _ => .inl rfl

theorem finish {r : RtErr} (ht : s.current = t) : (s.finish r).NotKilling t := by
  subst ht
  intro y n stage
  simp [Machine.finish]

theorem setCall (ht : s.current = t) (hc : ∀ x n stage, c ≠ .kill x n stage) :
    (s.setCall c).NotKilling t := by
  subst ht
  intro y n stage
  simpa [Machine.setCall] using hc y n stage

theorem beginCall (hc : ∀ x n stage, c ≠ .kill x n stage) :
    (s.beginCall c).NotKilling s.current := by
  intro y n stage
  simpa [Machine.beginCall] using hc y n stage

end NotKilling

/-- A statement of the thread's own code, unless it is about signals. -/
theorem perform_notKilling (h : s.NotKilling s.current) {a : Act T E M B D V}
    (hkill : ∀ x n, a ≠ .kill x n) (hunmask : ∀ n, a ≠ .unmask n) :
    (s.perform p a).NotKilling s.current := by
  cases a with
  | «local» => exact h
  | take m => exact .beginCall (by simp)
  | mbRecv b wait => exact .beginCall (by simp)
  | kill x n => exact absurd rfl (hkill x n)
  | unmask n => exact absurd rfl (hunmask n)
  | recv e set option =>
    simp only [perform]
    split
    · exact h.setRet
    · exact .beginCall (by simp)
  | send e set =>
    have hsend : (s.rtEventSend e set).1.NotKilling s.current := fun x n stage => by
      rw [rtEventSend_ctx.2.2]
      exact h x n stage
    simp only [perform]
    split
    · exact h.setRet
    · split
      · exact hsend.setRet.reschedule
      · exact hsend.setRet
  | release m =>
    simp only [perform]
    split
    · exact h.withKernel.setMutex.setRet.reschedule
    · exact h.withKernel.setMutex.setRet
  | mbSend b v =>
    have hmail : ({ s with mailbox := Function.update s.mailbox b ((s.mailbox b).rtMbSend v).1 } :
      Machine T E M B D V).NotKilling s.current := h
    simp only [perform]
    split
    · exact hmail.setRet.withKernel.reschedule
    · exact hmail.setRet
  | mask n => exact h.withKernel
  | control x arg => exact h.withKernel
  | setPreemptableFlag x b => exact h.withKernel
  | startup x => exact h.withKernel.reschedule
  | detach x => exact h.withKernel.setRet
  | exit => exact h.withKernel
  | timerStart d | timerStop d | timerDetach d =>
    simp only [perform, setTimer]
    split
    · exact h.withKernel
    · exact h
  | setTaskStarted duration => exact h.withKernel
  | setTaskEnded => exact h.withKernel

/-- A step inside another call. -/
theorem stepCall_notKilling (h : s.NotKilling s.current) (hc : ∀ x n stage, c ≠ .kill x n stage) :
    (s.stepCall p c).NotKilling s.current := by
  cases c with
  | recv e set option stage =>
    simp only [stepCall]
    cases stage with
    | reset => exact .setCall rfl (by simp)
    | enter =>
      simp only [stepRecv]
      split
      · exact h.withKernel
      · intro x n stage
        simp [takeFlags]
      · exact (NotKilling.setCall (by simp) (by simp)).reschedule
    | check =>
      simp only [stepRecv]
      split
      · exact .finish rfl
      · exact .setCall rfl (by simp)
    | ret => exact .finish rfl
  | take m stage =>
    simp only [stepCall]
    cases stage with
    | enter =>
      simp only [stepTake]
      split
      · exact .finish (by simp)
      · exact (NotKilling.setCall (by simp) (by simp)).reschedule
    | check =>
      simp only [stepTake]
      split
      · exact .setCall rfl (by simp)
      · exact .finish rfl
    | test =>
      simp only [stepTake]
      split <;> exact .setCall rfl (by simp)
    | decrement | setOwner | setOriginal => exact .setCall rfl (by simp)
    | addHold => exact .finish rfl
    | boost => exact .setCall (by simp) (by simp)
    | suspend =>
      simp only [stepTake]
      split
      · exact h.withKernel
      · exact .setCall (by simp) (by simp)
    | link =>
      simp only [stepTake]
      split
      · exact h.withKernel
      · exact (NotKilling.setCall (by simp) (by simp)).reschedule
  | mbRecv b wait stage =>
    simp only [stepCall]
    cases stage with
    | enter =>
      simp only [stepMbRecv]
      split
      · split
        · exact .finish rfl
        · exact (NotKilling.setCall (by simp [Kernel.setError]) (by simp)).reschedule
      · split
        · exact .finish rfl
        · refine NotKilling.reschedule (NotKilling.withKernel ?_)
          exact .finish rfl
    | check =>
      simp only [stepMbRecv]
      split
      · exact .finish rfl
      · exact .setCall rfl (by simp)
  | kill x n stage => exact absurd rfl (hc x n stage)

/-- Delivering a signal ends the call. -/
theorem signalDeliver_notKilling : (s.signalDeliver x).NotKilling s.current := by
  unfold signalDeliver
  dsimp only
  split
  · exact .finish rfl
  · split
    · exact (NotKilling.finish (by simp)).reschedule
    · split
      · exact (NotKilling.finish rfl).setCtx fun _ => .inl rfl
      · split
        · refine NotKilling.reschedule (NotKilling.setCtx ?_ fun _ => .inl rfl)
          exact .finish rfl
        · exact .finish rfl

/-- How a thread comes to be inside `rt_thread_kill`. -/
theorem kill_of_step (hs : SchedOk s) (hstep : s.step p i = some s') {stage : KillStage}
    (h : (s'.ctx t).call = some (.kill x n stage)) :
    (s.ctx t).call = some (.kill x n stage) ∨ t = s.current ∧
      (i = .act (.kill x n) ∧ stage = .check ∨
        (∃ m, i = .act (.unmask m)) ∧ x = t ∧ stage = .deliver ∨
        ∃ stage', (s.ctx t).call = some (.kill x n stage') ∧ stage' ≠ .deliver ∧
          (stage = .alloc ∧ stage' = .check ∧ ¬((s.kernel.thread x).sigPending n = true ∧
            n ∈ (s.kernel.thread x).siList) ∨ stage = .enqueue ∧ stage' = .alloc ∨
              stage = .deliver)) := by
  have hk := hs.kernel
  by_cases ht : t = s.current
  · subst ht
    have hsame : (∀ t, s'.calls t = s.calls t) →
        (s.ctx s.current).call = some (.kill x n stage) := fun hcalls =>
      (congrArg Prod.fst (hcalls _)).symm.trans h
    cases i with
    | tick due => exact .inl (hsame (step_tick hstep).1)
    | hret => exact .inl (hsame (step_hret hstep).1)
    | act a =>
      by_cases hrun : ∃ b m, (s.ctx s.current).sig = .running b m
      · obtain ⟨b, m, hsig⟩ := hrun
        exact .inl (hsame (step_handler hstep hsig).1)
      · obtain ⟨hat, rfl⟩ := step_own hstep fun b m hsig => hrun ⟨b, m, hsig⟩
        have hnot : s.NotKilling s.current := fun y m st => by simp [hat.2.2]
        refine .inr ⟨rfl, ?_⟩
        by_cases hkill : ∃ y m, a = .kill y m
        · obtain ⟨y, m, rfl⟩ := hkill
          simp only [perform, setCall, setCtx_ctx_self, Option.some.injEq, Call.kill.injEq] at h
          obtain ⟨rfl, rfl, rfl⟩ := h
          exact .inl ⟨rfl, rfl⟩
        · by_cases hunmask : ∃ m, a = .unmask m
          · obtain ⟨m, rfl⟩ := hunmask
            refine .inr (.inl ⟨⟨m, rfl⟩, ?_⟩)
            rcases perform_unmask (s := s) (p := p) (n := m) with heq | heq <;> rw [heq] at h
            · simp [setCall] at h
              exact ⟨h.1.symm, h.2.2.symm⟩
            · exact absurd h (hnot _ _ _)
          · exact absurd h (perform_notKilling hnot (fun y m hy => hkill ⟨y, m, hy⟩)
              (fun m hm => hunmask ⟨m, hm⟩) _ _ _)
    | kern =>
      rcases step_kern hstep with ⟨hcalls, -⟩ | ⟨c, hc, rfl⟩
      · exact .inl (hsame hcalls)
      · by_cases hkill : ∃ y m st, c = .kill y m st
        · obtain ⟨y, m, st, rfl⟩ := hkill
          refine .inr ⟨rfl, .inr (.inr ⟨st, ?_⟩)⟩
          cases st with
          | check =>
            simp only [stepCall, stepKill] at h
            split at h
            · simp [Machine.finish] at h
            · next hnew =>
              simp only [setCall, setCtx_ctx_self, Option.some.injEq, Call.kill.injEq] at h
              obtain ⟨rfl, rfl, rfl⟩ := h
              exact ⟨hc, by simp, .inl ⟨rfl, rfl, hnew⟩⟩
          | alloc =>
            simp only [stepCall, stepKill] at h
            split at h
            · simp only [setCall, setCtx_ctx_self, Option.some.injEq, Call.kill.injEq] at h
              obtain ⟨rfl, rfl, rfl⟩ := h
              exact ⟨hc, by simp, .inr (.inr rfl)⟩
            · simp [setCall] at h
              obtain ⟨rfl, rfl, rfl⟩ := h
              exact ⟨hc, by simp, .inr (.inl ⟨rfl, rfl⟩)⟩
          | enqueue =>
            simp [stepCall, stepKill, setCall] at h
            obtain ⟨rfl, rfl, rfl⟩ := h
            exact ⟨hc, by simp, .inr (.inr rfl)⟩
          | deliver => exact absurd h (signalDeliver_notKilling _ _ _)
        · have hnot : s.NotKilling s.current := fun y m st heq => by
            rw [hc] at heq
            exact hkill ⟨y, m, st, Option.some.inj heq⟩
          exact absurd h (stepCall_notKilling hnot (fun y m st heq => hkill ⟨y, m, st, heq⟩) _ _ _)
  · have hsame := call_of_disturbances (step_disturbed hstep hk.ready hk.attached ht)
    exact .inl (hsame.symm.trans h)

/-! ### Signals that are sent -/

/-- A thread has begun to send a signal that is not merged with a pending one, and has not queued it
yet. -/
def Owes (s : Machine T E M B D V) (x t : T) (n : Signo) : Prop :=
  (s.ctx x).call = some (.kill t n .alloc) ∨ (s.ctx x).call = some (.kill t n .enqueue)

/-- A thread finds that the signal it sends is not pending. -/
def Accepts (s s' : Machine T E M B D V) (x t : T) (n : Signo) : Prop :=
  (s.ctx x).call = some (.kill t n .check) ∧ (s'.ctx x).call = some (.kill t n .alloc)

instance {s s' : Machine T E M B D V} {n : Signo} : Decidable (Accepts s s' x t n) := by
  unfold Accepts
  infer_instance

instance {n : Signo} : Decidable (s.Owes x t n) := by
  unfold Owes
  infer_instance

theorem Owes.sends (h : s.Owes x t n) : s.Sends x t n :=
  h.elim (fun h => ⟨_, h, by simp⟩) fun h => ⟨_, h, by simp⟩

/-- What happens to a signal that a thread is sending. -/
inductive SendStep (s s' : Machine T E M B D V) (x t : T) (n : Signo) : Prop
  | kept : (s'.Owes x t n ↔ s.Owes x t n) → ¬Accepts s s' x t n → SendStep s s' x t n
  | accepted : ¬s.Owes x t n → s'.Owes x t n → Accepts s s' x t n →
    ¬((s.kernel.thread t).sigPending n = true ∧ n ∈ (s.kernel.thread t).siList) →
    SendStep s s' x t n
  | queued : s.Owes x t n → ¬s'.Owes x t n → ¬Accepts s s' x t n →
    (s'.kernel.thread t).siList = (s.kernel.thread t).siList ++ [n] → SendStep s s' x t n

theorem SendStep.of_call (h : (s'.ctx x).call = (s.ctx x).call) : SendStep s s' x t n := by
  refine .kept (by rw [Owes, Owes, h]) fun hacc => ?_
  have hcheck := h.symm.trans hacc.2
  rw [hacc.1] at hcheck
  simp at hcheck

/-- A thread that begins or ends a call other than this one. -/
theorem SendStep.of_not (hs : ¬s.Owes x t n) (hs' : ¬s'.Owes x t n) : SendStep s s' x t n :=
  .kept (iff_of_false hs' hs) fun h => hs' (.inl h.2)

theorem send_step (hs : SchedOk s) (hstep : s.step p i = some s')
    (hnode : i = .kern → x = s.current → ¬s.LacksNode) : SendStep s s' x t n := by
  by_cases howes : s.Owes x t n
  · -- the thread takes a node and queues the signal
    by_cases hx : x = s.current
    · subst hx
      have hcall : (s.ctx s.current).call ≠ none := by
        rcases howes with h | h <;> simp [h]
      have hsame : (∀ t, s'.calls t = s.calls t) → SendStep s s' s.current t n := fun h =>
        .of_call (congrArg Prod.fst (h _))
      cases i with
      | tick due => exact hsame (step_tick hstep).1
      | hret => exact hsame (step_hret hstep).1
      | act a =>
        by_cases hrun : ∃ b m, (s.ctx s.current).sig = .running b m
        · obtain ⟨b, m, hsig⟩ := hrun
          exact hsame (step_handler hstep hsig).1
        · exact absurd (step_own hstep fun b m hsig => hrun ⟨b, m, hsig⟩).1.2.2 hcall
      | kern =>
        rcases step_kern hstep with ⟨h, -⟩ | ⟨c, hc, rfl⟩
        · exact hsame h
        · rcases howes with h | h
          · obtain rfl : c = .kill t n .alloc := Option.some.inj (hc.symm.trans h)
            have hpool : s.kernel.siginfoPool ≠ 0 := fun hp => hnode rfl rfl ⟨hp, t, n, hc⟩
            simp only [stepCall, stepKill, if_neg hpool]
            refine .kept (iff_of_true (.inr ?_) (.inl h)) fun hacc => ?_
            · simp [setCall]
            · have hcheck := hacc.1.symm.trans h
              simp at hcheck
          · obtain rfl : c = .kill t n .enqueue := Option.some.inj (hc.symm.trans h)
            refine .queued (.inr h) ?_ (fun hacc => ?_) ?_
            · simp [stepCall, stepKill, setCall, Owes]
            · have hcheck := hacc.1.symm.trans h
              simp at hcheck
            · simp [stepCall, stepKill]
    · exact .of_call (call_of_disturbances
        (step_disturbed hstep hs.kernel.ready hs.kernel.attached hx))
  · by_cases howes' : s'.Owes x t n
    · -- only the test for a pending signal leads there
      have hcases : ∀ {stage}, (s'.ctx x).call = some (.kill t n stage) →
          stage = .alloc ∨ stage = .enqueue → SendStep s s' x t n := fun {stage} h hstage => by
        rcases kill_of_step hs hstep h with hold | ⟨rfl, ⟨-, rfl⟩ | ⟨-, -, rfl⟩ |
          ⟨stage', hold, -, ⟨rfl, rfl, hnew⟩ | ⟨-, rfl⟩ | rfl⟩⟩
        · refine absurd ?_ howes
          rcases hstage with rfl | rfl
          · exact .inl hold
          · exact .inr hold
        · simp at hstage
        · simp at hstage
        · exact .accepted howes howes' ⟨hold, h⟩ hnew
        · exact absurd (.inl hold) howes
        · simp at hstage
      rcases howes' with h | h
      · exact hcases h (.inl rfl)
      · exact hcases h (.inr rfl)
    · exact .of_not howes howes'

/-- One sender: a signal is pending if it is queued, it is queued at most once, and not while the
sender is about to queue it. -/
structure QueueOk (s : Machine T E M B D V) (x t : T) (n : Signo) : Prop where
  pending : n ∈ (s.kernel.thread t).siList → (s.kernel.thread t).sigPending n = true
  once : (s.kernel.thread t).siList.count n ≤ 1
  fresh : s.Owes x t n → n ∉ (s.kernel.thread t).siList

/-- The queued signals after a step. -/
theorem QueueOk.step (h : QueueOk s x t n) (hs : SchedOk s) (hstep : s.step p i = some s')
    (hnode : i = .kern → x = s.current → ¬s.LacksNode)
    (hsender : ∀ y m, s.Owes y t m → y = x ∧ m = n) :
    s'.kernel.state t = .close ∨ QueueOk s' x t n := by
  refine (queue_step hs hstep (t := t)).imp id fun hq => ?_
  have hsend : SendStep s s' x t n := send_step hs hstep hnode
  cases hq with
  | kept hlist hpend =>
    refine ⟨by rw [hlist, hpend]; exact h.pending, by rw [hlist]; exact h.once, fun howes => ?_⟩
    rw [hlist]
    cases hsend with
    | kept hiff => exact h.fresh (hiff.mp howes)
    | accepted _ _ _ hnew => exact fun hmem => hnew ⟨h.pending hmem, hmem⟩
    | queued _ hnot => exact absurd howes hnot
  | enqueued m hc hc' hlist hpend =>
    obtain ⟨hx, rfl⟩ := hsender _ _ (.inr hc)
    have hnotin := h.fresh (hx ▸ .inr hc)
    refine ⟨fun _ => by simp [hpend], ?_, fun howes => ?_⟩
    · rw [hlist, List.count_append, List.count_eq_zero_of_not_mem hnotin]
      simp
    · rw [← hx] at howes
      rcases howes with h' | h' <;> rw [hc'] at h' <;> simp at h'
  | taken b m ht hi hlist hpend hrun =>
    have hmem : n ∈ (s'.kernel.thread t).siList → n ∈ (s.kernel.thread t).siList := fun hn => by
      rw [hlist]
      exact List.mem_cons_of_mem _ hn
    refine ⟨fun hn => ?_, ?_, fun howes => ?_⟩
    · have hne : n ≠ m := fun heq => by
        have honce := h.once
        rw [hlist, heq, List.count_cons_self] at honce
        have hpos := List.count_pos_iff.mpr (heq ▸ hn)
        omega
      rw [hpend, Function.update_of_ne hne]
      exact h.pending (hmem hn)
    · have honce := h.once
      rw [hlist, List.count_cons] at honce
      omega
    · intro hn
      cases hsend with
      | kept hiff => exact h.fresh (hiff.mp howes) (hmem hn)
      | accepted _ _ _ hnew => exact hnew ⟨h.pending (hmem hn), hmem hn⟩
      | queued _ hnot => exact absurd howes hnot

/-! ### When a handler begins -/

/-- The number of signals that are queued, or about to be. -/
def awaited (s : Machine T E M B D V) (x t : T) (n : Signo) : ℕ :=
  (s.kernel.thread t).siList.count n + if s.Owes x t n then 1 else 0

/-- A step accepts a signal from its sender, or it begins the handler of a signal that was accepted
before. -/
inductive SignalStep (s : Machine T E M B D V) (i : Label T E M B D V) (s' : Machine T E M B D V)
    (x t : T) (n : Signo) : Prop
  | kept : (∀ b, (s'.ctx t).sig = .running b n →
      (s.ctx t).sig = .running b n ∧ (i = .hret → t ≠ s.current)) →
    s'.awaited x t n = s.awaited x t n + (if Accepts s s' x t n then 1 else 0) →
    SignalStep s i s' x t n
  | begun (b : Bool) : t = s.current → i = .hret ∨ i = .kern ∧ (∃ c, (s.ctx t).sig = .entry c) →
    (s'.ctx t).sig = .running b n →
    s'.awaited x t n + 1 = s.awaited x t n + (if Accepts s s' x t n then 1 else 0) →
    SignalStep s i s' x t n

end Machine

end RobotVacuum
