import RobotVacuum.Machine.Waiting

/-!
# Urgent threads of a machine

As long as the priorities are ranked, an urgent thread that is ready is on the processor or behind
a thread that is no less urgent, unless the running thread is just about to call `rt_schedule`
(`Prompt`). So a less urgent thread that executes its own code, or a handler, does so only while
all urgent threads wait.
-/

set_option linter.unusedSectionVars false

namespace RobotVacuum

open Kernel (ReadyQueueInv KernelOk Ranked Competing)

namespace Machine

variable {T E M B D V : Type} [DecidableEq T] [DecidableEq E] [DecidableEq M] [DecidableEq B]
  [DecidableEq D]

variable {R : Ranking T} {s s' : Machine T E M B D V} {p : Platform T E M D} {t x : T}
  {i : Label T E M B D V} {a : Act T E M B D V} {c : Call T E M B}

/-! ### Ranks -/

/-- What the project's inheritance protocol writes as a priority, the low byte of an address, is a
priority the owners of the mutexes may have. -/
def MayInherit (R : Ranking T) (p : Platform T E M D) (s : Machine T E M B D V) : Prop :=
  ∀ m o, (s.mutex m).owner = some o → (∀ t, R.allowed o ((p.addr t).toNat % 256)) ∧
    R.allowed o ((p.originalAddr m).toNat % 256)

/-- The statement gives no thread a priority it may not have and forbids no preemption. -/
def Act.Keeps (R : Ranking T) : Act T E M B D V → Prop
  | .control t arg => R.allowed t (arg.toNat % 256)
  | .setPreemptableFlag _ b => b = false
  | _ => True

theorem perform_ranked (h : Ranked R s.kernel) (hm : MayInherit R p s) (ha : a.Keeps R) :
    Ranked R (s.perform p a).kernel := by
  cases a with
  | recv e set option =>
    simp only [perform]
    split <;> exact h
  | send e set =>
    simp only [perform]
    split
    · exact h
    · split <;> exact h.eventSendWalk
  | release m =>
    have hrel : Ranked R (s.kernel.rtMutexRelease (s.mutex m) (.mutex m) (p.originalAddr m)).1 :=
      h.rtMutexRelease fun o ho => (hm m o ho).2
    simp only [perform]
    split <;> exact hrel
  | mbSend b v =>
    simp only [perform]
    split
    · exact h.rtThreadResume
    · exact h
  | mask n => exact h.write rfl rfl rfl
  | unmask n =>
    simp only [perform, rtSignalUnmask]
    split <;> exact h.write rfl rfl rfl
  | control t arg => exact h.rtThreadControl ha
  | setPreemptableFlag t b =>
    have hb : b = false := ha
    refine h.write (x := t) rfl rfl ?_
    simp [Kernel.rank, hb, h.flag t]
  | startup t => exact h.rtThreadStartupQueue
  | detach t => exact h.rtThreadDetach
  | exit => exact h.threadExit
  | timerStart d | timerStop d | timerDetach d =>
    simp only [perform, setTimer]
    split
    · exact h.raise _
    · exact h
  | setTaskStarted n => exact h.write rfl rfl rfl
  | setTaskEnded => exact h.write rfl rfl rfl
  | _ => exact h

theorem stepCall_ranked (h : Ranked R s.kernel) (hm : MayInherit R p s) :
    Ranked R (s.stepCall p c).kernel := by
  cases c with
  | recv e set option stage =>
    cases stage with
    | reset => exact h.setError
    | enter =>
      simp only [stepCall, stepRecv]
      split
      · exact h.raise _
      · exact h.write rfl rfl rfl
      · have hset : Ranked R (s.kernel.modify s.current fun th =>
            { th with eventSet := set, eventInfo := option }) := h.write rfl rfl rfl
        exact hset.ipcListSuspend
    | check =>
      simp only [stepCall, stepRecv]
      split <;> exact h
    | ret => exact h
  | take m stage =>
    cases stage with
    | enter =>
      have htake : Ranked R (s.kernel.rtMutexTake (s.mutex m) (.mutex m) p.addr (-1)).1 :=
        h.rtMutexTake fun o ho => (hm m o ho).1
      simp only [stepCall, stepTake]
      split <;> exact htake
    | boost => exact h.changeOwnerPriority fun o ho => (hm m o ho).1
    | suspend =>
      simp only [stepCall, stepTake]
      split
      · exact h.raise _
      · exact h.rtThreadSuspend
    | link =>
      simp only [stepCall, stepTake]
      split
      · exact h.raise _
      · have hlink : Ranked R (s.kernel.rtListInsertWait (.mutex m) s.current .prio) :=
          h.rtListInsertWait
        exact hlink
    | check | test =>
      simp only [stepCall, stepTake]
      split <;> exact h
    | decrement | setOwner | setOriginal | addHold => exact h
  | mbRecv b wait stage =>
    cases stage with
    | enter =>
      simp only [stepCall, stepMbRecv]
      split
      · split
        · exact h
        · exact h.setError.ipcListSuspend
      · split
        · exact h
        · exact h.rtThreadResume
    | check =>
      simp only [stepCall, stepMbRecv]
      split <;> exact h
  | kill x n stage =>
    cases stage with
    | check =>
      simp only [stepCall, stepKill]
      split <;> exact h
    | alloc =>
      simp only [stepCall, stepKill]
      split
      · exact h
      · exact h.of_rank rfl fun _ => rfl
    | enqueue => exact h.write rfl rfl rfl
    | deliver =>
      simp only [stepCall, stepKill, signalDeliver]
      split
      · exact h
      · split
        · exact (h.rtThreadResume (x := x)).write rfl rfl rfl
        · split
          · exact h.write rfl rfl rfl
          · split
            · exact h.write rfl rfl rfl
            · exact h

theorem handleLoop_ranked (h : Ranked R s.kernel) {b : Bool} :
    Ranked R (s.handleLoop b).kernel := by
  simp only [handleLoop]
  split
  · split <;> exact h.write rfl rfl rfl
  · exact h.write rfl rfl rfl

theorem rtTimerTimeout_ranked (h : Ranked R s.kernel) {d : D} :
    Ranked R (rtTimerTimeout p s d).kernel := by
  simp only [rtTimerTimeout]
  split
  · exact (h.eventSendWalk).rtSchedule
  · exact h.eventSendWalk

theorem rtTickIncrease_ranked (h : Ranked R s.kernel) {due : List D} :
    Ranked R (s.rtTickIncrease p due).kernel := by
  have hrun : ∀ r : Machine T E M B D V, Ranked R r.kernel →
      Ranked R (due.foldl (rtTimerTimeout p) r).kernel := by
    induction due with
    | nil => exact fun _ => id
    | cons d due ih => exact fun r hr => ih _ (rtTimerTimeout_ranked hr)
  exact hrun _ h.rtTickCharge

/-- A step keeps the ranks if its statement does. -/
theorem ranked_of_step (h : Ranked R s.kernel) (hm : MayInherit R p s)
    (ha : ∀ a, i = .act a → a.Keeps R) (hstep : s.step p i = some s') : Ranked R s'.kernel := by
  cases i with
  | tick due =>
    simp only [step] at hstep
    split at hstep
    · cases hstep
      exact rtTickIncrease_ranked h
    · cases hstep
  | act a =>
    simp only [step] at hstep
    split at hstep
    · unfold stepAct at hstep
      split at hstep <;> split at hstep <;> cases hstep <;> exact perform_ranked h hm (ha _ rfl)
    · cases hstep
  | hret =>
    simp only [step] at hstep
    split at hstep
    · unfold stepHret at hstep
      split at hstep
      · cases hstep
        have hret : Ranked R (s.kernel.setError s.current .eintr) := h.setError
        exact handleLoop_ranked (s := s.withKernel { s.kernel.setError s.current .eintr with
          siginfoPool := s.kernel.siginfoPool + 1 }) (hret.of_rank rfl fun _ => rfl)
      · cases hstep
    · cases hstep
  | kern =>
    simp only [step] at hstep
    split at hstep
    · unfold stepKern at hstep
      split at hstep <;> cases hstep
      · simp only [enterHandleSig]
        split
        · exact handleLoop_ranked h
        · split
          · exact h
          · exact h.write rfl rfl rfl
      · exact h.rtSchedule
      · simp only [afterSwitch]
        split
        · exact h.write rfl rfl rfl
        · exact h
      · exact stepCall_ranked h hm
    · cases hstep

/-! ### Who may be on the processor -/

/-- The running thread is just about to call `rt_schedule`. -/
def Calling (s : Machine T E M B D V) : Prop :=
  (s.ctx s.current).sig = .none ∧ (s.ctx s.current).sched = .calling

/-- No urgent thread is kept waiting by a less urgent one. -/
def Prompt (R : Ranking T) (s : Machine T E M B D V) : Prop :=
  ∀ t, R.urgent t → Competing s.kernel t →
    s.kernel.prio s.current ≤ s.kernel.prio t ∨ s.Calling

theorem competing_iff {k : Kernel T (WaitQueue E M B)} :
    Competing k t ↔ (k.view t).thread.stat.state = .ready :=
  ThreadState.phase_eq_ready.symm

theorem competing_of_view {k k' : Kernel T (WaitQueue E M B)} (h : k'.view t = k.view t) :
    Competing k' t ↔ Competing k t := by
  rw [competing_iff, competing_iff, h]

theorem competing_of_write {k k' : Kernel T (WaitQueue E M B)} {th : Thread}
    (hth : k'.thread = Function.update k.thread x th) (hs : th.stat.state = k.state x)
    (hc : Competing k' t) : Competing k t := by
  unfold Competing Kernel.state at hc ⊢
  rw [hth] at hc
  by_cases ht : t = x
  · rwa [ht, Function.update_self, hs, ← ht] at hc
  · rwa [Function.update_of_ne ht] at hc

theorem Prompt.of_rtSchedule {k : Kernel T (WaitQueue E M B)} (h : Ranked R k)
    (hk : ReadyQueueInv k) (hs : s'.kernel = k.rtSchedule) : Prompt R s' := fun t ht hc => by
  rw [hs] at hc
  have hle := h.rtSchedule_le hk ht hc
  rw [← hs] at hle
  exact .inl hle

/-- The same thread goes on, and wakes an urgent thread only to schedule next. -/
theorem Prompt.goes_on (h : Prompt R s) (hr : Ranked R s.kernel) (hr' : Ranked R s'.kernel)
    (hcur : s'.current = s.current) (hnot : ¬s.Calling)
    (hwake : ∀ t, t ≠ s.current → Competing s'.kernel t → Competing s.kernel t ∨ s'.Calling) :
    Prompt R s' := by
  intro t ht hc
  by_cases htc : t = s.current
  · rw [hcur, htc]
    exact .inl (Nat.le_refl _)
  rcases hwake t htc hc with hold | hcall
  · have hle := (h t ht hold).resolve_right hnot
    rw [hcur, hr.prio_eq hr' ht, hr.prio_eq hr' (hr.urgent_of_le ht hle)]
    exact .inl hle
  · exact .inr hcall

/-! ### Waking a thread -/

theorem reschedule_calling {r : Machine T E M B D V} (h : (r.ctx r.current).sig = .none) :
    r.reschedule.Calling := by
  unfold Calling
  rw [reschedule_current, reschedule, setCtx_ctx_self]
  exact ⟨h, rfl⟩

theorem rtEventSend_sig {e : E} {set : BitVec 32} :
    ((s.rtEventSend e set).1.ctx t).sig = (s.ctx t).sig := by
  simp only [rtEventSend, grant]
  split <;> rfl

/-- Sending an event that calls for no scheduling wakes no thread. -/
theorem rtEventSend_view_of_false {e : E} {set : BitVec 32} (hv : s.ValidWaits)
    (h : (s.rtEventSend e set).2 = false) : (s.rtEventSend e set).1.kernel = s.kernel := by
  have hvalid : (s.kernel.eventSendWalk (s.event e ||| set)
      (s.kernel.queue (.wait (.event e)))).2.2.2 = true :=
    Kernel.eventSendWalk_valid fun t ht => hv t e ht
  simp only [rtEventSend, hvalid, Bool.and_true, Bool.not_eq_false', List.isEmpty_iff] at h
  exact Kernel.eventSendWalk_of_nil h

/-- A statement that wakes a thread is about to schedule. -/
theorem perform_wakes (hk : KernelOk s.kernel) (hv : s.ValidWaits)
    (hsig : a.inHandler = false → (s.ctx s.current).sig = .none) (ha : a ≠ .exit)
    (ht : t ≠ s.current)
    (hc : Competing (s.perform p a).kernel t) :
    Competing s.kernel t ∨ (s.perform p a).Calling := by
  have hsame : ∀ {k : Kernel T (WaitQueue E M B)}, k.view t = s.kernel.view t → Competing k t →
      Competing s.kernel t := fun hview => (competing_of_view hview).mp
  cases a with
  | recv e set option =>
    simp only [perform] at hc
    split at hc <;> exact .inl hc
  | send e set =>
    simp only [perform] at hc ⊢
    split at hc
    · exact .inl hc
    · next hset =>
      rw [if_neg hset]
      split at hc
      · next hr =>
        rw [if_pos hr]
        exact .inr (reschedule_calling (by simpa [setRet, rtEventSend_sig] using hsig rfl))
      · next hr =>
        rw [setRet_kernel, rtEventSend_view_of_false hv (by simpa using hr)] at hc
        exact .inl hc
  | release m =>
    simp only [perform] at hc ⊢
    split at hc
    · next hr =>
      rw [if_pos hr]
      exact .inr (reschedule_calling (by simpa [setRet] using hsig rfl))
    · next hr =>
      exact .inl (hsame (Kernel.rtMutexRelease_view_of_false hk.ready ht (by simpa using hr)) hc)
  | mbSend b v =>
    simp only [perform] at hc ⊢
    split at hc
    · exact .inr (reschedule_calling (by simpa [setRet] using hsig rfl))
    · exact .inl hc
  | mask n => exact .inl (competing_of_write (by rfl) (by rfl) hc)
  | unmask n =>
    simp only [perform, rtSignalUnmask] at hc
    split at hc <;> exact .inl (competing_of_write (by rfl) (by rfl) hc)
  | control x arg => exact .inl (hsame (Kernel.rtThreadControl_view hk.ready) hc)
  | setPreemptableFlag x b => exact .inl (competing_of_write (by rfl) (by rfl) hc)
  | startup x => exact .inr (reschedule_calling (by simpa using hsig rfl))
  | detach x =>
    refine .inl ?_
    by_cases hx : t = x
    · subst hx
      rcases Kernel.rtThreadDetach_view_self (k := s.kernel) (x := t) with hview | ⟨-, hclose⟩
      · exact hsame hview hc
      · have hready : (((s.kernel.rtThreadDetach t).view t).thread.stat).state = .ready :=
          competing_iff.mp hc
        rw [hclose] at hready
        cases hready
    · exact hsame (Kernel.rtThreadDetach_view_of_ne hk.ready hx) hc
  | exit => exact absurd rfl ha
  | timerStart d | timerStop d | timerDetach d =>
    simp only [perform, setTimer] at hc
    split at hc <;> exact .inl hc
  | setTaskStarted n | setTaskEnded => exact .inl (competing_of_write (by rfl) (by rfl) hc)
  | _ => exact .inl hc

/-- A step inside a call that wakes a thread is about to schedule. -/
theorem stepCall_wakes (hk : KernelOk s.kernel) (hsig : (s.ctx s.current).sig = .none)
    (ht : t ≠ s.current) (hc : Competing (s.stepCall p c).kernel t) :
    Competing s.kernel t ∨ (s.stepCall p c).Calling := by
  have hsame : ∀ {r : Machine T E M B D V}, r.view t = s.view t → Competing r.kernel t →
      Competing s.kernel t := fun hview => (competing_of_view (congrArg ThreadView.toView hview)).mp
  cases c with
  | recv e set option stage => exact .inl (hsame (stepRecv_view hk.ready ht) hc)
  | take m stage => exact .inl (hsame (stepTake_view hk.ready ht) hc)
  | mbRecv b wait stage =>
    cases stage with
    | enter =>
      simp only [stepCall, stepMbRecv] at hc ⊢
      by_cases hentry : (s.mailbox b).entry = 0
      · have hview : (s.stepMbRecv b wait .enter).view t = s.view t := by
          simp only [stepMbRecv, if_pos hentry]
          split
          · exact finish_view_of_ne ht
          · rw [reschedule_view_of_ne (by simpa [Kernel.setError] using ht),
              setCall_view_of_ne (by simpa [Kernel.setError] using ht)]
            refine withKernel_view ?_
            rw [Kernel.ipcListSuspend_view_of_ne _ _ hk.ready.setError ht,
              Kernel.setError_view_of_ne ht]
        exact .inl (hsame hview (by simpa only [stepMbRecv] using hc))
      · simp only [if_neg hentry] at hc ⊢
        split at hc
        · exact .inl hc
        · exact .inr (reschedule_calling (by simpa [finish] using hsig))
    | check =>
      simp only [stepCall, stepMbRecv] at hc
      split at hc <;> exact .inl hc
  | kill x n stage =>
    cases stage with
    | check =>
      simp only [stepCall, stepKill] at hc
      split at hc <;> exact .inl hc
    | alloc =>
      simp only [stepCall, stepKill] at hc
      split at hc <;> exact .inl hc
    | enqueue => exact .inl (competing_of_write (by rfl) (by rfl) hc)
    | deliver =>
      simp only [stepCall, stepKill, signalDeliver] at hc ⊢
      split at hc
      · exact .inl hc
      · next hd =>
        rw [if_neg hd]
        split at hc
        · next hs =>
          rw [if_pos hs]
          exact .inr (reschedule_calling (by simpa [finish] using hsig))
        · split at hc
          · exact .inl (competing_of_write (by rfl) (by rfl) hc)
          · split at hc
            · exact .inl (competing_of_write (by rfl) (by rfl) hc)
            · exact .inl hc

/-! ### Steps -/

/-- The thread that executes a statement goes on, unless the statement ends it. -/
theorem perform_current (hk : KernelOk s.kernel) (hexit : a ≠ .exit)
    (hperm : a.Permitted p s.current) : (s.perform p a).current = s.current := by
  by_cases hself : SignalsSelf s.current a
  · obtain ⟨n, rfl | rfl⟩ := hself
    · rcases perform_unmask (s := s) (p := p) (n := n) with heq | heq <;>
        (rw [heq]; rfl)
    · rfl
  · refine (perform_plain hk hexit ?_ (fun n hn => hself ⟨n, .inl hn⟩)
      fun n hn => hself ⟨n, .inr hn⟩).current
    rintro rfl
    exact hperm.2.1 rfl

theorem afterSwitch_current : s.afterSwitch.current = s.current := by
  unfold afterSwitch
  split <;> rfl

theorem stepCall_current (hsched : (s.ctx s.current).sched = .none) :
    (s.stepCall p c).current = s.current := by
  by_cases hself : ∃ n stage, c = .kill s.current n stage
  · obtain ⟨n, stage, rfl⟩ := hself
    exact (stepKill_frame hsched).2
  · exact (stepCall_plain fun n stage heq => hself ⟨n, stage, heq⟩).current

/-- A statement is one of a handler, or of the thread's own code. -/
theorem performed_of_stepAct (h : s.stepAct p a = some s') : s' = s.perform p a ∧
    a.Permitted p s.current ∧
      ((∃ b n, (s.ctx s.current).sig = .running b n) ∧ a.inHandler = true ∨ s.AtUser) := by
  unfold stepAct at h
  split at h
  · next b n hsig =>
    split at h
    · next ha =>
      cases h
      exact ⟨rfl, ha.2, .inl ⟨⟨b, n, hsig⟩, ha.1⟩⟩
    · cases h
  · split at h
    · next ha =>
      cases h
      exact ⟨rfl, ha.2, .inr ha.1⟩
    · cases h

/-- After a timeout function an urgent thread is behind no less urgent one. -/
theorem Prompt.rtTimerTimeout (h : Prompt R s) (hk : KernelOk s.kernel) (hr : Ranked R s.kernel)
    (hv : s.ValidWaits) {d : D} : Prompt R (rtTimerTimeout p s d) := by
  unfold Machine.rtTimerTimeout
  dsimp only
  split
  · exact .of_rtSchedule hr.eventSendWalk hk.ready.eventSendWalk rfl
  · next hno =>
    have hkernel := rtEventSend_view_of_false hv (by simpa using hno)
    have hcalling : s.Calling → (s.rtEventSend (p.timeout d).1 (p.timeout d).2).1.Calling :=
      fun hcall => by
        have hsched : ((s.rtEventSend (p.timeout d).1 (p.timeout d).2).1.ctx s.current).sched =
            (s.ctx s.current).sched := by
          simp only [rtEventSend, grant]
          split <;> rfl
        unfold Calling
        rw [rtEventSend_current, rtEventSend_sig, hsched]
        exact hcall
    intro t ht hc
    rw [hkernel] at hc ⊢
    rw [rtEventSend_current]
    exact (h t ht hc).imp_right hcalling

theorem Prompt.rtTickCharge (h : Prompt R s) (hk : KernelOk s.kernel) (hr : Ranked R s.kernel) :
    Prompt R (s.withKernel s.kernel.rtTickCharge) := by
  have hcharge : Ranked R ({ s.kernel with tick := s.kernel.tick + 1 }.modify
      s.kernel.currentThread fun th =>
        { th with remainingTick := th.remainingTick - 1, tickCount := th.tickCount - 1 }) :=
    hr.write rfl rfl rfl
  unfold Kernel.rtTickCharge
  dsimp only
  split
  · refine .of_rtSchedule (R := R) ?_ (hk.ready.charged.of_schedEq (.modify rfl rfl rfl)) rfl
    exact hcharge.write rfl rfl rfl
  · intro t ht hc
    have hold : Competing s.kernel t := competing_of_write (by rfl) (by rfl) hc
    have hprio : ∀ x, ({ s.kernel with tick := s.kernel.tick + 1 }.modify
        s.kernel.currentThread fun th => { th with
          remainingTick := th.remainingTick - 1, tickCount := th.tickCount - 1 }).prio x =
        s.kernel.prio x := fun x => by
      rw [Kernel.modify_prio]
      split
      · next hx => rw [hx]
      · rfl
    rcases h t ht hold with hle | hcall
    · refine .inl ?_
      rw [withKernel_kernel, hprio, hprio]
      exact hle
    · exact .inr hcall

theorem Prompt.rtTickIncrease (h : Prompt R s) (hk : KernelOk s.kernel) (hr : Ranked R s.kernel)
    (hv : s.ValidWaits) {due : List D} : Prompt R (s.rtTickIncrease p due) := by
  have hrun : ∀ r : Machine T E M B D V, Prompt R r → KernelOk r.kernel → Ranked R r.kernel →
      r.ValidWaits → Prompt R (due.foldl (Machine.rtTimerTimeout p) r) := by
    induction due with
    | nil => exact fun _ h _ _ _ => h
    | cons d due ih =>
      exact fun r h hk hr hv => ih _ (h.rtTimerTimeout hk hr hv) (rtTimerTimeout_kernelOk hk d)
        (rtTimerTimeout_ranked hr) (hv.of_shrinks (rtTimerTimeout_shrinks .refl))
  exact hrun _ (h.rtTickCharge hk hr) hk.rtTickCharge hr.rtTickCharge
    (hv.of_shrinks Kernel.Shrinks.refl.rtTickCharge)

/-- **No urgent thread is kept waiting by a less urgent one**, whatever the threads do, as long as
the priorities are ranked. -/
theorem Prompt.step (h : Prompt R s) (hk : KernelOk s.kernel) (hv : s.ValidWaits)
    (hr : Ranked R s.kernel) (hr' : Ranked R s'.kernel) (hstep : s.step p i = some s') :
    Prompt R s' := by
  cases i with
  | tick due =>
    simp only [Machine.step] at hstep
    split at hstep
    · cases hstep
      exact h.rtTickIncrease hk hr hv
    · cases hstep
  | act a =>
    simp only [Machine.step] at hstep
    split at hstep
    · obtain ⟨rfl, hperm, hsig⟩ := performed_of_stepAct hstep
      by_cases hexit : a = .exit
      · subst hexit
        exact .of_rtSchedule hr.beforeExit hk.ready.beforeExit rfl
      · refine h.goes_on hr hr' (perform_current hk hexit hperm) (fun hcall => ?_) fun t ht hc =>
          perform_wakes hk hv (fun ha => ?_) hexit ht hc
        · rcases hsig with ⟨⟨b, n, hrun⟩, -⟩ | hat
          · rw [hcall.1] at hrun
            cases hrun
          · have hsched := hat.2.1
            rw [hcall.2] at hsched
            cases hsched
        · rcases hsig with ⟨-, hin⟩ | hat
          · rw [hin] at ha
            cases ha
          · exact hat.1
    · cases hstep
  | hret =>
    simp only [Machine.step] at hstep
    split at hstep
    · unfold stepHret at hstep
      split at hstep
      · next b n hsig =>
        cases hstep
        refine h.goes_on hr hr' ?_ (fun hcall => ?_) fun t ht hc => .inl ?_
        · exact handleLoop_frame.1
        · rw [hcall.1] at hsig
          cases hsig
        · exact (competing_of_view (congrArg ThreadView.toView (returnHandler_view ht))).mp hc
      · cases hstep
    · cases hstep
  | kern =>
    simp only [Machine.step] at hstep
    split at hstep
    · unfold stepKern at hstep
      split at hstep <;> cases hstep
      · next hsig =>
        refine h.goes_on hr hr' enterHandleSig_frame.1 (fun hcall => ?_) fun t ht hc => .inl ?_
        · rw [hcall.1] at hsig
          cases hsig
        · exact (competing_of_view (congrArg ThreadView.toView (enterHandleSig_view ht))).mp hc
      · exact .of_rtSchedule hr hk.ready rfl
      · next hsig hsched =>
        refine h.goes_on hr hr' afterSwitch_current (fun hcall => ?_) fun t ht hc => .inl ?_
        · rw [hcall.2] at hsched
          cases hsched
        · exact (competing_of_view (congrArg ThreadView.toView (afterSwitch_view ht))).mp hc
      · next c hsig hsched hc =>
        refine h.goes_on hr hr' (stepCall_current hsched) (fun hcall => ?_) fun t ht hc =>
          stepCall_wakes hk hsig ht hc
        rw [hcall.2] at hsched
        cases hsched
    · cases hstep

end Machine

end RobotVacuum
