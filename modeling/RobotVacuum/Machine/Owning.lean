import RobotVacuum.Machine.Sending
import RobotVacuum.Machine.Urgent

/-!
# Who owns a mutex

Only a thread inside `rt_mutex_take` comes to own a mutex, at once or as the first one of the wait
list when the owner releases it. So if only certain threads take a mutex, only these own it
(`Owners.step`).
-/

set_option linter.unusedSectionVars false

namespace RobotVacuum

open Kernel (ReadyQueueInv KernelOk)

/-- The object of the call a statement begins. -/
def Machine.Act.object {T E M B D V : Type} : Machine.Act T E M B D V → Option (WaitQueue E M B)
  | .recv e _ _ => some (.event e)
  | .take m => some (.mutex m)
  | .mbRecv b _ => some (.mail b)
  | _ => none

namespace Kernel

variable {T Q : Type} [DecidableEq T] [DecidableEq Q]
variable {k : Kernel T Q} {m : Mutex T} {q : Q} {addr : T → BitVec 32} {arg : BitVec 32} {o : T}

theorem addHold_owner : m.addHold.1.owner = m.owner := by
  unfold Mutex.addHold
  split <;> rfl

/-- Taking a mutex, only the running thread comes to own it. -/
theorem rtMutexTake_owner (h : (k.rtMutexTake m q addr (-1)).2.1.owner = some o) :
    m.owner = some o ∨ o = k.currentThread := by
  unfold Kernel.rtMutexTake at h
  dsimp only at h
  split at h
  · rw [addHold_owner] at h
    exact .inl h
  · split at h
    · simp only [Mutex.takeAvailable, addHold_owner] at h
      exact .inr (Option.some.inj h).symm
    · rw [if_neg (by decide)] at h
      exact .inl h

/-- A released mutex goes to a thread that waits for it, if it changes hands. -/
theorem rtMutexRelease_owner
    (h : (k.rtMutexRelease m q arg).2.1.owner = some o) :
    m.owner = some o ∨ o ∈ k.queue (.wait q) := by
  have hover : ∀ {k' : Kernel T Q} {m' : Mutex T}, (k'.handOver m' q).2.1.owner = some o →
      m'.owner = some o ∨ o ∈ k'.queue (.wait q) := fun {k' m'} h => by
    unfold Kernel.handOver at h
    split at h
    · next w l hq =>
      dsimp only at h
      split at h
      all_goals
        simp only [addHold_owner] at h
        obtain rfl : w = o := Option.some.inj h
        exact .inr (hq ▸ List.mem_cons_self)
    · split at h
      · cases h
      · exact .inl h
  unfold Kernel.rtMutexRelease at h
  by_cases hown : m.owner = some k.currentThread
  · simp only [hown, ne_eq, not_true_eq_false, if_false] at h
    split at h
    · rcases hover h with h | h
      · exact .inl h
      · refine .inr ?_
        unfold restorePriority at h
        split at h
        · exact (Kernel.Shrinks.refl.rtThreadControl).waits o q h
        · exact h
    · exact .inl h
  · simp only [ne_eq, hown, not_false_eq_true, if_true] at h
    exact .inl h

end Kernel

namespace Machine

variable {T E M B D V : Type} [DecidableEq T] [DecidableEq E] [DecidableEq M] [DecidableEq B]
  [DecidableEq D]

variable {s s' : Machine T E M B D V} {p : Platform T E M D} {t o : T} {m : M}
  {i : Label T E M B D V} {a : Act T E M B D V} {c c' : Call T E M B} {q : WaitQueue E M B}

/-! ### The calls of a thread -/

/-- The call a thread is inside of, if any, is one of some calls. -/
def Within (s : Machine T E M B D V) (t : T) (P : Call T E M B → Prop) : Prop :=
  ∀ c, (s.ctx t).call = some c → P c

section Within

variable {P : Call T E M B → Prop} {k : Kernel T (WaitQueue E M B)}

theorem Within.of_eq (h : s.Within t P) (hc : (s'.ctx t).call = (s.ctx t).call) :
    s'.Within t P := fun c hc' => h c (hc ▸ hc')

theorem Within.withKernel (h : s.Within t P) : (s.withKernel k).Within t P := h

theorem Within.setMutex (h : s.Within t P) {y : Mutex T} : (s.setMutex m y).Within t P := h

theorem Within.setCtx (h : s.Within t P) {x : T} {f : Ctx T E M B V → Ctx T E M B V}
    (hf : ∀ y, (f y).call = y.call) : (s.setCtx x f).Within t P := by
  refine h.of_eq ?_
  by_cases ht : t = x
  · rw [ht, setCtx_ctx_self, hf]
  · rw [setCtx_ctx_of_ne ht]

theorem Within.setRet (h : s.Within t P) {r : RtErr} : (s.setRet r).Within t P :=
  h.setCtx fun _ => rfl

theorem Within.reschedule (h : s.Within t P) : s.reschedule.Within t P := h.setCtx fun _ => rfl

theorem Within.setCall (ht : s.current = t) (hc : P c) : (s.setCall c).Within t P := by
  intro d hd
  rw [Machine.setCall, ht, setCtx_ctx_self] at hd
  exact Option.some.inj hd ▸ hc

theorem Within.beginCall (ht : s.current = t) (hc : P c) : (s.beginCall c).Within t P := by
  intro d hd
  rw [Machine.beginCall, ht, setCtx_ctx_self] at hd
  exact Option.some.inj hd ▸ hc

theorem Within.finish (ht : s.current = t) {r : RtErr} : (s.finish r).Within t P := by
  intro d hd
  rw [Machine.finish, ht, setCtx_ctx_self] at hd
  cases hd

end Within

/-- A step inside a call ends it or goes on with it. -/
theorem stepCall_within (hc : (s.ctx s.current).call = some c) :
    (s.stepCall p c).Within s.current fun d => d.object = c.object := by
  have h : s.Within s.current fun d => d.object = c.object := fun d hd =>
    congrArg Call.object (Option.some.inj (hd.symm.trans hc))
  cases c with
  | recv e set option stage =>
    cases stage with
    | reset => exact .setCall (by rfl) rfl
    | enter =>
      simp only [stepCall, stepRecv]
      split
      · exact h.withKernel
      · intro d hd
        simp only [takeFlags, Function.update_self] at hd
        exact Option.some.inj hd ▸ rfl
      · refine Within.reschedule (.setCall ?_ (by exact rfl))
        simp
    | check =>
      simp only [stepCall, stepRecv]
      split
      · exact .finish rfl
      · exact .setCall rfl rfl
    | ret => exact .finish rfl
  | take m stage =>
    cases stage with
    | enter =>
      simp only [stepCall, stepTake]
      split
      · refine .finish ?_
        simp
      · refine Within.reschedule (.setCall ?_ (by exact rfl))
        simp
    | check =>
      simp only [stepCall, stepTake]
      split
      · exact .setCall rfl rfl
      · exact .finish rfl
    | test =>
      simp only [stepCall, stepTake]
      split <;> exact .setCall rfl rfl
    | suspend =>
      simp only [stepCall, stepTake]
      split
      · exact h.withKernel
      · refine .setCall ?_ rfl
        simp
    | link =>
      simp only [stepCall, stepTake]
      split
      · exact h.withKernel
      · refine Within.reschedule (.setCall ?_ (by exact rfl))
        simp
    | boost =>
      refine .setCall ?_ rfl
      simp
    | addHold => exact .finish (by rfl)
    | decrement | setOwner | setOriginal => exact .setCall (by rfl) rfl
  | mbRecv b wait stage =>
    cases stage with
    | enter =>
      simp only [stepCall, stepMbRecv]
      split
      · split
        · exact .finish rfl
        · refine Within.reschedule (.setCall ?_ (by exact rfl))
          simp [Kernel.setError]
      · split
        · exact .finish (by rfl)
        · exact (Within.finish (by rfl)).withKernel.reschedule
    | check =>
      simp only [stepCall, stepMbRecv]
      split
      · exact .finish rfl
      · exact .setCall rfl rfl
  | kill x n stage =>
    cases stage with
    | check =>
      simp only [stepCall, stepKill]
      split
      · exact .finish rfl
      · exact .setCall rfl rfl
    | alloc =>
      simp only [stepCall, stepKill]
      split <;> exact .setCall (by rfl) rfl
    | enqueue => exact .setCall (by rfl) rfl
    | deliver =>
      simp only [stepCall, stepKill, signalDeliver]
      split
      · exact .finish rfl
      · split
        · refine (Within.finish ?_).reschedule
          simp
        · split
          · exact (Within.finish (by rfl)).setCtx fun _ => rfl
          · split
            · refine Within.reschedule (Within.setCtx ?_ (by exact fun _ => rfl))
              exact .finish (by rfl)
            · exact .finish rfl

/-- A statement begins no call but its own. -/
theorem perform_within (hnone : (s.ctx s.current).call = none) :
    (s.perform p a).Within s.current fun d => d.object = none ∨ d.object = a.object := by
  have h : s.Within s.current fun d => d.object = none ∨ d.object = a.object := fun d hd => by
    rw [hnone] at hd
    cases hd
  cases a with
  | «local» => exact h
  | take m => exact .beginCall rfl (.inr rfl)
  | mbRecv b wait => exact .beginCall rfl (.inr rfl)
  | kill x n => exact .setCall rfl (.inl rfl)
  | recv e set option =>
    simp only [perform]
    split
    · exact h.setRet
    · exact .beginCall rfl (.inr rfl)
  | send e set =>
    have hsend : (s.rtEventSend e set).1.Within s.current
        fun d => d.object = none ∨ d.object = (Act.send e set : Act T E M B D V).object :=
      h.of_eq rtEventSend_ctx.2.2
    simp only [perform]
    split
    · exact h.setRet
    · split
      · exact hsend.setRet.reschedule
      · exact hsend.setRet
  | release m =>
    simp only [perform]
    split
    · exact h.withKernel.setMutex.setRet.reschedule
    · exact h.withKernel.setMutex.setRet
  | mbSend b v =>
    have hmail : ({ s with mailbox := Function.update s.mailbox b ((s.mailbox b).rtMbSend v).1 } :
      Machine T E M B D V).Within s.current _ := h
    simp only [perform]
    split
    · exact hmail.setRet.withKernel.reschedule
    · exact hmail.setRet
  | mask n => exact h.withKernel
  | unmask n =>
    simp only [perform, rtSignalUnmask]
    split
    · exact .setCall (by rfl) (.inl rfl)
    · exact h.withKernel
  | control x arg => exact h.withKernel
  | setPreemptableFlag x b => exact h.withKernel
  | startup x => exact h.withKernel.reschedule
  | detach x => exact h.withKernel.setRet
  | exit => exact h.withKernel
  | timerStart d | timerStop d | timerDetach d =>
    simp only [perform, setTimer]
    split
    · exact h.withKernel
    · exact h
  | setTaskStarted duration => exact h.withKernel
  | setTaskEnded => exact h.withKernel

/-- A thread is inside a call on an object only if a statement of its own began one. -/
theorem object_of_step (hk : KernelOk s.kernel) (hstep : s.step p i = some s')
    (hc : (s'.ctx t).call = some c') (hq : c'.object = some q) :
    (∃ c, (s.ctx t).call = some c ∧ c.object = some q) ∨
      t = s.current ∧ ∃ a, i = .act a ∧ a.object = some q := by
  have hsame : (∀ t, s'.calls t = s.calls t) →
      ∃ c, (s.ctx t).call = some c ∧ c.object = some q := fun hcalls =>
    ⟨c', (congrArg Prod.fst (hcalls t)).symm.trans hc, hq⟩
  by_cases ht : t = s.current
  · subst ht
    cases i with
    | tick due => exact .inl (hsame (step_tick hstep).1)
    | hret => exact .inl (hsame (step_hret hstep).1)
    | act a =>
      by_cases hrun : ∃ b m, (s.ctx s.current).sig = .running b m
      · obtain ⟨b, m, hsig⟩ := hrun
        exact .inl (hsame (step_handler hstep hsig).1)
      · obtain ⟨hat, rfl⟩ := step_own hstep fun b m hsig => hrun ⟨b, m, hsig⟩
        rcases perform_within hat.2.2 c' hc with hnone | heq
        · rw [hnone] at hq
          cases hq
        · exact .inr ⟨rfl, a, rfl, heq ▸ hq⟩
    | kern =>
      rcases step_kern hstep with ⟨hcalls, -⟩ | ⟨c, hcall, rfl⟩
      · exact .inl (hsame hcalls)
      · exact .inl ⟨c, hcall, (stepCall_within hcall c' hc) ▸ hq⟩
  · have hcall := call_of_disturbances (step_disturbed hstep hk.ready hk.attached ht)
    exact .inl ⟨c', hcall.symm.trans hc, hq⟩

/-! ### The owner of a mutex -/

/-- A statement hands a mutex over to a thread that waits for it at most. -/
theorem perform_owner (h : ((s.perform p a).mutex m).owner = some o) :
    (s.mutex m).owner = some o ∨ o ∈ s.kernel.queue (.wait (.mutex m)) := by
  cases a with
  | release m' =>
    have hmutex : (s.perform p (.release m')).mutex = Function.update s.mutex m'
        (s.kernel.rtMutexRelease (s.mutex m') (.mutex m') (p.originalAddr m')).2.1 := by
      simp only [perform]
      split <;> rfl
    rw [hmutex] at h
    by_cases hm : m = m'
    · subst hm
      rw [Function.update_self] at h
      exact Kernel.rtMutexRelease_owner h
    · rw [Function.update_of_ne hm] at h
      exact .inl h
  | recv e set option =>
    simp only [perform] at h
    split at h <;> exact .inl h
  | send e set =>
    simp only [perform] at h
    split at h
    · exact .inl h
    · split at h <;> exact .inl h
  | mbSend b v =>
    simp only [perform] at h
    split at h <;> exact .inl h
  | unmask n =>
    simp only [perform, rtSignalUnmask] at h
    split at h <;> exact .inl h
  | timerStart d | timerStop d | timerDetach d =>
    simp only [perform, setTimer] at h
    split at h <;> exact .inl h
  | _ => exact .inl h

/-- A step inside a call lets the running thread own the mutex it takes at most. -/
theorem stepCall_owner (h : ((s.stepCall p c).mutex m).owner = some o) :
    (s.mutex m).owner = some o ∨ o = s.current ∧ ∃ stage, c = .take m stage := by
  cases c with
  | take m' stage =>
    have hwrite : ∀ {r : Machine T E M B D V} {y : Mutex T},
        r.mutex = Function.update s.mutex m' y →
        (r.mutex m).owner = some o → (y.owner = some o → (s.mutex m').owner = some o ∨
          o = s.current) →
        (s.mutex m).owner = some o ∨ o = s.current ∧ ∃ stage', Call.take m' stage =
          (.take m stage' : Call T E M B) := fun {r y} hr h hy => by
      rw [hr] at h
      by_cases hm : m = m'
      · subst hm
        rw [Function.update_self] at h
        exact (hy h).imp_right fun ho => ⟨ho, stage, rfl⟩
      · rw [Function.update_of_ne hm] at h
        exact .inl h
    cases stage with
    | enter =>
      have hmutex : (s.stepCall p (.take m' .enter)).mutex = Function.update s.mutex m'
          (s.kernel.rtMutexTake (s.mutex m') (.mutex m') p.addr (-1)).2.1 := by
        simp only [stepCall, stepTake]
        split <;> rfl
      exact hwrite hmutex h Kernel.rtMutexTake_owner
    | setOwner => exact hwrite (by rfl) h fun ho => .inr (Option.some.inj ho).symm
    | decrement =>
      exact hwrite (y := (s.mutex m').decrement) rfl h fun ho =>
        .inl (by simpa [Mutex.decrement] using ho)
    | setOriginal =>
      exact hwrite (y := (s.mutex m').setOriginalPriority (s.kernel.prio s.current)) rfl h .inl
    | addHold =>
      exact hwrite (y := (s.mutex m').addHold.1) rfl h fun ho => .inl (by
        rwa [Kernel.addHold_owner] at ho)
    | boost => exact .inl h
    | check | test | suspend | link =>
      simp only [stepCall, stepTake] at h
      split at h <;> exact .inl h
  | recv e set option stage =>
    cases stage with
    | reset | ret => exact .inl h
    | enter | check =>
      simp only [stepCall, stepRecv] at h
      split at h <;> exact .inl h
  | mbRecv b wait stage =>
    cases stage with
    | enter =>
      simp only [stepCall, stepMbRecv] at h
      split at h <;> split at h <;> exact .inl h
    | check =>
      simp only [stepCall, stepMbRecv] at h
      split at h <;> exact .inl h
  | kill x n stage =>
    cases stage with
    | check | alloc =>
      simp only [stepCall, stepKill] at h
      split at h <;> exact .inl h
    | enqueue => exact .inl h
    | deliver =>
      simp only [stepCall, stepKill, signalDeliver] at h
      split at h
      · exact .inl h
      · split at h
        · exact .inl h
        · split at h
          · exact .inl h
          · split at h <;> exact .inl h

theorem rtTickIncrease_mutex {due : List D} : (s.rtTickIncrease p due).mutex = s.mutex := by
  have hrun : ∀ r : Machine T E M B D V, (due.foldl (rtTimerTimeout p) r).mutex = r.mutex := by
    induction due with
    | nil => exact fun _ => rfl
    | cons d due ih =>
      intro r
      rw [List.foldl_cons, ih]
      simp only [rtTimerTimeout]
      split <;> rfl
  exact hrun _

theorem handleLoop_mutex {b : Bool} : (s.handleLoop b).mutex = s.mutex := by
  simp only [handleLoop]
  split
  · split <;> rfl
  · rfl

/-- A mutex changes hands only to a thread that takes it or waits for it. -/
theorem owner_of_step (hstep : s.step p i = some s') (h : (s'.mutex m).owner = some o) :
    (s.mutex m).owner = some o ∨ o ∈ s.kernel.queue (.wait (.mutex m)) ∨
      o = s.current ∧ ∃ stage, (s.ctx o).call = some (.take m stage) := by
  have hsame : ∀ {r : Machine T E M B D V}, r.mutex = s.mutex → (r.mutex m).owner = some o →
      (s.mutex m).owner = some o ∨ o ∈ s.kernel.queue (.wait (.mutex m)) ∨
        o = s.current ∧ ∃ stage, (s.ctx o).call = some (.take m stage) := fun hr h =>
    .inl (by rwa [hr] at h)
  cases i with
  | tick due =>
    simp only [step] at hstep
    split at hstep
    · cases hstep
      exact hsame rtTickIncrease_mutex h
    · cases hstep
  | hret =>
    simp only [step] at hstep
    split at hstep
    · unfold stepHret at hstep
      split at hstep
      · cases hstep
        refine hsame ?_ h
        exact handleLoop_mutex
      · cases hstep
    · cases hstep
  | act a =>
    simp only [step] at hstep
    split at hstep
    · obtain ⟨rfl, -⟩ := performed_of_stepAct hstep
      rcases perform_owner h with hold | hwait
      · exact .inl hold
      · exact .inr (.inl hwait)
    · cases hstep
  | kern =>
    simp only [step] at hstep
    split at hstep
    · unfold stepKern at hstep
      split at hstep <;> cases hstep
      · refine hsame ?_ h
        simp only [enterHandleSig]
        split
        · exact handleLoop_mutex
        · split <;> rfl
      · exact hsame rfl h
      · refine hsame ?_ h
        simp only [afterSwitch]
        split <;> rfl
      · next c _ _ hc =>
        rcases stepCall_owner h with hold | ⟨rfl, stage, rfl⟩
        · exact .inl hold
        · exact .inr (.inr ⟨rfl, stage, hc⟩)
    · cases hstep

/-- Only certain threads use an object: they are inside a call on it and wait for it. -/
structure Users (P : T → Prop) (q : WaitQueue E M B) (s : Machine T E M B D V) : Prop where
  waiter : ∀ t, t ∈ s.kernel.queue (.wait q) → P t
  caller : ∀ t c, (s.ctx t).call = some c → c.object = some q → P t

/-- If only certain threads begin a call on an object, only these use it. -/
theorem Users.step {P : T → Prop} (h : Users P q s) (hk : KernelOk s.kernel)
    (hstep : s.step p i = some s')
    (hbegin : ∀ a, i = .act a → a.object = some q → P s.current) : Users P q s' where
  waiter t ht := by
    rcases waits_of_step hstep ht with hold | ⟨rfl, c, hc, hobject⟩
    · exact h.waiter t hold
    · exact h.caller _ c hc hobject
  caller t c hc hobject := by
    rcases object_of_step hk hstep hc hobject with ⟨c₀, hc₀, hold⟩ | ⟨rfl, a, ha, hown⟩
    · exact h.caller t c₀ hc₀ hold
    · exact hbegin a ha hown

/-- Where one thread uses an object, it is alone in the wait list. -/
theorem Users.queue_of_mem {x : T} (h : Users (· = x) q s) (hk : KernelOk s.kernel)
    (hx : x ∈ s.kernel.queue (.wait q)) : s.kernel.queue (.wait q) = [x] := by
  have hnodup := hk.ready.table.proper.nodup (.wait q)
  have honly := h.waiter
  generalize s.kernel.queue (.wait q) = l at hx hnodup honly
  rcases l with _ | ⟨y, _ | ⟨z, l⟩⟩
  · cases hx
  · rw [honly y List.mem_cons_self]
  · have hz := honly z (by simp)
    rw [honly y List.mem_cons_self, hz] at hnodup
    simp at hnodup

/-- Only certain threads take a mutex, wait for it and own it. -/
structure Owners (P : T → Prop) (m : M) (s : Machine T E M B D V) : Prop where
  owner : ∀ o, (s.mutex m).owner = some o → P o
  users : Users P (.mutex m) s

/-- If only certain threads take a mutex, only these own it. -/
theorem Owners.step {P : T → Prop} (h : Owners P m s) (hk : KernelOk s.kernel)
    (hstep : s.step p i = some s')
    (htake : ∀ a, i = .act a → a.object = some (.mutex m) → P s.current) : Owners P m s' where
  owner o ho := by
    rcases owner_of_step hstep ho with hold | hwait | ⟨-, stage, hc⟩
    · exact h.owner o hold
    · exact h.users.waiter o hwait
    · exact h.users.caller o _ hc rfl
  users := h.users.step hk hstep htake

end Machine

end RobotVacuum
