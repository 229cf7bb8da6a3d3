import RobotVacuum.Machine.Handling
import RobotVacuum.Machine.Calls

/-!
# No signal is lost

A signal that is sent with `rt_thread_kill` is queued for its target if there is a node for it, and
stays queued until its handler begins or the target is closed. Signals of one number that are
pending at the same time are merged.
-/

set_option linter.unusedSectionVars false

namespace RobotVacuum

namespace Machine

open Kernel (ReadyQueueInv KernelOk)

variable {T E M B D V : Type} [DecidableEq T] [DecidableEq E] [DecidableEq M] [DecidableEq B]
  [DecidableEq D]

variable {s s' : Machine T E M B D V} {p : Platform T E M D} {t x : T} {n : Signo}
  {i : Label T E M B D V} {owns : M → Prop} {v v' : ThreadView T E M B V}

/-- The signal is queued for the thread. -/
def Queued (s : Machine T E M B D V) (t : T) (n : Signo) : Prop := n ∈ (s.kernel.thread t).siList

/-- A thread is about to queue a signal for another one. -/
def Sends (s : Machine T E M B D V) (x t : T) (n : Signo) : Prop :=
  ∃ stage, (s.ctx x).call = some (.kill t n stage) ∧ stage ≠ .deliver

/-- The running thread needs a node for a signal, and there is none. -/
def LacksNode (s : Machine T E M B D V) : Prop :=
  s.kernel.siginfoPool = 0 ∧ ∃ t n, (s.ctx s.current).call = some (.kill t n .alloc)

/-! ### Steps of other threads -/

theorem call_of_disturbances (h : Relation.ReflTransGen (ThreadView.Disturbed owns) v v') :
    v'.ctx.call = v.ctx.call := by
  induction h with
  | refl => rfl
  | tail _ hd ih =>
    refine Eq.trans ?_ ih
    cases hd with
    | detached _ _ hctx => rw [hctx]
    | _ => rfl

theorem siList_of_disturbances (h : Relation.ReflTransGen (ThreadView.Disturbed owns) v v')
    (hn : n ∈ v.thread.siList) : v'.state = .close ∨ n ∈ v'.thread.siList := by
  induction h with
  | refl => exact .inr hn
  | tail _ hd ih =>
    rcases ih with hc | hn
    · exact .inl (close_of_disturbances (.single hd) hc)
    cases hd with
    | enqueued => exact .inr (List.mem_append_left _ hn)
    | detached _ hc => exact .inl hc
    | _ => exact .inr hn

/-! ### Steps of the thread itself -/

theorem siList_of_signals {k k' : Kernel T (WaitQueue E M B)} (h : k'.signals = k.signals) :
    (k'.thread t).siList = (k.thread t).siList := congrArg SignalState.siList (congrFun h t)

theorem modify_siList {k : Kernel T (WaitQueue E M B)} {f : Thread → Thread}
    (hf : (f (k.thread x)).siList = (k.thread x).siList) :
    ((k.modify x f).thread t).siList = (k.thread t).siList := by
  rw [Kernel.modify_thread]
  split
  · next hx => rw [hf, hx]
  · rfl

theorem rtThreadStartupQueue_siList {k : Kernel T (WaitQueue E M B)} :
    ((k.rtThreadStartupQueue x).thread t).siList = (k.thread t).siList := by
  unfold Kernel.rtThreadStartupQueue
  split_ifs
  · rfl
  · rfl
  · rw [siList_of_signals Kernel.rtThreadResume_signals, modify_siList rfl]

/-- A statement of the thread, unless it detaches itself. -/
theorem perform_siList (hk : KernelOk s.kernel) {a : Act T E M B D V}
    (hdetach : a ≠ .detach s.current) :
    (s.perform p a).kernel.state s.current = .close ∨
      ((s.perform p a).kernel.thread s.current).siList = (s.kernel.thread s.current).siList := by
  cases a with
  | mask signo =>
    refine .inr ?_
    simp only [perform, modifyCurrent, withKernel_kernel]
    exact modify_siList rfl
  | unmask signo =>
    have hmask : ((s.kernel.modify s.current fun th => { th with
        sigMask := Function.update th.sigMask signo true }).thread s.current).siList =
          (s.kernel.thread s.current).siList := modify_siList rfl
    rcases perform_unmask (s := s) (p := p) (n := signo) with heq | heq <;>
      (rw [heq]; exact .inr hmask)
  | startup x => exact .inr rtThreadStartupQueue_siList
  | detach x =>
    have hx : s.current ≠ x := fun hx => hdetach (hx ▸ rfl)
    exact .inr (congrArg (fun v : Kernel.View (WaitQueue E M B) => v.thread.siList)
      (Kernel.rtThreadDetach_view_of_ne hk.ready hx))
  | exit => exact .inl (Kernel.threadExit_state_self hk.ready)
  | _ => exact .inr (siList_of_signals (perform_signals rfl))

/-- The loop of `rt_thread_handle_sig` takes a signal only to run its handler. -/
theorem handleLoop_queued {b : Bool} (h : s.Queued s.current n) :
    (s.handleLoop b).Queued s.current n ∨ ((s.handleLoop b).ctx s.current).sig = .running b n := by
  unfold Queued at h ⊢
  unfold handleLoop
  dsimp only
  split
  · split
    · next hl =>
      rw [hl] at h
      cases h
    · next m rest hl =>
      rw [hl] at h
      rcases List.mem_cons.mp h with rfl | hrest
      · exact .inr (by simp)
      · exact .inl (by simpa using hrest)
  · refine .inl ?_
    simpa using h

theorem enterHandleSig_queued {b : Bool} (h : s.Queued s.current n) :
    (s.enterHandleSig b).Queued s.current n ∨
      ((s.enterHandleSig b).ctx s.current).sig = .running b n := by
  unfold enterHandleSig
  dsimp only
  split
  · exact handleLoop_queued h
  · refine .inl ?_
    unfold Queued at h ⊢
    split
    · exact h
    · simpa using h

theorem returnHandler_queued {b : Bool} (h : s.Queued s.current n) :
    (s.returnHandler b).Queued s.current n ∨
      ((s.returnHandler b).ctx s.current).sig = .running b n := by
  refine handleLoop_queued (s := s.withKernel
    { s.kernel.setError s.current .eintr with siginfoPool := s.kernel.siginfoPool + 1 }) ?_
  have hsame : ((s.kernel.setError s.current .eintr).thread s.current).siList =
      (s.kernel.thread s.current).siList := siList_of_signals Kernel.setError_signals
  exact show n ∈ ((s.kernel.setError s.current .eintr).thread s.current).siList from hsame.symm ▸ h

/-- A step inside a call takes no signal. -/
theorem stepCall_queued {c : Call T E M B} (h : s.Queued t n) : (s.stepCall p c).Queued t n := by
  have hsame : ∀ {k : Kernel T (WaitQueue E M B)}, k.signals = s.kernel.signals →
      n ∈ (k.thread t).siList := fun hk => (siList_of_signals hk).symm ▸ h
  cases c with
  | recv e set option stage => exact hsame (stepCall_signals (by simp))
  | take m stage => exact hsame (stepCall_signals (by simp))
  | mbRecv b wait stage => exact hsame (stepCall_signals (by simp))
  | kill x m stage =>
    simp only [stepCall]
    cases stage with
    | check =>
      simp only [stepKill]
      split <;> exact h
    | alloc =>
      simp only [stepKill]
      split <;> exact h
    | enqueue =>
      simp only [stepKill, Queued, setCall_kernel, withKernel_kernel, Kernel.modify_thread]
      split
      · next hx => exact List.mem_append_left _ (hx ▸ h)
      · exact h
    | deliver =>
      simp only [stepKill, signalDeliver]
      split
      · exact h
      · split <;> (try split) <;> (try split) <;>
          simp only [Queued, reschedule_kernel, setCtx_kernel, finish_kernel, withKernel_kernel]
        · rw [modify_siList]
          · exact hsame Kernel.rtThreadResume_signals
          · rfl
        · rw [modify_siList]
          · exact h
          · rfl
        · rw [modify_siList]
          · exact h
          · rfl
        · exact h

/-! ### All steps -/

/-- A queued signal stays queued until its handler begins or the thread is closed. -/
theorem queued_of_step (hs : SchedOk s) (hstep : s.step p i = some s') (h : s.Queued t n) :
    s'.kernel.state t = .close ∨ s'.Queued t n ∨
      t = s.current ∧ (∃ b, (s'.ctx t).sig = .running b n) ∧
        (i = .hret ∨ i = .kern ∧ ∃ b, (s.ctx t).sig = .entry b) := by
  have hk := hs.kernel
  have hothers : Relation.ReflTransGen (ThreadView.Disturbed fun m => (s'.mutex m).owner = some t)
      (s.view t) (s'.view t) → s'.kernel.state t = .close ∨ s'.Queued t n := fun hd =>
    (siList_of_disturbances hd (show n ∈ (s.view t).thread.siList from h)).imp
      ThreadState.phase_eq_close.mp id
  by_cases ht : t = s.current
  · subst ht
    cases i with
    | tick due =>
      simp only [Machine.step] at hstep
      split at hstep
      · cases hstep
        exact (hothers (rtTickIncrease_view hk.ready hk.attached due)).imp id .inl
      · cases hstep
    | act a =>
      have hs' : s' = s.perform p a ∧ a ≠ .detach s.current := by
        simp only [Machine.step] at hstep
        split at hstep
        · unfold stepAct at hstep
          split at hstep <;> split at hstep <;> cases hstep <;> next ha =>
            refine ⟨rfl, ?_⟩
            rintro rfl
            exact ha.2.2.1 rfl
        · cases hstep
      obtain ⟨rfl, hdetach⟩ := hs'
      refine (perform_siList hk hdetach).imp id fun hsame => .inl ?_
      rw [Queued, hsame]
      exact h
    | hret =>
      simp only [Machine.step] at hstep
      split at hstep
      · unfold stepHret at hstep
        split at hstep
        · cases hstep
          exact .inr ((returnHandler_queued h).imp id fun hrun => ⟨rfl, ⟨_, hrun⟩, .inl rfl⟩)
        · cases hstep
      · cases hstep
    | kern =>
      simp only [Machine.step] at hstep
      split at hstep
      · unfold stepKern at hstep
        split at hstep <;> cases hstep
        · next hsig =>
          exact .inr ((enterHandleSig_queued h).imp id fun hrun =>
            ⟨rfl, ⟨_, hrun⟩, .inr ⟨rfl, _, hsig⟩⟩)
        · have hsame : (s.kernel.rtSchedule.thread s.current).siList =
              (s.kernel.thread s.current).siList := siList_of_signals Kernel.rtSchedule_signals
          exact .inr (.inl (show n ∈ _ from hsame.symm ▸ h))
        · refine .inr (.inl ?_)
          unfold Queued at h ⊢
          unfold afterSwitch
          split
          · simpa using h
          · exact h
        · exact .inr (.inl (stepCall_queued h))
      · cases hstep
  · exact (hothers (step_disturbed hstep hk.ready hk.attached ht)).imp id .inl

/-- A thread that is about to queue a signal does so, if there is a node for it. -/
theorem sends_of_step (hs : SchedOk s) (hstep : s.step p i = some s') (h : s.Sends x t n)
    (hnode : i = .kern → x = s.current → ¬s.LacksNode) : s'.Sends x t n ∨ s'.Queued t n := by
  have hk := hs.kernel
  obtain ⟨stage, hc, hstage⟩ := h
  have hcalls : s'.calls x = s.calls x → s'.Sends x t n := fun hsame =>
    ⟨stage, (congrArg Prod.fst hsame).trans hc, hstage⟩
  by_cases hx : x = s.current
  · subst hx
    cases i with
    | tick due => exact .inl (hcalls ((step_tick hstep).1 _))
    | act a =>
      by_cases hrun : ∃ b m, (s.ctx s.current).sig = .running b m
      · obtain ⟨b, m, hsig⟩ := hrun
        exact .inl (hcalls ((step_handler hstep hsig).1 _))
      · have hat := (step_own hstep fun b m hsig => hrun ⟨b, m, hsig⟩).1
        exact absurd (hc.symm.trans hat.2.2) (by simp)
    | hret => exact .inl (hcalls ((step_hret hstep).1 _))
    | kern =>
      rcases step_kern hstep with ⟨hsame, -⟩ | ⟨c, hc', rfl⟩
      · exact .inl (hcalls (hsame _))
      · obtain rfl : c = .kill t n stage := Option.some.inj (hc'.symm.trans hc)
        cases stage with
        | check =>
          simp only [stepCall, stepKill]
          split
          · next hpending => exact .inr hpending.2
          · exact .inl ⟨.alloc, by simp [setCall], by simp⟩
        | alloc =>
          have hpool : s.kernel.siginfoPool ≠ 0 := fun hp => hnode rfl rfl ⟨hp, t, n, hc⟩
          simp only [stepCall, stepKill, if_neg hpool]
          exact .inl ⟨.enqueue, by simp [setCall], by simp⟩
        | enqueue =>
          refine .inr ?_
          simp [stepCall, stepKill, Queued]
        | deliver => exact absurd rfl hstage
  · have hsame := call_of_disturbances (step_disturbed hstep hk.ready hk.attached hx)
    exact .inl ⟨stage, hsame.trans hc, hstage⟩

end Machine

end RobotVacuum
