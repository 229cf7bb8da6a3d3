import RobotVacuum.Machine.Quiet

/-!
# Signals are noticed

A thread with a signal that is pending and not blocked handles it before it goes on with its own
code: it is about to enter its handler, or will look at the pending mark when it is dispatched, or
the signal is still to be delivered (`Noticed`). Every step keeps this, the delivery apart to a
thread that has queued itself in a wait list and was not switched out yet (`Notices.step`).
-/

set_option linter.unusedSectionVars false

namespace RobotVacuum

/-! ### Signals are noticed -/

/-- Some signal is pending and not blocked. -/
def SignalState.deliverable (σ : SignalState) : Bool :=
  (σ.sigPending .sigusr1 && σ.sigMask .sigusr1) || (σ.sigPending .sigusr2 && σ.sigMask .sigusr2)

theorem SignalState.deliverable_iff {σ : SignalState} : σ.deliverable = true ↔
    ∃ n, σ.sigPending n = true ∧ σ.sigMask n = true := by
  simp only [deliverable, Bool.or_eq_true, Bool.and_eq_true]
  constructor
  · rintro (h | h) <;> exact ⟨_, h⟩
  · rintro ⟨n, h⟩
    cases n
    · exact .inl h
    · exact .inr h

theorem SignalState.deliverable_enqueue {σ : SignalState} {n : Signo} {l : List Signo}
    (h : σ.deliverable = true) : SignalState.deliverable { σ with
      siList := l, sigPending := Function.update σ.sigPending n true } = true := by
  obtain ⟨m, hm, hmask⟩ := deliverable_iff.mp h
  refine deliverable_iff.mpr ⟨m, ?_, hmask⟩
  dsimp only
  rw [Function.update_apply]
  split <;> trivial

/-- A thread that has a signal to handle will do so before it goes on with its own code, unless the
signal is still to be delivered. -/
structure Noticed (σ : SignalState) (sig : SigLayer) (sched : SchedLayer) (delivering : Prop) :
    Prop where
  queued : ∀ n, σ.sigPending n = true → n ∈ σ.siList
  noWait : σ.signalWait = false
  entry : ∀ b, sig = .entry b → σ.deliverable = true
  marked : σ.signalPending = true → σ.deliverable = true ∧ sched = .switched ∧ sig = .none
  bit : σ.signal = true → sig ≠ .none ∨ σ.signalPending = true
  noticed : σ.deliverable = true → sig ≠ .none ∨ σ.signalPending = true ∨ delivering

namespace Noticed

variable {σ : SignalState} {sig : SigLayer} {sched sched' : SchedLayer} {d d' : Prop} {n : Signo}

theorem mono (h : Noticed σ sig sched d) (hs : sched = .switched → σ.signalPending = true →
    sched' = .switched) (hd : d → d') : Noticed σ sig sched' d' where
  queued := h.queued
  noWait := h.noWait
  entry := h.entry
  marked hp := ⟨(h.marked hp).1, hs (h.marked hp).2.1 hp, (h.marked hp).2.2⟩
  bit := h.bit
  noticed hdel := (h.noticed hdel).imp id (·.imp id hd)

/-- The thread runs code of its own. -/
theorem not_marked (h : Noticed σ sig sched d) (hne : sched ≠ .switched ∨ sig ≠ .none) :
    σ.signalPending = false := by
  by_contra hp
  obtain ⟨-, hs, hsig⟩ := h.marked (by simpa using hp)
  exact hne.elim (absurd hs) (absurd hsig)

/-- Without a pending signal nothing can be delivered. -/
theorem not_deliverable (h : Noticed σ sig sched d) (hl : σ.siList = []) :
    σ.deliverable = false := by
  by_contra hd
  obtain ⟨n, hn, -⟩ := SignalState.deliverable_iff.mp (by simpa using hd)
  have hmem := h.queued n hn
  rw [hl] at hmem
  cases hmem

/-- A signal is queued and will be delivered. -/
theorem enqueue (h : Noticed σ sig sched d) (hd : d') : Noticed { σ with
    siList := σ.siList ++ [n], sigPending := Function.update σ.sigPending n true } sig sched
      d' where
  queued m hm := by
    dsimp only at hm ⊢
    by_cases heq : m = n
    · simp [heq]
    · rw [Function.update_of_ne heq] at hm
      exact List.mem_append_left _ (h.queued m hm)
  noWait := h.noWait
  entry b hb := SignalState.deliverable_enqueue (h.entry b hb)
  marked hp := ⟨SignalState.deliverable_enqueue (h.marked hp).1, (h.marked hp).2⟩
  bit := h.bit
  noticed _ := .inr (.inr hd)

/-- A signal is delivered to the thread, which has been switched out to wait. -/
theorem mark (h : Noticed σ sig sched d) (hdel : σ.deliverable = true) (hs : sched = .switched)
    (hsig : sig = .none) :
    Noticed { σ with signal := true, signalPending := true } sig sched d' where
  queued := h.queued
  noWait := h.noWait
  entry _ _ := hdel
  marked _ := ⟨hdel, hs, hsig⟩
  bit _ := .inr rfl
  noticed _ := .inr (.inl rfl)

/-- The thread is about to handle its signals. -/
theorem enter (h : Noticed σ sig sched d) (hdel : σ.deliverable = true) {signal pending : Bool}
    (hp : pending = false) (b : Bool) :
    Noticed { σ with signal := signal, signalPending := pending } (.entry b) sched' d' where
  queued := h.queued
  noWait := h.noWait
  entry _ _ := hdel
  marked hp' := absurd (hp.symm.trans hp') (by simp)
  bit _ := .inl (by simp)
  noticed _ := .inl (by simp)

/-- The handler of the first signal begins. -/
theorem take (h : Noticed σ sig sched d) (hp : σ.signalPending = false) {rest : List Signo}
    (hl : σ.siList = n :: rest) (b : Bool) : Noticed { σ with
      siList := rest, sigPending := Function.update σ.sigPending n false } (.running b n) sched
        d' where
  queued m hm := by
    dsimp only at hm ⊢
    by_cases heq : m = n
    · simp [heq] at hm
    · rw [Function.update_of_ne heq] at hm
      have hmem := h.queued m hm
      rw [hl] at hmem
      exact (List.mem_cons.mp hmem).resolve_left heq
  noWait := h.noWait
  entry _ hb := by cases hb
  marked hp' := absurd (hp.symm.trans hp') (by simp)
  bit _ := .inl (by simp)
  noticed _ := .inl (by simp)

/-- The thread has handled its signals. -/
theorem leave (h : Noticed σ sig sched d) (hp : σ.signalPending = false)
    (hdel : σ.deliverable = false) : Noticed { σ with signal := false } .none sched d' where
  queued := h.queued
  noWait := h.noWait
  entry _ hb := by cases hb
  marked hp' := absurd (hp.symm.trans hp') (by simp)
  bit hb := by cases hb
  noticed hd := absurd (hdel.symm.trans hd) (by simp)

/-- The thread changes its mask. -/
theorem mask (h : Noticed σ sig sched d) (hrun : sig = .none ∧ sched ≠ .switched ∨
    ∃ b m, sig = .running b m) {f : Signo → Bool}
    (hd : SignalState.deliverable { σ with sigMask := f } = true → sig = .none →
      σ.deliverable = true ∧ (d → d') ∨ d') :
    Noticed { σ with sigMask := f } sig sched d' where
  queued := h.queued
  noWait := h.noWait
  entry b hb := by
    rcases hrun with ⟨hn, -⟩ | ⟨_, _, hn⟩ <;> rw [hb] at hn <;> cases hn
  marked hp := by
    have hlow : σ.signalPending = false := h.not_marked (by
      rcases hrun with ⟨-, hs⟩ | ⟨_, _, hn⟩
      · exact .inl hs
      · exact .inr (by simp [hn]))
    exact absurd (hlow.symm.trans hp) (by simp)
  bit := h.bit
  noticed hdel := by
    by_cases hn : sig = .none
    · rcases hd hdel hn with ⟨hold, hmono⟩ | hnew
      · exact (h.noticed hold).imp id (·.imp id hmono)
      · exact .inr (.inr hnew)
    · exact .inl hn

end Noticed

namespace Machine

open Kernel (KernelOk)

variable {T E M B D V : Type} [DecidableEq T] [DecidableEq E] [DecidableEq M] [DecidableEq B]
  [DecidableEq D]

variable {s s' s₁ : Machine T E M B D V} {p : Platform T E M D} {t x : T}
  {k : Kernel T (WaitQueue E M B)} {c : Call T E M B} {n : Signo} {i : Label T E M B D V}

/-- A signal was queued for the thread and is about to be delivered. -/
def Delivering (s : Machine T E M B D V) (t : T) : Prop :=
  ∃ x n, (s.ctx x).call = some (.kill t n .deliver)

/-- The signals of a thread are noticed. -/
def Notices (s : Machine T E M B D V) (t : T) : Prop :=
  Noticed (s.kernel.signals t) (s.ctx t).sig (s.ctx t).sched (s.Delivering t)

theorem signals_of_view {k k' : Kernel T (WaitQueue E M B)} (h : k'.view t = k.view t) :
    k'.signals t = k.signals t :=
  congrArg (fun v : Kernel.View (WaitQueue E M B) => v.thread.signals) h

theorem modify_signals_of_ne {f : Thread → Thread} (h : t ≠ x) :
    (k.modify x f).signals t = k.signals t := by
  rw [Kernel.signals, Kernel.modify_thread, if_neg h, Kernel.signals]

theorem modify_signals_self {f : Thread → Thread} :
    (k.modify t f).signals t = (f (k.thread t)).signals := by
  rw [Kernel.signals, Kernel.modify_thread, if_pos rfl]

/-- An update of where a thread stands leaves alone what it does not write. -/
theorem setCtx_field {α : Type} (g : Ctx T E M B V → α) {f : Ctx T E M B V → Ctx T E M B V}
    (hf : g (f (s.ctx x)) = g (s.ctx x)) : g ((s.setCtx x f).ctx t) = g (s.ctx t) := by
  by_cases ht : t = x
  · subst ht
    rw [setCtx_ctx_self, hf]
  · rw [setCtx_ctx_of_ne ht]

/-- A step that leaves the signals of the thread alone. -/
theorem Notices.of_eq (h : s.Notices t) (hs : s'.kernel.signals t = s.kernel.signals t)
    (hsig : (s'.ctx t).sig = (s.ctx t).sig)
    (hsched : (s.ctx t).sched = .switched → (s.kernel.signals t).signalPending = true →
      (s'.ctx t).sched = .switched)
    (hdel : s.Delivering t → s'.Delivering t) : s'.Notices t := by
  rw [Notices, hs, hsig]
  exact h.mono hsched hdel

/-- A thread that does not deliver the signal goes on delivering, or another one does. -/
theorem Delivering.of_call (hcall : ∀ x, x ≠ s.current → (s'.ctx x).call = (s.ctx x).call)
    (hc : ∀ n, (s.ctx s.current).call ≠ some (.kill t n .deliver)) (h : s.Delivering t) :
    s'.Delivering t := by
  obtain ⟨x, n, hx⟩ := h
  refine ⟨x, n, ?_⟩
  rw [hcall x fun heq => hc n (heq ▸ hx)]
  exact hx

/-- A step that leaves all calls alone. -/
theorem Delivering.same_calls (hcall : ∀ x, (s'.ctx x).call = (s.ctx x).call)
    (h : s.Delivering t) : s'.Delivering t := by
  obtain ⟨x, n, hx⟩ := h
  exact ⟨x, n, (hcall x).trans hx⟩

theorem Notices.quiet (h : s.Notices t) (hq : Quiet s s')
    (hcur : t = s.current → (s.kernel.signals t).signalPending = false)
    (hdel : s.Delivering t → s'.Delivering t) : s'.Notices t := by
  refine h.of_eq (congrFun hq.signals t) (hq.sig t) (fun hs hp => ?_) hdel
  rw [hq.sched t fun heq => absurd ((hcur heq).symm.trans hp) (by simp)]
  exact hs

/-! ### Statements -/

theorem deliverable_of_mask {th : Thread}
    (h : SignalState.deliverable { th.signals with
      sigMask := Function.update th.sigMask n false } = true) : th.signals.deliverable = true := by
  obtain ⟨m, hm, hmask⟩ := SignalState.deliverable_iff.mp h
  refine SignalState.deliverable_iff.mpr ⟨m, hm, ?_⟩
  dsimp only at hmask
  rw [Function.update_apply] at hmask
  split at hmask
  · cases hmask
  · exact hmask

/-- A statement that unmasks a signal delivers what is pending. -/
theorem unmask_delivers : (s.perform p (.unmask n)).Delivering s.current ∨
    SignalState.deliverable { (s.kernel.thread s.current).signals with
      sigMask := Function.update (s.kernel.thread s.current).sigMask n true } = false := by
  have hthread : ((s.modifyCurrent fun th => { th with
      sigMask := Function.update th.sigMask n true }).kernel.thread s.current) =
        { s.kernel.thread s.current with
          sigMask := Function.update (s.kernel.thread s.current).sigMask n true } := by
    simp only [modifyCurrent, withKernel_kernel, Kernel.modify_thread, if_true]
  simp only [perform, rtSignalUnmask]
  split
  · exact .inl ⟨s.current, n, by simp [setCall]⟩
  · next hd =>
    rw [show (s.modifyCurrent _).kernel.thread (s.modifyCurrent _).current = _ from hthread] at hd
    exact .inr (Bool.not_eq_true _ ▸ hd)

/-- A thread that writes its mask. -/
theorem modifyMask_signals {f : (Signo → Bool) → Signo → Bool} :
    (s.modifyCurrent fun th => { th with sigMask := f th.sigMask }).kernel.signals t =
      if t = s.current then { (s.kernel.thread t).signals with
        sigMask := f (s.kernel.thread t).sigMask } else s.kernel.signals t := by
  simp only [modifyCurrent, withKernel_kernel, Kernel.signals, Kernel.modify_thread]
  split
  · next ht => rw [ht]; rfl
  · rfl

theorem Notices.perform (h : s.Notices t) (hs : SchedOk s) (hh : HandlingOk t s)
    (hopen : s.kernel.state t ≠ .close)
    {a : Act T E M B D V} (hcall : (∀ n, (s.ctx s.current).call ≠ some (.kill t n .deliver)) ∨
      (s.perform p a).ctx = s.ctx)
    (hrun : (s.ctx s.current).sig = .none ∧ (s.ctx s.current).sched ≠ .switched ∨
      ∃ b m, (s.ctx s.current).sig = .running b m) :
    (s.perform p a).kernel.state t = .close ∨ (s.perform p a).Notices t := by
  have hk := hs.kernel
  have hlow : t = s.current → (s.kernel.signals t).signalPending = false := fun heq => by
    subst heq
    refine Noticed.not_marked h ?_
    rcases hrun with ⟨-, hsched⟩ | ⟨b, m, hsig⟩
    · exact .inl hsched
    · exact .inr (by rw [hsig]; simp)
  have hkept : (∀ x, x ≠ s.current → ((s.perform p a).ctx x).call = (s.ctx x).call) →
      s.Delivering t → (s.perform p a).Delivering t := fun hothers hd => by
    rcases hcall with hcall | hctx
    · exact hd.of_call hothers hcall
    · exact hd.same_calls fun x => by rw [hctx]
  cases a with
  | mask n =>
    refine .inr ?_
    have hsignals := modifyMask_signals (s := s) (t := t)
      (f := fun g => Function.update g n false)
    rw [Notices, show (s.perform p (.mask n)).kernel.signals t = _ from hsignals]
    split
    · next ht =>
      subst ht
      exact Noticed.mask h hrun fun hd _ => .inl ⟨deliverable_of_mask hd, id⟩
    · exact h
  | unmask n =>
    refine .inr ?_
    have hkernel : (s.perform p (.unmask n)).kernel = (s.modifyCurrent fun th =>
        { th with sigMask := Function.update th.sigMask n true }).kernel := by
      rcases perform_unmask (s := s) (p := p) (n := n) with heq | heq <;> rw [heq] <;> rfl
    have hlayers : ∀ x, ((s.perform p (.unmask n)).ctx x).sig = (s.ctx x).sig ∧
        ((s.perform p (.unmask n)).ctx x).sched = (s.ctx x).sched := fun x => by
      rcases perform_unmask (s := s) (p := p) (n := n) with heq | heq <;> rw [heq]
      · exact ⟨setCtx_field (·.sig) rfl, setCtx_field (·.sched) rfl⟩
      · exact ⟨rfl, rfl⟩
    have hothers : ∀ x, x ≠ s.current →
        ((s.perform p (.unmask n)).ctx x).call = (s.ctx x).call := fun x hx => by
      rcases perform_unmask (s := s) (p := p) (n := n) with heq | heq <;> rw [heq]
      · exact congrArg Ctx.call (setCtx_ctx_of_ne hx)
      · rfl
    have hsignals := modifyMask_signals (s := s) (t := t) (f := fun g => Function.update g n true)
    rw [Notices, hkernel, hsignals, (hlayers t).1, (hlayers t).2]
    split
    · next ht =>
      subst ht
      refine Noticed.mask h hrun fun hd _ => .inr (unmask_delivers.resolve_right fun hno => ?_)
      exact absurd (hno.symm.trans hd) (by simp)
    · exact Noticed.mono h (fun hsched _ => hsched) (hkept hothers)
  | startup x =>
    refine .inr ?_
    have hlayers : ∀ x', ((s.perform p (.startup x)).ctx x').sig = (s.ctx x').sig ∧
        ((s.perform p (.startup x)).ctx x').call = (s.ctx x').call ∧
          (x' ≠ s.current → ((s.perform p (.startup x)).ctx x').sched = (s.ctx x').sched) :=
      fun x' => by
        simp only [Machine.perform, Machine.reschedule]
        refine ⟨setCtx_field (·.sig) rfl, setCtx_field (·.call) rfl, fun hx => ?_⟩
        rw [setCtx_ctx_of_ne (by simpa using hx)]
        rfl
    have hdel : s.Delivering t → (s.perform p (.startup x)).Delivering t :=
      .same_calls fun y => (hlayers y).2.1
    have hsched : (s.ctx t).sched = .switched → (s.kernel.signals t).signalPending = true →
        ((s.perform p (.startup x)).ctx t).sched = .switched := fun hsched hp => by
      rw [(hlayers t).2.2 fun heq => absurd ((hlow heq).symm.trans hp) (by simp)]
      exact hsched
    by_cases hnew : t = x ∧ s.kernel.state t = .init
    · obtain ⟨rfl, hinit⟩ := hnew
      obtain ⟨hmask, hsig, -⟩ := (hh.signals.resolve_left hopen).new
        (ThreadState.phase_eq_init.mpr hinit)
      have hsignals : (s.kernel.rtThreadStartupQueue t).signals t =
          { s.kernel.signals t with
            signal := false, signalPending := false, signalWait := false } :=
        congrArg (fun v : Kernel.View (WaitQueue E M B) => v.thread.signals)
          (Kernel.rtThreadStartupQueue_view hk.ready hinit (hk.attached t hopen).isThread)
      have hdeaf : (s.kernel.signals t).deliverable = false := by
        have hmask : ∀ n, (s.kernel.signals t).sigMask n = false := hmask
        simp [SignalState.deliverable, hmask]
      have hnone : (s.ctx t).sig = .none := hsig
      rw [Notices, show (s.perform p (.startup t)).kernel.signals t = _ from hsignals,
        (hlayers t).1, hnone]
      have hq := Noticed.queued h
      exact ⟨hq, rfl, fun _ hb => (by cases hb), fun hp => (by cases hp),
        fun hb => (by cases hb), fun hd => absurd (hdeaf.symm.trans hd) (by simp)⟩
    · refine h.of_eq ?_ (hlayers t).1 hsched hdel
      have hkernel : (s.perform p (.startup x)).kernel = s.kernel.rtThreadStartupQueue x := rfl
      rw [hkernel]
      by_cases ht : t = x
      · rw [Kernel.rtThreadStartupQueue, if_pos fun hi => hnew ⟨ht, ht ▸ hi⟩]
        rfl
      · exact signals_of_view (Kernel.rtThreadStartupQueue_view_of_ne hk.ready ht)
  | detach x =>
    have hctx : ∀ x', ((s.perform p (.detach x)).ctx x').sig = (s.ctx x').sig ∧
        ((s.perform p (.detach x)).ctx x').call = (s.ctx x').call ∧
          ((s.perform p (.detach x)).ctx x').sched = (s.ctx x').sched := fun x' => by
      simp only [Machine.perform, Machine.setRet]
      exact ⟨setCtx_field (·.sig) rfl, setCtx_field (·.call) rfl, setCtx_field (·.sched) rfl⟩
    have hsame : ∀ hview : (s.kernel.rtThreadDetach x).view t = s.kernel.view t,
        (s.perform p (.detach x)).Notices t := fun hview =>
      h.of_eq (signals_of_view hview) (hctx t).1 (fun hsched _ => (hctx t).2.2.trans hsched)
        (.same_calls fun y => (hctx y).2.1)
    by_cases ht : t = x
    · subst ht
      rcases Kernel.rtThreadDetach_view_self (k := s.kernel) (x := t) with heq | ⟨-, heq⟩
      · exact .inr (hsame heq)
      · refine .inl (ThreadState.phase_eq_close.mp ?_)
        exact congrArg Stat.state heq
    · exact .inr (hsame (Kernel.rtThreadDetach_view_of_ne hk.ready ht))
  | exit =>
    by_cases ht : t = s.current
    · subst ht
      exact .inl (Kernel.threadExit_state_self hk.ready)
    · exact .inr (h.of_eq (signals_of_view (Kernel.threadExit_view_of_ne hk.ready ht)) rfl
        (fun hsched _ => hsched) id)
  | _ => exact .inr (h.quiet (perform_quiet rfl) hlow (hkept (perform_quiet rfl).call))

/-! ### Steps inside the kernel -/

/-- Delivering a signal to the thread. -/
theorem Notices.signalDeliver (h : s.Notices t) (hok : SignalsOk t (s.view t))
    (hself : t = s.current → (s.kernel.signals t).signalPending = false ∧
      s.kernel.state t ≠ .suspend)
    (hwait : s.kernel.state t = .suspend → (s.ctx t).sched = .switched) :
    (s.signalDeliver t).Notices t := by
  have hfinish : ∀ (r : Machine T E M B D V) e, ((r.finish e).ctx t).sig = (r.ctx t).sig ∧
      ((r.finish e).ctx t).sched = (r.ctx t).sched := fun r e => by
    simp only [Machine.finish]
    exact ⟨setCtx_field (·.sig) rfl, setCtx_field (·.sched) rfl⟩
  have hreschedule : ∀ r : Machine T E M B D V, (r.reschedule.ctx t).sig = (r.ctx t).sig ∧
      (t ≠ r.current → (r.reschedule.ctx t).sched = (r.ctx t).sched) := fun r => by
    simp only [Machine.reschedule]
    exact ⟨setCtx_field (·.sig) rfl, fun ht => congrArg Ctx.sched (setCtx_ctx_of_ne ht)⟩
  unfold Machine.signalDeliver
  dsimp only
  split
  · next hd =>
    have hd : (s.kernel.thread t).deliverable = false := by simpa using hd
    have hd : (s.kernel.signals t).deliverable = false := hd
    rw [Notices, (hfinish s _).1, (hfinish s _).2]
    exact ⟨Noticed.queued h, Noticed.noWait h, Noticed.entry h, Noticed.marked h, Noticed.bit h,
      fun hd' => absurd (hd.symm.trans hd') (by simp)⟩
  · next hd =>
    have hd : (s.kernel.thread t).deliverable = true := by simpa using hd
    have hd : (s.kernel.signals t).deliverable = true := hd
    split
    · next hs =>
      have ht : t ≠ s.current := fun ht => (hself ht).2 hs
      have hsig : (s.ctx t).sig = .none := by
        by_contra hne
        exact (hok.layer hne).1 (ThreadState.phase_eq_suspend.mpr hs)
      have hsignals : ((s.kernel.rtThreadResume t).modify t fun th => { th with
          stat := { th.stat with signal := true, signalPending := true } }).signals t =
            { s.kernel.signals t with signal := true, signalPending := true } := by
        have hsame : ((s.kernel.rtThreadResume t).thread t).signals = s.kernel.signals t :=
          congrFun Kernel.rtThreadResume_signals t
        rw [modify_signals_self, ← hsame]
        rfl
      have hcur : t ≠ ((s.withKernel ((s.kernel.rtThreadResume t).modify t fun th => { th with
          stat := { th.stat with signal := true, signalPending := true } })).finish .eok).current :=
        by simpa using ht
      rw [Notices, reschedule_kernel, finish_kernel, withKernel_kernel, hsignals,
        (hreschedule _).1, (hreschedule _).2 hcur, (hfinish _ _).1, (hfinish _ _).2]
      exact Noticed.mark h hd (hwait hs) hsig
    · next hs =>
      split
      · next ht =>
        have hsignals : (s.kernel.modify t fun th => { th with
            stat := { th.stat with signal := true } }).signals t =
              { s.kernel.signals t with signal := true } := modify_signals_self
        rw [Notices, setCtx_kernel, finish_kernel, withKernel_kernel, hsignals, setCtx_ctx_self]
        exact Noticed.enter h hd (hself ht).1 true
      · next ht =>
        split
        · next hbit =>
          have hsignals : (s.kernel.modify t fun th => { th with
              stat := { th.stat with signal := true, signalPending := false } }).signals t =
                { s.kernel.signals t with signal := true, signalPending := false } :=
            modify_signals_self
          rw [Notices, reschedule_kernel, setCtx_kernel, finish_kernel, withKernel_kernel,
            hsignals, (hreschedule _).1, setCtx_ctx_self]
          exact Noticed.enter h hd rfl false
        · next hbit =>
          have hbit : (s.kernel.thread t).stat.signal = true := by simpa using hbit
          rw [Notices, (hfinish s _).1, (hfinish s _).2]
          exact ⟨Noticed.queued h, Noticed.noWait h, Noticed.entry h, Noticed.marked h,
            Noticed.bit h, fun _ => (Noticed.bit h hbit).imp id .inl⟩

/-- Delivering a signal to another thread. -/
theorem signalDeliver_quiet_of_ne (hx : t ≠ x) :
    (s.signalDeliver x).kernel.signals t = s.kernel.signals t ∧
      ((s.signalDeliver x).ctx t).sig = (s.ctx t).sig ∧
      (t ≠ s.current → ((s.signalDeliver x).ctx t).sched = (s.ctx t).sched) ∧
      ∀ y, y ≠ s.current → ((s.signalDeliver x).ctx y).call = (s.ctx y).call := by
  have hfinish : ∀ (r : Machine T E M B D V) e y, ((r.finish e).ctx y).sig = (r.ctx y).sig ∧
      ((r.finish e).ctx y).sched = (r.ctx y).sched ∧
        (y ≠ r.current → ((r.finish e).ctx y).call = (r.ctx y).call) := fun r e y => by
    simp only [Machine.finish]
    exact ⟨setCtx_field (·.sig) rfl, setCtx_field (·.sched) rfl,
      fun hy => congrArg Ctx.call (setCtx_ctx_of_ne hy)⟩
  have hreschedule : ∀ (r : Machine T E M B D V) y, (r.reschedule.ctx y).sig = (r.ctx y).sig ∧
      (y ≠ r.current → (r.reschedule.ctx y).sched = (r.ctx y).sched) ∧
        (r.reschedule.ctx y).call = (r.ctx y).call := fun r y => by
    simp only [Machine.reschedule]
    exact ⟨setCtx_field (·.sig) rfl, fun hy => congrArg Ctx.sched (setCtx_ctx_of_ne hy),
      setCtx_field (·.call) rfl⟩
  have hlayer : ∀ (r : Machine T E M B D V) b,
      ((r.setCtx x fun c => { c with sig := b }).ctx t) = r.ctx t ∧
        ∀ y, ((r.setCtx x fun c => { c with sig := b }).ctx y).call = (r.ctx y).call :=
    fun r b => ⟨setCtx_ctx_of_ne hx, fun y => setCtx_field (·.call) rfl⟩
  have hcur : (s.kernel.rtThreadResume x).currentThread = s.current :=
    Kernel.rtThreadResume_currentThread
  unfold Machine.signalDeliver
  dsimp only
  split
  · exact ⟨rfl, (hfinish s _ t).1, fun _ => (hfinish s _ t).2.1, fun y => (hfinish s _ y).2.2⟩
  · split
    · refine ⟨?_, ?_, fun ht => ?_, fun y hy => ?_⟩
      · rw [reschedule_kernel, finish_kernel, withKernel_kernel, modify_signals_of_ne hx,
          congrFun Kernel.rtThreadResume_signals t]
      · rw [(hreschedule _ t).1, (hfinish _ _ t).1, withKernel_ctx]
      · rw [(hreschedule _ t).2.1 (by simpa using ht), (hfinish _ _ t).2.1, withKernel_ctx]
      · rw [(hreschedule _ y).2.2, (hfinish _ _ y).2.2 (by simpa using hy), withKernel_ctx]
    · split
      · refine ⟨?_, ?_, fun ht => ?_, fun y hy => ?_⟩
        · rw [setCtx_kernel, finish_kernel, withKernel_kernel, modify_signals_of_ne hx]
        · rw [(hlayer _ _).1, (hfinish _ _ t).1, withKernel_ctx]
        · rw [(hlayer _ _).1, (hfinish _ _ t).2.1, withKernel_ctx]
        · rw [(hlayer _ _).2, (hfinish _ _ y).2.2 (by exact hy), withKernel_ctx]
      · split
        · refine ⟨?_, ?_, fun ht => ?_, fun y hy => ?_⟩
          · rw [reschedule_kernel, setCtx_kernel, finish_kernel, withKernel_kernel,
              modify_signals_of_ne hx]
          · rw [(hreschedule _ t).1, (hlayer _ _).1, (hfinish _ _ t).1, withKernel_ctx]
          · rw [(hreschedule _ t).2.1 (by exact ht), (hlayer _ _).1, (hfinish _ _ t).2.1,
              withKernel_ctx]
          · rw [(hreschedule _ y).2.2, (hlayer _ _).2, (hfinish _ _ y).2.2 (by exact hy),
              withKernel_ctx]
        · exact ⟨rfl, (hfinish s _ t).1, fun _ => (hfinish s _ t).2.1,
            fun y => (hfinish s _ y).2.2⟩

theorem Notices.stepKill (h : s.Notices t) (hok : SignalsOk t (s.view t))
    (hsched : (s.ctx s.current).sched = .none) {stage : KillStage}
    (hc : (s.ctx s.current).call = some (.kill x n stage))
    (hwait : stage = .deliver → x = t → s.kernel.state t = .suspend →
      (s.ctx t).sched = .switched) : (s.stepKill x n stage).Notices t := by
  have hlow : t = s.current → (s.kernel.signals t).signalPending = false := fun heq => by
    subst heq
    exact Noticed.not_marked h (.inl (by simp [hsched]))
  cases stage with
  | check =>
    have hq : Quiet s (s.stepKill x n .check) := by
      simp only [Machine.stepKill]
      split
      · exact Quiet.refl.finish
      · exact Quiet.refl.setCall
    exact h.quiet hq hlow (.of_call hq.call (by simp [hc]))
  | alloc =>
    have hq : Quiet s (s.stepKill x n .alloc) := by
      simp only [Machine.stepKill]
      split
      · exact Quiet.refl.setCall
      · refine Quiet.setCall (Quiet.withKernel .refl ?_ ?_) <;> rfl
    exact h.quiet hq hlow (.of_call hq.call (by simp [hc]))
  | enqueue =>
    have hlayers : ∀ y, ((s.stepKill x n .enqueue).ctx y).sig = (s.ctx y).sig ∧
        ((s.stepKill x n .enqueue).ctx y).sched = (s.ctx y).sched := fun y => by
      simp only [Machine.stepKill, Machine.setCall]
      exact ⟨setCtx_field (·.sig) rfl, setCtx_field (·.sched) rfl⟩
    have hcalls : ∀ y, y ≠ s.current →
        ((s.stepKill x n .enqueue).ctx y).call = (s.ctx y).call := fun y hy => by
      simp only [Machine.stepKill, Machine.setCall]
      exact congrArg Ctx.call (setCtx_ctx_of_ne hy)
    have hkernel : (s.stepKill x n .enqueue).kernel = s.kernel.modify x fun th => { th with
        siList := th.siList ++ [n], sigPending := Function.update th.sigPending n true } := rfl
    rw [Notices, (hlayers t).1, (hlayers t).2, hkernel]
    by_cases ht : t = x
    · subst ht
      rw [modify_signals_self]
      refine Noticed.enqueue h ⟨s.current, n, ?_⟩
      simp [Machine.stepKill, Machine.setCall]
    · rw [modify_signals_of_ne ht]
      exact Noticed.mono h (fun hs _ => hs) (.of_call hcalls (by simp [hc]))
  | deliver =>
    by_cases ht : t = x
    · subst ht
      refine h.signalDeliver hok (fun heq => ⟨hlow heq, fun hs => ?_⟩) (hwait rfl rfl)
      subst heq
      exact (hok.self n _ hc).1 (ThreadState.phase_eq_suspend.mpr hs)
    · obtain ⟨hsignals, hsig, hsched', hcalls⟩ := signalDeliver_quiet_of_ne (s := s) ht
      refine h.of_eq hsignals hsig (fun hs hp => ?_) (.of_call hcalls ?_)
      · rw [show ((s.stepKill x n .deliver).ctx t).sched = _ from
          hsched' fun heq => absurd ((hlow heq).symm.trans hp) (by simp)]
        exact hs
      · intro m heq
        rw [hc] at heq
        cases heq
        exact ht rfl

/-- The loop of `rt_thread_handle_sig`. -/
theorem handleLoop_notices {sig : SigLayer} {sched : SchedLayer} {d : Prop} {b : Bool}
    (h : Noticed (s.kernel.signals s.current) sig sched d)
    (hp : (s.kernel.signals s.current).signalPending = false) :
    (s.handleLoop b).Notices s.current := by
  have hended : (s.kernel.signals s.current).deliverable = false →
      ((s.withKernel (s.kernel.modify s.current fun th => { th with
        stat := { th.stat with signal := false } })).setCtx s.current fun x =>
          { x with sig := .none }).Notices s.current := fun hd => by
    have hsignals : (s.kernel.modify s.current fun th => { th with
        stat := { th.stat with signal := false } }).signals s.current =
          { s.kernel.signals s.current with signal := false } := modify_signals_self
    rw [Notices, setCtx_kernel, withKernel_kernel, hsignals, setCtx_ctx_self]
    refine Noticed.mono (Noticed.leave h hp hd) (fun hs hp' => ?_) id
    exact absurd (hp.symm.trans hp') (by simp)
  unfold handleLoop
  dsimp only
  split
  · split
    · next hl => exact hended (Noticed.not_deliverable h hl)
    · next m rest hl =>
      have hsignals : (s.kernel.modify s.current fun th => { th with
          siList := rest, sigPending := Function.update th.sigPending m false }).signals
            s.current = { s.kernel.signals s.current with
              siList := rest
              sigPending := Function.update (s.kernel.signals s.current).sigPending m false } :=
        modify_signals_self
      rw [Notices, setCtx_kernel, withKernel_kernel, hsignals, setCtx_ctx_self]
      refine Noticed.mono (Noticed.take h hp hl b) (fun hs hp' => ?_) id
      exact absurd (hp.symm.trans hp') (by simp)
  · next hd =>
    have hd : (s.kernel.thread s.current).deliverable = false := by simpa using hd
    exact hended hd

theorem perform_inHandler_ctx {a : Act T E M B D V} (ha : a.inHandler = true) :
    (s.perform p a).ctx = s.ctx := by
  cases a <;> first | rfl | cases ha

theorem enterHandleSig_notices {b : Bool} (h : s.Notices s.current)
    (hsig : (s.ctx s.current).sig = .entry b) : (s.enterHandleSig b).Notices s.current := by
  have hp : (s.kernel.signals s.current).signalPending = false :=
    Noticed.not_marked h (.inr (by simp [hsig]))
  have hd : (s.kernel.thread s.current).deliverable = true := Noticed.entry h b hsig
  have hw : (s.kernel.thread s.current).stat.signalWait = false := Noticed.noWait h
  unfold enterHandleSig
  dsimp only
  rw [if_pos (by simp [hd, hw])]
  exact handleLoop_notices h hp

theorem returnHandler_notices {b c : Bool} (h : s.Notices s.current)
    (hsig : (s.ctx s.current).sig = .running c n) : (s.returnHandler b).Notices s.current := by
  have hp : (s.kernel.signals s.current).signalPending = false :=
    Noticed.not_marked h (.inr (by simp [hsig]))
  have hsame : (s.kernel.setError s.current .eintr).signals s.current =
      s.kernel.signals s.current := congrFun Kernel.setError_signals _
  have hr : Noticed ((s.kernel.setError s.current .eintr).signals s.current)
      (s.ctx s.current).sig (s.ctx s.current).sched (s.Delivering s.current) := hsame.symm ▸ h
  exact handleLoop_notices (s := s.withKernel { s.kernel.setError s.current .eintr with
    siginfoPool := s.kernel.siginfoPool + 1 }) hr (hsame.symm ▸ hp)

theorem afterSwitch_notices (h : s.Notices s.current) : s.afterSwitch.Notices s.current := by
  unfold afterSwitch
  split
  · next hp =>
    have hsignals : (s.kernel.modify s.current fun th => { th with
        stat := { th.stat with signalPending := false } }).signals s.current =
          { s.kernel.signals s.current with signalPending := false } := modify_signals_self
    rw [Notices, setCtx_kernel, withKernel_kernel, hsignals, setCtx_ctx_self]
    exact Noticed.enter h (Noticed.marked h hp).1 rfl true
  · next hp =>
    refine h.of_eq rfl (setCtx_field (·.sig) rfl) (fun _ hp' => absurd hp' hp) fun hdel => ?_
    exact hdel.same_calls fun x => setCtx_field (·.call) rfl

/-- A step of the machine by which no signal is delivered to the thread between its queueing itself
in a wait list and its being switched out. -/
theorem Notices.step (h : s.kernel.state t = .close ∨ s.Notices t) (hs : SchedOk s)
    (hh : HandlingOk t s) (hstep : s.step p i = some s')
    (hwait : i = .kern → (∃ n, (s.ctx s.current).call = some (.kill t n .deliver)) →
      s.kernel.state t = .suspend → (s.ctx t).sched = .switched) :
    s'.kernel.state t = .close ∨ s'.Notices t := by
  have hk := hs.kernel
  rcases h with hc | h
  · exact .inl (close_of_step hk hstep hc)
  by_cases hopen : s.kernel.state t = .close
  · exact .inl (close_of_step hk hstep hopen)
  have hdel : (∀ x, s'.calls x = s.calls x) → s.Delivering t → s'.Delivering t :=
    fun hcalls => .same_calls fun x => congrArg Prod.fst (hcalls x)
  have hothers : s'.view t = s.view t → (∀ x, s'.calls x = s.calls x) → s'.Notices t :=
    fun hview hcalls => by
      have hctx : s'.ctx t = s.ctx t := congrArg ThreadView.ctx hview
      refine h.of_eq (signals_of_view (congrArg ThreadView.toView hview)) (by rw [hctx])
        (fun hsched _ => by rw [hctx, hsched]) (hdel hcalls)
  cases i with
  | tick due =>
    have hcalls := (step_tick hstep).1
    simp only [Machine.step] at hstep
    split at hstep
    · cases hstep
      obtain ⟨hsignals, hctx⟩ :=
        (rtTickIncrease_quiet : (s.rtTickIncrease p due).kernel.signals = s.kernel.signals ∧ _)
      exact .inr (h.of_eq (congrFun hsignals t) (hctx t).1
        (fun hsched _ => (hctx t).2.1.trans hsched) (hdel hcalls))
    · cases hstep
  | act a =>
    simp only [Machine.step] at hstep
    split at hstep
    · unfold stepAct at hstep
      split at hstep
      · next b m hsig =>
        split at hstep
        · next ha =>
          cases hstep
          refine h.perform hs hh hopen (.inr ?_) (.inr ⟨b, m, hsig⟩)
          exact (perform_inHandler_ctx ha.1)
        · cases hstep
      · split at hstep
        · next ha =>
          cases hstep
          refine h.perform hs hh hopen (.inl (by simp [ha.1.2.2])) (.inl ⟨ha.1.1, ?_⟩)
          rw [ha.1.2.1]
          simp
        · cases hstep
    · cases hstep
  | hret =>
    have hcalls := (step_hret hstep).1
    simp only [Machine.step] at hstep
    split at hstep
    · unfold stepHret at hstep
      split at hstep
      · next b m hsig =>
        cases hstep
        refine .inr ?_
        by_cases ht : t = s.current
        · subst ht
          exact returnHandler_notices h hsig
        · exact hothers (returnHandler_view ht) hcalls
      · cases hstep
    · cases hstep
  | kern =>
    have hstep' := hstep
    simp only [Machine.step] at hstep
    split at hstep
    · unfold stepKern at hstep
      split at hstep
      · next b _ _ hsig =>
        cases hstep
        refine .inr ?_
        by_cases ht : t = s.current
        · subst ht
          exact enterHandleSig_notices h hsig
        · exact hothers (enterHandleSig_view ht) fun _ => enterHandleSig_calls
      · cases hstep
      · next hsig hsched =>
        cases hstep
        refine .inr ?_
        by_cases ht : t = s.current
        · subst ht
          refine h.of_eq (congrFun Kernel.rtSchedule_signals _) (by simp [callSchedule])
            (fun hsw _ => ?_) (hdel fun _ => callSchedule_calls)
          rw [hsched] at hsw
          cases hsw
        · exact hothers (callSchedule_view hk.ready ht) fun _ => callSchedule_calls
      · cases hstep
        refine .inr ?_
        by_cases ht : t = s.current
        · subst ht
          exact afterSwitch_notices h
        · exact hothers (afterSwitch_view ht) fun _ => afterSwitch_calls
      · next c hsig hsched hc =>
        cases hstep
        refine .inr ?_
        by_cases hkill : ∃ x n stage, c = .kill x n stage
        · obtain ⟨x, n, stage, rfl⟩ := hkill
          refine h.stepKill (hh.signals.resolve_left hopen) hsched hc ?_
          rintro rfl rfl
          exact hwait rfl ⟨n, hc⟩
        · have hquiet := stepCall_quiet (s := s) (p := p) fun x n stage heq =>
            hkill ⟨x, n, stage, heq⟩
          refine h.quiet hquiet (fun ht => ?_) (.of_call hquiet.call fun n heq => ?_)
          · subst ht
            exact Noticed.not_marked h (.inl (by simp [hsched]))
          · rw [hc] at heq
            exact hkill ⟨t, n, .deliver, Option.some.inj heq⟩
      · cases hstep
    · cases hstep

end Machine

end RobotVacuum
