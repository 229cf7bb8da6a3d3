import RobotVacuum.Machine.EventLoop

/-!
# What wakes a thread

A thread that waits for an event is woken by a statement or a timer that sends the event, and a
thread is closed by a statement that detaches it or by its own end. The idle thread is never
suspended.
-/

set_option linter.unusedSectionVars false

namespace RobotVacuum

open Kernel (ReadyQueueInv KernelOk Ranked Competing)

namespace Machine

variable {T E M B D V : Type} [DecidableEq T] [DecidableEq E] [DecidableEq M] [DecidableEq B]
  [DecidableEq D]

variable {s s' : Machine T E M B D V} {p : Platform T E M D} {t x : T} {e : E}
  {set : BitVec 32} {i : Label T E M B D V} {a : Act T E M B D V} {c : Call T E M B} {d : D}

/-! ### The flags of an event -/

/-- The step sends no event `e`. -/
structure Label.Unsent (p : Platform T E M D) (i : Label T E M B D V) (e : E) : Prop where
  act : ∀ set, i ≠ .act (.send e set)
  tick : ∀ due, i = .tick due → ∀ d ∈ due, (p.timeout d).1 ≠ e

theorem rtEventSend_event_of_ne {e' : E} (he : e ≠ e') :
    (s.rtEventSend e' set).1.event e = s.event e := by
  simp only [rtEventSend, grant, Function.update_of_ne he]

theorem perform_event (ha : ∀ set, a ≠ .send e set) : (s.perform p a).event e = s.event e := by
  cases a with
  | send e' set' =>
    have he : e ≠ e' := fun heq => ha set' (by rw [heq])
    simp only [perform]
    split
    · rfl
    · split <;> exact rtEventSend_event_of_ne he
  | recv e' set' option =>
    simp only [perform]
    split <;> rfl
  | release m =>
    simp only [perform]
    split <;> rfl
  | mbSend b v =>
    simp only [perform]
    split <;> rfl
  | unmask n =>
    simp only [perform, rtSignalUnmask]
    split <;> rfl
  | timerStart d | timerStop d | timerDetach d =>
    simp only [perform, setTimer]
    split <;> rfl
  | _ => rfl

theorem stepCall_event (h : s.event e = 0) : (s.stepCall p c).event e = 0 := by
  cases c with
  | recv e' set' option stage =>
    cases stage with
    | reset | ret => exact h
    | check =>
      simp only [stepCall, stepRecv]
      split <;> exact h
    | enter =>
      simp only [stepCall, stepRecv]
      split
      · exact h
      · simp only [takeFlags]
        split
        · by_cases he : e = e'
          · subst he
            rw [Function.update_self, h]
            simp
          · rw [Function.update_of_ne he, h]
        · exact h
      · exact h
  | take m stage =>
    cases stage <;> simp only [stepCall, stepTake] <;> (try split) <;> exact h
  | mbRecv b wait stage =>
    cases stage <;> simp only [stepCall, stepMbRecv] <;> (try split) <;> (try split) <;> exact h
  | kill y n stage =>
    cases stage <;> simp only [stepCall, stepKill, signalDeliver] <;> (try split) <;>
      (try split) <;> (try split) <;> (try split) <;> exact h

theorem handleLoop_event {b : Bool} : (s.handleLoop b).event = s.event := by
  simp only [handleLoop]
  split
  · split <;> rfl
  · rfl

/-- An event without flags gets none unless it is sent. -/
theorem event_zero_of_step (hstep : s.step p i = some s') (hi : i.Unsent p e)
    (h : s.event e = 0) : s'.event e = 0 := by
  cases i with
  | tick due =>
    simp only [Machine.step] at hstep
    split at hstep
    · cases hstep
      have hrun : ∀ (l : List D) (r : Machine T E M B D V), (∀ d ∈ l, (p.timeout d).1 ≠ e) →
          (l.foldl (rtTimerTimeout p) r).event e = r.event e := fun l => by
        induction l with
        | nil => exact fun _ _ => rfl
        | cons d l ih =>
          intro r hne
          rw [List.foldl_cons, ih _ fun x hx => hne x (List.mem_cons_of_mem _ hx)]
          have hd : e ≠ (p.timeout d).1 := (hne d List.mem_cons_self).symm
          simp only [rtTimerTimeout]
          split <;> exact rtEventSend_event_of_ne hd
      exact (hrun due _ (hi.tick due rfl)).trans h
    · cases hstep
  | act a =>
    simp only [Machine.step] at hstep
    split at hstep
    · obtain ⟨rfl, -⟩ := performed_of_stepAct hstep
      rw [perform_event fun set heq => hi.act set (by rw [heq])]
      exact h
    · cases hstep
  | hret =>
    simp only [Machine.step] at hstep
    split at hstep
    · unfold stepHret at hstep
      split at hstep
      · cases hstep
        exact (congrFun handleLoop_event e).trans h
      · cases hstep
    · cases hstep
  | kern =>
    simp only [Machine.step] at hstep
    split at hstep
    · unfold stepKern at hstep
      split at hstep <;> cases hstep
      · simp only [enterHandleSig]
        split
        · exact (congrFun handleLoop_event e).trans h
        · split <;> exact h
      · exact h
      · simp only [afterSwitch]
        split <;> exact h
      · exact stepCall_event h
    · cases hstep

/-! ### Granting an event -/

theorem rtEventSend_grants_of_notMem {e' : E} (ht : t ∉ s.kernel.queue (.wait (.event e'))) :
    (s.rtEventSend e' set).1.grants t = s.grants t := by
  have hnot : t ∉ (s.kernel.eventSendWalk (s.event e' ||| set)
      (s.kernel.queue (.wait (.event e')))).2.2.1 := fun hm => ht (Kernel.eventSendWalk_subset hm)
  simp only [rtEventSend, grant, if_neg hnot]

theorem perform_grants (ha : ∀ set, a ≠ .send e set)
    (hw : ∀ e', t ∈ s.kernel.queue (.wait (.event e')) → e' = e) :
    (s.perform p a).grants t = s.grants t := by
  cases a with
  | send e' set' =>
    have hnot : t ∉ s.kernel.queue (.wait (.event e')) := fun hm => ha set' (by rw [hw e' hm])
    simp only [perform]
    split
    · rfl
    · split <;> exact rtEventSend_grants_of_notMem hnot
  | recv e' set' option =>
    simp only [perform]
    split <;> rfl
  | release m =>
    simp only [perform]
    split <;> rfl
  | mbSend b v =>
    simp only [perform]
    split <;> rfl
  | unmask n =>
    simp only [perform, rtSignalUnmask]
    split <;> rfl
  | timerStart d | timerStop d | timerDetach d =>
    simp only [perform, setTimer]
    split <;> rfl
  | _ => rfl

theorem stepCall_grants (h : ∀ e set option, c ≠ .recv e set option .enter) :
    (s.stepCall p c).grants = s.grants := by
  cases c with
  | recv e' set' option stage =>
    cases stage with
    | reset | ret => rfl
    | check =>
      simp only [stepCall, stepRecv]
      split <;> rfl
    | enter => exact absurd rfl (h e' set' option)
  | take m stage =>
    cases stage <;> simp only [stepCall, stepTake] <;> (try split) <;> rfl
  | mbRecv b wait stage =>
    cases stage <;> simp only [stepCall, stepMbRecv] <;> (try split) <;> (try split) <;> rfl
  | kill y n stage => exact stepKill_grants

theorem handleLoop_grants {b : Bool} : (s.handleLoop b).grants = s.grants := by
  simp only [handleLoop]
  split
  · split <;> rfl
  · rfl

/-- A thread that waits for an event is granted its flags only if the event is sent. -/
theorem grants_of_step (hstep : s.step p i = some s') (hi : i.Unsent p e)
    (hw : ∀ e', t ∈ s.kernel.queue (.wait (.event e')) → e' = e)
    (hc : ∀ e set option, (s.ctx t).call ≠ some (.recv e set option .enter)) :
    s'.grants t = s.grants t := by
  cases i with
  | tick due =>
    simp only [Machine.step] at hstep
    split at hstep
    · cases hstep
      have hrun : ∀ (l : List D) (r : Machine T E M B D V), (∀ d ∈ l, (p.timeout d).1 ≠ e) →
          (∀ e', t ∈ r.kernel.queue (.wait (.event e')) → e' = e) →
          (l.foldl (rtTimerTimeout p) r).grants t = r.grants t := fun l => by
        induction l with
        | nil => exact fun _ _ _ => rfl
        | cons d l ih =>
          intro r hne hw
          have hd : t ∉ r.kernel.queue (.wait (.event (p.timeout d).1)) := fun hm =>
            hne d List.mem_cons_self (hw _ hm)
          rw [List.foldl_cons, ih _ (fun x hx => hne x (List.mem_cons_of_mem _ hx)) fun e' hm =>
            hw e' ((rtTimerTimeout_shrinks .refl).waits _ _ hm)]
          simp only [rtTimerTimeout]
          split <;> exact rtEventSend_grants_of_notMem hd
      exact hrun due _ (hi.tick due rfl) fun e' hm =>
        hw e' (Kernel.Shrinks.refl.rtTickCharge.waits _ _ hm)
    · cases hstep
  | act a =>
    simp only [Machine.step] at hstep
    split at hstep
    · obtain ⟨rfl, -⟩ := performed_of_stepAct hstep
      exact perform_grants (fun set heq => hi.act set (by rw [heq])) hw
    · cases hstep
  | hret =>
    simp only [Machine.step] at hstep
    split at hstep
    · unfold stepHret at hstep
      split at hstep
      · cases hstep
        exact congrFun handleLoop_grants t
      · cases hstep
    · cases hstep
  | kern =>
    simp only [Machine.step] at hstep
    split at hstep
    · unfold stepKern at hstep
      split at hstep <;> cases hstep
      · simp only [enterHandleSig]
        split
        · exact congrFun handleLoop_grants t
        · split <;> rfl
      · rfl
      · simp only [afterSwitch]
        split <;> rfl
      · next c _ _ hcall =>
        by_cases hrecv : ∃ e set option, c = .recv e set option .enter
        · obtain ⟨e', set', option, rfl⟩ := hrecv
          have ht : t ≠ s.current := fun ht => hc e' set' option (ht ▸ hcall)
          simp only [stepCall, stepRecv]
          split
          · rfl
          · exact Function.update_of_ne ht _ _
          · rfl
        · simp only [not_exists] at hrecv
          exact congrFun (stepCall_grants hrecv) t
    · cases hstep

/-- Sending an event for which one thread waits, with flags it waits for. -/
theorem rtEventSend_single (hq : s.kernel.queue (.wait (.event e)) = [t])
    (hs : Kernel.eventStatus (s.kernel.thread t).eventInfo (s.kernel.thread t).eventSet
      (s.event e ||| set) = some true) :
    s.grants t < (s.rtEventSend e set).1.grants t ∧ (s.rtEventSend e set).1.event e =
      if (s.kernel.thread t).eventInfo.clear then
        (s.event e ||| set) &&& ~~~Kernel.eventReceived (s.kernel.thread t) (s.event e ||| set)
      else s.event e ||| set := by
  constructor
  · simp [rtEventSend, grant, hq, Kernel.eventSendWalk, hs]
  · simp [rtEventSend, grant, hq, Kernel.eventSendWalk, hs]

/-! ### Timers -/

theorem rtTickIncrease_timer {due : List D} : (s.rtTickIncrease p due).timer = s.timer := by
  have hrun : ∀ r : Machine T E M B D V, (due.foldl (rtTimerTimeout p) r).timer = r.timer := by
    induction due with
    | nil => exact fun _ => rfl
    | cons d due ih =>
      intro r
      rw [List.foldl_cons, ih]
      simp only [rtTimerTimeout]
      split <;> rfl
  exact hrun _

theorem stepCall_timer : (s.stepCall p c).timer = s.timer := by
  cases c with
  | recv e set option stage =>
    cases stage <;> simp only [stepCall, stepRecv]
    · rfl
    · split <;> rfl
    · split <;> rfl
    · rfl
  | take m stage =>
    cases stage <;> simp only [stepCall, stepTake] <;> (try split) <;> rfl
  | mbRecv b wait stage =>
    cases stage <;> simp only [stepCall, stepMbRecv] <;> (try split) <;> (try split) <;> rfl
  | kill t n stage =>
    cases stage <;> simp only [stepCall, stepKill, signalDeliver] <;> (try split) <;>
      (try split) <;> (try split) <;> (try split) <;> rfl

/-- What a statement makes of a timer. -/
def Act.writeTimer (d : D) (x : RtTimer) : Act T E M B D V → RtTimer
  | .timerStart y => if d = y ∧ x.attached then { activated := true } else x
  | .timerStop y => if d = y ∧ x.attached then { activated := false } else x
  | .timerDetach y => if d = y ∧ x.attached then { attached := false, activated := false } else x
  | _ => x

theorem setTimer_timer {d' : D} {y : RtTimer} : (s.setTimer d' y).timer d =
    if d = d' ∧ (s.timer d).attached then y else s.timer d := by
  unfold setTimer
  by_cases hd : d = d'
  · subst hd
    by_cases ha : (s.timer d).attached = true
    · simp [ha]
    · simp [ha, withKernel]
  · rw [if_neg fun (h : d = d' ∧ _) => hd h.1]
    split
    · rfl
    · exact Function.update_of_ne hd _ _

theorem perform_timer : (s.perform p a).timer d = a.writeTimer d (s.timer d) := by
  cases a with
  | timerStart y | timerStop y | timerDetach y => exact setTimer_timer
  | recv e set option =>
    simp only [perform]
    split <;> rfl
  | send e set =>
    simp only [perform]
    split
    · rfl
    · split <;> rfl
  | release m =>
    simp only [perform]
    split <;> rfl
  | mbSend b v =>
    simp only [perform]
    split <;> rfl
  | unmask n =>
    simp only [perform, rtSignalUnmask]
    split <;> rfl
  | _ => rfl

/-- Only statements write a timer. -/
theorem timer_of_step (hstep : s.step p i = some s') : s'.timer d = s.timer d ∨
    ∃ a, i = .act a ∧ s'.timer d = a.writeTimer d (s.timer d) := by
  have hloop : ∀ (r : Machine T E M B D V) b, (r.handleLoop b).timer = r.timer := fun r b => by
    simp only [handleLoop]
    split
    · split <;> rfl
    · rfl
  cases i with
  | tick due =>
    simp only [Machine.step] at hstep
    split at hstep
    · cases hstep
      exact .inl (congrFun rtTickIncrease_timer d)
    · cases hstep
  | act a =>
    simp only [Machine.step] at hstep
    split at hstep
    · obtain ⟨rfl, -⟩ := performed_of_stepAct hstep
      exact .inr ⟨a, rfl, perform_timer⟩
    · cases hstep
  | hret =>
    simp only [Machine.step] at hstep
    split at hstep
    · unfold stepHret at hstep
      split at hstep
      · cases hstep
        exact .inl (congrFun (hloop _ _) d)
      · cases hstep
    · cases hstep
  | kern =>
    simp only [Machine.step] at hstep
    split at hstep
    · unfold stepKern at hstep
      split at hstep <;> cases hstep <;> refine .inl (congrFun ?_ d)
      · simp only [enterHandleSig]
        split
        · exact hloop _ _
        · split <;> rfl
      · rfl
      · simp only [afterSwitch]
        split <;> rfl
      · exact stepCall_timer
    · cases hstep

/-- Only `rt_timer_start` activates a timer. -/
theorem activated_of_step (hstep : s.step p i = some s') (hi : i ≠ .act (.timerStart d))
    (h : (s.timer d).activated = false) : (s'.timer d).activated = false := by
  rcases timer_of_step (d := d) hstep with heq | ⟨a, rfl, heq⟩
  · rw [heq, h]
  · rw [heq]
    cases a with
    | timerStart y =>
      have hy : d ≠ y := fun hy => hi (by rw [hy])
      simpa [Act.writeTimer, hy] using h
    | timerStop y | timerDetach y =>
      simp only [Act.writeTimer]
      split
      · rfl
      · exact h
    | _ => exact h

/-! ### Who closes a thread -/

section Closing

variable {k k' : Kernel T (WaitQueue E M B)}

theorem closed_of_view (h : k'.view t = k.view t) (hc : k'.state t = .close) :
    k.state t = .close := by
  have hstate : (k'.view t).thread.stat.state = .close := ThreadState.phase_eq_close.mpr hc
  rw [h] at hstate
  exact ThreadState.phase_eq_close.mp hstate

theorem closed_of_write {th : Thread} (hth : k'.thread = Function.update k.thread x th)
    (hs : th.stat.state = k.state x) (hc : k'.state t = .close) : k.state t = .close := by
  unfold Kernel.state at hc hs ⊢
  rw [hth] at hc
  by_cases ht : t = x
  · rwa [ht, Function.update_self, hs, ← ht] at hc
  · rwa [Function.update_of_ne ht] at hc

theorem closed_of_resume (hk : ReadyQueueInv k) (hc : (k.rtThreadResume x).state t = .close) :
    k.state t = .close := by
  have hview := Kernel.rtThreadResume_view (t := t) (x := x) hk
  split at hview
  · have hstate : ((k.rtThreadResume x).view t).thread.stat.state = .close :=
      ThreadState.phase_eq_close.mpr hc
    rw [hview] at hstate
    cases hstate
  · exact closed_of_view hview hc

theorem closed_of_send {e : E} (hk : KernelOk s.kernel)
    (hc : (s.rtEventSend e set).1.kernel.state t = .close) : s.kernel.state t = .close := by
  have hwalk := Kernel.eventSendWalk_view (t := t) (k := s.kernel) (s.event e ||| set)
    (s.kernel.queue (.wait (.event e))) hk.ready (fun x hx => (waiting hk.ready hk.attached hx).1)
    (fun x hx => (waiting hk.ready hk.attached hx).2) (hk.ready.table.proper.nodup _)
  by_cases hm : t ∈ (s.kernel.eventSendWalk (s.event e ||| set)
      (s.kernel.queue (.wait (.event e)))).2.2.1
  · obtain ⟨received, hr⟩ := hwalk.2 hm
    have hstate : ((s.rtEventSend e set).1.kernel.view t).thread.stat.state = .close :=
      ThreadState.phase_eq_close.mpr hc
    have heq : (s.rtEventSend e set).1.kernel.view t = _ := hr
    rw [heq] at hstate
    cases hstate
  · exact closed_of_view (hwalk.1 hm) hc

/-- A statement of another thread that does not detach the thread does not close it. -/
theorem closed_of_perform (hk : KernelOk s.kernel) (ht : t ≠ s.current) (ha : a ≠ .detach t)
    (hc : (s.perform p a).kernel.state t = .close) : s.kernel.state t = .close := by
  have hr := hk.ready
  cases a with
  | recv e set option =>
    simp only [perform] at hc
    split at hc <;> exact hc
  | send e set =>
    simp only [perform] at hc
    split at hc
    · exact hc
    · split at hc <;> exact closed_of_send hk hc
  | release m =>
    have hrel : (s.kernel.rtMutexRelease (s.mutex m) (.mutex m) (p.originalAddr m)).1.state t =
        .close := by
      simp only [perform] at hc
      split at hc <;> exact hc
    rcases Kernel.rtMutexRelease_view (m := s.mutex m) (q := .mutex m) (a := p.originalAddr m) hr
      ht with heq | ⟨-, -, heq⟩
    · exact closed_of_view heq hrel
    · have hstate := ThreadState.phase_eq_close.mpr hrel
      have hview : ((s.kernel.rtMutexRelease (s.mutex m) (.mutex m) (p.originalAddr m)).1.view
        t).thread.stat.state = .close := hstate
      rw [heq] at hview
      cases hview
  | mbSend b v =>
    simp only [perform] at hc
    split at hc
    · exact closed_of_resume hr hc
    · exact hc
  | mask n => exact closed_of_write (by rfl) (by rfl) hc
  | unmask n =>
    simp only [perform, rtSignalUnmask] at hc
    split at hc <;> exact closed_of_write (by rfl) (by rfl) hc
  | control x arg => exact closed_of_view (Kernel.rtThreadControl_view hr) hc
  | setPreemptableFlag x b => exact closed_of_write (by rfl) (by rfl) hc
  | startup x =>
    have hstart : (s.kernel.rtThreadStartupQueue x).state t = .close := hc
    by_cases hx : t = x
    · subst hx
      by_cases hs : s.kernel.state t = .init
      · have hview := Kernel.rtThreadStartupQueue_view hr hs (hk.attached t (by simp [hs])).isThread
        have hstate : ((s.kernel.rtThreadStartupQueue t).view t).thread.stat.state = .close :=
          ThreadState.phase_eq_close.mpr hstart
        rw [hview] at hstate
        cases hstate
      · rwa [Kernel.rtThreadStartupQueue, if_pos hs] at hstart
    · exact closed_of_view (Kernel.rtThreadStartupQueue_view_of_ne hr hx) hstart
  | detach x =>
    have hx : t ≠ x := fun hx => ha (by rw [hx])
    exact closed_of_view (Kernel.rtThreadDetach_view_of_ne hr hx) hc
  | exit => exact closed_of_view (Kernel.threadExit_view_of_ne hr ht) hc
  | timerStart d | timerStop d | timerDetach d =>
    simp only [perform, setTimer] at hc
    split at hc <;> exact hc
  | setTaskStarted n | setTaskEnded => exact closed_of_write (by rfl) (by rfl) hc
  | _ => exact hc

theorem closed_of_stepCall (hk : KernelOk s.kernel) (ht : t ≠ s.current)
    (hc : (s.stepCall p c).kernel.state t = .close) : s.kernel.state t = .close := by
  have hview : ∀ {r : Machine T E M B D V}, r.view t = s.view t → r.kernel.state t = .close →
      s.kernel.state t = .close := fun h => closed_of_view (congrArg ThreadView.toView h)
  cases c with
  | recv e set option stage => exact hview (stepRecv_view hk.ready ht) hc
  | take m stage => exact hview (stepTake_view hk.ready ht) hc
  | mbRecv b wait stage =>
    cases stage with
    | check =>
      simp only [stepCall, stepMbRecv] at hc
      split at hc <;> exact hc
    | enter =>
      simp only [stepCall, stepMbRecv] at hc
      split at hc
      · split at hc
        · exact hc
        · refine closed_of_view ?_ hc
          simp only [reschedule_kernel, setCall_kernel, withKernel_kernel]
          rw [Kernel.ipcListSuspend_view_of_ne _ _ hk.ready.setError ht,
            Kernel.setError_view_of_ne ht]
      · split at hc
        · exact hc
        · exact closed_of_resume hk.ready hc
  | kill x n stage =>
    cases stage with
    | check | alloc =>
      simp only [stepCall, stepKill] at hc
      split at hc <;> exact hc
    | enqueue => exact closed_of_write (by rfl) (by rfl) hc
    | deliver =>
      simp only [stepCall, stepKill, signalDeliver] at hc
      split at hc
      · exact hc
      · split at hc
        · exact closed_of_resume (x := x) hk.ready (closed_of_write (x := x) (by rfl) (by rfl) hc)
        · split at hc
          · exact closed_of_write (x := x) (by rfl) (by rfl) hc
          · split at hc
            · exact closed_of_write (x := x) (by rfl) (by rfl) hc
            · exact hc

/-- **A thread is closed by a statement that detaches it**, or by a step of its own. -/
theorem closed_of_step (hk : KernelOk s.kernel) (hstep : s.step p i = some s')
    (hi : t ≠ s.current ∨ ∃ due, i = .tick due) (hdetach : i ≠ .act (.detach t))
    (hc : s'.kernel.state t = .close) : s.kernel.state t = .close := by
  cases i with
  | tick due =>
    simp only [Machine.step] at hstep
    split at hstep
    · cases hstep
      have hrun : ∀ (l : List D) (r : Machine T E M B D V), KernelOk r.kernel →
          (l.foldl (rtTimerTimeout p) r).kernel.state t = .close → r.kernel.state t = .close :=
        fun l => by
        induction l with
        | nil => exact fun _ _ => id
        | cons d l ih =>
          intro r hr hc
          have hone := ih _ (rtTimerTimeout_kernelOk hr d) hc
          simp only [rtTimerTimeout] at hone
          split at hone
          · exact closed_of_send hr (closed_of_view hr.ready.eventSendWalk.rtSchedule_view hone)
          · exact closed_of_send hr hone
      exact closed_of_view (Kernel.rtTickCharge_view hk.ready) (hrun due _ hk.rtTickCharge hc)
    · cases hstep
  | act a =>
    have ht := hi.resolve_right (by simp)
    simp only [Machine.step] at hstep
    split at hstep
    · obtain ⟨rfl, -⟩ := performed_of_stepAct hstep
      exact closed_of_perform hk ht (fun ha => hdetach (by rw [ha])) hc
    · cases hstep
  | hret =>
    have ht := hi.resolve_right (by simp)
    simp only [Machine.step] at hstep
    split at hstep
    · unfold stepHret at hstep
      split at hstep
      · cases hstep
        exact closed_of_view (congrArg ThreadView.toView (returnHandler_view ht)) hc
      · cases hstep
    · cases hstep
  | kern =>
    have ht := hi.resolve_right (by simp)
    simp only [Machine.step] at hstep
    split at hstep
    · unfold stepKern at hstep
      split at hstep <;> cases hstep
      · exact closed_of_view (congrArg ThreadView.toView (enterHandleSig_view ht)) hc
      · exact closed_of_view (congrArg ThreadView.toView (callSchedule_view hk.ready ht)) hc
      · exact closed_of_view (congrArg ThreadView.toView (afterSwitch_view ht)) hc
      · exact closed_of_stepCall hk ht hc
    · cases hstep

end Closing

/-! ### The idle thread -/

/-- The idle thread is ready, outside the kernel, and has all signals blocked. -/
structure Idle (s : Machine T E M B D V) (t : T) : Prop where
  ready : Competing s.kernel t
  mask : ∀ n, (s.view t).thread.sigMask n = false
  user : (s.ctx t).sig = .none ∧ (s.ctx t).sched = .none ∧ (s.ctx t).call = none

/-- Nothing disturbs a ready thread with all signals blocked, unless it is closed. -/
theorem idle_of_disturbances {owns : M → Prop} {v v' : ThreadView T E M B V}
    (hd : Relation.ReflTransGen (ThreadView.Disturbed owns) v v') (hopen : v'.state ≠ .close)
    (hready : v.state = .ready) (hmask : ∀ n, v.thread.sigMask n = false) :
    v'.state = .ready ∧ (∀ n, v'.thread.sigMask n = false) ∧ v'.ctx = v.ctx := by
  induction hd with
  | refl => exact ⟨hready, hmask, rfl⟩
  | tail _ hlast ih =>
    obtain ⟨hr, hm, hctx⟩ := ih fun hc => hopen (close_of_disturbances (.single hlast) hc)
    cases hlast with
    | granted _ hs | woken hs | signalled hs | started hs =>
      rw [hr] at hs
      cases hs
    | enqueued n => exact ⟨hr, hm, hctx⟩
    | framed _ hdel =>
      simp [Thread.deliverable, hm] at hdel
    | flagged b => exact ⟨hr, hm, hctx⟩
    | detached _ hc => exact absurd hc hopen

theorem Idle.disturbed {owns : M → Prop} (h : s.Idle t)
    (hd : Relation.ReflTransGen (ThreadView.Disturbed owns) (s.view t) (s'.view t))
    (hopen : s'.kernel.state t ≠ .close) : s'.Idle t := by
  have hopen' : (s'.view t).state ≠ .close := fun hc => hopen (ThreadState.phase_eq_close.mp hc)
  obtain ⟨hready, hmask, hctx⟩ := idle_of_disturbances hd hopen'
    (ThreadState.phase_eq_ready.mpr h.ready) h.mask
  refine ⟨ThreadState.phase_eq_ready.mp hready, hmask, ?_⟩
  have hctx' : s'.ctx t = s.ctx t := hctx
  rw [hctx']
  exact h.user

/-- The idle thread stays ready. -/
theorem Idle.step (h : s.Idle p.idle) (hk : KernelOk s.kernel) (hstep : s.step p i = some s') :
    s'.Idle p.idle := by
  have hopen : s.kernel.state p.idle ≠ .close := by
    intro hc
    rcases h.ready with hr | hr <;> rw [hc] at hr <;> cases hr
  have hdetach : i ≠ .act (.detach p.idle) := by
    rintro rfl
    simp only [Machine.step] at hstep
    split at hstep
    · obtain ⟨-, hperm, -⟩ := performed_of_stepAct hstep
      exact hperm.2.2 rfl
    · cases hstep
  by_cases hcur : p.idle = s.current
  · obtain ⟨hsig, hsched, hcall⟩ := h.user
    rw [hcur] at hsig hsched hcall
    cases i with
    | act a =>
      simp only [Machine.step] at hstep
      split at hstep
      · obtain ⟨rfl, hperm, -⟩ := performed_of_stepAct hstep
        rw [← hcur] at hperm
        cases a with
        | «local» => exact h
        | detach x => exact absurd rfl hperm.1
        | _ => exact absurd rfl hperm
      · cases hstep
    | hret =>
      simp only [Machine.step] at hstep
      split at hstep
      · unfold stepHret at hstep
        rw [hsig] at hstep
        cases hstep
      · cases hstep
    | kern =>
      simp only [Machine.step] at hstep
      split at hstep
      · unfold stepKern at hstep
        rw [hsig, hsched, hcall] at hstep
        cases hstep
      · cases hstep
    | tick due =>
      have hopen' : s'.kernel.state p.idle ≠ .close := fun hc =>
        hopen (closed_of_step hk hstep (.inr ⟨due, rfl⟩) hdetach hc)
      simp only [Machine.step] at hstep
      split at hstep
      · cases hstep
        have hd : Relation.ReflTransGen (ThreadView.Disturbed fun _ : M => True)
            (s.view p.idle) ((s.rtTickIncrease p due).view p.idle) :=
          rtTickIncrease_view hk.ready hk.attached due
        exact h.disturbed hd hopen'
      · cases hstep
  · exact h.disturbed (step_disturbed hstep hk.ready hk.attached hcur) fun hc =>
      hopen (closed_of_step hk hstep (.inl hcur) hdetach hc)

end Machine

/-! ### Waiting for an event that is not sent -/

section Loops

open Machine

variable {T E M B D V : Type} [DecidableEq T] [DecidableEq E] [DecidableEq M] [DecidableEq B]
  [DecidableEq D]

variable {s s' : Machine T E M B D V} {p : Platform T E M D} {t : T} {e : E} {set : BitVec 32}
  {option : EventOption} {st st' : LoopStage} {i : Label T E M B D V} {recv test : Prop}

/-- How a thread moves on in its loop while nobody sends the event. -/
inductive Passes : LoopStage → LoopStage → Prop
  | refl (st : LoopStage) : Passes st st
  | started : Passes .new .user
  | waits : Passes .entering .waiting
  | returns : Passes .woken .returned

/-- A thread finds no flags, and is granted none, unless the event is sent. -/
theorem Looping.passes (h : Looping t e set option st s) (hstep : s.step p i = some s')
    (hi : i.Unsent p e) (hevent : s.event e = 0) (hset : set ≠ 0) (hand : option.and = true)
    (hadv : Advance s s' t e set option st st') : Passes st st' := by
  cases hadv with
  | stays => exact .refl _
  | started => exact .started
  | waits => exact .waits
  | returns => exact .returns
  | takes _ htrue =>
    have hzero : set &&& 0 = 0 := BitVec.and_zero
    simp only [Kernel.eventStatus, hand, hevent, if_true, Option.some.injEq, decide_eq_true_eq,
      hzero] at htrue
    exact absurd htrue.symm hset
  | granted hone =>
    obtain ⟨-, -, honly, hcall, -⟩ := h.loop.stage
    have hcall : (s.ctx t).call = some (.recv e set option .check) := hcall
    have heq := grants_of_step (t := t) hstep hi (fun e' hm => WaitQueue.event.inj (honly _ hm))
      fun e' set' option' hc => by simp [hcall] at hc
    omega

/-- Where a thread stands in its program at a stage: it has not called `rt_event_recv` yet, or it
tests the result. -/
structure LoopStage.At (st : LoopStage) (recv test : Prop) : Prop where
  recv : st = .new → recv
  test : test ↔ st ≠ .new ∧ st ≠ .user

/-- The thread was granted no event since it last called `rt_event_recv`. -/
structure LoopStage.Unserved (st : LoopStage) (recv : Prop) : Prop where
  woken : st ≠ .woken
  returned : st ≠ .returned
  user : st = .user → recv

theorem LoopStage.At.advance (h : st.At recv test) (hadv : Advance s s' t e set option st st') :
    st'.At recv test := by
  have htest := h.test
  cases hadv with
  | stays => exact h
  | started => exact ⟨fun h => (by cases h), by simpa using htest⟩
  | waits | takes | granted | returns => exact ⟨fun h => (by cases h), by simpa using htest⟩

theorem LoopStage.Unserved.passes (h : st.Unserved recv) (hat : st.At recv test)
    (hp : Passes st st') : st'.Unserved recv := by
  cases hp with
  | refl => exact h
  | started => exact ⟨fun h => (by cases h), fun h => (by cases h), fun _ => hat.recv rfl⟩
  | waits => exact ⟨fun h => (by cases h), fun h => (by cases h), fun h => (by cases h)⟩
  | returns => exact absurd rfl h.woken

end Loops

end RobotVacuum
