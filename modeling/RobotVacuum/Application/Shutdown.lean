import RobotVacuum.Application.Handler
import RobotVacuum.Application.Homing
import RobotVacuum.Machine.Waking

/-!
# Shutdown

`closeAllTasks` stops the timers, closes the six tasks one after the other and detaches the timers.
A closed task stays closed and executes nothing, so from then on the robot does nothing any more
(`shutdown_silent`).
-/

set_option linter.unusedSectionVars false

namespace RobotVacuum

open Machine (SchedOk)

/-! ### Detached timers -/

namespace Machine

variable {T E M B D V : Type} [DecidableEq T] [DecidableEq E] [DecidableEq M] [DecidableEq B]
  [DecidableEq D]

variable {s s' : Machine T E M B D V} {p : Platform T E M D} {d : D} {i : Label T E M B D V}

theorem setTimer_detach :
    ((s.setTimer d { attached := false, activated := false }).timer d).attached = false := by
  rw [setTimer_timer]
  split
  · rfl
  · next hoff => simpa using hoff

/-- A timer that is detached stays so. -/
theorem detached_of_step (hstep : s.step p i = some s') (h : (s.timer d).attached = false) :
    (s'.timer d).attached = false := by
  rcases timer_of_step (d := d) hstep with heq | ⟨a, -, heq⟩
  · rw [heq, h]
  · rw [heq]
    cases a with
    | timerStart y | timerStop y | timerDetach y => simp [Act.writeTimer, h]
    | _ => exact h

end Machine

/-! ### How far the system is closed -/

namespace SystemPc

/-- The tasks `closeAllTasks` has still to close. -/
def toClose : SystemPc → Option (List Task)
  | .closeTask rest => some rest
  | .detach t rest => some (t :: rest)
  | .timerDetach _ | .control | .preemptableFlag | .exit => some []
  | _ => none

/-- The timers `closeAllTasks` has still to detach. -/
def toDetach : SystemPc → Option (List TimerId)
  | .timerDetach rest => some rest
  | .control | .preemptableFlag | .exit => some []
  | _ => none

theorem toClose_of_toDetach {pc : SystemPc} (h : pc.toDetach ≠ none) : pc.toClose = some [] := by
  cases pc <;> first | rfl | exact absurd rfl h

end SystemPc

namespace App

variable {a : Addresses} {s s' : App} {i : Label} {t : Task} {input : Input}

/-- What is closed and detached so far. After a fault nothing goes on. -/
structure ShutdownInv (s : App) : Prop where
  closed : ∀ rest, s.systemPc.toClose = some rest → s.systemPc.toDetach ≠ none ∨
    s.machine.kernel.fault = none → ∀ t ∈ closeOrder, t ∉ rest → s.machine.kernel.state t = .close
  detached : ∀ rest, s.systemPc.toDetach = some rest → ∀ d, d ∉ rest →
    (s.machine.timer d).attached = false

/-- A statement of the system task that gets further in `closeAllTasks`. -/
theorem systemStatement_toClose {rest : List Task}
    (h : s.systemStatement.2.systemPc.toClose = some rest) :
    rest = closeOrder ∨ s.systemPc.toClose = some rest ∨
      ∃ t, s.systemPc.toClose = some (t :: rest) ∧
        ((s.machine.kernel.thread t).stat.byte = ThreadState.code .close ∨
          s.systemStatement.1 = .detach t) := by
  unfold systemStatement at h ⊢
  split at h <;> (try split at h) <;>
    simp_all [SystemPc.toClose]

/-- A statement of the system task that gets further in detaching the timers. -/
theorem systemStatement_toDetach {rest : List TimerId}
    (h : s.systemStatement.2.systemPc.toDetach = some rest) :
    rest = timers ∨ s.systemPc.toDetach = some rest ∨ ∃ d,
      s.systemPc.toDetach = some (d :: rest) ∧ s.systemStatement.1 = .timerDetach d := by
  unfold systemStatement at h ⊢
  split at h <;> (try split at h) <;> simp_all [SystemPc.toDetach]

/-- When the system task begins to detach the timers all tasks are closed. -/
theorem systemStatement_toDetach_ne_none (h : s.systemStatement.2.systemPc.toDetach ≠ none) :
    s.systemPc.toDetach ≠ none ∨ s.systemPc.toClose = some [] ∧
      s.systemStatement.2.systemPc.toClose = some [] := by
  unfold systemStatement at h ⊢
  split at h <;> (try split at h) <;> simp_all [SystemPc.toDetach, SystemPc.toClose]

theorem statement_systemPc (ht : t ≠ .tsystem) :
    (s.statement input t).2.systemPc = s.systemPc := by
  cases t with
  | main =>
    obtain ⟨_, _, heq⟩ := mainStatement_owns (s := s)
    simp [statement, heq]
  | tsystem => exact absurd rfl ht
  | obstacleControl =>
    obtain ⟨_, _, heq, -⟩ := obstacleStatement_owns s input
    simp [statement, heq]
  | movementStop =>
    obtain ⟨_, _, heq, -⟩ := stopStatement_owns (s := s)
    simp [statement, heq]
  | movementControl =>
    obtain ⟨_, _, _, _, _, _, _, _, _, _, heq⟩ := movementStatement_owns (s := s)
    simp [statement, heq]
  | checkResources =>
    obtain ⟨_, _, heq, -⟩ := resourcesStatement_owns (s := s)
    simp [statement, heq]
  | acousticSignals =>
    obtain ⟨_, _, heq, -⟩ := acousticStatement_owns (s := s)
    simp [statement, heq]
  | brushesSpeed =>
    obtain ⟨_, _, _, _, heq, -⟩ := brushesStatement_owns s input
    simp [statement, heq]
  | idle => rfl

/-- Detaching a thread closes it, or fails. -/
theorem rtThreadDetach_state {T Q : Type} [DecidableEq T] [DecidableEq Q] {k : Kernel T Q} {x : T}
    (h : (k.rtThreadDetach x).fault = none) : (k.rtThreadDetach x).state x = .close := by
  unfold Kernel.rtThreadDetach at h ⊢
  split
  · next hobject =>
    rw [if_pos hobject] at h
    cases h
  · split
    · next hc => exact hc
    · rw [(Kernel.SchedEq.detachObject _ x).state, Kernel.close, Kernel.modify_state, if_pos rfl]
      rfl

/-- Only a machine without a fault takes a step. -/
theorem fault_of_step {m : RobotMachine}
    {l : Machine.Label Task EventId MutexId MailboxId TimerId String}
    (h : s.machine.step (platform a) l = some m) : s.machine.kernel.fault = none := by
  cases l <;> simp only [Machine.step] at h <;> split at h <;>
    first
    | exact (by assumption : _ ∧ _).1
    | cases h

/-- A step by which the system task does not go on. -/
theorem ShutdownInv.frame (h : ShutdownInv s) (hk : Kernel.KernelOk s.machine.kernel)
    {m : RobotMachine} {l : Machine.Label Task EventId MutexId MailboxId TimerId String}
    (hstep : s.machine.step (platform a) l = some m) (hpc : s'.systemPc = s.systemPc) :
    ShutdownInv (s'.withMachine m) where
  closed rest hrest _ t ht hnot := by
    have hc := h.closed rest (hpc ▸ hrest) (.inr (fault_of_step hstep)) t ht hnot
    exact Machine.close_of_step hk hstep hc
  detached rest hrest d hd :=
    Machine.detached_of_step hstep (h.detached rest (hpc ▸ hrest) d hd)

/-- A statement of the system task keeps the closed tasks closed, and closes the task it passes. -/
theorem ShutdownInv.closed_of_own (h : ShutdownInv s) (hk : Kernel.KernelOk s.machine.kernel)
    {m : RobotMachine} {l : Machine.Label Task EventId MutexId MailboxId TimerId String}
    (hstep : s.machine.step (platform a) l = some m)
    (hperform : m = s.machine.perform (platform a) s.systemStatement.1) {rest : List Task}
    (hrest : s.systemStatement.2.systemPc.toClose = some rest)
    (hok : s.systemStatement.2.systemPc.toDetach ≠ none ∨ m.kernel.fault = none) :
    ∀ t ∈ closeOrder, t ∉ rest → m.kernel.state t = .close := by
  intro t ht hnot
  have hclosed : ∀ {t}, s.machine.kernel.state t = .close → m.kernel.state t = .close :=
    Machine.close_of_step hk hstep
  have hfault := fault_of_step hstep
  rcases systemStatement_toClose hrest with rfl | hold | ⟨x, hold, hx⟩
  · exact absurd ht hnot
  · exact hclosed (h.closed rest hold (.inr hfault) t ht hnot)
  by_cases htx : t = x
  · subst htx
    rcases hx with hbyte | hdetach
    · exact hclosed (congrArg Stat.state (Stat.byte_eq_close_iff.mp hbyte))
    · have hf : m.kernel.fault = none := hok.resolve_left fun hne => by
        have hnil : s.systemPc.toClose = some [] :=
          (systemStatement_toDetach_ne_none hne).elim SystemPc.toClose_of_toDetach And.left
        rw [hold] at hnil
        cases hnil
      have hkernel : m.kernel = s.machine.kernel.rtThreadDetach t := by
        rw [hperform, hdetach]
        rfl
      rw [hkernel] at hf ⊢
      exact rtThreadDetach_state hf
  · exact hclosed (h.closed _ hold (.inr hfault) t ht (by simp [htx, hnot]))

/-- A statement of the system task keeps the detached timers detached, and detaches the timer it
passes. -/
theorem ShutdownInv.detached_of_own (h : ShutdownInv s)
    {m : RobotMachine} {l : Machine.Label Task EventId MutexId MailboxId TimerId String}
    (hstep : s.machine.step (platform a) l = some m)
    (hperform : m = s.machine.perform (platform a) s.systemStatement.1) {rest : List TimerId}
    (hrest : s.systemStatement.2.systemPc.toDetach = some rest) :
    ∀ d, d ∉ rest → (m.timer d).attached = false := by
  intro d hd
  rcases systemStatement_toDetach hrest with rfl | hold | ⟨x, hold, hdetach⟩
  · exact absurd (by cases d <;> decide) hd
  · exact Machine.detached_of_step hstep (h.detached rest hold d hd)
  by_cases hdx : d = x
  · subst hdx
    rw [hperform, hdetach]
    exact Machine.setTimer_detach
  · exact Machine.detached_of_step hstep (h.detached _ hold d (by simp [hdx, hd]))

theorem ShutdownInv.step (h : ShutdownInv s) (hs : SchedOk s.machine) (hm : Moves a s i s') :
    ShutdownInv s' := by
  have hk := hs.kernel
  cases hm with
  | @own input m hex hstep =>
    by_cases hcur : s.machine.current = .tsystem
    · obtain ⟨-, hperform⟩ := Machine.step_own hstep hex.2
      rw [hcur] at hstep hperform ⊢
      exact ⟨fun rest => h.closed_of_own hk hstep hperform,
        fun rest => h.detached_of_own hstep hperform⟩
    · exact h.frame hk hstep (statement_systemPc hcur)
  | @handler input m b n act s₁ hsig hst hstep =>
    refine h.frame hk hstep ?_
    generalize s.handler s.machine.current n = x at hst
    cases x with
    | default => cases hst
    | obstacle =>
      obtain ⟨_, _, _, _, _, _, -, rfl⟩ := obstacleHandlerStatement_owns hst
      rfl
    | turnOff =>
      obtain ⟨_, _, rfl⟩ := turnOffStatement_owns hst
      rfl
  | @returned input m b n hsig hst hstep =>
    refine h.frame hk hstep ?_
    unfold resetHandler
    split <;> rfl
  | @kern m hstep => exact h.frame hk hstep rfl
  | @tick due m hstep => exact h.frame hk hstep rfl

theorem shutdownInv_of_reachable (h : (runs a).Reachable s) : ShutdownInv s := by
  refine Automaton.Reaches.invariant_of (J := HandlerInv) (fun _ => handlerInv_of_reaches) ?_
    (fun s i s' hh _ hinv _ hs => hinv.step hh.sched (moves_of_step hs)) h
  rintro s ⟨b, rfl⟩
  exact ⟨fun _ h => (by cases h), fun _ h => (by cases h)⟩

/-! ### Nothing happens any more -/

/-- What the robot has done, and what it works on. -/
def outcome (s : App) :=
  (s.log, s.map, s.position, s.direction, s.garbageBagValue, s.batteryStatus, s.brushesPower)

/-- `closeAllTasks` has closed all tasks. -/
def TasksClosed (s : App) : Prop := s.systemPc.toDetach ≠ none

/-- The system after it was closed: the tasks are closed for good and in no list, the robot has done
nothing more, and at the end no timer is left to expire. -/
structure Silent (s s' : App) : Prop where
  pc : s'.TasksClosed
  closed : ∀ t ∈ closeOrder, s'.machine.kernel.state t = .close
  unlinked : ∀ t ∈ closeOrder, ∀ q, t ∉ s'.machine.kernel.queue q
  outcome : s'.outcome = s.outcome
  detached : s'.systemPc.toDetach = some [] → ∀ d, (s'.machine.timer d).attached = false

theorem systemStatement_tasksClosed (h : s.TasksClosed) : s.systemStatement.2.TasksClosed ∧
    s.systemStatement.2.outcome = s.outcome := by
  unfold TasksClosed at h ⊢
  unfold systemStatement outcome
  split <;> (try split) <;> simp_all [SystemPc.toDetach]

theorem ShutdownInv.tasksClosed (h : ShutdownInv s) (hp : s.TasksClosed) :
    ∀ t ∈ closeOrder, s.machine.kernel.state t = .close := fun t ht =>
  h.closed [] (SystemPc.toClose_of_toDetach hp) (.inl hp) t ht List.not_mem_nil

/-- A step after all tasks were closed. -/
theorem outcome_of_step (h : ShutdownInv s) (hinv : HandlerInv s) (hp : s.TasksClosed)
    (hm : Moves a s i s') : s'.TasksClosed ∧ s'.outcome = s.outcome := by
  have hclosed := h.tasksClosed hp
  cases hm with
  | @own input m hex hstep =>
    have hopen := open_of_step hstep (by simp)
    have hnot : s.machine.current ∉ closeOrder := fun hmem => hopen (hclosed _ hmem)
    generalize s.machine.current = t at hnot
    cases t with
    | main =>
      obtain ⟨_, _, heq⟩ := mainStatement_owns (s := s)
      rw [statement, heq]
      exact ⟨hp, rfl⟩
    | tsystem => exact systemStatement_tasksClosed hp
    | idle => exact ⟨hp, rfl⟩
    | _ => exact absurd (by decide) hnot
  | @handler input m b n act s₁ hsig hst hstep =>
    have hopen := open_of_step hstep (by simp)
    generalize hx : s.handler s.machine.current n = x at hst
    cases x with
    | default => cases hst
    | obstacle => exact absurd (hclosed _ (hinv.owner _ _ hx ▸ by decide)) hopen
    | turnOff =>
      obtain ⟨_, _, rfl⟩ := turnOffStatement_owns hst
      exact ⟨hp, rfl⟩
  | @returned input m b n hsig hst hstep =>
    unfold resetHandler
    split <;> exact ⟨hp, rfl⟩
  | @kern m hstep => exact ⟨hp, rfl⟩
  | @tick due m hstep => exact ⟨hp, rfl⟩

/-- **After shutdown the robot does nothing**: once `closeAllTasks` has closed the tasks, they are
closed in every later state and linked in no list, and nothing is logged, cleaned, moved or drained
any more; once it has returned, no timer is left to expire. -/
theorem shutdown_silent {s₀ : App} (h₀ : (runs a).Reachable s₀) (hp : s₀.TasksClosed)
    (hs : (runsFrom a s₀).Reachable s) : Silent s₀ s := by
  have hinv : HandlerInv s ∧ ShutdownInv s ∧ s.TasksClosed ∧ s.outcome = s₀.outcome := by
    refine Automaton.Reaches.invariant
      (I := fun s => HandlerInv s ∧ ShutdownInv s ∧ s.TasksClosed ∧ s.outcome = s₀.outcome) ?_ ?_ hs
    · rintro s rfl
      exact ⟨handlerInv_of_reaches h₀, shutdownInv_of_reachable h₀, hp, rfl⟩
    · rintro s i s' ⟨hinv, hshut, hp, hout⟩ - hstep
      have hm := moves_of_step hstep
      obtain ⟨hp', hout'⟩ := outcome_of_step hshut hinv hp hm
      exact ⟨hinv.step hm, hshut.step hinv.sched hm, hp', hout'.trans hout⟩
  obtain ⟨hhandler, hshut, hpc, hout⟩ := hinv
  have hclosed := hshut.tasksClosed hpc
  refine ⟨hpc, hclosed, fun t ht q hmem => ?_, hout, fun hpc d => hshut.detached [] hpc d
    List.not_mem_nil⟩
  have hready := hhandler.sched.kernel.ready
  have hc := hclosed t ht
  cases q with
  | ready p =>
    rw [(hready.ready_iff t).mpr ⟨p, hmem⟩] at hc
    cases hc
  | wait q =>
    rw [hready.wait hmem] at hc
    cases hc

/-- The battery is drained, Task3 signals the system task, and this closes all tasks. -/
theorem shutdown_silent_drained : ∃ s : App, (runs ⟨fun _ => 0, 0⟩).Reachable s ∧ s.TasksClosed ∧
    Silent s s := by
  obtain ⟨s, hs, hp⟩ := exists_reachable (a := ⟨fun _ => 0, 0⟩) (b := { tick := 40 })
    (startupLabels ++ labels [0, 0, 0] ++ List.replicate 20 (.tick []) ++
      (List.replicate 50 (labels [0, 0, 0, 1, 0, 0, 0])).flatten ++ labels [0, 0, 0] ++
      .tick [.checkResourcesActivation] ::
      labels [1, 1, 1, 0, 0, 0, 1, 0, 0, 1, 1, 1, 1, 1, 0, 0, 0, 2, 2, 2, 2, 2, 2, 0, 0, 0, 1, 1,
        1, 0, 0, 1, 0, 0, 0, 0, 0, 0, 1, 0, 0, 0, 0, 0, 0, 0, 0, 0, 0, 0, 0, 0, 0, 0, 0, 0, 0, 0,
        0, 0])
    (p := fun s => decide (s.systemPc = .timerDetach timers)) (by decide +kernel)
  have hclosed : s.TasksClosed := by
    unfold TasksClosed
    rw [of_decide_eq_true hp]
    intro hnone
    cases hnone
  exact ⟨s, hs, hclosed, shutdown_silent hs hclosed (.init rfl)⟩

end App

end RobotVacuum
