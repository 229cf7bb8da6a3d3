import RobotVacuum.Application.Steps
import RobotVacuum.Foundation.TwoRuns

/-!
# Variables that are not initialized

Task2 reads its variable `stuck` after a straight move, before anything was assigned to it, and
Task5 never reads the second level of the power pin into `brushes_power[1]`. Here both tasks run in
an open system, in which the results of their calls, the levels of the pins and the obstacle
signals are arbitrary, and two runs are compared that differ in these variables alone.

They behave alike for every history exactly if the first values agree as far as the tests can tell
(`locals_irrelevant_iff`).
-/

namespace RobotVacuum

namespace App

/-- What can be observed of a statement: what it asks of the machine, the robot, the garbage bag,
and the record of what was written to the devices and pins. -/
structure StatementView where
  act : RobotAct
  map : ℤ → ℤ → ℤ
  position : ℤ × ℤ
  direction : Directions
  garbage : ℕ
  log : List LogEntry

/-- The observation of a statement that leads to a state. -/
def view (s : App) (act : RobotAct) : StatementView :=
  ⟨act, s.map, s.position, s.direction, s.garbageBagValue, s.log⟩

/-- The next statement is one of Task2 or one of its signal handler, with the machine as the rest
of the system has left it. -/
inductive MovementInput
  | statement (m : RobotMachine)
  | handler (m : RobotMachine)

/-- Task2 with its signal handler. -/
def movementTask : Transducer App MovementInput StatementView where
  step s i :=
    if s.mapFault then none
    else match i with
      | .statement m =>
        let r := (s.withMachine m).movementStatement
        some (r.2.view r.1, r.2)
      | .handler m =>
        match (s.withMachine m).obstacleHandlerStatement with
        | some r => some (r.2.view r.1, r.2)
        | none => some (s.view .local, s.resetHandler .obstacle)

/-- Task5, with the machine as the rest of the system has left it and the levels of the pins. -/
def brushesTask : Transducer App (RobotMachine × Input) StatementView where
  step s i :=
    let r := (s.withMachine i.1).brushesStatement i.2
    some (r.2.view r.1, r.2)

variable {s t : App}

/-! ### The variable `stuck` -/

/-- The state with another value of `stuck`. -/
def withStuck (s : App) (x : ℤ) : App := { s with stuck := x }

/-- The states differ in `stuck` at most, and the test on it has the same result. -/
def SameButStuck (s t : App) : Prop := ∃ x, t = s.withStuck x ∧ (s.stuck = 1 ↔ x = 1)

/-- What a statement leaves in `stuck`. -/
def nextStuck (pc : MovementPc) (x : ℤ) : ℤ :=
  match pc with
  | .setStuck r => r
  | _ => x

/-- A statement of Task2 only tests whether `stuck` is 1. -/
theorem movementStatement_stuck {x : ℤ} (hx : s.stuck = 1 ↔ x = 1) :
    (s.withStuck x).movementStatement = (s.movementStatement.1,
      s.movementStatement.2.withStuck (nextStuck s.movementPc x)) ∧
    s.movementStatement.2.stuck = nextStuck s.movementPc s.stuck := by
  unfold withStuck
  cases hpc : s.movementPc
  case find l =>
    cases l with
    | nil => simp [movementStatement, hpc, nextStuck]
    | cons d rest =>
      simp only [movementStatement, hpc, nextStuck, findStatement, testMove, accessMap, canMove,
        tile]
      split_ifs <;> exact ⟨rfl, rfl⟩
  case guard d =>
    simp only [movementStatement, hpc, nextStuck, guardStatement, testMove, accessMap, canMove,
      tile]
    split_ifs <;> exact ⟨rfl, rfl⟩
  case testStuck => simp [movementStatement, hpc, nextStuck, hx]
  case testTile =>
    simp only [movementStatement, hpc, nextStuck, accessMap, tile]
    split_ifs <;> exact ⟨rfl, rfl⟩
  case markTile =>
    simp only [movementStatement, hpc, nextStuck, accessMap, setTile]
    split_ifs <;> exact ⟨rfl, rfl⟩
  case test =>
    simp only [movementStatement, hpc, nextStuck]
    split_ifs <;> exact ⟨rfl, rfl⟩
  all_goals constructor <;> simp [movementStatement, hpc, nextStuck, record]

theorem nextStuck_iff {pc : MovementPc} {x y : ℤ} (h : x = 1 ↔ y = 1) :
    nextStuck pc x = 1 ↔ nextStuck pc y = 1 := by
  cases pc <;> first | exact h | exact Iff.rfl

/-- The handler has nothing to do with `stuck`. -/
theorem obstacleHandlerStatement_stuck {x : ℤ} :
    (s.withStuck x).obstacleHandlerStatement =
      s.obstacleHandlerStatement.map (fun r => (r.1, App.withStuck r.2 x)) ∧
    ∀ r ∈ s.obstacleHandlerStatement, r.2.stuck = s.stuck := by
  unfold withStuck
  cases hpc : s.handlerPc <;>
    simp only [obstacleHandlerStatement, hpc, setTile, accessMap, record] <;>
    (try split_ifs) <;> exact ⟨rfl, by simp⟩

theorem movementTask_statement {m : RobotMachine} (h : s.mapFault = false) :
    movementTask.step s (.statement m) =
      some ((s.withMachine m).movementStatement.2.view (s.withMachine m).movementStatement.1,
        (s.withMachine m).movementStatement.2) := by
  simp [movementTask, h]

theorem movementTask_handler {m : RobotMachine} {r : RobotAct × App} (h : s.mapFault = false)
    (hr : (s.withMachine m).obstacleHandlerStatement = some r) :
    movementTask.step s (.handler m) = some (r.2.view r.1, r.2) := by
  simp [movementTask, h, hr]

theorem movementTask_returned {m : RobotMachine} (h : s.mapFault = false)
    (hr : (s.withMachine m).obstacleHandlerStatement = none) :
    movementTask.step s (.handler m) = some (s.view .local, s.resetHandler .obstacle) := by
  simp [movementTask, h, hr]

/-- **Task2 cannot tell the values of `stuck` apart** that are both 1 or both not. -/
theorem sameButStuck_bisimulation : movementTask.Bisimulation SameButStuck := by
  rintro s _ i ⟨x, rfl, hx⟩
  by_cases hfault : s.mapFault = true
  · exact .inl ⟨if_pos hfault, if_pos hfault⟩
  have hs : s.mapFault = false := by simpa using hfault
  refine .inr ?_
  cases i with
  | statement m =>
    obtain ⟨hstatement, hstuck⟩ := movementStatement_stuck (s := s.withMachine m) (x := x) hx
    have ht := movementTask_statement (s := s.withStuck x) (m := m) hs
    have hswap : (s.withStuck x).withMachine m = (s.withMachine m).withStuck x := rfl
    rw [hswap, hstatement] at ht
    refine ⟨_, _, _, movementTask_statement hs, ht, _, rfl, ?_⟩
    rw [hstuck]
    exact nextStuck_iff hx
  | handler m =>
    obtain ⟨hhandler, hstuck⟩ := obstacleHandlerStatement_stuck (s := s.withMachine m) (x := x)
    cases hr : (s.withMachine m).obstacleHandlerStatement with
    | none =>
      rw [hr] at hhandler
      exact ⟨_, _, _, movementTask_returned hs hr,
        movementTask_returned (s := s.withStuck x) hs hhandler, x, rfl, hx⟩
    | some r =>
      rw [hr] at hhandler
      have hr' : r.2.stuck = s.stuck := hstuck r hr
      exact ⟨_, _, _, movementTask_handler hs hr,
        movementTask_handler (s := s.withStuck x) (r := (r.1, App.withStuck r.2 x)) hs hhandler,
        x, rfl, hr' ▸ hx⟩

/-- A machine in which the last call of every task had the given result. -/
def answering (b : Boot) (r : RtErr) : RobotMachine :=
  { (initial b).machine with ctx := fun t => { (initial b).machine.ctx t with ret := r } }

/-- The first activation of Task2, without a mail, up to the statement after the first test of
`stuck`. -/
def firstMove (b : Boot) : List MovementInput :=
  List.replicate 10 (.statement (answering b .eok)) ++
    List.replicate 9 (.statement (answering b .etimeout))

/-- What Task2 does after its first move: it ends, or it goes on. -/
theorem firstMove_act (b : Boot) (x : ℤ) :
    ((movementTask.trace ((initial b).withStuck x) (firstMove b))[18]?).map StatementView.act =
      some (if x = 1 then .exit else .local) := by
  by_cases hx : x = 1 <;>
    simp [firstMove, List.replicate, Transducer.trace, movementTask, movementStatement, withStuck,
      withMachine, initial, answering, record, accessMap, inMap, tile, setTile, guardStatement,
      testMove, canMove, Directions.inBound, Directions.next, gotOk, ctx, view, mapSide, hx]

/-- **Two runs of Task2 that differ in `stuck` alone** behave alike for every history exactly if
both values are 1 or both are not. -/
theorem trace_withStuck_iff (b : Boot) (x y : ℤ) :
    (∀ is, movementTask.trace ((initial b).withStuck x) is =
      movementTask.trace ((initial b).withStuck y) is) ↔ (x = 1 ↔ y = 1) := by
  constructor
  · intro h
    have hact := congrArg (fun l => l[18]?.map StatementView.act) (h (firstMove b))
    simp only [firstMove_act, Option.some.injEq] at hact
    by_cases hx : x = 1 <;> by_cases hy : y = 1 <;> simp [hx, hy] at hact ⊢
  · intro h is
    exact sameButStuck_bisimulation.trace_eq ⟨y, rfl, h⟩ is

/-! ### The arrays of Task5 -/

/-- The state with other values in the arrays. -/
def withArrays (s : App) (v p : ℤ × ℤ) : App := { s with brushesSpeedV := v, brushesPower := p }

/-- The tests on the second level of the power pin have the same results. -/
def SamePower (x y : ℤ) : Prop := (x = 0 ↔ y = 0) ∧ (x = 1 ↔ y = 1)

/-- Which elements of the arrays Task5 has written since its activation began. -/
structure Written (pc : BrushesPc) (v p v' p' : ℤ × ℤ) : Prop where
  power : SamePower p.2 p'.2
  speed0 : pc = .readSpeed1 ∨ pc = .readPower0 ∨ pc = .readPower1 ∨ pc = .decide → v.1 = v'.1
  power0 : pc = .readPower1 ∨ pc = .decide → p.1 = p'.1
  speed1 : pc = .decide → v.2 = v'.2

/-- The states differ in the arrays at most, and what was written is the same. -/
def SameButArrays (s t : App) : Prop := ∃ v p, t = s.withArrays v p ∧
  Written s.brushesPc s.brushesSpeedV s.brushesPower v p

theorem SamePower.refl (x : ℤ) : SamePower x x := ⟨Iff.rfl, Iff.rfl⟩

theorem SamePower.pair_eq {p q : ℤ × ℤ} (h : SamePower p.2 q.2) (h0 : p.1 = q.1) (x : ℤ) :
    (q = (x, 0) ↔ p = (x, 0)) ∧ (q = (x, 1) ↔ p = (x, 1)) := by
  simp only [Prod.ext_iff, h0, h.1, h.2, and_self]

/-- The answer to the level of the speed pin is the same. -/
theorem adjustBrushes_arrays {p : ℤ × ℤ} (h0 : s.brushesPower.1 = p.1)
    (h : SamePower s.brushesPower.2 p.2) : ∃ p',
    (s.withArrays s.brushesSpeedV p).adjustBrushes =
      s.adjustBrushes.withArrays s.brushesSpeedV p' ∧
    SamePower s.adjustBrushes.brushesPower.2 p'.2 ∧ s.adjustBrushes.brushesPc = s.brushesPc := by
  have hpair := fun x => h.pair_eq h0 x
  simp only [adjustBrushes, withArrays, (hpair _).1, (hpair _).2]
  split_ifs <;> first
    | exact ⟨_, rfl, SamePower.refl _, rfl⟩
    | exact ⟨p, rfl, h, rfl⟩

/-- Elsewhere nothing is required but that the tests on the second level agree. -/
theorem Written.elsewhere {pc : BrushesPc} {v p v' p' : ℤ × ℤ} (h : SamePower p.2 p'.2)
    (hpc : pc ≠ .readSpeed1 ∧ pc ≠ .readPower0 ∧ pc ≠ .readPower1 ∧ pc ≠ .decide) :
    Written pc v p v' p' := by
  refine ⟨h, fun hp => ?_, fun hp => ?_, fun hp => absurd hp hpc.2.2.2⟩
  · rcases hp with hp | hp | hp | hp
    · exact absurd hp hpc.1
    · exact absurd hp hpc.2.1
    · exact absurd hp hpc.2.2.1
    · exact absurd hp hpc.2.2.2
  · exact (hp.elim hpc.2.2.1 hpc.2.2.2).elim

/-- A statement of Task5 reads no element of the arrays that was not written before, but the
second level of the power pin. -/
theorem brushesStatement_arrays {v p : ℤ × ℤ} (input : Input)
    (h : Written s.brushesPc s.brushesSpeedV s.brushesPower v p) : ∃ v' p',
    (s.withArrays v p).brushesStatement input =
      ((s.brushesStatement input).1, (s.brushesStatement input).2.withArrays v' p') ∧
    Written (s.brushesStatement input).2.brushesPc (s.brushesStatement input).2.brushesSpeedV
      (s.brushesStatement input).2.brushesPower v' p' := by
  cases hpc : s.brushesPc
  case readSpeed0 =>
    refine ⟨(input.pin, v.2), p, by simp [brushesStatement, withArrays, hpc], ?_⟩
    simp only [brushesStatement, hpc]
    exact ⟨h.power, fun _ => rfl, by simp, by simp⟩
  case readSpeed1 =>
    refine ⟨(v.1, input.pin), p, by simp [brushesStatement, withArrays, hpc], ?_⟩
    simp only [brushesStatement, hpc]
    exact ⟨h.power, fun _ => h.speed0 (by simp [hpc]), by simp, by simp⟩
  case readPower0 =>
    refine ⟨v, (input.pin, p.2), by simp [brushesStatement, withArrays, hpc], ?_⟩
    simp only [brushesStatement, hpc]
    exact ⟨h.power, fun _ => h.speed0 (by simp [hpc]), fun _ => rfl, by simp⟩
  case readPower1 =>
    refine ⟨(v.1, input.pin), p, by simp [brushesStatement, withArrays, hpc], ?_⟩
    simp only [brushesStatement, hpc]
    exact ⟨h.power, fun _ => h.speed0 (by simp [hpc]), fun _ => h.power0 (by simp [hpc]),
      fun _ => rfl⟩
  case decide =>
    have hv : v = s.brushesSpeedV :=
      Prod.ext (h.speed0 (by simp [hpc])).symm (h.speed1 (by simp [hpc])).symm
    obtain ⟨p', heq, hpower, -⟩ := adjustBrushes_arrays (h.power0 (by simp [hpc])) h.power
    refine ⟨s.brushesSpeedV, p', ?_, ?_⟩
    · have hpc' : (s.withArrays s.brushesSpeedV p).brushesPc = .decide := hpc
      simp only [brushesStatement, hpc, hv, hpc', heq]
      rfl
    · simp only [brushesStatement, hpc]
      exact .elsewhere hpower (by simp)
  case setStop =>
    refine ⟨v, (1, 1), by simp [brushesStatement, withArrays, hpc], ?_⟩
    simp only [brushesStatement, hpc]
    exact .elsewhere (.refl _) (by simp)
  all_goals
    refine ⟨v, p, ?_, ?_⟩ <;> simp only [brushesStatement, withArrays, hpc, record] <;>
      (try split_ifs) <;>
      first
      | rfl
      | exact .elsewhere h.power (by simp)

/-- **Task5 cannot tell other values in the arrays apart.** -/
theorem sameButArrays_bisimulation : brushesTask.Bisimulation SameButArrays := by
  rintro s _ ⟨m, input⟩ ⟨v, p, rfl, h⟩
  obtain ⟨v', p', hstatement, hw⟩ := brushesStatement_arrays (s := s.withMachine m) input h
  refine .inr ⟨_, _, _, rfl, ?_, v', p', rfl, hw⟩
  have hswap : (s.withArrays v p).withMachine m = (s.withMachine m).withArrays v p := rfl
  simp only [brushesTask, hswap, hstatement]
  rfl

/-- The first activation of Task5, without a mail: the speed pin and the power pin answer first 0
and then 1. -/
def firstReading (b : Boot) : List (RobotMachine × Input) :=
  List.replicate 4 (answering b .eok, { pin := 0 }) ++
    List.replicate 2 (answering b .etimeout, { pin := 0 }) ++
    [(answering b .etimeout, { pin := 1 }), (answering b .etimeout, { pin := 0 }),
      (answering b .etimeout, { pin := 1 }), (answering b .etimeout, { pin := 0 })]

/-- What Task5 has written to the power pin then. -/
theorem firstReading_log (b : Boot) (v p : ℤ × ℤ) :
    ((brushesTask.trace ((initial b).withArrays v p) (firstReading b))[9]?).map StatementView.log =
      some (.begun .brushesSpeed :: if p.2 = 1 then [.power medium]
        else if p.2 = 0 then [.power low] else []) := by
  by_cases h1 : p.2 = 1
  · simp [firstReading, List.replicate, Transducer.trace, brushesTask, brushesStatement, withArrays,
      withMachine, initial, answering, record, gotOk, ctx, view, adjustBrushes, writePower, h1]
  · by_cases h0 : p.2 = 0 <;>
      simp [firstReading, List.replicate, Transducer.trace, brushesTask, brushesStatement,
        withArrays, withMachine, initial, answering, record, gotOk, ctx, view, adjustBrushes,
        writePower, h1, h0]

/-- **Two runs of Task5 that differ in the arrays alone** behave alike for every history exactly if
the tests on the second level of the power pin agree. -/
theorem trace_withArrays_iff (b : Boot) (v p v' p' : ℤ × ℤ) :
    (∀ is, brushesTask.trace ((initial b).withArrays v p) is =
      brushesTask.trace ((initial b).withArrays v' p') is) ↔ SamePower p.2 p'.2 := by
  constructor
  · intro h
    have hlog := congrArg (fun l => l[9]?.map StatementView.log) (h (firstReading b))
    simp only [firstReading_log, Option.some.injEq, List.cons.injEq, true_and] at hlog
    by_cases h1 : p.2 = 1 <;> by_cases h1' : p'.2 = 1 <;> by_cases h0 : p.2 = 0 <;>
      by_cases h0' : p'.2 = 0 <;> simp [h1, h1', h0, h0', medium, low, SamePower] at hlog ⊢
  · intro h is
    exact sameButArrays_bisimulation.trace_eq
      ⟨v', p', rfl, .elsewhere h (by simp [withArrays, initial])⟩ is

/-- **When the first values of the locals have no effect.** Two runs of Task2 that differ in
`stuck`, and two runs of Task5 that differ in `brushes_speed_v` and `brushes_power`, behave alike
for every history if and only if `stuck` is 1 in both runs or in none, and `brushes_power[1]` has
the same value in both, or none of the values 0 and 1. -/
theorem locals_irrelevant_iff (b : Boot) (x y : ℤ) (v p v' p' : ℤ × ℤ) :
    ((∀ is, movementTask.trace ((initial b).withStuck x) is =
        movementTask.trace ((initial b).withStuck y) is) ∧
      ∀ is, brushesTask.trace ((initial b).withArrays v p) is =
        brushesTask.trace ((initial b).withArrays v' p') is) ↔
      (x = 1 ↔ y = 1) ∧ (p.2 = 0 ↔ p'.2 = 0) ∧ (p.2 = 1 ↔ p'.2 = 1) :=
  and_congr (trace_withStuck_iff b x y) (trace_withArrays_iff b v p v' p')

/-- Task2 ends after its first move where the variable happens to be 1. -/
theorem locals_matter : ¬ ∀ (b : Boot) (x y : ℤ) (v p v' p' : ℤ × ℤ),
    (∀ is, movementTask.trace ((initial b).withStuck x) is =
        movementTask.trace ((initial b).withStuck y) is) ∧
      ∀ is, brushesTask.trace ((initial b).withArrays v p) is =
        brushesTask.trace ((initial b).withArrays v' p') is := by
  intro h
  have hstuck := (trace_withStuck_iff {} 0 1).mp (h {} 0 1 (0, 0) (0, 0) (0, 0) (0, 0)).1
  exact absurd (hstuck.mpr rfl) (by decide)

end App

end RobotVacuum
