import RobotVacuum.Application.Tasks
import Mathlib.Logic.Function.Iterate

/-!
# Searching for a new position

`find_new_position` as a function, on a map of any side, and what it returns
(`findNewPosition_spec`). Each of its four guards excludes the direction opposite to the current
one, so the robot never turns back: in a dead end, where only the tile it came from is free, the
search fails although the robot is not enclosed. `findNewPosition_statements` says that Task2
computes this function, one statement after the other.
-/

namespace RobotVacuum

/-! ### The search -/

/-- What `find_new_position` reads and writes. -/
structure Robot where
  map : ℤ → ℤ → ℤ
  position : ℤ × ℤ
  direction : Directions

/-- The position is on the map. -/
def OnMap (side : ℤ) (p : ℤ × ℤ) : Prop := 0 ≤ p.1 ∧ p.1 < side ∧ 0 ≤ p.2 ∧ p.2 < side

instance (side : ℤ) (p : ℤ × ℤ) : Decidable (OnMap side p) := by
  unfold OnMap
  infer_instance

namespace Directions

/-- The directions of a step, in the order of the search. -/
def moves : List Directions := [up, down, left, right]

@[simp] theorem opposite_opposite (d : Directions) : d.opposite.opposite = d := by
  cases d <;> rfl

/-- Inside the map, the test against the bound decides whether the neighbour is on the map. -/
theorem inBound_iff {side : ℤ} {d : Directions} {p : ℤ × ℤ} (hd : d ∈ moves) (hp : OnMap side p) :
    d.inBound side p = true ↔ OnMap side (d.next p) := by
  obtain ⟨h1, h2, h3, h4⟩ := hp
  simp only [moves, List.mem_cons, List.not_mem_nil, or_false] at hd
  rcases hd with rfl | rfl | rfl | rfl <;> simp only [inBound, next, OnMap, decide_eq_true_eq] <;>
    omega

end Directions

open Directions (moves)

namespace Robot

variable {side : ℤ} {s : Robot} {d : Directions}

/-- The value of a tile. -/
def tile (s : Robot) (p : ℤ × ℤ) : ℤ := s.map p.1 p.2

/-- The guard of `find_new_position` for a direction. -/
def CanTurn (side : ℤ) (s : Robot) (d : Directions) : Prop :=
  s.direction ≠ d.opposite ∧ d.inBound side s.position = true ∧ s.tile (d.next s.position) ≠ 1

instance : Decidable (CanTurn side s d) := by
  unfold CanTurn
  infer_instance

/-- Turn to a direction and move one tile. -/
def turn (s : Robot) (d : Directions) : Robot :=
  { s with position := d.next s.position, direction := d }

/-- `find_new_position`: the value it returns and the robot afterwards. -/
def findNewPosition (side : ℤ) (s : Robot) : ℤ × Robot :=
  if s.CanTurn side .up then (0, s.turn .up)
  else if s.CanTurn side .down then (0, s.turn .down)
  else if s.CanTurn side .left then (0, s.turn .left)
  else if s.CanTurn side .right then (0, s.turn .right)
  else (1, s)

/-- The neighbour in a direction is on the map and not marked as an obstacle. -/
def Free (side : ℤ) (s : Robot) (d : Directions) : Prop :=
  OnMap side (d.next s.position) ∧ s.tile (d.next s.position) ≠ 1

instance : Decidable (Free side s d) := by
  unfold Free
  infer_instance

/-- Inside the map, the guard asks for a free neighbour that is not behind the robot. -/
theorem canTurn_iff (hd : d ∈ moves) (hp : OnMap side s.position) :
    s.CanTurn side d ↔ d ≠ s.direction.opposite ∧ s.Free side d := by
  have hback : s.direction ≠ d.opposite ↔ d ≠ s.direction.opposite := by
    refine not_congr ⟨fun h => ?_, fun h => ?_⟩
    · rw [h, Directions.opposite_opposite]
    · rw [h, Directions.opposite_opposite]
  rw [CanTurn, Free, hback, Directions.inBound_iff hd hp]

/-- The search turns to the first direction whose guard holds. -/
theorem findNewPosition_eq : s.findNewPosition side =
    match moves.find? fun d => decide (s.CanTurn side d) with
    | some d => (0, s.turn d)
    | none => (1, s) := by
  unfold findNewPosition moves
  by_cases hu : s.CanTurn side .up
  · simp [hu]
  · by_cases hd : s.CanTurn side .down
    · simp [hu, hd]
    · by_cases hl : s.CanTurn side .left
      · simp [hu, hd, hl]
      · by_cases hr : s.CanTurn side .right <;> simp [hu, hd, hl, hr]

/-- What the search returns. -/
structure SearchSpec (side : ℤ) (s : Robot) (r : ℤ) (s' : Robot) : Prop where
  /-- It fails if and only if no neighbour but the one behind the robot is free. -/
  fails : r = 1 ↔ ∀ d ∈ moves, d ≠ s.direction.opposite → ¬ s.Free side d
  result : r = 0 ∨ r = 1
  /-- It finds a free neighbour, and the direction is the one of the step. -/
  found : r = 0 → ∃ d ∈ moves, d ≠ s.direction.opposite ∧ s.Free side d ∧
    s'.position = d.next s.position ∧ s'.direction = d
  unchanged : r = 1 → s'.position = s.position ∧ s'.direction = s.direction
  map : s'.map = s.map

/-- **`find_new_position` fails exactly if nothing but the tile behind the robot is free**, and
otherwise moves the robot to a free neighbour. -/
theorem findNewPosition_spec (hp : OnMap side s.position) :
    SearchSpec side s (s.findNewPosition side).1 (s.findNewPosition side).2 := by
  rw [findNewPosition_eq]
  cases hfind : moves.find? fun d => decide (s.CanTurn side d) with
  | none =>
    rw [List.find?_eq_none] at hfind
    refine ⟨⟨fun _ d hd hback hfree => ?_, fun _ => rfl⟩, .inr rfl, fun h => (by cases h),
      fun _ => ⟨rfl, rfl⟩, rfl⟩
    exact hfind d hd (decide_eq_true ((canTurn_iff hd hp).mpr ⟨hback, hfree⟩))
  | some d =>
    have hd : d ∈ moves := List.mem_of_find?_eq_some hfind
    have hturn : s.CanTurn side d := by
      have := List.find?_some hfind
      exact of_decide_eq_true this
    obtain ⟨hback, hfree⟩ := (canTurn_iff hd hp).mp hturn
    refine ⟨⟨fun h => (by cases h), fun h => absurd hfree (h d hd hback)⟩, .inl rfl,
      fun _ => ⟨d, hd, hback, hfree, rfl, rfl⟩, fun h => (by cases h), rfl⟩

/-- At a corner of an empty map the search turns along the wall. -/
theorem findNewPosition_spec_corner :
    SearchSpec 10 ⟨fun _ _ => 0, (9, 0), .down⟩ 0 ⟨fun _ _ => 0, (9, 1), .right⟩ :=
  have hmap : OnMap 10 (9, 0) := by decide
  findNewPosition_spec (s := ⟨fun _ _ => 0, (9, 0), .down⟩) hmap

/-- A dead end: the tile ahead is beyond the wall, one side is beyond the wall and the other one
is marked, and the search fails although the tile behind the robot is free. -/
theorem findNewPosition_gives_up : ∃ s : Robot, OnMap 10 s.position ∧ s.direction ∈ moves ∧
    ¬ s.Free 10 s.direction ∧
    ¬ ((s.findNewPosition 10).1 = 1 ↔ ∀ d ∈ moves, ¬ s.Free 10 d) := by
  refine ⟨⟨fun r c => if r = 9 ∧ c = 1 then 1 else 0, (9, 0), .down⟩, ?_, ?_, ?_, ?_⟩ <;> decide

end Robot

/-! ### The statements of Task2 compute the search -/

namespace App

variable {s : App}

/-- The robot of the application. -/
def robot (s : App) : Robot := ⟨s.map, s.position, s.direction⟩

/-- The application after a number of statements of Task2 alone. -/
def movementSteps (s : App) (n : ℕ) : App := (fun s : App => s.movementStatement.2)^[n] s

@[simp] theorem testMove_robot {d : Directions} : (s.testMove d).robot = s.robot := by
  unfold testMove accessMap
  split
  · split <;> rfl
  · rfl

/-- What Task2 keeps besides the robot: the counter of the garbage bag and `stuck`. -/
def bag (s : App) : ℕ × ℤ := (s.garbageBagValue, s.stuck)

@[simp] theorem testMove_bag {d : Directions} : (s.testMove d).bag = s.bag := by
  unfold testMove accessMap
  split
  · split <;> rfl
  · rfl

theorem canMove_iff {d : Directions} (hd : s.direction ≠ d.opposite) :
    s.canMove d ↔ s.robot.CanTurn mapSide d := by
  unfold canMove Robot.CanTurn
  exact ⟨fun h => ⟨hd, h⟩, fun h => h.2⟩

/-- From the tests that are left, Task2 goes on to the first one that succeeds. -/
theorem find_statements (l : List Directions) (h : s.movementPc = .find l) : ∃ n,
    (s.movementSteps n).bag = s.bag ∧
    match l.find? fun d => decide (s.robot.CanTurn mapSide d) with
    | some d =>
      (s.movementSteps n).movementPc = .setStuck 0 ∧ (s.movementSteps n).robot = s.robot.turn d
    | none =>
      (s.movementSteps n).movementPc = .setStuck 1 ∧ (s.movementSteps n).robot = s.robot := by
  induction l generalizing s with
  | nil =>
    refine ⟨1, ?_⟩
    simp [movementSteps, movementStatement, h, robot, bag]
  | cons d l ih =>
    have hstep : s.movementStatement.2 = s.findStatement d l := by simp [movementStatement, h]
    by_cases hback : s.direction = d.opposite
    · have hno : ¬ s.robot.CanTurn mapSide d := fun hc => hc.1 hback
      have heq : s.findStatement d l = { s with movementPc := .find l } := if_pos hback
      obtain ⟨n, hn⟩ := ih (s := { s with movementPc := .find l }) rfl
      refine ⟨n + 1, ?_⟩
      rw [List.find?_cons_of_neg (by simpa using hno)]
      simp only [movementSteps, Function.iterate_succ_apply, hstep, heq]
      exact hn
    · have heq : s.findStatement d l = { s.testMove d with
          movementPc := if s.canMove d then .findMove d else .find l } := if_neg hback
      by_cases hmove : s.canMove d
      · -- the position and the direction are written by two statements
        refine ⟨3, ?_⟩
        rw [List.find?_cons_of_pos (by simpa using (canMove_iff hback).mp hmove)]
        have hrobot := testMove_robot (s := s) (d := d)
        simp only [robot, Robot.mk.injEq] at hrobot
        have hbag := testMove_bag (s := s) (d := d)
        simp only [bag, Prod.mk.injEq] at hbag
        have hsteps : s.movementSteps 3 =
            ({ s.testMove d with movementPc := .findMove d } :
              App).movementStatement.2.movementStatement.2 := by
          simp only [movementSteps, Function.iterate_succ_apply, Function.iterate_zero_apply, hstep,
            heq, if_pos hmove]
        rw [hsteps]
        refine ⟨?_, rfl, ?_⟩
        · simp only [movementStatement, bag, hbag]
        · simp only [movementStatement, robot, Robot.turn, hrobot]
      · have hno : ¬ s.robot.CanTurn mapSide d := fun hc => hmove ((canMove_iff hback).mpr hc)
        obtain ⟨n, hn⟩ := ih (s := { s.testMove d with movementPc := .find l }) rfl
        refine ⟨n + 1, ?_⟩
        have hrobot : ({ s.testMove d with movementPc := .find l } : App).robot = s.robot :=
          testMove_robot
        have hbag : ({ s.testMove d with movementPc := .find l } : App).bag = s.bag := testMove_bag
        rw [hrobot, hbag] at hn
        rw [List.find?_cons_of_neg (by simpa using hno)]
        simp only [movementSteps, Function.iterate_succ_apply, hstep, heq, if_neg hmove]
        exact hn

/-- **Task2 computes `find_new_position`**, from its call to the assignment of its result. -/
theorem findNewPosition_statements (h : s.movementPc = .find moves) : ∃ n,
    (s.movementSteps n).movementPc = .setStuck (s.robot.findNewPosition mapSide).1 ∧
    (s.movementSteps n).robot = (s.robot.findNewPosition mapSide).2 := by
  obtain ⟨n, hn⟩ := find_statements moves h
  refine ⟨n, ?_⟩
  rw [Robot.findNewPosition_eq]
  cases hfind : moves.find? fun d => decide (s.robot.CanTurn mapSide d) with
  | none => rw [hfind] at hn; exact hn.2
  | some d => rw [hfind] at hn; exact hn.2

end App

end RobotVacuum
