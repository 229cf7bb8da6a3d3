import RobotVacuum.Application.Homing
import RobotVacuum.Application.NewPosition
import Mathlib.Data.Set.Card
import Mathlib.Data.Int.Interval

/-!
# Cleaning

What an activation of Task2 does to the map, the robot and the garbage bag, on a map of any side,
and what the obstacle handler does between two activations. `activation_statements` says that Task2
computes it, one statement after the other.

The counter of the garbage bag is the number of tiles that were ever cleaned (`garbage_eq_ncard`).
The handler takes back the move of the last activation (`obstacleHandler_undoes_iff`). Without
obstacles the robot goes along the wall, round and round, and never enters the middle of the room
(`covered_border`).
-/

namespace RobotVacuum

/-- The robot, the counter of the garbage bag, and what Task2 keeps besides: its variable `stuck`,
and whether it has left its loop. -/
structure Cleaner extends Robot where
  garbage : ℕ
  stuck : ℤ
  ended : Bool

open Directions (moves)

namespace Robot

/-- Write a tile. -/
def setTile (s : Robot) (p : ℤ × ℤ) (v : ℤ) : Robot :=
  { s with map := Function.update s.map p.1 (Function.update (s.map p.1) p.2 v) }

/-- The test of the `switch`: the tile ahead is inside the bound and not marked as an obstacle. -/
def CanMove (side : ℤ) (s : Robot) (d : Directions) : Prop :=
  d.inBound side s.position = true ∧ s.tile (d.next s.position) ≠ 1

instance (side : ℤ) (s : Robot) (d : Directions) : Decidable (s.CanMove side d) := by
  unfold CanMove
  infer_instance

end Robot

namespace Cleaner

/-- The variables when the loop of Task2 is entered; `stuck` is not assigned. -/
def initial (stuck : ℤ) : Cleaner where
  map _ _ := 0
  position := (0, 0)
  direction := .down
  garbage := 0
  stuck := stuck
  ended := false

/-- A mail makes the robot return. -/
def receive (s : Cleaner) (mail : Bool) : Cleaner :=
  if mail then { s with direction := .returning } else s

/-- Clean the tile and empty it into the bag, unless it is clean or an obstacle. -/
def clean (s : Cleaner) : Cleaner :=
  if s.tile s.position = 0 then
    { s with toRobot := s.setTile s.position 2, garbage := s.garbage + 1 }
  else s

/-- The `switch` on the direction. -/
def move (side : ℤ) (s : Cleaner) : Cleaner :=
  if s.direction = .returning then { s with position := homeStep s.position }
  else if s.CanMove side s.direction then { s with position := s.direction.next s.position }
  else
    let r := s.findNewPosition side
    { s with toRobot := r.2, stuck := r.1 }

/-- The tests after the move, which leave the loop. -/
def finish (s : Cleaner) : Cleaner :=
  { s with ended := s.stuck = 1 ∨ s.direction = .returning ∧ s.position = (0, 0) }

/-- One activation of Task2. -/
def activation (side : ℤ) (s : Cleaner) (mail : Bool) : Cleaner :=
  ((s.receive mail).clean.move side).finish

/-- `movement_control_obstacle_handler`. -/
def obstacleHandler (s : Cleaner) : Cleaner :=
  { s with
    toRobot :=
      { s.setTile s.position 1 with position := s.direction.opposite.next s.position } }

/-- What Task2 does, an activation at a time. -/
inductive Op
  | activation (mail : Bool)
  | obstacleHandler
  deriving DecidableEq, Repr

/-- One operation; none after the loop was left. -/
def step (side : ℤ) (s : Cleaner) (op : Op) : Option Cleaner :=
  if s.ended then none
  else match op with
    | .activation mail => some (s.activation side mail)
    | .obstacleHandler => some s.obstacleHandler

variable {side : ℤ} {s s' : Cleaner} {p : ℤ × ℤ} {op : Op}

/-! ### The fields after each part -/

@[simp] theorem tile_setTile {r : Robot} {q : ℤ × ℤ} {v : ℤ} :
    (r.setTile p v).tile q = if q = p then v else r.tile q := by
  simp only [Robot.setTile, Robot.tile, Function.update_apply, Prod.ext_iff]
  by_cases h1 : q.1 = p.1
  · by_cases h2 : q.2 = p.2 <;> simp [h1, h2]
  · simp [h1]

@[simp] theorem receive_map {mail : Bool} : (s.receive mail).map = s.map := by
  unfold receive
  split <;> rfl

@[simp] theorem receive_position {mail : Bool} : (s.receive mail).position = s.position := by
  unfold receive
  split <;> rfl

@[simp] theorem receive_garbage {mail : Bool} : (s.receive mail).garbage = s.garbage := by
  unfold receive
  split <;> rfl

@[simp] theorem clean_position : s.clean.position = s.position := by
  unfold clean
  split <;> rfl

@[simp] theorem clean_direction : s.clean.direction = s.direction := by
  unfold clean
  split <;> rfl

@[simp] theorem clean_stuck : s.clean.stuck = s.stuck := by
  unfold clean
  split <;> rfl

/-- Cleaning changes a tile from 0 to 2 and nothing else. -/
theorem tile_clean : s.clean.tile p =
    if p = s.position ∧ s.tile s.position = 0 then 2 else s.tile p := by
  unfold clean
  by_cases h : s.tile s.position = 0
  · rw [if_pos h]
    change (s.setTile s.position 2).tile p = _
    rw [tile_setTile]
    simp [h]
  · simp [h]

/-- Only a tile that is not an obstacle and not clean counts. -/
theorem garbage_clean : s.clean.garbage =
    s.garbage + if s.tile s.position = 0 then 1 else 0 := by
  unfold clean
  split <;> rfl

/-- The search writes the position and the direction. -/
theorem findNewPosition_map {r : Robot} : (r.findNewPosition side).2.map = r.map := by
  unfold Robot.findNewPosition
  split_ifs <;> rfl

@[simp] theorem move_map : (s.move side).map = s.map := by
  unfold move
  split_ifs
  · rfl
  · rfl
  · exact findNewPosition_map

@[simp] theorem move_garbage : (s.move side).garbage = s.garbage := by
  unfold move
  split_ifs <;> rfl

theorem tile_move : (s.move side).tile p = s.tile p := by
  rw [Robot.tile, move_map, Robot.tile]

/-- **What an activation writes to the map.** -/
theorem tile_activation {mail : Bool} : (s.activation side mail).tile p =
    if p = s.position ∧ s.tile s.position = 0 then 2 else s.tile p := by
  have hreceive : ∀ q, (s.receive mail).tile q = s.tile q := fun q => by
    rw [Robot.tile, receive_map, Robot.tile]
  change ((s.receive mail).clean.move side).tile p = _
  rw [tile_move, tile_clean, receive_position, hreceive, hreceive]

theorem garbage_activation {mail : Bool} : (s.activation side mail).garbage =
    s.garbage + if s.tile s.position = 0 then 1 else 0 := by
  change ((s.receive mail).clean.move side).garbage = _
  rw [move_garbage, garbage_clean, receive_garbage, receive_position, Robot.tile, receive_map]
  rfl

/-- **What the handler writes to the map.** -/
theorem tile_obstacleHandler :
    s.obstacleHandler.tile p = if p = s.position then 1 else s.tile p :=
  tile_setTile

theorem step_activation {mail : Bool} (h : s.ended = false) :
    s.step side (.activation mail) = some (s.activation side mail) := by
  simp [step, h]

theorem step_obstacleHandler (h : s.ended = false) :
    s.step side .obstacleHandler = some s.obstacleHandler := by
  simp [step, h]

/-! ### The counter of the garbage bag -/

/-- The states of a run that stays on the map, the last one first. -/
inductive Trace (side : ℤ) : List Cleaner → Prop
  | initial (stuck : ℤ) : OnMap side (0, 0) → Trace side [initial stuck]
  | step {s s' : Cleaner} {l : List Cleaner} {op : Op} : Trace side (s :: l) →
      s.step side op = some s' → OnMap side s'.position → Trace side (s' :: s :: l)

/-- The tiles whose value was 2 in one of the states. -/
def everCleaned (l : List Cleaner) : Set (ℤ × ℤ) := {p | ∃ x ∈ l, x.tile p = 2}

/-- The tiles of a map. -/
def grid (side : ℤ) : Set (ℤ × ℤ) := {p | OnMap side p}

theorem finite_grid : (grid side).Finite :=
  ((Set.finite_Ico 0 side).prod (Set.finite_Ico 0 side)).subset
    fun _ hp => ⟨⟨hp.1, hp.2.1⟩, hp.2.2⟩

theorem ncard_grid (n : ℕ) : (grid n).ncard = n * n := by
  have hgrid : grid n = ((Finset.Ico 0 (n : ℤ) ×ˢ Finset.Ico 0 (n : ℤ) : Finset _) : Set _) := by
    ext p
    simp [grid, OnMap, and_assoc]
  rw [hgrid, Set.ncard_coe_finset]
  simp

theorem everCleaned_cons {l : List Cleaner} :
    everCleaned (s :: l) = {p | s.tile p = 2} ∪ everCleaned l := by
  ext p
  simp [everCleaned]

/-- What holds of a run: the history of the tiles is the ghost the counter is compared with. -/
structure Counted (side : ℤ) (s : Cleaner) (l : List Cleaner) : Prop where
  onMap : OnMap side s.position
  values : ∀ p, s.tile p = 0 ∨ s.tile p = 1 ∨ s.tile p = 2
  /-- A tile that was cleaned once does not become unclean. -/
  kept : ∀ p ∈ everCleaned (s :: l), s.tile p ≠ 0
  inGrid : everCleaned (s :: l) ⊆ grid side
  garbage : s.garbage = (everCleaned (s :: l)).ncard

/-- What an operation does to the map. -/
inductive MapStep (s s' : Cleaner) : Prop
  /-- The tile is cleaned and counted. -/
  | cleaned : s.tile s.position = 0 → s'.garbage = s.garbage + 1 →
      (∀ p, s'.tile p = if p = s.position then 2 else s.tile p) → MapStep s s'
  | kept : s.tile s.position ≠ 0 → s'.garbage = s.garbage → (∀ p, s'.tile p = s.tile p) →
      MapStep s s'
  | marked : s'.garbage = s.garbage →
      (∀ p, s'.tile p = if p = s.position then 1 else s.tile p) → MapStep s s'

theorem mapStep_of_step (h : s.step side op = some s') : MapStep s s' := by
  unfold step at h
  split at h
  · cases h
  cases op with
  | activation mail =>
    obtain rfl : s.activation side mail = s' := by simpa using h
    by_cases hzero : s.tile s.position = 0
    · refine .cleaned hzero (by rw [garbage_activation, if_pos hzero]) fun p => ?_
      rw [tile_activation]
      simp [hzero]
    · refine .kept hzero (by rw [garbage_activation, if_neg hzero, Nat.add_zero]) fun p => ?_
      rw [tile_activation]
      simp [hzero]
  | obstacleHandler =>
    obtain rfl : s.obstacleHandler = s' := by simpa using h
    exact .marked rfl fun p => tile_obstacleHandler

theorem Counted.step {l : List Cleaner} (h : Counted side s l) (hstep : s.step side op = some s')
    (hmap : OnMap side s'.position) : Counted side s' (s :: l) := by
  have hgrid : s.position ∈ grid side := h.onMap
  have hfinite : (everCleaned (s :: l)).Finite := finite_grid.subset h.inGrid
  cases mapStep_of_step hstep with
  | cleaned hzero hgarbage htile =>
    have hnew : s.position ∉ everCleaned (s :: l) := fun hmem => h.kept _ hmem hzero
    have hever : everCleaned (s' :: s :: l) = insert s.position (everCleaned (s :: l)) := by
      rw [everCleaned_cons]
      ext p
      simp only [Set.mem_union, Set.mem_ofPred_eq, Set.mem_insert_iff, htile]
      by_cases hp : p = s.position
      · simp [hp]
      · have hold : s.tile p = 2 → p ∈ everCleaned (s :: l) := fun hp2 => ⟨s, by simp, hp2⟩
        simp only [hp, if_false, false_or]
        exact ⟨fun ho => ho.elim hold id, Or.inr⟩
    refine ⟨hmap, fun p => ?_, fun p hp => ?_, ?_, ?_⟩
    · rw [htile]
      split
      · exact .inr (.inr rfl)
      · exact h.values p
    · rw [hever] at hp
      rw [htile]
      split
      · decide
      · exact h.kept p (hp.resolve_left ‹_›)
    · rw [hever]
      exact Set.insert_subset hgrid h.inGrid
    · rw [hgarbage, hever, Set.ncard_insert_of_notMem hnew hfinite, h.garbage]
  | kept hzero hgarbage htile =>
    have hever : everCleaned (s' :: s :: l) = everCleaned (s :: l) := by
      rw [everCleaned_cons]
      refine Set.union_eq_self_of_subset_left fun p hp => ⟨s, by simp, ?_⟩
      rwa [Set.mem_ofPred_eq, htile] at hp
    refine ⟨hmap, fun p => (htile p).symm ▸ h.values p, fun p hp => ?_, ?_, ?_⟩
    · rw [hever] at hp
      exact (htile p).symm ▸ h.kept p hp
    · rw [hever]
      exact h.inGrid
    · rw [hgarbage, hever, h.garbage]
  | marked hgarbage htile =>
    have hever : everCleaned (s' :: s :: l) = everCleaned (s :: l) := by
      rw [everCleaned_cons]
      refine Set.union_eq_self_of_subset_left fun p hp => ⟨s, by simp, ?_⟩
      rw [Set.mem_ofPred_eq, htile] at hp
      split at hp
      · cases hp
      · exact hp
    refine ⟨hmap, fun p => ?_, fun p hp => ?_, ?_, ?_⟩
    · rw [htile]
      split
      · exact .inr (.inl rfl)
      · exact h.values p
    · rw [hever] at hp
      rw [htile]
      split
      · decide
      · exact h.kept p hp
    · rw [hever]
      exact h.inGrid
    · rw [hgarbage, hever, h.garbage]

theorem Counted.initial {stuck : ℤ} (h : OnMap side (0, 0)) :
    Counted side (initial stuck) [] := by
  have hnone : everCleaned [Cleaner.initial stuck] = ∅ := by
    ext p
    simp [everCleaned, Cleaner.initial, Robot.tile]
  refine ⟨h, fun p => .inl rfl, fun p hp => ?_, ?_, ?_⟩
  · rw [hnone] at hp
    cases hp
  · rw [hnone]
    exact Set.empty_subset _
  · rw [hnone, Set.ncard_empty]
    rfl

/-- Every state of a run is counted by the states before it. -/
theorem Trace.counted {l : List Cleaner} (h : Trace side (s :: l)) : Counted side s l := by
  generalize hl : s :: l = l' at h
  induction h generalizing s l with
  | initial stuck h =>
    obtain ⟨rfl, rfl⟩ := List.cons.inj hl
    exact .initial h
  | step _ hstep hmap ih =>
    obtain ⟨rfl, rfl⟩ := List.cons.inj hl
    exact (ih rfl).step hstep hmap

/-- No operation makes a tile unclean again. -/
theorem MapStep.ne_zero (h : MapStep s s') (hp : s.tile p ≠ 0) : s'.tile p ≠ 0 := by
  cases h with
  | cleaned _ _ htile =>
    rw [htile]
    split
    · decide
    · exact hp
  | kept _ _ htile => rwa [htile]
  | marked _ htile =>
    rw [htile]
    split
    · decide
    · exact hp

/-- A tile that is not 0 in one state is not 0 in any later one. -/
theorem Trace.pairwise {l : List Cleaner} (h : Trace side l) :
    l.Pairwise fun later earlier => ∀ p, earlier.tile p ≠ 0 → later.tile p ≠ 0 := by
  induction h with
  | initial => exact List.pairwise_singleton _ _
  | step _ hstep _ ih =>
    have hlast := mapStep_of_step hstep
    refine List.pairwise_cons.mpr ⟨fun x hx p hp => ?_, ih⟩
    rcases List.mem_cons.mp hx with rfl | hx
    · exact hlast.ne_zero hp
    · exact hlast.ne_zero ((List.pairwise_cons.mp ih).1 x hx p hp)

theorem Trace.values {l : List Cleaner} (h : Trace side l) {x : Cleaner} (hx : x ∈ l) :
    x.tile p = 0 ∨ x.tile p = 1 ∨ x.tile p = 2 := by
  induction h with
  | initial =>
    obtain rfl := List.mem_singleton.mp hx
    exact .inl rfl
  | step hr hstep hmap ih =>
    rcases List.mem_cons.mp hx with rfl | hx
    · exact (Trace.counted (.step hr hstep hmap)).values p
    · exact ih hx

/-- **The garbage counter counts distinct tiles**: in every run of activations and handler runs on
a map of any side, it is the number of tiles that were ever cleaned. A tile is counted when it is
cleaned for the first time, no tile becomes unclean again, the values are 0, 1 and 2, and the
counter does not exceed the size of the map. -/
theorem garbage_eq_ncard (n : ℕ) (s : Cleaner) (l : List Cleaner) (h : Trace n (s :: l)) :
    s.garbage = (everCleaned (s :: l)).ncard ∧
      (∀ op s', s.step n op = some s' → s'.garbage ≠ s.garbage →
        s'.garbage = s.garbage + 1 ∧ s.position ∉ everCleaned (s :: l) ∧
          s'.tile s.position = 2) ∧
      ((s :: l).Pairwise fun later earlier => ∀ p, earlier.tile p ≠ 0 → later.tile p ≠ 0) ∧
      (∀ x ∈ s :: l, ∀ p, x.tile p = 0 ∨ x.tile p = 1 ∨ x.tile p = 2) ∧
      s.garbage ≤ n * n := by
  have hc := h.counted
  refine ⟨hc.garbage, fun op s' hstep hne => ?_, h.pairwise, fun x hx p => h.values hx, ?_⟩
  · cases mapStep_of_step hstep with
    | cleaned hzero hgarbage htile =>
      exact ⟨hgarbage, fun hmem => hc.kept _ hmem hzero, (htile _).trans (if_pos rfl)⟩
    | kept _ hgarbage _ => exact absurd hgarbage hne
    | marked hgarbage _ => exact absurd hgarbage hne
  · calc s.garbage = (everCleaned (s :: l)).ncard := hc.garbage
      _ ≤ (grid n).ncard := Set.ncard_le_ncard hc.inGrid finite_grid
      _ = n * n := ncard_grid n

/-- A tile is cleaned, and the next one turns out to be an obstacle. -/
theorem garbage_eq_ncard_obstacle :
    let s := initial 0
    let s₁ := s.activation 2 false
    let s₂ := s₁.obstacleHandler
    s₂.garbage = (everCleaned [s₂, s₁, s]).ncard ∧
      (∀ op s', s₂.step 2 op = some s' → s'.garbage ≠ s₂.garbage →
        s'.garbage = s₂.garbage + 1 ∧ s₂.position ∉ everCleaned [s₂, s₁, s] ∧
          s'.tile s₂.position = 2) ∧
      ([s₂, s₁, s].Pairwise fun later earlier => ∀ p, earlier.tile p ≠ 0 → later.tile p ≠ 0) ∧
      (∀ x ∈ [s₂, s₁, s], ∀ p, x.tile p = 0 ∨ x.tile p = 1 ∨ x.tile p = 2) ∧
      s₂.garbage ≤ 2 * 2 := by
  intro s s₁ s₂
  refine garbage_eq_ncard 2 s₂ [s₁, s]
    (.step (.step (.initial 0 ?_) (step_activation rfl) ?_) (step_obstacleHandler rfl) ?_)
  · decide
  · decide
  · decide

/-! ### The handler and the move it takes back -/

section Undo

variable {d : Directions}

theorem opposite_next (hd : d ∈ moves) : d.opposite.next (d.next p) = p := by
  simp only [moves, List.mem_cons, List.not_mem_nil, or_false] at hd
  rcases hd with rfl | rfl | rfl | rfl <;> simp [Directions.next, Directions.opposite]

theorem next_ne (hd : d ∈ moves) : d.next p ≠ p := by
  simp only [moves, List.mem_cons, List.not_mem_nil, or_false] at hd
  rcases hd with rfl | rfl | rfl | rfl <;> simp [Directions.next, Prod.ext_iff]

/-- The direction in which the robot goes on: ahead, or else the first one of the search. -/
def attempt (side : ℤ) (s : Cleaner) : Option Directions :=
  if s.CanMove side s.direction then some s.direction
  else moves.find? fun d => decide (s.CanTurn side d)

/-- The robot can move: `find_new_position`, where it is called, returns 0. -/
def Moves (side : ℤ) (s : Cleaner) : Prop :=
  s.CanMove side s.direction ∨ (s.findNewPosition side).1 = 0

theorem attempt_mem_moves (hd : s.direction ∈ moves) (h : s.attempt side = some d) : d ∈ moves := by
  unfold attempt at h
  split at h
  · obtain rfl := Option.some.inj h
    exact hd
  · exact List.mem_of_find?_eq_some h

/-- **The move sets the direction it takes**, on every path. -/
theorem move_attempt (hd : s.direction ∈ moves) (h : s.Moves side) : ∃ d, s.attempt side = some d ∧
    (s.move side).position = d.next s.position ∧ (s.move side).direction = d := by
  have hreturn : s.direction ≠ .returning := by
    intro h
    rw [h] at hd
    simp [moves] at hd
  unfold move attempt
  by_cases hahead : s.CanMove side s.direction
  · exact ⟨s.direction, by simp [hahead], by simp [hreturn, hahead], by simp [hreturn, hahead]⟩
  · have hfound := h.resolve_left hahead
    simp only [hreturn, hahead, if_false]
    rw [Robot.findNewPosition_eq] at hfound ⊢
    cases hfind : moves.find? fun d => decide (s.CanTurn side d) with
    | none => simp [hfind] at hfound
    | some d => exact ⟨d, rfl, by simp [Robot.turn], by simp [Robot.turn]⟩

/-- The choice only reads which tiles are obstacles. -/
theorem canMove_congr (hpos : s'.position = s.position)
    (htile : ∀ p, s'.tile p = 1 ↔ s.tile p = 1) : s'.CanMove side d ↔ s.CanMove side d := by
  rw [Robot.CanMove, Robot.CanMove, hpos, ne_eq, ne_eq, htile]

theorem canTurn_iff_canMove : s.CanTurn side d ↔ s.direction ≠ d.opposite ∧ s.CanMove side d :=
  Iff.rfl

theorem canTurn_of_find
    (h : (moves.find? fun d => decide (s.CanTurn side d)) = some d) : s.CanTurn side d := by
  have hfound := List.find?_some h
  exact of_decide_eq_true hfound

theorem attempt_congr (hpos : s'.position = s.position) (hdir : s'.direction = s.direction)
    (htile : ∀ p, s'.tile p = 1 ↔ s.tile p = 1) : s'.attempt side = s.attempt side := by
  have hmove : ∀ d, s'.CanMove side d ↔ s.CanMove side d := fun d => canMove_congr hpos htile
  simp only [attempt, canTurn_iff_canMove, hmove, hdir]

theorem moves_iff_attempt : s.Moves side ↔ (s.attempt side).isSome := by
  unfold Moves attempt
  by_cases hahead : s.CanMove side s.direction
  · simp [hahead]
  · rw [Robot.findNewPosition_eq]
    cases moves.find? fun d => decide (s.CanTurn side d) <;> simp [hahead]

/-- The attempted step goes to a tile that is not marked. -/
theorem canMove_of_attempt (h : s.attempt side = some d) : s.CanMove side d := by
  unfold attempt at h
  split at h
  · next hahead =>
    obtain rfl := Option.some.inj h
    exact hahead
  · exact (canTurn_iff_canMove.mp (canTurn_of_find h)).2

theorem tile_clean_eq_one (p : ℤ × ℤ) : s.clean.tile p = 1 ↔ s.tile p = 1 := by
  rw [tile_clean]
  split
  · next h => rw [h.1, h.2]; decide
  · rfl

theorem attempt_clean : s.clean.attempt side = s.attempt side :=
  attempt_congr clean_position clean_direction tile_clean_eq_one

/-- An activation without mail moves in the direction of the attempt. -/
theorem activation_attempt (hd : s.direction ∈ moves) (hmoves : s.Moves side) :
    ∃ d ∈ moves, s.attempt side = some d ∧
      (s.activation side false).position = d.next s.position ∧
      (s.activation side false).direction = d := by
  have hmoves' : s.clean.Moves side := by
    rwa [moves_iff_attempt, attempt_clean, ← moves_iff_attempt]
  obtain ⟨d, hattempt, hpos, hdir⟩ := move_attempt (by rwa [clean_direction]) hmoves'
  rw [attempt_clean] at hattempt
  rw [clean_position] at hpos
  exact ⟨d, attempt_mem_moves hd hattempt, hattempt, hpos, hdir⟩

/-- **Without a mail the robot never steps onto a marked tile.** -/
theorem tile_activation_ne_one (hd : s.direction ∈ moves) :
    (s.activation side false).position = s.position ∨
      s.tile (s.activation side false).position ≠ 1 := by
  by_cases hmoves : s.Moves side
  · obtain ⟨d, -, hattempt, hpos, -⟩ := activation_attempt hd hmoves
    exact .inr (hpos ▸ (canMove_of_attempt hattempt).2)
  · have hstay : s.clean.attempt side = none := by
      rw [attempt_clean, ← Option.not_isSome_iff_eq_none, ← moves_iff_attempt]
      exact hmoves
    unfold attempt at hstay
    split at hstay
    · cases hstay
    · next hahead =>
      refine .inl ?_
      have hreturn : s.clean.direction ≠ .returning := by
        intro h
        rw [clean_direction] at h
        rw [h] at hd
        simp [moves] at hd
      change (s.clean.move side).position = s.position
      rw [move, if_neg hreturn, if_neg hahead, Robot.findNewPosition_eq, hstay]
      exact clean_position

/-- The attempted step is the one with which the way home begins: the robot goes up, or it goes to
the left in the first row. Either is the step ahead, or it is the first one the search finds. -/
def AttemptsHomeward (side : ℤ) (s : Cleaner) : Prop :=
  s.CanMove side .up ∧
      (s.direction = .up ∨ ¬ s.CanMove side s.direction ∧ s.direction ≠ .down) ∨
    ¬ 0 < s.position.1 ∧ s.CanMove side .left ∧
      (s.direction = .left ∨ ¬ s.CanMove side s.direction ∧ s.direction ≠ .right ∧
        ¬ (s.direction ≠ .up ∧ s.CanMove side .down))

theorem attempt_up_iff : s.attempt side = some .up ↔ s.CanMove side .up ∧
    (s.direction = .up ∨ ¬ s.CanMove side s.direction ∧ s.direction ≠ .down) := by
  unfold attempt
  by_cases hahead : s.CanMove side s.direction
  · rw [if_pos hahead]
    constructor
    · intro h
      have hdir : s.direction = .up := Option.some.inj h
      exact ⟨hdir ▸ hahead, .inl hdir⟩
    · rintro ⟨-, hdir | ⟨hno, -⟩⟩
      · rw [hdir]
      · exact absurd hahead hno
  · rw [if_neg hahead]
    by_cases hup : s.CanTurn side .up
    · have hup' := canTurn_iff_canMove.mp hup
      simp [moves, hup, hup'.2, hahead, show s.direction ≠ .down from hup'.1]
    · have hnot : ¬ (s.CanMove side .up ∧ (s.direction = .up ∨
          ¬ s.CanMove side s.direction ∧ s.direction ≠ .down)) := by
        rintro ⟨hmove, hdir | ⟨-, hdown⟩⟩
        · exact hahead (hdir ▸ hmove)
        · exact hup (canTurn_iff_canMove.mpr ⟨hdown, hmove⟩)
      simp only [hnot, iff_false]
      exact fun h => hup (canTurn_of_find h)

theorem attempt_left_iff (hrow : ¬ 0 < s.position.1) :
    s.attempt side = some .left ↔ s.CanMove side .left ∧
      (s.direction = .left ∨ ¬ s.CanMove side s.direction ∧ s.direction ≠ .right ∧
        ¬ (s.direction ≠ .up ∧ s.CanMove side .down)) := by
  have hup : ¬ s.CanTurn side .up := fun h => hrow (of_decide_eq_true h.2.1)
  unfold attempt
  by_cases hahead : s.CanMove side s.direction
  · rw [if_pos hahead]
    constructor
    · intro h
      have hdir : s.direction = .left := Option.some.inj h
      exact ⟨hdir ▸ hahead, .inl hdir⟩
    · rintro ⟨-, hdir | ⟨hno, -⟩⟩
      · rw [hdir]
      · exact absurd hahead hno
  · rw [if_neg hahead]
    by_cases hdown : s.CanTurn side .down
    · have hdown' := canTurn_iff_canMove.mp hdown
      have hupward : s.direction ≠ .up := hdown'.1
      simp [moves, hup, hdown, hdown'.2, hahead, hupward]
      intro hmove hdir
      exact hahead (hdir ▸ hmove)
    · have hdown' : ¬ (s.direction ≠ .up ∧ s.CanMove side .down) := hdown
      by_cases hleft : s.CanTurn side .left
      · have hleft' := canTurn_iff_canMove.mp hleft
        have hright : s.direction ≠ .right := hleft'.1
        simp only [moves, List.find?_cons_of_neg (p := fun d => decide (s.CanTurn side d))
          (by simpa using hup), List.find?_cons_of_neg (p := fun d => decide (s.CanTurn side d))
          (by simpa using hdown), List.find?_cons_of_pos (p := fun d => decide (s.CanTurn side d))
          (by simpa using hleft), true_iff]
        exact ⟨hleft'.2, .inr ⟨hahead, hright, hdown'⟩⟩
      · have hnot : ¬ (s.CanMove side .left ∧ (s.direction = .left ∨
            ¬ s.CanMove side s.direction ∧ s.direction ≠ .right ∧
              ¬ (s.direction ≠ .up ∧ s.CanMove side .down))) := by
          rintro ⟨hmove, hdir | ⟨-, hright, -⟩⟩
          · exact hahead (hdir ▸ hmove)
          · exact hleft (canTurn_iff_canMove.mpr ⟨hright, hmove⟩)
        simp only [hnot, iff_false]
        exact fun h => hleft (canTurn_of_find h)

theorem attemptsHomeward_iff : s.AttemptsHomeward side ↔
    s.attempt side = some .up ∨ ¬ 0 < s.position.1 ∧ s.attempt side = some .left := by
  rw [attempt_up_iff]
  exact or_congr_right (and_congr_right fun hrow => (attempt_left_iff hrow).symm)

/-- The way home begins with a step up, or in the first row with a step to the left. -/
theorem homeStep_eq_next_iff (hd : d ∈ moves) : homeStep p = d.next p ↔
    0 < p.1 ∧ d = .up ∨ ¬ 0 < p.1 ∧ 0 < p.2 ∧ d = .left := by
  simp only [moves, List.mem_cons, List.not_mem_nil, or_false] at hd
  unfold homeStep
  rcases hd with rfl | rfl | rfl | rfl <;> split_ifs <;>
    simp_all [Directions.next, Prod.ext_iff] <;> omega

theorem activation_mail_position :
    (s.activation side true).position = homeStep s.position := by
  have hdir : (s.receive true).clean.direction = .returning := clean_direction
  have hpos : (s.receive true).clean.position = s.position :=
    clean_position.trans receive_position
  change ((s.receive true).clean.move side).position = homeStep s.position
  rw [move, if_pos hdir]
  exact congrArg homeStep hpos

/-- The activation after the handler. -/
theorem obstacleHandler_activation (hd : s.direction ∈ moves) (hmoves : s.Moves side)
    (mail : Bool) :
    ((s.activation side false).obstacleHandler.activation side mail).position ≠
      (s.activation side false).position ↔ ¬ (mail = true ∧ s.AttemptsHomeward side) := by
  obtain ⟨d, hdm, hattempt, hpos, hdir⟩ := activation_attempt hd hmoves
  have hback : (s.activation side false).obstacleHandler.position = s.position := by
    change (s.activation side false).direction.opposite.next
      (s.activation side false).position = s.position
    rw [hpos, hdir, opposite_next hdm]
  have hmark : (s.activation side false).obstacleHandler.tile (s.activation side false).position =
      1 := tile_obstacleHandler.trans (if_pos rfl)
  cases mail with
  | false =>
    simp only [Bool.false_eq_true, false_and, not_false_iff, iff_true]
    intro heq
    have hd' : (s.activation side false).obstacleHandler.direction ∈ moves := hdir.symm ▸ hdm
    rcases @tile_activation_ne_one side _ hd' with hstay | hne
    · rw [heq, hback, hpos] at hstay
      exact next_ne hdm hstay
    · rw [heq] at hne
      exact hne hmark
  | true =>
    have hhome : ((s.activation side false).obstacleHandler.activation side true).position =
        homeStep s.position := by
      rw [activation_mail_position, hback]
    rw [hhome, hpos, ne_eq, homeStep_eq_next_iff hdm, attemptsHomeward_iff, hattempt]
    have hup : d = .up → 0 < s.position.1 := fun h =>
      of_decide_eq_true (h ▸ canMove_of_attempt hattempt).1
    have hleft : d = .left → 0 < s.position.2 := fun h =>
      of_decide_eq_true (h ▸ canMove_of_attempt hattempt).1
    simp only [Option.some.injEq, true_and]
    refine not_congr (or_congr ⟨And.right, fun h => ⟨hup h, h⟩⟩ (and_congr_right fun _ => ?_))
    exact ⟨And.right, fun h => ⟨hleft h, h⟩⟩

/-- **The handler takes back the last move.** After an activation without mail that moves the robot
and one run of the handler, the robot is where it was, its direction is the one of the attempted
step, and the map is the cleaned one with the attempted tile marked. The next activation does not
go there again, except on the way home: if it gets a mail, and the attempted step was the one with
which the way home begins. -/
theorem obstacleHandler_undoes_iff (side : ℤ) (s : Cleaner) (hd : s.direction ∈ moves)
    (hmoves : s.Moves side) (mail : Bool) :
    let s₁ := s.activation side false
    let s₂ := s₁.obstacleHandler
    (s₂.position = s.position ∧ s₂.direction = s₁.direction ∧ s₁.direction ∈ moves ∧
        s₁.position = s₁.direction.next s.position ∧
        (∀ p, s₂.tile p = if p = s₁.position then 1 else s.clean.tile p) ∧
        (s₂.activation side mail).position ≠ s₁.position) ↔
      ¬ (mail = true ∧ s.AttemptsHomeward side) := by
  intro s₁ s₂
  obtain ⟨d, hdm, -, hpos, hdir⟩ := activation_attempt hd hmoves
  have hnext := @obstacleHandler_activation side s hd hmoves mail
  refine ⟨fun h => hnext.mp h.2.2.2.2.2, fun h => ⟨?_, rfl, ?_, ?_, fun p => ?_, hnext.mpr h⟩⟩
  · change (s.activation side false).direction.opposite.next
      (s.activation side false).position = s.position
    rw [hpos, hdir, opposite_next hdm]
  · exact hdir.symm ▸ hdm
  · rw [hpos, hdir]
  · rw [tile_obstacleHandler, tile_activation, ← tile_clean]

/-- The robot goes up along the wall and finds an obstacle, and no mail comes. -/
theorem obstacleHandler_undoes_iff_wall :
    let s : Cleaner := ⟨⟨fun _ _ => 0, (5, 9), .up⟩, 0, 0, false⟩
    let s₁ := s.activation 10 false
    let s₂ := s₁.obstacleHandler
    (s₂.position = s.position ∧ s₂.direction = s₁.direction ∧ s₁.direction ∈ moves ∧
        s₁.position = s₁.direction.next s.position ∧
        (∀ p, s₂.tile p = if p = s₁.position then 1 else s.clean.tile p) ∧
        (s₂.activation 10 false).position ≠ s₁.position) ↔
      ¬ (false = true ∧ s.AttemptsHomeward 10) :=
  obstacleHandler_undoes_iff 10 ⟨⟨fun _ _ => 0, (5, 9), .up⟩, 0, 0, false⟩ (by decide)
    (.inl (by decide)) false

/-- At the same place, a mail sends the robot onto the tile it has just marked. -/
theorem obstacleHandler_activation_enters :
    ¬ ∀ (s : Cleaner) (mail : Bool), OnMap 10 s.position → s.tile s.position ≠ 1 →
      s.direction ∈ moves → s.Moves 10 →
      ((s.activation 10 false).obstacleHandler.activation 10 mail).position ≠
        (s.activation 10 false).position := by
  intro h
  exact h ⟨⟨fun _ _ => 0, (5, 9), .up⟩, 0, 0, false⟩ true (by decide) (by decide) (by decide)
    (.inl (by decide)) (by decide)

end Undo

/-! ### The walk without obstacles -/

section Walk

variable {d : Directions} {stuck : ℤ} {k : ℕ}

/-- One more activation without mail, if Task2 has not ended. -/
def advance (side : ℤ) (s : Cleaner) : Cleaner := (s.step side (.activation false)).getD s

/-- The robot after a number of activations without mail or obstacle. -/
def walk (side stuck : ℤ) (k : ℕ) : Cleaner := (advance side)^[k] (initial stuck)

theorem walk_succ : walk side stuck (k + 1) = (walk side stuck k).advance side :=
  Function.iterate_succ_apply' _ _ _

/-- No obstacle is on the map, and Task2 goes on. -/
structure Clear (s : Cleaner) : Prop where
  tile : ∀ p, s.tile p = 0 ∨ s.tile p = 2
  stuck : s.stuck ≠ 1
  ended : s.ended = false

theorem Clear.canMove (h : Clear s) : s.CanMove side d ↔ d.inBound side s.position = true := by
  refine ⟨And.left, fun hb => ⟨hb, ?_⟩⟩
  rcases h.tile (d.next s.position) with ht | ht <;> rw [ht] <;> decide

/-- A step of the walk. -/
theorem Clear.advance (h : Clear s) (hd : s.direction ∈ moves) (ha : s.attempt side = some d) :
    Clear (s.advance side) ∧ (s.advance side).direction = d ∧
      (s.advance side).position = d.next s.position ∧
      ∀ p, (s.advance side).tile p = if p = s.position then 2 else s.tile p := by
  have hmoves : s.Moves side := moves_iff_attempt.mpr (by rw [ha]; rfl)
  have heq : s.advance side = s.activation side false := by
    rw [Cleaner.advance, step_activation h.ended]
    rfl
  obtain ⟨d', hd', hattempt, hpos, hdir⟩ := activation_attempt hd hmoves
  obtain rfl : d = d' := Option.some.inj (ha.symm.trans hattempt)
  have htile : ∀ p, (s.activation side false).tile p = if p = s.position then 2 else s.tile p := by
    intro p
    rw [tile_activation]
    by_cases hp : p = s.position
    · subst hp
      rcases h.tile s.position with ht | ht <;> simp [ht]
    · simp [hp]
  have hstuck : (s.activation side false).stuck ≠ 1 := by
    change (s.clean.move side).stuck ≠ 1
    have hreturn : s.clean.direction ≠ .returning := by
      rw [clean_direction]
      intro hret
      rw [hret] at hd
      simp [moves] at hd
    by_cases hahead : s.clean.CanMove side s.clean.direction
    · rw [move, if_neg hreturn, if_pos hahead]
      exact clean_stuck.trans_ne h.stuck
    · have hfound : s.clean.Moves side := moves_iff_attempt.mpr (by rw [attempt_clean, ha]; rfl)
      rw [move, if_neg hreturn, if_neg hahead]
      change (s.clean.findNewPosition side).1 ≠ 1
      rw [hfound.resolve_left hahead]
      decide
  rw [heq]
  refine ⟨⟨fun p => ?_, hstuck, ?_⟩, hdir, hpos, htile⟩
  · rw [htile]
    split
    · exact .inr rfl
    · exact h.tile p
  · have hret : (s.activation side false).direction ≠ .returning := by
      rw [hdir]
      intro hret
      rw [hret] at hd'
      simp [moves] at hd'
    change decide ((s.activation side false).stuck = 1 ∨
      (s.activation side false).direction = .returning ∧ _) = false
    simp [hstuck, hret]

/-- The robot keeps the wall on its right. -/
def OnWall (side : ℤ) (d : Directions) (p : ℤ × ℤ) : Prop :=
  match d with
  | .down => p.2 = 0
  | .right => p.1 = side - 1
  | .up => p.2 = side - 1
  | .left => p.1 = 0
  | .returning => False

/-- The direction along the next wall. -/
def nextWall : Directions → Directions
  | .down => .right
  | .right => .up
  | .up => .left
  | .left => .down
  | .returning => .returning

/-- **The robot follows the wall**: it goes on until the corner and turns there along the next
wall, since the search finds no other direction inside the bound. -/
theorem Clear.attempt_wall (h : Clear s) (hside : 2 ≤ side) (hp : OnMap side s.position)
    (hw : OnWall side s.direction s.position) : s.attempt side =
      some (if s.direction.inBound side s.position then s.direction else nextWall s.direction) := by
  obtain ⟨h1, h2, h3, h4⟩ := hp
  unfold attempt
  by_cases hahead : s.direction.inBound side s.position = true
  · rw [if_pos (h.canMove.mpr hahead), if_pos hahead]
  · rw [if_neg (h.canMove.not.mpr hahead), if_neg hahead]
    have hturn : ∀ d, s.CanTurn side d ↔ s.direction ≠ d.opposite ∧
        d.inBound side s.position = true := fun d => canTurn_iff_canMove.trans (by rw [h.canMove])
    cases hdir : s.direction <;> rw [hdir] at hw hahead <;>
      simp only [OnWall, Directions.inBound, decide_eq_true_eq, not_lt] at hw hahead
    · have hleft : 0 < s.position.2 := by omega
      simp [moves, hturn, hdir, nextWall, Directions.inBound, Directions.opposite, hahead, hleft]
    · have hright : 1 < side := by omega
      simp [moves, hturn, hdir, nextWall, Directions.inBound, Directions.opposite, hahead, hw,
        hright]
    · have hdown : 1 < side := by omega
      simp [moves, hturn, hdir, nextWall, Directions.inBound, Directions.opposite, hw, hdown]
    · have hup : 0 < s.position.1 := by omega
      simp [moves, hturn, hdir, nextWall, Directions.inBound, Directions.opposite, hup]

/-- What holds after every number of activations. -/
structure Walking (side : ℤ) (s : Cleaner) : Prop where
  clear : Clear s
  moves : s.direction ∈ moves
  onMap : OnMap side s.position
  onWall : OnWall side s.direction s.position

theorem Walking.initial (hside : 2 ≤ side) (hs : stuck ≠ 1) : Walking side (initial stuck) where
  clear := ⟨fun _ => .inl rfl, hs, rfl⟩
  moves := by simp [Cleaner.initial, Directions.moves]
  onMap := ⟨le_rfl, by change (0 : ℤ) < side; omega, le_rfl, by change (0 : ℤ) < side; omega⟩
  onWall := rfl

/-- A step along the wall, or around the corner. -/
theorem Walking.advance (h : Walking side s) (hside : 2 ≤ side) :
    let d := if s.direction.inBound side s.position then s.direction else nextWall s.direction
    Walking side (s.advance side) ∧ (s.advance side).direction = d ∧
      (s.advance side).position = d.next s.position ∧
      ∀ p, (s.advance side).tile p = if p = s.position then 2 else s.tile p := by
  intro d
  have ha := h.clear.attempt_wall hside h.onMap h.onWall
  obtain ⟨hclear, hdir, hpos, htile⟩ := h.clear.advance h.moves ha
  have hd : d ∈ Directions.moves := attempt_mem_moves h.moves ha
  have hin : d.inBound side s.position = true := (canMove_of_attempt ha).1
  refine ⟨⟨hclear, hdir ▸ hd, ?_, ?_⟩, hdir, hpos, htile⟩
  · rw [hpos]
    exact (Directions.inBound_iff hd h.onMap).mp hin
  · rw [hpos, hdir]
    change OnWall side d (d.next s.position)
    obtain ⟨h1, h2, h3, h4⟩ := h.onMap
    have hw := h.onWall
    by_cases hahead : s.direction.inBound side s.position = true
    · have hsame : d = s.direction := if_pos hahead
      rw [hsame]
      cases hdir' : s.direction <;> rw [hdir'] at hw <;>
        simp only [OnWall, Directions.next] at hw ⊢ <;> exact hw
    · have hturn : d = nextWall s.direction := if_neg hahead
      rw [hturn]
      cases hdir' : s.direction <;> rw [hdir'] at hw hahead <;>
        simp only [OnWall, Directions.inBound, decide_eq_true_eq, not_lt, nextWall,
          Directions.next] at hw hahead ⊢ <;> omega

theorem walking (hside : 2 ≤ side) (hs : stuck ≠ 1) (k : ℕ) : Walking side (walk side stuck k) := by
  induction k with
  | zero => exact .initial hside hs
  | succ k ih =>
    rw [walk_succ]
    exact (ih.advance hside).1

/-- A tile that does not touch the wall. -/
def Inside (side : ℤ) (p : ℤ × ℤ) : Prop :=
  0 < p.1 ∧ p.1 < side - 1 ∧ 0 < p.2 ∧ p.2 < side - 1

/-- The robot never stands on a tile inside. -/
theorem Walking.not_inside (h : Walking side s) : ¬ Inside side s.position := by
  intro ⟨h1, h2, h3, h4⟩
  have hw := h.onWall
  cases hdir : s.direction <;> rw [hdir] at hw <;> simp only [OnWall] at hw <;> omega

/-- **No tile inside is ever cleaned.** -/
theorem tile_walk_inside (hside : 2 ≤ side) (hs : stuck ≠ 1) (hp : Inside side p) :
    (walk side stuck k).tile p = 0 := by
  induction k with
  | zero => rfl
  | succ k ih =>
    have hw := walking hside hs k
    have hne : p ≠ (walk side stuck k).position := fun h => hw.not_inside (h ▸ hp)
    rw [walk_succ, (hw.advance hside).2.2.2, if_neg hne, ih]

/-- A tile the robot stood on is clean ever after. -/
theorem tile_walk_visited (hside : 2 ≤ side) (hs : stuck ≠ 1) {n : ℕ} (hk : k < n) :
    (walk side stuck n).tile (walk side stuck k).position = 2 := by
  induction n with
  | zero => exact absurd hk (Nat.not_lt_zero k)
  | succ n ih =>
    rw [walk_succ, ((walking hside hs n).advance hside).2.2.2]
    split
    · rfl
    · next hne =>
      refine ih (Nat.lt_of_le_of_ne (Nat.le_of_lt_succ hk) fun h => hne ?_)
      rw [h]

/-- The tile `i` steps away in a direction. -/
def along (d : Directions) (p : ℤ × ℤ) (i : ℕ) : ℤ × ℤ :=
  match d with
  | .up => (p.1 - i, p.2)
  | .down => (p.1 + i, p.2)
  | .left => (p.1, p.2 - i)
  | .right => (p.1, p.2 + i)
  | .returning => p

theorem next_along {i : ℕ} : d.next (along d p i) = along d p (i + 1) := by
  cases d <;>
    simp only [along, Directions.next, Nat.cast_succ, Prod.mk.injEq, true_and, and_true] <;> omega

/-- After `k` activations the robot stands on `p`, and `d` is its direction. -/
def Reached (side stuck : ℤ) (k : ℕ) (d : Directions) (p : ℤ × ℤ) : Prop :=
  (walk side stuck k).direction = d ∧ (walk side stuck k).position = p

theorem Reached.ahead (h : Reached side stuck k d p) (hside : 2 ≤ side) (hs : stuck ≠ 1)
    (hd : d.inBound side p = true) : Reached side stuck (k + 1) d (d.next p) := by
  obtain ⟨rfl, rfl⟩ := h
  have hnext := (walking hside hs k).advance hside
  rw [if_pos hd] at hnext
  rw [Reached, walk_succ]
  exact ⟨hnext.2.1, hnext.2.2.1⟩

theorem Reached.corner (h : Reached side stuck k d p) (hside : 2 ≤ side) (hs : stuck ≠ 1)
    (hd : ¬ d.inBound side p = true) :
    Reached side stuck (k + 1) (nextWall d) ((nextWall d).next p) := by
  obtain ⟨rfl, rfl⟩ := h
  have hnext := (walking hside hs k).advance hside
  rw [if_neg hd] at hnext
  rw [Reached, walk_succ]
  exact ⟨hnext.2.1, hnext.2.2.1⟩

/-- Straight on along a wall. -/
theorem Reached.straight (h : Reached side stuck k d p) (hside : 2 ≤ side) (hs : stuck ≠ 1)
    {j : ℕ} (hj : ∀ i < j, d.inBound side (along d p i) = true) :
    Reached side stuck (k + j) d (along d p j) := by
  induction j with
  | zero =>
    have hzero : along d p 0 = p := by cases d <;> simp [along]
    rw [hzero]
    exact h
  | succ j ih =>
    have hstep := (ih fun i hi => hj i (Nat.lt_succ_of_lt hi)).ahead hside hs (hj j (by simp))
    rwa [next_along] at hstep

/-- Around a corner and along the next wall. -/
theorem Reached.leg (h : Reached side stuck k d p) (hside : 2 ≤ side) (hs : stuck ≠ 1)
    (hd : ¬ d.inBound side p = true) {j : ℕ}
    (hj : ∀ i, 0 < i → i < j → (nextWall d).inBound side (along (nextWall d) p i) = true)
    (hpos : 0 < j) : Reached side stuck (k + j) (nextWall d) (along (nextWall d) p j) := by
  induction j with
  | zero => exact absurd hpos (Nat.lt_irrefl 0)
  | succ j ih =>
    rcases Nat.eq_zero_or_pos j with rfl | hpos'
    · have hone : (nextWall d).next p = along (nextWall d) p 1 := by
        cases d <;> simp [nextWall, along, Directions.next]
      rw [← hone]
      exact h.corner hside hs hd
    · have hstep := (ih (fun i h0 hi => hj i h0 (Nat.lt_succ_of_lt hi)) hpos').ahead hside hs
        (hj j hpos' (Nat.lt_succ_self j))
      rwa [next_along] at hstep

/-! ### One round along the wall -/

variable {n j : ℕ}

theorem reached_down (hn : 2 ≤ n) (hs : stuck ≠ 1) (hj : j ≤ n - 1) :
    Reached n stuck j .down (j, 0) := by
  have hstart : Reached n stuck 0 .down (0, 0) := ⟨rfl, rfl⟩
  have h := hstart.straight (by omega) hs (j := j) fun i hi =>
    decide_eq_true (by simp only [along]; omega)
  simpa [along] using h

theorem reached_right (hn : 2 ≤ n) (hs : stuck ≠ 1) (hpos : 0 < j) (hj : j ≤ n - 1) :
    Reached n stuck (n - 1 + j) .right (n - 1, j) := by
  have hcorner : ((n - 1 : ℕ) : ℤ) = n - 1 := by omega
  have h := (reached_down hn hs le_rfl).leg (by omega) hs (j := j)
    (by simp [Directions.inBound, hcorner])
    (fun i _ hi => decide_eq_true (by simp only [along, nextWall]; omega)) hpos
  simpa [along, nextWall, hcorner] using h

theorem reached_up (hn : 2 ≤ n) (hs : stuck ≠ 1) (hpos : 0 < j) (hj : j ≤ n - 1) :
    Reached n stuck (2 * (n - 1) + j) .up (n - 1 - j, n - 1) := by
  have hcorner : ((n - 1 : ℕ) : ℤ) = n - 1 := by omega
  have h := (reached_right hn hs (by omega) le_rfl).leg (by omega) hs (j := j)
    (by simp [Directions.inBound, hcorner])
    (fun i _ hi => decide_eq_true (by simp only [along, nextWall]; omega)) hpos
  rw [Nat.two_mul]
  simpa [along, nextWall, hcorner] using h

theorem reached_left (hn : 2 ≤ n) (hs : stuck ≠ 1) (hpos : 0 < j) (hj : j ≤ n - 1) :
    Reached n stuck (3 * (n - 1) + j) .left (0, n - 1 - j) := by
  have hcorner : ((n - 1 : ℕ) : ℤ) = n - 1 := by omega
  have h := (reached_up hn hs (by omega) le_rfl).leg (by omega) hs (j := j)
    (by simp [Directions.inBound, hcorner])
    (fun i _ hi => decide_eq_true (by simp only [along, nextWall]; omega)) hpos
  have hcount : 3 * (n - 1) + j = 2 * (n - 1) + (n - 1) + j := by omega
  rw [hcount]
  simpa [along, nextWall, hcorner] using h

/-- Within `4 * (n - 1)` activations the robot is on every tile at the wall. -/
theorem visits_border (hn : 2 ≤ n) (hs : stuck ≠ 1) (hp : OnMap n p) (hb : ¬ Inside n p) :
    ∃ k < 4 * (n - 1), (walk n stuck k).position = p := by
  obtain ⟨r, c⟩ := p
  obtain ⟨h1, h2, h3, h4⟩ := hp
  simp only [Inside] at h1 h2 h3 h4 hb
  lift r to ℕ using h1
  lift c to ℕ using h3
  by_cases hcol : c = 0
  · refine ⟨r, by omega, ?_⟩
    rw [(reached_down hn hs (by omega)).2, hcol]
    rfl
  by_cases hrow : r = n - 1
  · refine ⟨n - 1 + c, by omega, ?_⟩
    rw [(reached_right hn hs (by omega) (by omega)).2, hrow]
    simp only [Prod.mk.injEq, and_true]
    omega
  by_cases hlast : c = n - 1
  · refine ⟨2 * (n - 1) + (n - 1 - r), by omega, ?_⟩
    rw [(reached_up hn hs (by omega) (by omega)).2]
    simp only [Prod.mk.injEq]
    omega
  · have hfirst : r = 0 := by omega
    refine ⟨3 * (n - 1) + (n - 1 - c), by omega, ?_⟩
    rw [(reached_left hn hs (by omega) (by omega)).2]
    simp only [Prod.mk.injEq]
    omega

/-- **The walk without obstacles cleans the border of the room**: after `4 * (n - 1)` activations
every tile at the wall is clean, and no other tile is ever cleaned. So it covers the room only if
there is no other tile. -/
theorem covered_border (n : ℕ) (hn : 2 ≤ n) (stuck : ℤ) (hs : stuck ≠ 1) :
    (∀ p k, OnMap n p → ¬ Inside n p → 4 * (n - 1) ≤ k → (walk n stuck k).tile p = 2) ∧
      (∀ p k, Inside n p → (walk n stuck k).tile p = 0) ∧
      ((∃ k, ∀ p, OnMap n p → (walk n stuck k).tile p = 2) ↔ n = 2) := by
  have hside : (2 : ℤ) ≤ n := by omega
  have hborder : ∀ p k, OnMap n p → ¬ Inside n p → 4 * (n - 1) ≤ k →
      (walk n stuck k).tile p = 2 := by
    intro p k hp hb hk
    obtain ⟨i, hi, rfl⟩ := visits_border hn hs hp hb
    exact tile_walk_visited hside hs (Nat.lt_of_lt_of_le hi hk)
  have hinside : ∀ p k, Inside n p → (walk n stuck k).tile p = 0 :=
    fun p k hp => tile_walk_inside hside hs hp
  refine ⟨hborder, hinside, fun ⟨k, hall⟩ => ?_, fun h => ⟨4 * (n - 1), fun p hp => ?_⟩⟩
  · by_contra hne
    have hmiddle : Inside n (1, 1) := by
      simp only [Inside]
      omega
    have hmap : OnMap n (1, 1) := by
      simp only [OnMap]
      omega
    have hzero := hinside (1, 1) k hmiddle
    rw [hall (1, 1) hmap] at hzero
    exact absurd hzero (by decide)
  · refine hborder p _ hp (fun hb => ?_) le_rfl
    obtain ⟨h1, h2, -, -⟩ := hb
    omega

/-- The map of the robot. -/
theorem covered_border_ten :
    (∀ p k, OnMap (10 : ℕ) p → ¬ Inside (10 : ℕ) p → 4 * (10 - 1) ≤ k →
        (walk (10 : ℕ) 0 k).tile p = 2) ∧
      (∀ p k, Inside (10 : ℕ) p → (walk (10 : ℕ) 0 k).tile p = 0) ∧
      ((∃ k, ∀ p, OnMap (10 : ℕ) p → (walk (10 : ℕ) 0 k).tile p = 2) ↔ 10 = 2) :=
  covered_border 10 (by decide) 0 (by decide)

/-- The tile in the middle of the smallest room that has one is never cleaned. -/
theorem walk_not_covering :
    ¬ ∀ (n : ℕ) (stuck : ℤ), 2 ≤ n → ∃ k, ∀ p, OnMap n p → (walk n stuck k).tile p = 2 := by
  intro h
  obtain ⟨k, hk⟩ := h 3 0 (by decide)
  have hzero : (walk (3 : ℕ) 0 k).tile (1, 1) = 0 :=
    tile_walk_inside (by decide) (by decide) (by simp [Inside])
  rw [hk (1, 1) (by simp [OnMap])] at hzero
  exact absurd hzero (by decide)

end Walk

end Cleaner

/-! ### The statements of Task2 compute an activation -/

namespace App

variable {s : App}

/-- The part of the application that Task2 works on. -/
def cleaner (s : App) (ended : Bool) : Cleaner where
  toRobot := s.robot
  garbage := s.garbageBagValue
  stuck := s.stuck
  ended := ended

theorem movementSteps_add (m n : ℕ) :
    s.movementSteps (m + n) = (s.movementSteps m).movementSteps n := by
  rw [Nat.add_comm]
  exact Function.iterate_add_apply _ n m s

theorem movementSteps_succ {n : ℕ} :
    s.movementSteps (n + 1) = App.movementSteps s.movementStatement.2 n :=
  Function.iterate_succ_apply _ n s

/-- Reading a mail. -/
theorem receive_statements (h : s.movementPc = .testMail) : ∃ n,
    (s.movementSteps n).movementPc = .testTile ∧
      (s.movementSteps n).cleaner false =
        (s.cleaner false).receive (decide (s.gotOk .movementControl)) := by
  by_cases hmail : s.gotOk .movementControl
  · have hstep : s.movementStatement.2 = { s with movementPc := .setReturn } := by
      simp [movementStatement, h, hmail]
    refine ⟨4, ?_⟩
    rw [movementSteps_succ, hstep, decide_eq_true hmail]
    exact ⟨rfl, rfl⟩
  · have hstep : s.movementStatement.2 = { s with movementPc := .testTile } := by
      simp [movementStatement, h, hmail]
    refine ⟨1, ?_⟩
    rw [movementSteps_succ, hstep, decide_eq_false hmail]
    exact ⟨rfl, rfl⟩

/-- Cleaning the tile. -/
theorem clean_statements (h : s.movementPc = .testTile) : ∃ n,
    (s.movementSteps n).movementPc = .switch ∧
      (s.movementSteps n).cleaner false = (s.cleaner false).clean := by
  have hstep : s.movementStatement.2 = { s.accessMap s.position with
      movementPc := if s.tile s.position = 0 then .markTile else .switch } := by
    simp [movementStatement, h]
  have haccess : ∃ b, s.accessMap s.position = { s with mapFault := b } := by
    unfold accessMap
    split
    · exact ⟨s.mapFault, rfl⟩
    · exact ⟨true, rfl⟩
  obtain ⟨b, haccess⟩ := haccess
  have htile : (s.cleaner false).tile (s.cleaner false).position = s.tile s.position := rfl
  by_cases hzero : s.tile s.position = 0
  · refine ⟨3, ?_⟩
    rw [movementSteps_succ, hstep, if_pos hzero, haccess, Cleaner.clean, htile, if_pos hzero]
    refine ⟨rfl, ?_⟩
    simp only [movementSteps, Function.iterate_succ_apply, Function.iterate_zero_apply,
      movementStatement, setTile, accessMap]
    split <;> rfl
  · refine ⟨1, ?_⟩
    rw [movementSteps_succ, hstep, if_neg hzero, haccess, Cleaner.clean, htile, if_neg hzero]
    exact ⟨rfl, rfl⟩

/-- The move home. -/
theorem home_statements (h : s.movementPc = .switch) (hd : s.direction = .returning) : ∃ n,
    (s.movementSteps n).movementPc = .testStuck ∧
      (s.movementSteps n).cleaner false = (s.cleaner false).move mapSide := by
  have hmove : (s.cleaner false).move mapSide =
      { s.cleaner false with position := homeStep s.position } := if_pos hd
  have hstep : s.movementStatement.2 = { s with movementPc := .home } := by
    simp [movementStatement, h, hd]
  have hhome : ({ s with movementPc := .home } : App).movementStatement.2 = { s with
      movementPc := if 0 < s.position.1 then .homeRow
        else if 0 < s.position.2 then .homeCol else .testStuck } := rfl
  rw [hmove, homeStep]
  by_cases hrow : 0 < s.position.1
  · refine ⟨3, ?_⟩
    rw [movementSteps_succ, hstep, movementSteps_succ, hhome, if_pos hrow, if_pos hrow]
    exact ⟨rfl, rfl⟩
  · by_cases hcol : 0 < s.position.2
    · refine ⟨3, ?_⟩
      rw [movementSteps_succ, hstep, movementSteps_succ, hhome, if_neg hrow, if_neg hrow,
        if_pos hcol, if_pos hcol]
      exact ⟨rfl, rfl⟩
    · refine ⟨2, ?_⟩
      rw [movementSteps_succ, hstep, movementSteps_succ, hhome, if_neg hrow, if_neg hrow,
        if_neg hcol, if_neg hcol]
      exact ⟨rfl, rfl⟩

/-- The move. -/
theorem move_statements (h : s.movementPc = .switch) : ∃ n,
    (s.movementSteps n).movementPc = .testStuck ∧
      (s.movementSteps n).cleaner false = (s.cleaner false).move mapSide := by
  by_cases hd : s.direction = .returning
  · exact home_statements h hd
  have hstep : s.movementStatement.2 = { s with movementPc := .guard s.direction } := by
    simp [movementStatement, h, hd]
  have hdir : (s.cleaner false).direction ≠ .returning := hd
  have hguard : ∃ b, ({ s with movementPc := .guard s.direction } : App).movementStatement.2 =
      { s with
        mapFault := b
        movementPc := if s.canMove s.direction then .move s.direction else .find moves } := by
    change ∃ b, App.guardStatement _ s.direction = _
    unfold guardStatement testMove accessMap
    split
    · split
      · exact ⟨s.mapFault, rfl⟩
      · exact ⟨true, rfl⟩
    · exact ⟨s.mapFault, rfl⟩
  obtain ⟨b, hguard⟩ := hguard
  by_cases hmove : s.canMove s.direction
  · have hahead : (s.cleaner false).CanMove mapSide (s.cleaner false).direction := hmove
    refine ⟨3, ?_⟩
    rw [movementSteps_succ, hstep, movementSteps_succ, hguard, if_pos hmove, Cleaner.move,
      if_neg hdir, if_pos hahead]
    exact ⟨rfl, rfl⟩
  · have hahead : ¬ (s.cleaner false).CanMove mapSide (s.cleaner false).direction := hmove
    obtain ⟨n, hbag, hfound⟩ := find_statements (s := { s with
      mapFault := b, movementPc := .find moves }) moves rfl
    refine ⟨2 + (n + 1), ?_⟩
    have hsearch : (s.movementSteps 2) = { s with mapFault := b, movementPc := .find moves } := by
      rw [movementSteps_succ, hstep, movementSteps_succ, hguard, if_neg hmove]
      rfl
    rw [movementSteps_add, hsearch, movementSteps_add, Cleaner.move, if_neg hdir, if_neg hahead]
    generalize hs' : App.movementSteps
      ({ s with mapFault := b, movementPc := .find moves } : App) n = s' at hbag hfound ⊢
    have hassign : ∀ r, s'.movementPc = .setStuck r →
        (s'.movementSteps 1) = { s' with stuck := r, movementPc := .testStuck } := by
      intro r hr
      simp [movementSteps, movementStatement, hr]
    have hrobot : (s.cleaner false).toRobot = s.robot := rfl
    simp only [bag, Prod.mk.injEq] at hbag
    rw [hrobot, Robot.findNewPosition_eq]
    have hsame : ({ s with mapFault := b, movementPc := .find moves } : App).robot = s.robot := rfl
    rw [hsame] at hfound
    cases hfind : moves.find? fun d => decide (s.robot.CanTurn mapSide d) with
    | none =>
      rw [hfind] at hfound
      rw [hassign 1 hfound.1]
      refine ⟨rfl, ?_⟩
      change Cleaner.mk s'.robot s'.garbageBagValue 1 false =
        Cleaner.mk s.robot s.garbageBagValue 1 false
      rw [hfound.2, hbag.1]
    | some d =>
      rw [hfind] at hfound
      rw [hassign 0 hfound.1]
      refine ⟨rfl, ?_⟩
      change Cleaner.mk s'.robot s'.garbageBagValue 0 false =
        Cleaner.mk (s.robot.turn d) s.garbageBagValue 0 false
      rw [hfound.2, hbag.1]

/-- The tests after the move. -/
theorem finish_statements (h : s.movementPc = .testStuck) : ∃ n ended,
    (s.movementSteps n).cleaner ended = (s.cleaner false).finish ∧
      (ended = true ∧ ((s.movementSteps n).movementPc = .exit ∨
        (s.movementSteps n).movementPc = .kill) ∨
      ended = false ∧ (s.movementSteps n).movementPc = .engine) := by
  by_cases hstuck : s.stuck = 1
  · refine ⟨1, true, ?_, .inl ⟨rfl, .inl ?_⟩⟩ <;>
      simp [movementSteps, movementStatement, h, hstuck, cleaner, robot, Cleaner.finish]
  · by_cases hhome : s.direction = .returning ∧ s.position = (0, 0)
    · refine ⟨2, true, ?_, .inl ⟨rfl, .inr ?_⟩⟩ <;>
        simp [movementSteps, movementStatement, h, hstuck, hhome, cleaner, robot, Cleaner.finish]
    · refine ⟨2, false, ?_, .inr ⟨rfl, ?_⟩⟩ <;>
        simp [movementSteps, movementStatement, h, hstuck, hhome, cleaner, robot, Cleaner.finish]

/-- **Task2 computes an activation**, from the call that reads a mail to the start of the engine or
to the end of the task. -/
theorem activation_statements (h : s.movementPc = .testMail) : ∃ n ended,
    (s.movementSteps n).cleaner ended =
        (s.cleaner false).activation mapSide (decide (s.gotOk .movementControl)) ∧
      (ended = true ∧ ((s.movementSteps n).movementPc = .exit ∨
        (s.movementSteps n).movementPc = .kill) ∨
      ended = false ∧ (s.movementSteps n).movementPc = .engine) := by
  obtain ⟨n₁, hpc₁, heq₁⟩ := receive_statements h
  obtain ⟨n₂, hpc₂, heq₂⟩ := clean_statements hpc₁
  obtain ⟨n₃, hpc₃, heq₃⟩ := move_statements hpc₂
  obtain ⟨n₄, ended, heq₄, hend⟩ := finish_statements hpc₃
  refine ⟨n₁ + n₂ + n₃ + n₄, ended, ?_, ?_⟩
  · rw [movementSteps_add, movementSteps_add, movementSteps_add, heq₄, heq₃, heq₂, heq₁]
    rfl
  · rwa [movementSteps_add, movementSteps_add, movementSteps_add]

/-- The two statements of the handler. -/
theorem obstacleHandler_statements (h : s.handlerPc = .mark) :
    ∃ s₁ s₂, s.obstacleHandlerStatement = some (.local, s₁) ∧
      s₁.obstacleHandlerStatement = some (.local, s₂) ∧
      s₂.cleaner false = (s.cleaner false).obstacleHandler := by
  refine ⟨{ (s.setTile s.position 1).record .handled with handlerPc := .revert },
    { (s.setTile s.position 1).record .handled with
      position := s.direction.opposite.next s.position, moved := false, handlerPc := .ret },
    by simp [obstacleHandlerStatement, h], ?_, ?_⟩
  · simp only [obstacleHandlerStatement, setTile, accessMap, record]
    split <;> rfl
  · simp only [setTile, accessMap, record]
    split <;> rfl

end App

end RobotVacuum
