import RobotVacuum.Application.Steps
import RobotVacuum.Machine.Signals
import Mathlib.Logic.Function.Iterate
import Mathlib.Logic.Relation

/-!
# The way home

Once Task2 has received a mail it walks up its column and then along row 0, one tile in each
activation, and does not look at the map. `Homing` is the invariant of its program on the way:
after `k` further activations the robot stands on the tile `homeTile p k` or, past the move, on
the next one. Task2 alone keeps it, whatever the machine does in between, and no other task
touches the data it is about.

So the way home is safe for exactly the maps in which its own path is free
(`wayHome_safe_iff`), which is not the case for all maps in which some path is.
-/

namespace RobotVacuum

/-! ### The path -/

/-- The move of one activation on the way home. -/
def homeStep (p : ℤ × ℤ) : ℤ × ℤ :=
  if 0 < p.1 then (p.1 - 1, p.2) else if 0 < p.2 then (p.1, p.2 - 1) else p

/-- The tile `n` activations away from `p` on the way home. -/
def homeTile (p : ℤ × ℤ) (n : ℕ) : ℤ × ℤ := homeStep^[n] p

/-- The Manhattan distance from home, `r + c`. -/
def distance (p : ℤ × ℤ) : ℕ := (p.1 + p.2).toNat

section Path

variable {p : ℤ × ℤ} {n : ℕ}

@[simp] theorem homeTile_zero : homeTile p 0 = p := rfl

theorem homeTile_succ : homeTile p (n + 1) = homeStep (homeTile p n) :=
  Function.iterate_succ_apply' homeStep n p

theorem homeStep_inMap (h : App.inMap p) : App.inMap (homeStep p) := by
  obtain ⟨h1, h2, h3, h4⟩ := h
  unfold homeStep App.inMap
  split
  · exact ⟨by omega, by omega, h3, h4⟩
  · split
    · exact ⟨h1, h2, by omega, by omega⟩
    · exact ⟨h1, h2, h3, h4⟩

theorem distance_homeStep (h : App.inMap p) : distance (homeStep p) = distance p - 1 := by
  obtain ⟨h1, -, h3, -⟩ := h
  unfold homeStep distance
  split
  · omega
  · split
    · omega
    · omega

theorem distance_eq_zero (h : App.inMap p) : distance p = 0 ↔ p = (0, 0) := by
  obtain ⟨h1, -, h3, -⟩ := h
  simp only [distance, Prod.ext_iff]
  omega

theorem homeTile_inMap (h : App.inMap p) : App.inMap (homeTile p n) := by
  induction n with
  | zero => exact h
  | succ n ih =>
    rw [homeTile_succ]
    exact homeStep_inMap ih

theorem distance_homeTile (h : App.inMap p) : distance (homeTile p n) = distance p - n := by
  induction n with
  | zero => rfl
  | succ n ih =>
    rw [homeTile_succ, distance_homeStep (homeTile_inMap h), ih]
    omega

/-- The robot is home after as many activations as it is away. -/
theorem homeTile_eq_home (h : App.inMap p) : homeTile p n = (0, 0) ↔ distance p ≤ n := by
  rw [← distance_eq_zero (homeTile_inMap h), distance_homeTile h]
  omega

/-- The path goes up the column and then along row 0. -/
theorem homeTile_eq (h : App.inMap p) :
    homeTile p n = (max 0 (p.1 - n), max 0 (p.2 - (max p.1 n - p.1))) := by
  obtain ⟨h1, -, h3, -⟩ := h
  induction n with
  | zero => ext <;> simp <;> omega
  | succ n ih =>
    rw [homeTile_succ, ih, homeStep]
    split_ifs with hr hc
    · ext <;> simp at hr ⊢ <;> omega
    · ext <;> simp at hr hc ⊢ <;> omega
    · ext <;> simp at hr hc ⊢ <;> omega

/-- What holds on the whole path holds on the column and on row 0. -/
theorem forall_homeTile {P : ℤ × ℤ → Prop} (h : App.inMap p) :
    (∀ n, P (homeTile p n)) ↔
      (∀ r, 0 ≤ r → r ≤ p.1 → P (r, p.2)) ∧ ∀ c, 0 ≤ c → c ≤ p.2 → P (0, c) := by
  have hm := h
  obtain ⟨h1, -, h3, -⟩ := hm
  constructor
  · refine fun hP => ⟨fun r hr hle => ?_, fun c hc hle => ?_⟩
    · have heq : homeTile p (p.1 - r).toNat = (r, p.2) := by
        rw [homeTile_eq h]
        ext <;> simp <;> omega
      exact heq ▸ hP _
    · have heq : homeTile p (p.1 + (p.2 - c)).toNat = (0, c) := by
        rw [homeTile_eq h]
        ext <;> simp <;> omega
      exact heq ▸ hP _
  · rintro ⟨hcol, hrow⟩ n
    rw [homeTile_eq h]
    rcases le_or_gt (n : ℤ) p.1 with hn | hn
    · have hc : max 0 (p.2 - (max p.1 n - p.1)) = p.2 := by omega
      rw [hc]
      exact hcol _ (by omega) (by omega)
    · have hr : max 0 (p.1 - n) = 0 := by omega
      rw [hr]
      exact hrow _ (by omega) (by omega)

end Path

namespace App

variable {a : Addresses} {s s' s₀ : App} {k : ℕ} {t : Task} {input : Input} {m : RobotMachine}

/-! ### The invariant of Task2 -/

/-- Where the robot is at each statement of Task2, in its `k`th activation after the one it
started from `p` in. -/
def OnTheWay (p : ℤ × ℤ) (k : ℕ) (q : ℤ × ℤ) : MovementPc → Prop
  | .started | .mbRecv | .testMail | .setReturn | .mask | .mbSend | .testTile | .markTile
  | .garbage | .switch | .home => q = homeTile p k
  | .homeRow => q = homeTile p k ∧ 0 < q.1
  | .homeCol => q = homeTile p k ∧ ¬0 < q.1 ∧ 0 < q.2
  | .testStuck | .testHome => q = homeTile p (k + 1)
  | .kill | .exit => q = homeTile p (k + 1) ∧ q = (0, 0)
  | .engine | .busy | .ended | .recv | .test => q = homeTile p (k + 1) ∧ q ≠ (0, 0)
  | _ => False

/-- On the way home since `s₀`, in the `k`th activation after it. -/
structure Homing (s₀ : App) (k : ℕ) (s : App) : Prop where
  direction : s.direction = .returning
  stuck : s.stuck ≠ 1
  marked : ∀ p, s.tile p = 1 ↔ s₀.tile p = 1
  place : OnTheWay s₀.position k s.position s.movementPc
  fresh : s.movementPc = .markTile → s.tile s.position = 0
  begun : s.log.count (.begun .movementControl) = s₀.log.count (.begun .movementControl) + k
  arrived : s.log.count .arrived = s₀.log.count .arrived + if s.movementPc = .exit then 1 else 0
  handled : s.log.count .handled = s₀.log.count .handled
  away : k = 0 ∨ homeTile s₀.position k ≠ (0, 0)

/-- Task2 has just received its first mail: it is about to block its signal, or has done so. -/
structure LeavesForHome (s : App) : Prop where
  direction : s.direction = .returning
  stuck : s.stuck ≠ 1
  pc : s.movementPc = .mask ∨ s.movementPc = .mbSend
  inMap : inMap s.position

theorem LeavesForHome.homing (h : LeavesForHome s) : Homing s 0 s where
  direction := h.direction
  stuck := h.stuck
  marked _ := Iff.rfl
  place := by rcases h.pc with hpc | hpc <;> simp [hpc, OnTheWay]
  fresh hpc := by rcases h.pc with hpc' | hpc' <;> simp [hpc'] at hpc
  begun := rfl
  arrived := by rcases h.pc with hpc | hpc <;> simp [hpc]
  handled := rfl
  away := .inl rfl

theorem setTile_tile {p q : ℤ × ℤ} {v : ℤ} :
    (s.setTile p v).tile q = if q = p then v else s.tile q := by
  obtain ⟨x, y⟩ := q
  simp only [tile, setTile, Function.update_apply, Prod.ext_iff]
  by_cases hx : x = p.1
  · by_cases hy : y = p.2 <;> simp [hx, hy]
  · simp [hx]

/-- The statement of Task2 waits: for its next activation, or for its minimum duration. -/
def Waits (s : App) : Prop :=
  s.movementPc = .recv ∨ (s.movementPc = .test ∧ ¬s.gotOk .movementControl) ∨
    (s.movementPc = .busy ∧ s.isBusy .movementControl) ∨ s.movementPc = .exit

instance (s : App) : Decidable s.Waits := by
  unfold Waits gotOk isBusy
  infer_instance

/-- How many statements of its activation Task2 still executes at most, where it does not
wait. -/
def statementsLeft : MovementPc → ℕ
  | .started => 19
  | .mbRecv => 18
  | .testMail => 17
  | .setReturn => 16
  | .mask => 15
  | .mbSend => 14
  | .testTile => 13
  | .markTile => 12
  | .garbage => 11
  | .switch => 10
  | .home => 9
  | .homeRow | .homeCol => 8
  | .testStuck => 7
  | .testHome => 6
  | .kill | .engine => 5
  | .busy => 4
  | .ended => 3
  | .recv | .test => 2
  | _ => 0

/-- How many statements Task2 still executes at most on its way home from `p`, where it does not
wait. -/
def wayLeft (p : ℤ × ℤ) (k : ℕ) (pc : MovementPc) : ℕ :=
  20 * (distance p - 1 - k) + statementsLeft pc

/-- A statement that neither begins an activation nor ends the last one. -/
private theorem Homing.goOn (h : Homing s₀ k s) (l : List LogEntry)
    (hd : s'.direction = .returning) (hs : s'.stuck = s.stuck)
    (hm : ∀ p, s'.tile p = 1 ↔ s.tile p = 1)
    (hl : s'.log = s.log ++ l) (hw : ∀ e ∈ l, e = .start ∨ e = .mailed .mb2_5)
    (hp : OnTheWay s₀.position k s'.position s'.movementPc)
    (he : s.movementPc ≠ .exit) (he' : s'.movementPc ≠ .exit)
    (hf : s'.movementPc = .markTile → s'.tile s'.position = 0) : Homing s₀ k s' := by
  have hcount : ∀ e, e ≠ .start → e ≠ .mailed .mb2_5 → s'.log.count e = s.log.count e := by
    refine fun e h1 h2 => ?_
    have hzero : l.count e = 0 := List.count_eq_zero.mpr fun hmem => by
      rcases hw e hmem with heq | heq
      · exact h1 heq
      · exact h2 heq
    rw [hl, List.count_append, hzero, Nat.add_zero]
  refine ⟨hd, hs ▸ h.stuck, fun p => by rw [hm, h.marked], hp, hf, ?_, ?_, ?_, h.away⟩
  · rw [hcount _ (by simp) (by simp), h.begun]
  · rw [hcount _ (by simp) (by simp), h.arrived, if_neg he, if_neg he']
  · rw [hcount _ (by simp) (by simp), h.handled]

/-- Such a statement that goes on within the activation and records nothing. -/
private theorem Homing.pass (h : Homing s₀ k s) (hd : s'.direction = .returning)
    (hs : s'.stuck = s.stuck) (hm : ∀ p, s'.tile p = 1 ↔ s.tile p = 1) (hl : s'.log = s.log)
    (hp : OnTheWay s₀.position k s'.position s'.movementPc)
    (he : s.movementPc ≠ .exit) (he' : s'.movementPc ≠ .exit)
    (hf : s'.movementPc = .markTile → s'.tile s'.position = 0)
    (hleft : statementsLeft s'.movementPc + 1 ≤ statementsLeft s.movementPc) :
    ∃ k', Homing s₀ k' s' ∧ wayLeft s₀.position k' s'.movementPc +
      (if s.Waits then 0 else 1) ≤ wayLeft s₀.position k s.movementPc := by
  refine ⟨k, h.goOn [] hd hs hm (by rw [hl, List.append_nil]) (by simp) hp he he' hf, ?_⟩
  unfold wayLeft
  split <;> omega

/-- **Task2 alone.** Its next statement keeps it on the way home, whatever the machine does, and
brings it nearer to the end unless it waits. -/
theorem Homing.statement (h₀ : inMap s₀.position) (h : Homing s₀ k s) (m : RobotMachine) :
    ∃ k', Homing s₀ k' (s.movementStatement.2.withMachine m) ∧
      wayLeft s₀.position k' (s.movementStatement.2.withMachine m).movementPc +
        (if s.Waits then 0 else 1) ≤ wayLeft s₀.position k s.movementPc := by
  have hplace := h.place
  have hd := h.direction
  have hpos : inMap (homeTile s₀.position k) := homeTile_inMap h₀
  have hlog : s.log = s.log ++ [] := (List.append_nil _).symm
  cases hpc : s.movementPc
  all_goals simp only [hpc, OnTheWay] at hplace
  all_goals simp only [movementStatement, hpc]
  case recv =>
    refine ⟨k, h.goOn [] hd rfl (fun _ => Iff.rfl) hlog (by simp) hplace (by simp [hpc])
      (by simp [withMachine]) (by simp [withMachine]), ?_⟩
    simp [Waits, hpc, withMachine, wayLeft, statementsLeft]
  case test =>
    split
    · next hok =>
      have haway : k + 1 < distance s₀.position := by
        have hne : homeTile s₀.position (k + 1) ≠ (0, 0) := hplace.1 ▸ hplace.2
        rw [ne_eq, homeTile_eq_home h₀] at hne
        omega
      refine ⟨k + 1, ⟨hd, h.stuck, h.marked, hplace.1, by simp [withMachine], ?_, ?_, ?_,
        .inr (hplace.1 ▸ hplace.2)⟩, ?_⟩
      · simp [withMachine, record, h.begun, Nat.add_assoc]
      · simp [withMachine, record, h.arrived, hpc]
      · simp [withMachine, record, h.handled]
      · simp [Waits, hpc, hok, withMachine, wayLeft, statementsLeft]
        omega
    · next hok =>
      refine ⟨k, h.goOn [] hd rfl (fun _ => Iff.rfl) hlog (by simp) hplace (by simp [hpc])
        (by simp [withMachine]) (by simp [withMachine]), ?_⟩
      simp [Waits, hpc, hok, withMachine, wayLeft, statementsLeft]
  case busy =>
    by_cases hb : s.isBusy .movementControl
    · rw [if_pos hb]
      refine ⟨k, h.goOn [] hd rfl (fun _ => Iff.rfl) hlog (by simp) hplace (by simp [hpc])
        (by simp [withMachine]) (by simp [withMachine]), ?_⟩
      simp [Waits, hpc, hb, withMachine, wayLeft, statementsLeft]
    · rw [if_neg hb, ← hpc]
      exact h.pass hd rfl (fun _ => Iff.rfl) rfl hplace (by simp [hpc]) (by simp [withMachine])
        (by simp [withMachine]) (by simp [withMachine, hpc, statementsLeft])
  case exit =>
    refine ⟨k, ⟨hd, h.stuck, h.marked, h.place, by simp [hpc, withMachine], h.begun, h.arrived,
      h.handled, h.away⟩, ?_⟩
    simp [Waits, hpc, withMachine]
  case mbSend =>
    refine ⟨k, h.goOn [.mailed .mb2_5] hd rfl (fun _ => Iff.rfl) rfl (by simp) hplace
      (by simp [hpc]) (by simp [withMachine]) (by simp [withMachine]), ?_⟩
    simp [Waits, hpc, withMachine, wayLeft, statementsLeft]
  case engine =>
    refine ⟨k, h.goOn [.start] hd rfl (fun _ => Iff.rfl) rfl (by simp) hplace
      (by simp [hpc]) (by simp [withMachine]) (by simp [withMachine]), ?_⟩
    simp [Waits, hpc, withMachine, wayLeft, statementsLeft]
  case kill =>
    refine ⟨k, ⟨hd, h.stuck, h.marked, hplace, by simp [withMachine], ?_, ?_, ?_, h.away⟩, ?_⟩
    · simp [withMachine, record, h.begun]
    · simp [withMachine, record, h.arrived, hpc]
    · simp [withMachine, record, h.handled]
    · simp [Waits, hpc, withMachine, wayLeft, statementsLeft]
  case testTile =>
    rw [← hpc]
    obtain ⟨fault, hfault⟩ := accessMap_eq (s := s) s.position
    simp only [hfault]
    split
    · next hzero =>
      exact h.pass hd rfl (fun _ => Iff.rfl) rfl hplace (by simp [hpc]) (by simp [withMachine])
        (fun _ => hzero) (by simp [withMachine, hpc, statementsLeft])
    · exact h.pass hd rfl (fun _ => Iff.rfl) rfl hplace (by simp [hpc]) (by simp [withMachine])
        (by simp [withMachine]) (by simp [withMachine, hpc, statementsLeft])
  case markTile =>
    rw [← hpc]
    have htile : ∀ p, (s.setTile s.position 2).tile p = 1 ↔ s.tile p = 1 := fun p => by
      rw [setTile_tile]
      split
      · next hp => simp [hp, h.fresh hpc]
      · exact Iff.rfl
    obtain ⟨fault, hfault⟩ := accessMap_eq (s := s) s.position
    refine h.pass ?_ ?_ htile ?_ ?_ (by simp [hpc]) (by simp [withMachine])
      (by simp [withMachine]) (by simp [withMachine, hpc, statementsLeft])
    all_goals simp only [setTile, hfault]
    · exact hd
    · rfl
    · rfl
    · exact hplace
  case switch =>
    rw [← hpc, if_pos hd]
    exact h.pass hd rfl (fun _ => Iff.rfl) rfl hplace (by simp [hpc]) (by simp [withMachine])
      (by simp [withMachine]) (by simp [withMachine, hpc, statementsLeft])
  case home =>
    rw [← hpc]
    refine h.pass hd rfl (fun _ => Iff.rfl) rfl ?_ (by simp [hpc]) ?_ ?_ ?_
    all_goals
      simp only [withMachine]
      split_ifs with hr hc
    · exact ⟨hplace, hr⟩
    · exact ⟨hplace, hr, hc⟩
    · simp only [OnTheWay]
      rw [homeTile_succ, ← hplace, homeStep, if_neg hr, if_neg hc]
    all_goals simp [hpc, statementsLeft]
  case homeRow =>
    rw [← hpc]
    refine h.pass hd rfl (fun _ => Iff.rfl) rfl ?_ (by simp [hpc]) (by simp [withMachine])
      (by simp [withMachine]) (by simp [withMachine, hpc, statementsLeft])
    simp only [withMachine, OnTheWay]
    rw [homeTile_succ, ← hplace.1, homeStep, if_pos hplace.2]
  case homeCol =>
    rw [← hpc]
    refine h.pass hd rfl (fun _ => Iff.rfl) rfl ?_ (by simp [hpc]) (by simp [withMachine])
      (by simp [withMachine]) (by simp [withMachine, hpc, statementsLeft])
    simp only [withMachine, OnTheWay]
    rw [homeTile_succ, ← hplace.1, homeStep, if_neg hplace.2.1, if_pos hplace.2.2]
  case testStuck =>
    rw [← hpc, if_neg h.stuck]
    exact h.pass hd rfl (fun _ => Iff.rfl) rfl hplace (by simp [hpc]) (by simp [withMachine])
      (by simp [withMachine]) (by simp [withMachine, hpc, statementsLeft])
  case testHome =>
    rw [← hpc]
    refine h.pass hd rfl (fun _ => Iff.rfl) rfl ?_ (by simp [hpc]) ?_ ?_ ?_
    all_goals
      simp only [withMachine]
      split_ifs with hhome
    · exact ⟨hplace, hhome.2⟩
    · exact ⟨hplace, fun hzero => hhome ⟨hd, hzero⟩⟩
    all_goals simp [hpc, statementsLeft]
  case testMail =>
    rw [← hpc]
    refine h.pass hd rfl (fun _ => Iff.rfl) rfl ?_ (by simp [hpc]) ?_ ?_ ?_
    all_goals
      simp only [withMachine]
      split_ifs
    all_goals simp [hpc, statementsLeft, OnTheWay, hplace]
  case setReturn =>
    rw [← hpc]
    exact h.pass rfl rfl (fun _ => Iff.rfl) rfl hplace (by simp [hpc]) (by simp [withMachine])
      (by simp [withMachine]) (by simp [withMachine, hpc, statementsLeft])
  -- the other statements only go on to the next one
  all_goals
    rw [← hpc]
    exact h.pass hd rfl (fun _ => Iff.rfl) rfl hplace (by simp [hpc]) (by simp [withMachine])
      (by simp [withMachine]) (by simp [withMachine, hpc, statementsLeft])

/-- The robot stays on the path. -/
theorem Homing.onPath (h : Homing s₀ k s) : ∃ n, s.position = homeTile s₀.position n := by
  have hplace := h.place
  unfold OnTheWay at hplace
  split at hplace
  all_goals first
    | exact ⟨_, hplace⟩
    | exact ⟨_, hplace.1⟩
    | exact hplace.elim

/-- A statement moves the robot by one step at most. -/
theorem Homing.position_statement (h : Homing s₀ k s) :
    s.movementStatement.2.position = s.position ∨
      s.movementStatement.2.position = homeStep s.position := by
  have hplace := h.place
  cases hpc : s.movementPc
  all_goals simp only [hpc, OnTheWay] at hplace
  case homeRow =>
    simp only [movementStatement, hpc]
    rw [homeStep, if_pos hplace.2]
    exact .inr rfl
  case homeCol =>
    simp only [movementStatement, hpc]
    rw [homeStep, if_neg hplace.2.1, if_pos hplace.2.2]
    exact .inr rfl
  case testTile =>
    obtain ⟨fault, hfault⟩ := accessMap_eq (s := s) s.position
    simp only [movementStatement, hpc, hfault]
    exact .inl trivial
  case markTile =>
    obtain ⟨fault, hfault⟩ := accessMap_eq (s := s) s.position
    simp only [movementStatement, hpc, setTile, hfault]
    exact .inl trivial
  all_goals
    simp only [movementStatement, hpc]
    first
    | exact .inl trivial
    | exact .inl rfl
    | split <;> exact .inl rfl

/-! ### Task2 alone -/

/-- Task2 on its own, while the machine goes on in any way. -/
def solo (s₀ : App) : Automaton App RobotMachine where
  init s := s = s₀
  step s m := some (s.movementStatement.2.withMachine m)

theorem homing_of_solo (h₀ : LeavesForHome s₀) (h : (solo s₀).Reachable s) :
    ∃ k, Homing s₀ k s := by
  refine Automaton.Reaches.invariant (I := fun s => ∃ k, Homing s₀ k s) ?_ ?_ h
  · rintro _ rfl
    exact ⟨0, h₀.homing⟩
  · rintro s m _ ⟨k, hk⟩ - ⟨⟩
    obtain ⟨k', hk', -⟩ := hk.statement h₀.inMap m
    exact ⟨k', hk'⟩

/-- With every activation granted and no minimum duration left, Task2 gets home. -/
private theorem getsHome (h₀ : inMap s₀.position) (hm : m.ctx .movementControl = {})
    (hb : (m.kernel.thread .movementControl).tickCount = 0) (n : ℕ) : ∀ s k, Homing s₀ k s →
    s.machine = m → 2 * wayLeft s₀.position k s.movementPc +
      (if s.movementPc = .recv then 1 else 0) ≤ n →
    ∃ ms s', (solo s₀).runList s ms = some s' ∧ s'.movementPc = .exit := by
  induction n with
  | zero =>
    intro s k h hsm hn
    by_cases hexit : s.movementPc = .exit
    · exact ⟨[], s, rfl, hexit⟩
    · have hplace := h.place
      cases hpc : s.movementPc
      all_goals simp [hpc, OnTheWay, wayLeft, statementsLeft] at hplace hn hexit
  | succ n ih =>
    intro s k h hsm hn
    by_cases hexit : s.movementPc = .exit
    · exact ⟨[], s, rfl, hexit⟩
    obtain ⟨k', hk', hleft⟩ := h.statement h₀ m
    have hlt : 2 * wayLeft s₀.position k' (s.movementStatement.2.withMachine m).movementPc +
        (if (s.movementStatement.2.withMachine m).movementPc = .recv then 1 else 0) ≤ n := by
      by_cases hrecv : s.movementPc = .recv
      · have hnext : (s.movementStatement.2.withMachine m).movementPc = .test := by
          simp [movementStatement, hrecv, withMachine]
        rw [if_pos hrecv] at hn
        rw [hnext] at hleft ⊢
        rw [if_neg (by simp)]
        omega
      · have hwaits : ¬s.Waits := by
          simp only [Waits, gotOk, isBusy, ctx, hsm, hm, hb]
          simp [hrecv, hexit]
        rw [if_neg hwaits] at hleft
        rw [if_neg hrecv] at hn
        split <;> omega
    obtain ⟨ms, s', hrun, hs'⟩ := ih _ _ hk' rfl hlt
    exact ⟨m :: ms, s', hrun, hs'⟩

/-- Wherever Task2 is on its way, it can get home. -/
theorem Homing.getsHome (h₀ : inMap s₀.position) (h : Homing s₀ k s) :
    ∃ ms s', (solo s₀).runList s ms = some s' ∧ s'.movementPc = .exit := by
  obtain ⟨k', hk', -⟩ := h.statement h₀ (initial {}).machine
  obtain ⟨ms, s', hrun, hs'⟩ := App.getsHome h₀ rfl rfl _ _ _ hk' rfl le_rfl
  exact ⟨_ :: ms, s', hrun, hs'⟩

/-- Every tile of the path that is not nearer to home than the robot was visited. -/
theorem visited (h₀ : LeavesForHome s₀) (h : (solo s₀).Reachable s) {n : ℕ}
    (hn : distance s.position ≤ distance s₀.position - n) :
    ∃ s', (solo s₀).Reachable s' ∧ s'.position = homeTile s₀.position n := by
  induction h with
  | @init s hs =>
    have hs : s = s₀ := hs
    refine ⟨s₀, .init rfl, ?_⟩
    rw [hs] at hn
    by_cases hzero : n = 0
    · rw [hzero, homeTile_zero]
    · have hd : distance s₀.position = 0 := by omega
      rw [(homeTile_eq_home h₀.inMap).mpr (by omega), (distance_eq_zero h₀.inMap).mp hd]
  | @step s s' m hs _ hstep ih =>
    obtain rfl : s.movementStatement.2.withMachine m = s' := Option.some.inj hstep
    obtain ⟨k, hk⟩ := homing_of_solo h₀ hs
    have hreach : (solo s₀).Reachable (s.movementStatement.2.withMachine m) :=
      .step hs trivial rfl
    by_cases hfar : distance s.position ≤ distance s₀.position - n
    · exact ih hfar
    · refine ⟨_, hreach, ?_⟩
      obtain ⟨j, hj⟩ := hk.onPath
      rw [hj, distance_homeTile h₀.inMap] at hfar
      have hpos :
          (s.movementStatement.2.withMachine m).position = homeTile s₀.position (j + 1) := by
        rcases hk.position_statement with heq | heq
        · rw [show (s.movementStatement.2.withMachine m).position = s.position from heq, hj,
            distance_homeTile h₀.inMap] at hn
          omega
        · rw [show (s.movementStatement.2.withMachine m).position = homeStep s.position from heq,
            hj, homeTile_succ]
      rw [hpos, distance_homeTile h₀.inMap] at hn
      by_cases hjn : n = j + 1
      · rw [hpos, hjn]
      · rw [hpos, (homeTile_eq_home h₀.inMap).mpr (by omega),
          (homeTile_eq_home h₀.inMap).mpr (by omega)]

/-- The way home respects the map: the robot never stands on a marked tile, and wherever it is
it gets home, where Task2 ends. -/
def RespectsMap (s₀ : App) : Prop :=
  ∀ s, (solo s₀).Reachable s → s.tile s.position ≠ 1 ∧
    (s.movementPc = .exit → s.position = (0, 0)) ∧
    ∃ ms s', (solo s₀).runList s ms = some s' ∧ s'.position = (0, 0)

/-- A marked tile on the path is walked over. -/
theorem RespectsMap.path_free (h₀ : LeavesForHome s₀) (h : RespectsMap s₀) (n : ℕ) :
    s₀.tile (homeTile s₀.position n) ≠ 1 := by
  obtain ⟨-, -, ms, s, hrun, hhome⟩ := h _ (.init rfl)
  have hs : (solo s₀).Reachable s := .of_runList (.init rfl) hrun
  obtain ⟨s', hs', hpos⟩ := visited h₀ hs (n := n) (by simp [hhome, distance])
  obtain ⟨k, hk⟩ := homing_of_solo h₀ hs'
  rw [← hpos, ne_eq, ← hk.marked]
  exact (h s' hs').1

/-- **The way home is safe** if and only if no tile above the robot in its column and no tile to
the left of that column in row 0 is marked. -/
theorem wayHome_safe_iff (h₀ : LeavesForHome s₀) : RespectsMap s₀ ↔
    (∀ r, 0 ≤ r → r ≤ s₀.position.1 → s₀.tile (r, s₀.position.2) ≠ 1) ∧
      ∀ c, 0 ≤ c → c ≤ s₀.position.2 → s₀.tile (0, c) ≠ 1 := by
  rw [← forall_homeTile (P := fun p => s₀.tile p ≠ 1) h₀.inMap]
  have hend : ∀ {s}, (solo s₀).Reachable s → s.movementPc = .exit → s.position = (0, 0) := by
    intro s hs hexit
    obtain ⟨k, hk⟩ := homing_of_solo h₀ hs
    have hplace := hk.place
    rw [hexit] at hplace
    exact hplace.2
  constructor
  · exact fun h => h.path_free h₀
  · intro h s hs
    obtain ⟨k, hk⟩ := homing_of_solo h₀ hs
    refine ⟨?_, hend hs, ?_⟩
    · obtain ⟨n, hn⟩ := hk.onPath
      rw [ne_eq, hk.marked, hn]
      exact h n
    · obtain ⟨ms, s', hrun, hexit⟩ := hk.getsHome h₀.inMap
      exact ⟨ms, s', hrun, hend (.of_runList hs hrun) hexit⟩

/-- Two neighbouring tiles of the map that are not marked. -/
def Neighbours (s : App) (p q : ℤ × ℤ) : Prop :=
  inMap p ∧ inMap q ∧ s.tile p ≠ 1 ∧ s.tile q ≠ 1 ∧ (p.1 - q.1).natAbs + (p.2 - q.2).natAbs = 1

/-- The robot on (2, 0), below a marked tile, has just received its first mail. -/
def belowObstacle : App :=
  { initial {} with
    movementPc := .mask, direction := .returning, position := (2, 0)
    map := fun r c => if r = 1 ∧ c = 0 then 1 else 0 }

theorem wayHome_safe_iff_home :
    LeavesForHome { initial {} with movementPc := .mask, direction := .returning } ∧
      RespectsMap { initial {} with movementPc := .mask, direction := .returning } := by
  have h : LeavesForHome { initial {} with movementPc := .mask, direction := .returning } :=
    ⟨rfl, by decide, .inl rfl, by decide⟩
  refine ⟨h, (wayHome_safe_iff h).mpr ⟨fun r _ _ => ?_, fun c _ _ => ?_⟩⟩
  · exact zero_ne_one
  · exact zero_ne_one

/-- The robot walks over a marked tile although there is a free path home. -/
theorem wayHome_hits_obstacle : LeavesForHome belowObstacle ∧
    belowObstacle.tile belowObstacle.position ≠ 1 ∧
    Relation.ReflTransGen belowObstacle.Neighbours belowObstacle.position (0, 0) ∧
    ¬RespectsMap belowObstacle := by
  have hleaves : LeavesForHome belowObstacle := ⟨rfl, by decide, .inl rfl, by decide⟩
  refine ⟨hleaves, by decide, ?_, ?_⟩
  · have h1 : belowObstacle.Neighbours (2, 0) (2, 1) := by unfold Neighbours; decide
    have h2 : belowObstacle.Neighbours (2, 1) (1, 1) := by unfold Neighbours; decide
    have h3 : belowObstacle.Neighbours (1, 1) (0, 1) := by unfold Neighbours; decide
    have h4 : belowObstacle.Neighbours (0, 1) (0, 0) := by unfold Neighbours; decide
    exact (((Relation.ReflTransGen.single h1).tail h2).tail h3).tail h4
  · intro h
    have hmarked : belowObstacle.tile (homeTile belowObstacle.position 1) = 1 := by decide
    exact h.path_free hleaves 1 hmarked

/-! ### All tasks -/

/-- What Task2 is about is left as it is, and the log grows by entries of other tasks at most. -/
structure LeavesRobot (s s' : App) : Prop where
  pc : s'.movementPc = s.movementPc
  map : s'.map = s.map
  position : s'.position = s.position
  direction : s'.direction = s.direction
  stuck : s'.stuck = s.stuck
  handler : ∀ t n, s'.handler t n = .obstacle → s.handler t n = .obstacle
  log : ∃ l, s'.log = s.log ++ l ∧ ∀ e ∈ l, e.writer ≠ .movementControl

/-- The other tasks leave Task2 alone. -/
theorem statement_leavesRobot (ht : t ≠ .movementControl) :
    LeavesRobot s (s.statement input t).2 := by
  have hnil : ∃ l, s.log = s.log ++ l ∧ ∀ e ∈ l, e.writer ≠ .movementControl :=
    ⟨[], (List.append_nil _).symm, by simp⟩
  have hother : ∀ {l : List LogEntry} {x : Task}, x ≠ .movementControl →
      (∀ e ∈ l, e.writer = x) → ∃ l', s.log ++ l = s.log ++ l' ∧
        ∀ e ∈ l', e.writer ≠ .movementControl :=
    fun hx hl => ⟨_, rfl, fun e he => by rw [hl e he]; exact hx⟩
  cases t with
  | main =>
    obtain ⟨_, _, heq⟩ := mainStatement_owns (s := s)
    simp only [statement, heq]
    exact ⟨rfl, rfl, rfl, rfl, rfl, fun _ _ => id, hnil⟩
  | tsystem =>
    obtain ⟨_, _, heq, hh⟩ := systemStatement_owns (s := s)
    simp only [statement, heq]
    exact ⟨rfl, rfl, rfl, rfl, rfl, hh, hnil⟩
  | obstacleControl =>
    obtain ⟨_, _, heq, hl⟩ := obstacleStatement_owns s input
    simp only [statement, heq]
    exact ⟨rfl, rfl, rfl, rfl, rfl, fun _ _ => id, hother (by simp) hl⟩
  | movementStop =>
    obtain ⟨_, _, heq, hl⟩ := stopStatement_owns (s := s)
    simp only [statement, heq]
    exact ⟨rfl, rfl, rfl, rfl, rfl, fun _ _ => id, hother (by simp) hl⟩
  | movementControl => exact absurd rfl ht
  | checkResources =>
    obtain ⟨_, _, heq, hl⟩ := resourcesStatement_owns (s := s)
    simp only [statement, heq]
    exact ⟨rfl, rfl, rfl, rfl, rfl, fun _ _ => id, hother (by simp) hl⟩
  | acousticSignals =>
    obtain ⟨_, _, heq, hl⟩ := acousticStatement_owns (s := s)
    simp only [statement, heq]
    exact ⟨rfl, rfl, rfl, rfl, rfl, fun _ _ => id, hother (by simp) hl⟩
  | brushesSpeed =>
    obtain ⟨_, _, _, _, heq, hl⟩ := brushesStatement_owns s input
    simp only [statement, heq]
    exact ⟨rfl, rfl, rfl, rfl, rfl, fun _ _ => id, hother (by simp) hl⟩
  | idle => exact ⟨rfl, rfl, rfl, rfl, rfl, fun _ _ => id, hnil⟩

theorem LeavesRobot.of_machine (h : LeavesRobot s s') : LeavesRobot s (s'.withMachine m) :=
  ⟨h.pc, h.map, h.position, h.direction, h.stuck, h.handler, h.log⟩

theorem leavesRobot_refl : LeavesRobot s s :=
  ⟨rfl, rfl, rfl, rfl, rfl, fun _ _ => id, [], (List.append_nil _).symm, by simp⟩

/-- On the way home, other tasks change nothing. -/
theorem Homing.leavesRobot (h : Homing s₀ k s) (hl : LeavesRobot s s') : Homing s₀ k s' := by
  obtain ⟨l, hlog, hw⟩ := hl.log
  have hcount : ∀ e : LogEntry, e.writer = .movementControl → s'.log.count e = s.log.count e :=
    fun e he => by
      rw [hlog, List.count_append, List.count_eq_zero.mpr fun hmem => hw e hmem he, Nat.add_zero]
  have htile : ∀ p, s'.tile p = s.tile p := fun p => by rw [tile, tile, hl.map]
  exact
    { direction := hl.direction.trans h.direction
      stuck := hl.stuck ▸ h.stuck
      marked := fun p => by rw [htile, h.marked]
      place := by rw [hl.position, hl.pc]; exact h.place
      fresh := by rw [hl.position, hl.pc, htile]; exact h.fresh
      begun := by rw [hcount _ rfl, h.begun]
      arrived := by rw [hcount _ rfl, h.arrived, hl.pc]
      handled := by rw [hcount _ rfl, h.handled]
      away := h.away }

/-- On the way home Task2 neither unblocks a signal nor installs a handler. -/
theorem Homing.statement_quiet (h : Homing s₀ k s) :
    (∀ n, s.movementStatement.1 ≠ .unmask n) ∧ s.movementStatement.2.handler = s.handler := by
  have hplace := h.place
  cases hpc : s.movementPc
  all_goals simp only [hpc, OnTheWay] at hplace
  case testTile =>
    obtain ⟨fault, hfault⟩ := accessMap_eq (s := s) s.position
    simp [movementStatement, hpc, hfault]
  case markTile =>
    obtain ⟨fault, hfault⟩ := accessMap_eq (s := s) s.position
    simp [movementStatement, hpc, setTile, hfault]
  case test =>
    simp only [movementStatement, hpc]
    split <;> simp [record]
  all_goals simp [movementStatement, hpc, record]

/-- Task2 has received its first mail, and its signals are blocked. -/
structure Departs (s : App) : Prop extends LeavesForHome s where
  deaf : s.machine.Deaf .movementControl
  handlers : ∀ t n, s.handler t n = .obstacle → t = .movementControl

/-- On the way home, with the signals of Task2 blocked. -/
structure Journey (s₀ : App) (k : ℕ) (s : App) : Prop extends Homing s₀ k s where
  deaf : s.machine.Deaf .movementControl
  handlers : ∀ t n, s.handler t n = .obstacle → t = .movementControl

/-- Task2 executes a statement that does not wait. -/
def Advances (s : App) : Label → Prop
  | .run _ => s.Executes .movementControl ∧ ¬s.Waits
  | _ => False

/-- **One step.** Every step keeps Task2 on its way, and those in which it advances bring it
nearer to the end. -/
theorem Journey.step (h₀ : inMap s₀.position) (h : Journey s₀ k s) {i : Label}
    (hs : s.step a i = some s') : ∃ k', Journey s₀ k' s' ∧
      wayLeft s₀.position k' s'.movementPc ≤ wayLeft s₀.position k s.movementPc ∧
      (s.Advances i →
        wayLeft s₀.position k' s'.movementPc < wayLeft s₀.position k s.movementPc) := by
  have hother : ∀ {s₁ : App} {m : RobotMachine} {i : Label}, LeavesRobot s s₁ →
      m.Deaf .movementControl → ¬s.Advances i → ∃ k', Journey s₀ k' (s₁.withMachine m) ∧
        wayLeft s₀.position k' (s₁.withMachine m).movementPc ≤
          wayLeft s₀.position k s.movementPc ∧
        (s.Advances i → wayLeft s₀.position k' (s₁.withMachine m).movementPc <
          wayLeft s₀.position k s.movementPc) := by
    intro s₁ m i hl hdeaf hadv
    refine ⟨k, ⟨h.toHoming.leavesRobot hl.of_machine, hdeaf,
      fun t n ht => h.handlers t n (hl.handler t n ht)⟩, ?_, fun hadv' => absurd hadv' hadv⟩
    rw [hl.of_machine.pc]
  cases moves_of_step hs with
  | @own input m hown hm =>
    by_cases hcur : s.machine.current = .movementControl
    · rw [hcur] at hm ⊢
      obtain ⟨hmask, hhandler⟩ := h.toHoming.statement_quiet
      obtain ⟨k', hk', hleft⟩ := h.toHoming.statement h₀ m
      refine ⟨k', ⟨hk', ?_, fun t n ht => h.handlers t n (hhandler ▸ ht)⟩, ?_, fun hadv => ?_⟩
      · exact h.deaf.step hm fun n hn => absurd (Machine.Label.act.inj hn) (hmask n)
      · exact le_trans (Nat.le_add_right _ _) hleft
      · rw [if_neg hadv.2] at hleft
        exact hleft
    · exact hother (statement_leavesRobot hcur) (h.deaf.step hm fun n _ => hcur)
        fun hadv => hcur hadv.1.1
  | @handler input m b n act s₁ hsig hh hm =>
    have hcur : s.machine.current ≠ .movementControl := fun hcur =>
      h.deaf.idle b n (hcur ▸ hsig)
    refine hother ?_ (h.deaf.step hm fun n _ => hcur) fun hadv => hcur hadv.1.1
    cases hx : s.handler s.machine.current n with
    | default => simp [hx, handlerStatement] at hh
    | obstacle => exact absurd (h.handlers _ _ hx) hcur
    | turnOff =>
      rw [hx] at hh
      obtain ⟨_, _, rfl⟩ := turnOffStatement_owns hh
      exact ⟨rfl, rfl, rfl, rfl, rfl, fun _ _ => id, [], (List.append_nil _).symm, by simp⟩
  | @returned input m b n hsig hh hm =>
    have hcur : s.machine.current ≠ .movementControl := fun hcur =>
      h.deaf.idle b n (hcur ▸ hsig)
    refine hother ?_ (h.deaf.step hm fun n _ => hcur) fun hadv => hcur hadv.1.1
    cases s.handler s.machine.current n <;>
      exact ⟨rfl, rfl, rfl, rfl, rfl, fun _ _ => id, [], (List.append_nil _).symm, by simp⟩
  | kern hm => exact hother leavesRobot_refl (h.deaf.step hm (by simp)) id
  | tick hm => exact hother leavesRobot_refl (h.deaf.step hm (by simp)) id

/-- The runs of the application from a given state. -/
def runsFrom (a : Addresses) (s₀ : App) : Automaton App Label where
  init s := s = s₀
  step := step a

theorem journey_of_reachable (h₀ : Departs s₀) (hs : (runsFrom a s₀).Reachable s) :
    ∃ k, Journey s₀ k s := by
  refine Automaton.Reaches.invariant (I := fun s => ∃ k, Journey s₀ k s) ?_ ?_ hs
  · rintro _ rfl
    exact ⟨0, h₀.toLeavesForHome.homing, h₀.deaf, h₀.handlers⟩
  · rintro s i s' ⟨k, hk⟩ - hstep
    obtain ⟨k', hk', -⟩ := hk.step h₀.inMap hstep
    exact ⟨k', hk'⟩

/-- The activations of Task2 from `s₀` to `s`, counting the one that received the mail. -/
def activations (s₀ s : App) : ℕ :=
  s.log.count (.begun .movementControl) - s₀.log.count (.begun .movementControl) + 1

/-- How many statements Task2 still executes at most before it ends, where it does not wait. -/
def statementsToHome (s₀ s : App) : ℕ :=
  wayLeft s₀.position (activations s₀ s - 1) s.movementPc

/-- What holds on the way home: the robot is as far away as the activations so far have left it,
and Task2 ends when it is home. -/
structure WayHome (a : Addresses) (s₀ s : App) : Prop where
  activations_le : activations s₀ s ≤ max 1 (distance s₀.position)
  ended : s.movementPc = .exit →
    activations s₀ s = max 1 (distance s₀.position) ∧ s.position = (0, 0)
  distance_started : s.movementPc = .started →
    distance s.position = distance s₀.position - (activations s₀ s - 1)
  distance_ended : s.movementPc = .recv ∨ s.movementPc = .exit →
    distance s.position = distance s₀.position - activations s₀ s
  inMap : inMap s.position
  marked : ∀ p, s.tile p = 1 ↔ s₀.tile p = 1
  handled : s.log.count .handled = s₀.log.count .handled
  arrived : s.log.count .arrived = s₀.log.count .arrived + if s.movementPc = .exit then 1 else 0
  nearer : ∀ i s', s.step a i = some s' → statementsToHome s₀ s' ≤ statementsToHome s₀ s ∧
    (s.Advances i → statementsToHome s₀ s' < statementsToHome s₀ s)

/-- **Homing terminates** after exactly `max 1 (r + c)` activations. -/
theorem homing_terminates (h₀ : Departs s₀) (hs : (runsFrom a s₀).Reachable s) :
    WayHome a s₀ s := by
  obtain ⟨k, hk⟩ := journey_of_reachable h₀ hs
  have hact : ∀ {k s}, Homing s₀ k s → activations s₀ s = k + 1 := fun h => by
    rw [activations, h.begun, Nat.add_sub_cancel_left]
  have hle : k + 1 ≤ max 1 (distance s₀.position) := by
    rcases hk.away with rfl | haway
    · exact le_max_left _ _
    · rw [ne_eq, homeTile_eq_home h₀.inMap] at haway
      omega
  have hplace := hk.place
  refine ⟨?_, fun hexit => ?_, fun hpc => ?_, fun hpc => ?_, ?_, hk.marked, hk.handled,
    hk.arrived, fun i s' hstep => ?_⟩
  · rwa [hact hk.toHoming]
  · rw [hexit] at hplace
    refine ⟨?_, hplace.2⟩
    have hhome := (homeTile_eq_home h₀.inMap).mp (hplace.1 ▸ hplace.2)
    rw [hact hk.toHoming]
    omega
  · rw [hpc] at hplace
    rw [hact hk.toHoming, Nat.add_sub_cancel, hplace, distance_homeTile h₀.inMap]
  · rw [hact hk.toHoming]
    rcases hpc with hpc | hpc
    · rw [hpc] at hplace
      rw [hplace.1, distance_homeTile h₀.inMap]
    · rw [hpc] at hplace
      rw [hplace.1, distance_homeTile h₀.inMap]
  · obtain ⟨n, hn⟩ := hk.onPath
    rw [hn]
    exact homeTile_inMap h₀.inMap
  · obtain ⟨k', hk', hleft⟩ := hk.step h₀.inMap hstep
    rw [statementsToHome, statementsToHome, hact hk.toHoming, hact hk'.toHoming]
    exact hleft

/-- A robot on (1, 1) whose Task2 has just blocked its signals. -/
def departed : App :=
  { initial {} with movementPc := .mbSend, direction := .returning, position := (1, 1) }

theorem homing_terminates_departed : Departs departed ∧
    WayHome ⟨fun _ => 0, 0⟩ departed departed := by
  have h : Departs departed :=
    { direction := rfl
      stuck := by decide
      pc := .inr rfl
      inMap := by decide
      deaf := ⟨fun n => rfl, fun b n => by simp [departed, initial]⟩
      handlers := fun t n hn => by cases hn }
  exact ⟨h, homing_terminates h (.init rfl)⟩

end App

end RobotVacuum
