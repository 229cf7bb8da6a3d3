import RobotVacuum.Application.Steps

/-!
# The drain of the battery

The loop of the system task decrements the battery status in every iteration in which the time is
a multiple of 900 ms, that is, in a tick of 10 ms out of 90. How many iterations it makes in a tick
depends on how often more urgent tasks leave it the processor, and so does the number of
decrements: `drains_nominally_iff` says for which schedules it is the number of multiples that have
passed. `iteration_statements` says that the system task computes an iteration, one statement after
the other.
-/

namespace RobotVacuum

/-- The test of the loop, on the tick counter and on `startingTime`. The milliseconds are converted
to `int`. -/
def drainTest (tick startingTime : BitVec 32) : Prop :=
  (tick * 10).toInt.tmod 900 = 0 ∧ startingTime ≠ 0

instance (tick startingTime : BitVec 32) : Decidable (drainTest tick startingTime) := by
  unfold drainTest
  infer_instance

/-- The clock, `startingTime`, and the number of decrements made. -/
structure Drain where
  tick : BitVec 32
  startingTime : BitVec 32
  decrements : ℕ := 0

namespace Drain

/-- `startingTime` is set at a tick. -/
def start (startup : ℕ) : Drain where
  tick := BitVec.ofNat 32 startup
  startingTime := BitVec.ofNat 32 startup * 10

/-- An iteration of the loop. -/
def iterate (s : Drain) : Drain :=
  if drainTest s.tick s.startingTime then { s with decrements := s.decrements + 1 } else s

/-- A tick passes. -/
def tickIncrease (s : Drain) : Drain := { s with tick := s.tick + 1 }

/-- The state at the end of the `k`-th tick since the startup, with the number of iterations made
in each tick. -/
def run (startup : ℕ) (iterations : ℕ → ℕ) : ℕ → Drain
  | 0 => iterate^[iterations 0] (start startup)
  | k + 1 => iterate^[iterations (k + 1)] (run startup iterations k).tickIncrease

/-- The test in the `k`-th tick. -/
def fires (startup k : ℕ) : Prop :=
  drainTest (BitVec.ofNat 32 (startup + k)) (BitVec.ofNat 32 startup * 10)

instance (startup k : ℕ) : Decidable (fires startup k) := by
  unfold fires
  infer_instance

/-- The number of multiples of 900 ms, 90 ticks, between two ticks since the startup. -/
def multiples (startup j k : ℕ) : ℕ := (startup + k) / 90 - (startup + j) / 90

/-- The last tick before the `k`-th one in which the system task ran, or the startup. -/
def lastRun (iterations : ℕ → ℕ) : ℕ → ℕ
  | 0 => 0
  | k + 1 => if 0 < iterations k then k else lastRun iterations k

variable {startup k : ℕ} {iterations : ℕ → ℕ} {s : Drain}

/-! ### The decrements of a tick -/

theorem iterate_iterate (n : ℕ) : iterate^[n] s = { s with
    decrements := s.decrements + if drainTest s.tick s.startingTime then n else 0 } := by
  induction n generalizing s with
  | zero => simp
  | succ n ih =>
    rw [Function.iterate_succ_apply, ih, iterate]
    split
    · simp [Nat.add_comm, Nat.add_left_comm]
    · simp

/-- The clock and `startingTime` in the `k`-th tick. -/
theorem run_clock (startup : ℕ) (iterations : ℕ → ℕ) (k : ℕ) :
    (run startup iterations k).tick = BitVec.ofNat 32 (startup + k) ∧
      (run startup iterations k).startingTime = BitVec.ofNat 32 startup * 10 := by
  induction k with
  | zero => rw [run, iterate_iterate]; exact ⟨rfl, rfl⟩
  | succ k ih =>
    rw [run, iterate_iterate]
    refine ⟨?_, ih.2⟩
    change (run startup iterations k).tick + 1 = _
    rw [ih.1, ← Nat.add_assoc, BitVec.ofNat_add (startup + k) 1]
    rfl

/-- The decrements made before the `k`-th tick. -/
def before (startup : ℕ) (iterations : ℕ → ℕ) : ℕ → ℕ
  | 0 => 0
  | k + 1 => (run startup iterations k).decrements

theorem run_decrements : (run startup iterations k).decrements =
    before startup iterations k + if fires startup k then iterations k else 0 := by
  cases k with
  | zero =>
    rw [run, iterate_iterate]
    rfl
  | succ k =>
    obtain ⟨htick, hstart⟩ := run_clock startup iterations k
    rw [run, iterate_iterate]
    have htest : drainTest ((run startup iterations k).tickIncrease).tick
        ((run startup iterations k).tickIncrease).startingTime ↔ fires startup (k + 1) := by
      change drainTest ((run startup iterations k).tick + 1) _ ↔ _
      rw [htick, fires, ← Nat.add_assoc, BitVec.ofNat_add (startup + k)]
      exact Iff.of_eq (congrArg _ hstart)
    simp only [htest]
    rfl

theorem lastRun_le : lastRun iterations k ≤ k := by
  induction k with
  | zero => exact le_rfl
  | succ k ih =>
    rw [lastRun]
    split
    · exact Nat.le_succ k
    · exact Nat.le_succ_of_le ih

theorem multiples_add {i j k : ℕ} (hij : i ≤ j) (hjk : j ≤ k) :
    multiples startup i j + multiples startup j k = multiples startup i k := by
  unfold multiples
  omega

/-! ### When the decrements are the multiples -/

/-- The number of decrements is the number of multiples of 900 ms since the startup, at the end of
every tick in which the system task runs. -/
def DrainsNominally (startup : ℕ) (iterations : ℕ → ℕ) : Prop :=
  ∀ k, 0 < iterations k → (run startup iterations k).decrements = multiples startup 0 k

/-- In every tick in which the system task runs, it makes as many iterations that pass the test as
multiples have passed since it ran last. -/
def KeepsPace (startup : ℕ) (iterations : ℕ → ℕ) : Prop :=
  ∀ k, 0 < iterations k → (if fires startup k then iterations k else 0) =
    multiples startup (lastRun iterations k) k

/-- If every tick in which the system task ran left the right number, so did the last one. -/
theorem before_eq (h : ∀ j < k, 0 < iterations j →
      (run startup iterations j).decrements = multiples startup 0 j) :
    before startup iterations k = multiples startup 0 (lastRun iterations k) := by
  induction k with
  | zero => exact (Nat.sub_self _).symm
  | succ k ih =>
    rw [lastRun]
    split
    · next hk => exact h k (Nat.lt_succ_self k) hk
    · next hk =>
      have hzero : iterations k = 0 := Nat.eq_zero_of_not_pos hk
      have hsame : before startup iterations (k + 1) = before startup iterations k := by
        change (run startup iterations k).decrements = _
        rw [run_decrements, hzero, ite_self, Nat.add_zero]
      rw [hsame]
      exact ih fun j hj => h j (Nat.lt_succ_of_lt hj)

/-- **When the battery drains at its nominal rate**: for every startup tick and every number of
iterations in each tick, the number of decrements is the number of multiples of 900 ms passed, in
every tick in which the system task runs, if and only if in every such tick as many iterations pass
the test as multiples have passed since the last one. -/
theorem drains_nominally_iff (startup : ℕ) (iterations : ℕ → ℕ) :
    DrainsNominally startup iterations ↔ KeepsPace startup iterations := by
  have hsplit : ∀ k, multiples startup 0 (lastRun iterations k) +
      multiples startup (lastRun iterations k) k = multiples startup 0 k :=
    fun k => multiples_add (Nat.zero_le _) lastRun_le
  constructor
  · intro h k hk
    have hnow := h k hk
    rw [run_decrements, before_eq fun j _ => h j, ← hsplit k] at hnow
    exact Nat.add_left_cancel hnow
  · intro h k
    induction k using Nat.strong_induction_on with
    | _ k ih =>
      intro hk
      rw [run_decrements, before_eq ih, h k hk, hsplit k]

/-- Two iterations in the tick of 900 ms drain twice. -/
theorem drains_twice : ¬ ∀ startup iterations, DrainsNominally startup iterations := by
  intro h
  have hdrained := h 1 (fun k => if k = 89 then 2 else 0) 89 (by decide)
  have hnone := @before_eq 1 89 (fun k => if k = 89 then 2 else 0) (by decide)
  have hlast : lastRun (fun k => if k = 89 then 2 else 0) 89 = 0 := by decide
  have hfires : fires 1 89 := by decide
  rw [run_decrements, hnone, hlast, if_pos hfires] at hdrained
  exact absurd hdrained (by decide)

/-! ### One iteration in the tick of each multiple -/

theorem toNat_millisecond {n : ℕ} (hn : n * 10 < 2 ^ 31) :
    (BitVec.ofNat 32 n * 10).toNat = n * 10 := by
  have hten : (10 : BitVec 32).toNat = 10 := rfl
  rw [BitVec.toNat_mul, hten, BitVec.toNat_ofNat]
  omega

/-- As long as the milliseconds fit in an `int`, the test is passed in the ticks of the
multiples. -/
theorem fires_iff (hs : 0 < startup) (hk : (startup + k) * 10 < 2 ^ 31) :
    fires startup k ↔ 90 ∣ startup + k := by
  have htime : (BitVec.ofNat 32 (startup + k) * 10).toInt = ((startup + k) * 10 : ℕ) := by
    rw [BitVec.toInt_eq_toNat_of_lt, toNat_millisecond hk]
    rw [toNat_millisecond hk]
    omega
  have hstart : BitVec.ofNat 32 startup * 10 ≠ 0 := by
    intro h
    have hzero := congrArg BitVec.toNat h
    rw [toNat_millisecond (by omega)] at hzero
    exact absurd hzero (by simpa using hs.ne')
  rw [fires, drainTest, htime, Int.tmod_eq_emod_of_nonneg (Int.natCast_nonneg _)]
  constructor
  · rintro ⟨h, -⟩
    omega
  · intro h
    exact ⟨by omega, hstart⟩

/-- With one iteration in the tick of each multiple, and none in the tick `startingTime` is set at
if that is one, the battery drains at its nominal rate. -/
theorem run_decrements_eq (hs : 0 < startup) (hone : ∀ k, 90 ∣ startup + k →
      iterations k = if k = 0 then 0 else 1) (hk : (startup + k) * 10 < 2 ^ 31) :
    (run startup iterations k).decrements = multiples startup 0 k := by
  induction k with
  | zero =>
    have hnone : (if fires startup 0 then iterations 0 else 0) = 0 := by
      split
      · next h => exact hone 0 ((fires_iff hs hk).mp h)
      · rfl
    rw [run_decrements, hnone]
    exact (Nat.sub_self _).symm
  | succ k ih =>
    have hbefore : before startup iterations (k + 1) = multiples startup 0 k := ih (by omega)
    have hfires := fires_iff (k := k + 1) hs hk
    rw [run_decrements, hbefore]
    unfold multiples
    by_cases hmul : 90 ∣ startup + (k + 1)
    · rw [if_pos (hfires.mpr hmul), hone _ hmul, if_neg (Nat.succ_ne_zero k)]
      omega
    · rw [if_neg (mt hfires.mp hmul)]
      omega

end Drain

/-! ### The system task -/

namespace App

variable {s : App}

/-- What the loop of the system task reads and writes. -/
def drain (s : App) : Drain where
  tick := s.machine.kernel.tick
  startingTime := s.startingTime
  decrements := s.decrements

/-- The main thread sets `startingTime`. -/
theorem mainStatement_drain (h : s.mainPc = .startingTime) :
    s.mainStatement.2.drain.startingTime = s.drain.tick * 10 := by
  rw [mainStatement, h]
  rfl

/-- `n` statements of the system task. -/
def systemSteps (s : App) (n : ℕ) : App := (fun s : App => s.systemStatement.2)^[n] s

/-- The statements from one test of `turnOffFlag` to the next are an iteration. -/
theorem iteration_statements (h : s.systemPc = .testTurnOff) (hon : s.turnOffFlag = false) :
    ∃ n, (s.systemSteps n).systemPc = .testTurnOff ∧
      (s.systemSteps n).drain = s.drain.iterate := by
  have htest : s.systemStatement.2 = { s with systemPc := .currTime } := by
    rw [systemStatement, h]
    simp [hon]
  have htime : s.systemSteps 2 = { s with systemPc := .testTime s.millisecond } := by
    change s.systemStatement.2.systemStatement.2 = _
    rw [htest]
    rfl
  have hthird : s.systemSteps 3 = { s with
      systemPc :=
        if drainTest s.drain.tick s.drain.startingTime then .take else .testTurnOff } := by
    change (s.systemSteps 2).systemStatement.2 = _
    rw [htime, systemStatement]
    change (if drainTest s.drain.tick s.drain.startingTime then _ else _ : RobotAct × App).2 = _
    split <;> rfl
  by_cases hpass : drainTest s.drain.tick s.drain.startingTime
  · rw [if_pos hpass] at hthird
    refine ⟨6, ?_⟩
    have hrest : s.systemSteps 6 = (s.systemSteps 3).systemSteps 3 := rfl
    rw [hrest, hthird, Drain.iterate, if_pos hpass]
    exact ⟨rfl, rfl⟩
  · rw [if_neg hpass] at hthird
    refine ⟨3, ?_⟩
    rw [hthird, Drain.iterate, if_neg hpass]
    exact ⟨rfl, rfl⟩

end App

end RobotVacuum
