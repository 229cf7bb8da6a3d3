import Mathlib.Algebra.Order.Group.Nat
import Mathlib.Tactic.Ring

/-!
# The CPU usage of the idle hook

`cpu_usage_idle_hook` in 32-bit arithmetic. How often its loops turn within ten ticks is the
environment's choice. The usage is a quotient taken in two stages, the percent and from its
remainder the hundredths; `cpuUsageRun_exact` says that no stage divides by zero or wraps and that
together they are the exact quotient, whatever the hook was calibrated with.
-/

namespace RobotVacuum

/-- The file-scope variables of `cpu_usage.c`. The counts made so far and the operands of the
products taken so far are ghosts. -/
structure CpuUsage where
  major : UInt8
  minor : UInt8
  totalCount : UInt32
  counts : List ℕ
  products : List (UInt32 × UInt32)

/-- How often the two loops of an invocation turn before `CPU_USAGE_CALC_TICK` ticks have
passed. -/
structure IdleLoops where
  calibration : ℕ
  sample : ℕ

namespace CpuUsage

/-- The variables as they are initialised. -/
def initial : CpuUsage := ⟨0, 0, 0, [], []⟩

/-- A variable that a loop increments in each turn. -/
def countLoop (turns : ℕ) (count : UInt32) : UInt32 := (· + 1)^[turns] count

/-- Unsigned division, undefined for a zero divisor. -/
def quotient (x y : UInt32) : Option UInt32 := if y = 0 then none else some (x / y)

/-- Unsigned remainder, undefined for a zero divisor. -/
def remainder (x y : UInt32) : Option UInt32 := if y = 0 then none else some (x % y)

/-- The first part of the hook: without a total count, it is calibrated. -/
def calibrate (s : CpuUsage) (loops : IdleLoops) : CpuUsage :=
  if s.totalCount = 0 then
    { s with
      totalCount := countLoop loops.calibration s.totalCount
      counts := s.counts ++ [loops.calibration] }
  else s

/-- The last part of the hook: major and minor for a sample. -/
def usage (s : CpuUsage) (count : UInt32) : Option CpuUsage :=
  if count < s.totalCount then do
    let count := s.totalCount - count
    let major ← quotient (count * 100) s.totalCount
    let rest ← remainder (count * 100) s.totalCount
    let minor ← quotient (rest * 100) s.totalCount
    return { s with
      major := major.toUInt8
      minor := minor.toUInt8
      products := s.products ++ [(count, 100), (count, 100), (rest, 100)] }
  else
    some { s with totalCount := count, major := 0, minor := 0 }

/-- `cpu_usage_idle_hook`. -/
def idleHook (s : CpuUsage) (loops : IdleLoops) : Option CpuUsage :=
  let s := s.calibrate loops
  let count := countLoop loops.sample 0
  { s with counts := s.counts ++ [loops.sample] }.usage count

/-- One invocation of the hook after the other. -/
def run (s : CpuUsage) (invocations : List IdleLoops) : Option CpuUsage :=
  invocations.foldlM idleHook s

/-! ### The two-stage quotient -/

/-- Percent and hundredths of a percent are the digits of one exact quotient. -/
theorem two_stage_quotient (a t : ℕ) :
    100 * (a * 100 / t) + a * 100 % t * 100 / t = 10000 * a / t := by
  rcases Nat.eq_zero_or_pos t with rfl | ht
  · simp
  have hsplit : 10000 * a = t * (100 * (a * 100 / t)) + a * 100 % t * 100 := by
    have h := Nat.div_add_mod (a * 100) t
    calc 10000 * a = (a * 100) * 100 := by ring
      _ = (t * (a * 100 / t) + a * 100 % t) * 100 := by rw [h]
      _ = t * (100 * (a * 100 / t)) + a * 100 % t * 100 := by ring
  rw [hsplit, Nat.mul_add_div ht]

theorem major_le {a t : ℕ} (h : a ≤ t) : a * 100 / t ≤ 100 :=
  Nat.div_le_of_le_mul (Nat.mul_le_mul_right 100 h)

theorem minor_lt {a t : ℕ} (ht : 0 < t) : a * 100 % t * 100 / t < 100 :=
  Nat.div_lt_of_lt_mul (Nat.mul_lt_mul_of_pos_right (Nat.mod_lt _ ht) (by decide))

/-! ### The machine operations -/

theorem toNat_countLoop {turns : ℕ} {count : UInt32} (h : count.toNat + turns < 2 ^ 32) :
    (countLoop turns count).toNat = count.toNat + turns := by
  induction turns generalizing count with
  | zero => rfl
  | succ n ih =>
    have hone : (count + 1).toNat = count.toNat + 1 := by
      rw [UInt32.toNat_add, UInt32.toNat_one, Nat.mod_eq_of_lt (by omega)]
    calc (countLoop (n + 1) count).toNat = (countLoop n (count + 1)).toNat := rfl
      _ = (count + 1).toNat + n := ih (by omega)
      _ = count.toNat + (n + 1) := by omega

theorem toNat_mul_hundred {x : UInt32} (h : 100 * x.toNat < 2 ^ 32) :
    (x * 100).toNat = x.toNat * 100 := by
  have hhundred : (100 : UInt32).toNat = 100 := rfl
  rw [UInt32.toNat_mul, hhundred, Nat.mod_eq_of_lt (by omega)]

theorem toNat_toUInt8_of_lt {x : UInt32} (h : x.toNat < 256) : x.toUInt8.toNat = x.toNat := by
  rw [UInt32.toNat_toUInt8, Nat.mod_eq_of_lt h]

/-! ### Every invocation -/

/-- What holds between two invocations. -/
structure Exact (s : CpuUsage) : Prop where
  total : s.totalCount.toNat = s.counts.foldl max 0
  inRange : 100 * s.totalCount.toNat < 2 ^ 32
  products : ∀ p ∈ s.products, p.1.toNat * p.2.toNat < 2 ^ 32
  major : s.major.toNat ≤ 100
  minor : s.minor.toNat ≤ 99
  usage : ∀ count ∈ s.counts.getLast?, 0 < s.totalCount.toNat →
    100 * s.major.toNat + s.minor.toNat =
      10000 * (s.totalCount.toNat - count) / s.totalCount.toNat

theorem Exact.initial : Exact initial where
  total := rfl
  inRange := by decide
  products := fun _ h => nomatch h
  major := by decide
  minor := by decide
  usage := fun _ h => nomatch h

/-- The counts of an invocation are below `2 ^ 32 / 100`. -/
def InRange (loops : IdleLoops) : Prop :=
  100 * loops.calibration < 2 ^ 32 ∧ 100 * loops.sample < 2 ^ 32

/-- Between the calibration and the sample. -/
structure Calibrated (s : CpuUsage) : Prop where
  total : s.totalCount.toNat = s.counts.foldl max 0
  inRange : 100 * s.totalCount.toNat < 2 ^ 32
  products : ∀ p ∈ s.products, p.1.toNat * p.2.toNat < 2 ^ 32

variable {s s' : CpuUsage} {loops : IdleLoops}

theorem Exact.calibrate (h : Exact s) (hr : InRange loops) : Calibrated (s.calibrate loops) := by
  unfold CpuUsage.calibrate
  split
  · rename_i hzero
    have hstart : s.totalCount.toNat = 0 := by rw [hzero]; rfl
    have hcount : (countLoop loops.calibration s.totalCount).toNat = loops.calibration := by
      rw [toNat_countLoop (by have := hr.1; omega), hstart, Nat.zero_add]
    refine ⟨?_, ?_, h.products⟩
    · have hold := h.total
      rw [hcount, List.foldl_append, ← hold, hstart]
      simp
    · rw [hcount]
      exact hr.1
  · exact ⟨h.total, h.inRange, h.products⟩

/-- **The quotient of a sample below the total is exact**, and nothing wraps on the way. -/
theorem usage_lt {count : UInt32} (hr : 100 * s.totalCount.toNat < 2 ^ 32)
    (hlt : count < s.totalCount) :
    ∃ major minor rest : UInt32, s.usage count = some { s with
        major := major.toUInt8
        minor := minor.toUInt8
        products := s.products ++
          [(s.totalCount - count, 100), (s.totalCount - count, 100), (rest, 100)] } ∧
      rest.toNat < s.totalCount.toNat ∧
      major.toNat = (s.totalCount.toNat - count.toNat) * 100 / s.totalCount.toNat ∧
      minor.toNat = (s.totalCount.toNat - count.toNat) * 100 % s.totalCount.toNat * 100 /
        s.totalCount.toNat := by
  have hlt' : count.toNat < s.totalCount.toNat := UInt32.lt_iff_toNat_lt.mp hlt
  have hne : s.totalCount ≠ 0 := by
    intro h
    rw [h] at hlt'
    exact absurd hlt' (Nat.not_lt_zero _)
  have hsub : (s.totalCount - count).toNat = s.totalCount.toNat - count.toNat :=
    UInt32.toNat_sub_of_le _ _ (UInt32.le_iff_toNat_le.mpr hlt'.le)
  have hmul : ((s.totalCount - count) * 100).toNat =
      (s.totalCount.toNat - count.toNat) * 100 := by
    rw [toNat_mul_hundred (by omega), hsub]
  have hrest : ((s.totalCount - count) * 100 % s.totalCount).toNat =
      (s.totalCount.toNat - count.toNat) * 100 % s.totalCount.toNat := by
    rw [UInt32.toNat_mod, hmul]
  have hrestlt : ((s.totalCount - count) * 100 % s.totalCount).toNat < s.totalCount.toNat := by
    rw [hrest]
    exact Nat.mod_lt _ (by omega)
  refine ⟨(s.totalCount - count) * 100 / s.totalCount,
    (s.totalCount - count) * 100 % s.totalCount * 100 / s.totalCount,
    (s.totalCount - count) * 100 % s.totalCount, ?_, hrestlt, ?_, ?_⟩
  · simp only [CpuUsage.usage, hlt, if_true, quotient, remainder, hne, if_false]
    rfl
  · rw [UInt32.toNat_div, hmul]
  · rw [UInt32.toNat_div, toNat_mul_hundred (by omega), hrest]
/-- The sample after the calibration. -/
theorem Calibrated.sample (h : Calibrated s) (hr : 100 * loops.sample < 2 ^ 32) :
    ∃ s', { s with counts := s.counts ++ [loops.sample] }.usage (countLoop loops.sample 0) =
      some s' ∧ Exact s' ∧ s'.counts = s.counts ++ [loops.sample] := by
  have hcount : (countLoop loops.sample 0).toNat = loops.sample := by
    have hzero : (0 : UInt32).toNat = 0 := rfl
    rw [toNat_countLoop (by rw [hzero]; omega), hzero, Nat.zero_add]
  have hmax : (s.counts ++ [loops.sample]).foldl max 0 =
      max s.totalCount.toNat loops.sample := by
    rw [List.foldl_append, ← h.total]
    rfl
  by_cases hlt : countLoop loops.sample 0 < s.totalCount
  · have hlt' : loops.sample < s.totalCount.toNat := by
      rw [← hcount]
      exact UInt32.lt_iff_toNat_lt.mp hlt
    obtain ⟨major, minor, rest, heq, hrest, hmajor, hminor⟩ :=
      usage_lt (s := { s with counts := s.counts ++ [loops.sample] }) h.inRange hlt
    rw [hcount] at hmajor hminor
    have hmajorle : major.toNat ≤ 100 := by
      rw [hmajor]
      exact major_le (Nat.sub_le _ _)
    have hminorlt : minor.toNat < 100 := by
      rw [hminor]
      exact minor_lt (Nat.zero_lt_of_lt hlt')
    have hmajor8 : major.toUInt8.toNat = major.toNat := toNat_toUInt8_of_lt (by omega)
    have hminor8 : minor.toUInt8.toNat = minor.toNat := toNat_toUInt8_of_lt (by omega)
    refine ⟨_, heq, ⟨?_, h.inRange, ?_, ?_, ?_, ?_⟩, rfl⟩
    · exact (hmax.trans (max_eq_left hlt'.le)).symm
    · have hhundred : (100 : UInt32).toNat = 100 := rfl
      have hsub : (s.totalCount - countLoop loops.sample 0).toNat ≤ s.totalCount.toNat := by
        rw [UInt32.toNat_sub_of_le _ _ (UInt32.le_iff_toNat_le.mpr (by rw [hcount]; omega))]
        exact Nat.sub_le _ _
      have hin := h.inRange
      intro p hp
      simp only [List.mem_append, List.mem_cons, List.not_mem_nil, or_false] at hp
      rcases hp with hp | rfl | rfl | rfl
      · exact h.products p hp
      · simp only [hhundred]
        omega
      · simp only [hhundred]
        omega
      · simp only [hhundred]
        have hrest' : rest.toNat < s.totalCount.toNat := hrest
        omega
    · exact hmajor8.trans_le hmajorle
    · exact hminor8.trans_le (by omega)
    · intro count hlast _
      obtain rfl : loops.sample = count := by simpa using hlast
      calc 100 * major.toUInt8.toNat + minor.toUInt8.toNat
          = 100 * major.toNat + minor.toNat := by rw [hmajor8, hminor8]
        _ = _ := by rw [hmajor, hminor, two_stage_quotient]
  · have hge : s.totalCount.toNat ≤ loops.sample := by
      rw [← hcount]
      exact UInt32.le_iff_toNat_le.mp (UInt32.not_lt.mp hlt)
    refine ⟨_, if_neg hlt, ⟨?_, ?_, h.products, Nat.zero_le _, Nat.zero_le _, ?_⟩, rfl⟩
    · exact hcount.trans (hmax.trans (max_eq_right hge)).symm
    · rw [hcount]
      exact hr
    · intro count hlast _
      obtain rfl : loops.sample = count := by simpa using hlast
      rw [hcount, Nat.sub_self]
      exact (Nat.zero_div _).symm

/-- The counts that an invocation makes. -/
def counted (s : CpuUsage) (loops : IdleLoops) : List ℕ :=
  if s.totalCount = 0 then [loops.calibration, loops.sample] else [loops.sample]

/-- One invocation. -/
theorem Exact.step (h : Exact s) (hr : InRange loops) :
    ∃ s', s.idleHook loops = some s' ∧ Exact s' ∧ s'.counts = s.counts ++ s.counted loops := by
  obtain ⟨s', heq, hexact, hcounts⟩ := (h.calibrate hr).sample hr.2
  refine ⟨s', heq, hexact, ?_⟩
  rw [hcounts, counted, CpuUsage.calibrate]
  split <;> simp

/-- The last count is the last sample. -/
theorem counted_getLast? (s : CpuUsage) (loops : IdleLoops) :
    (s.counted loops).getLast? = some loops.sample := by
  unfold counted
  split <;> rfl

/-- A run of invocations. -/
theorem Exact.run (h : Exact s) {invocations : List IdleLoops}
    (hr : ∀ i ∈ invocations, InRange i) :
    ∃ s', s.run invocations = some s' ∧ Exact s' ∧
      ∀ last ∈ invocations.getLast?, s'.counts.getLast? = some last.sample := by
  induction invocations generalizing s with
  | nil => exact ⟨s, rfl, h, fun _ hlast => nomatch hlast⟩
  | cons loops rest ih =>
    obtain ⟨s₁, heq₁, h₁, hcounts₁⟩ := h.step (hr loops (by simp))
    obtain ⟨s₂, heq₂, h₂, hlast₂⟩ := ih h₁ fun i hi => hr i (by simp [hi])
    refine ⟨s₂, ?_, h₂, ?_⟩
    · rw [CpuUsage.run, List.foldlM_cons, heq₁]
      exact heq₂
    · cases rest with
      | nil =>
        obtain rfl : s₁ = s₂ := by simpa [CpuUsage.run] using heq₂
        intro last hlast
        obtain rfl : loops = last := by simpa using hlast
        rw [hcounts₁, List.getLast?_append, counted_getLast?]
        rfl
      | cons next rest =>
        intro last hlast
        exact hlast₂ last (by rwa [List.getLast?_cons_cons] at hlast)

end CpuUsage

open CpuUsage in
/-- **The usage is exact in every run of the hook**: no division by zero, no product that wraps,
a total that is the largest count so far, and the usage of the last sample as one exact
quotient. -/
theorem cpuUsageRun_exact (invocations : List IdleLoops)
    (hr : ∀ i ∈ invocations, 100 * i.calibration < 2 ^ 32 ∧ 100 * i.sample < 2 ^ 32) :
    ∃ s, CpuUsage.initial.run invocations = some s ∧
      (∀ p ∈ s.products, p.1.toNat * p.2.toNat < 2 ^ 32) ∧
      s.totalCount.toNat = s.counts.foldl max 0 ∧
      s.major.toNat ≤ 100 ∧ s.minor.toNat ≤ 99 ∧
      ∀ last ∈ invocations.getLast?, 0 < s.totalCount.toNat →
        100 * s.major.toNat + s.minor.toNat =
          10000 * (s.totalCount.toNat - last.sample) / s.totalCount.toNat := by
  obtain ⟨s, heq, h, hlast⟩ := Exact.initial.run hr
  refine ⟨s, heq, h.products, h.total, h.major, h.minor, fun last hl hpos => ?_⟩
  exact h.usage last.sample (by rw [hlast last hl]; rfl) hpos

/-- Two invocations, the second one after a sample below the total. -/
theorem cpuUsageRun_exact_two : ∃ s, CpuUsage.initial.run [⟨0, 7⟩, ⟨0, 5⟩] = some s ∧
    (∀ p ∈ s.products, p.1.toNat * p.2.toNat < 2 ^ 32) ∧
    s.totalCount.toNat = s.counts.foldl max 0 ∧ s.major.toNat ≤ 100 ∧ s.minor.toNat ≤ 99 ∧
    ∀ last ∈ [(⟨0, 7⟩ : IdleLoops), ⟨0, 5⟩].getLast?, 0 < s.totalCount.toNat →
      100 * s.major.toNat + s.minor.toNat =
        10000 * (s.totalCount.toNat - last.sample) / s.totalCount.toNat :=
  cpuUsageRun_exact [⟨0, 7⟩, ⟨0, 5⟩] (by
    intro i hi
    simp only [List.mem_cons, List.not_mem_nil, or_false] at hi
    rcases hi with rfl | rfl <;> decide)

end RobotVacuum
