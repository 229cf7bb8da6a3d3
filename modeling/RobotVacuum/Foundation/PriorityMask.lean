import Mathlib.Data.List.Basic
import Mathlib.Tactic.Common

/-!
# Priority bitmaps

A bitmap of ready priorities is a bit vector whose bit `p` stands for priority `p`. This file
has the bit-level facts about setting and clearing the bit of one priority with the mask
`1 <<< p`, and the find-first-set operation `ffs`, which numbers bits from one and answers
zero on the empty bitmap.
-/

namespace RobotVacuum

variable {w : ℕ} {g : BitVec w} {p i : ℕ}

/-- The mask of a priority: the bit vector with that bit alone. Beyond the width it is zero. -/
def priorityMask (w p : ℕ) : BitVec w := 1#w <<< p

theorem getLsbD_priorityMask (hi : i < w) : (priorityMask w p).getLsbD i = decide (i = p) := by
  have h1 : (1#w).getLsbD (i - p) = decide (i - p = 0) := by
    rw [BitVec.getLsbD_one]
    by_cases h0 : i - p = 0
    · simp [h0]
      omega
    · simp [h0]
  rw [priorityMask, BitVec.getLsbD_shiftLeft, h1]
  by_cases hp : i = p
  · simp [hp, hp ▸ hi]
  · by_cases hlt : i < p <;> simp [hi, hp, hlt]
    omega

/-- Setting a priority's bit. -/
theorem getLsbD_or_priorityMask (hi : i < w) :
    (g ||| priorityMask w p).getLsbD i = (g.getLsbD i || decide (i = p)) := by
  rw [BitVec.getLsbD_or, getLsbD_priorityMask hi]

/-- Clearing a priority's bit. -/
theorem getLsbD_and_not_priorityMask (hi : i < w) :
    (g &&& ~~~priorityMask w p).getLsbD i = (g.getLsbD i && decide (i ≠ p)) := by
  rw [BitVec.getLsbD_and, BitVec.getLsbD_not, getLsbD_priorityMask hi]
  by_cases hp : i = p <;> simp [hi, hp]

/-- Find first set: one plus the index of the least set bit, zero on the empty bitmap. -/
def ffs (g : BitVec w) : ℕ :=
  match (List.range w).find? fun i => g.getLsbD i with
  | some i => i + 1
  | none => 0

/-- On a nonempty bitmap `ffs` finds the least set bit. -/
theorem ffs_spec (hg : g ≠ 0#w) :
    ∃ p < w, ffs g = p + 1 ∧ g.getLsbD p = true ∧ ∀ i < p, g.getLsbD i = false := by
  have hex : ∃ i < w, g.getLsbD i = true := by
    by_contra hno
    refine hg (BitVec.eq_of_getLsbD_eq fun i hi => ?_)
    rw [BitVec.getLsbD_zero]
    exact Bool.eq_false_iff.mpr fun ht => hno ⟨i, hi, ht⟩
  obtain ⟨i, hi, hbit⟩ := hex
  cases hf : (List.range w).find? fun i => g.getLsbD i with
  | none =>
    have := List.find?_eq_none.mp hf i (List.mem_range.mpr hi)
    exact absurd hbit this
  | some p =>
    obtain ⟨hp, hlt, hbelow⟩ := List.find?_range_eq_some.mp hf
    refine ⟨p, List.mem_range.mp hlt, by rw [ffs, hf], hp, fun i hip => ?_⟩
    simpa using hbelow i hip

end RobotVacuum
