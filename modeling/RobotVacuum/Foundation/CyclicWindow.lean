import Mathlib.Data.List.Range
import Mathlib.Data.Nat.ModEq
import Mathlib.Logic.Function.Basic

/-!
# Windows of a cyclic array

A ring buffer keeps its elements in an array of `size` slots, starting at an index `start` and
wrapping around. `window slots size start len` is the list of its elements, front first.
Writing the slot after the window and lengthening it appends an element, and moving the start
forward takes the first element off; both are stated with the increment-and-wrap `advance` that
ring buffers use in place of a remainder.
-/

namespace RobotVacuum

variable {V : Type}

/-- Increment an index, wrapping to zero at the size. -/
def advance (size i : ℕ) : ℕ := if size ≤ i + 1 then 0 else i + 1

/-- The elements of a cyclic array from `start` on, `len` many. -/
def window (slots : ℕ → V) (size start len : ℕ) : List V :=
  (List.range len).map fun i => slots ((start + i) % size)

variable {slots : ℕ → V} {size start len i : ℕ} {v : V}

theorem advance_lt (h : 0 < size) : advance size i < size := by
  unfold advance
  split <;> omega

theorem advance_eq_mod (h : i < size) : advance size i = (i + 1) % size := by
  unfold advance
  split
  · rw [show i + 1 = size by omega, Nat.mod_self]
  · rw [Nat.mod_eq_of_lt (by omega)]

@[simp] theorem window_zero : window slots size start 0 = [] := rfl

@[simp] theorem length_window : (window slots size start len).length = len := by
  simp [window]

/-- Writing the slot behind a window that leaves it free does not change the window. -/
theorem window_update_of_lt (hlen : len < size) :
    window (Function.update slots ((start + len) % size) v) size start len =
      window slots size start len := by
  refine List.map_congr_left fun i hi => Function.update_of_ne ?_ _ _
  have hi : i < len := List.mem_range.mp hi
  intro heq
  -- two offsets below the size reach the same slot only if they are equal
  have hmod : i % size = len % size := Nat.ModEq.add_left_cancel' (n := size) start heq
  rw [Nat.mod_eq_of_lt (Nat.lt_trans hi hlen), Nat.mod_eq_of_lt hlen] at hmod
  exact Nat.ne_of_lt hi hmod

/-- **Putting.** Writing the slot behind the window and lengthening it appends the element. -/
theorem window_put (hlen : len < size) :
    window (Function.update slots ((start + len) % size) v) size start (len + 1) =
      window slots size start len ++ [v] := by
  have hsnoc : ∀ f : ℕ → V, window f size start (len + 1) =
      window f size start len ++ [f ((start + len) % size)] := fun f => by
    simp [window, List.range_succ]
  rw [hsnoc, window_update_of_lt hlen, Function.update_self]

/-- **Getting.** A nonempty window starts with the element at its start, and the rest is the
window from the next index on. -/
theorem window_get (hstart : start < size) :
    window slots size start (len + 1) =
      slots start :: window slots size (advance size start) len := by
  rw [window, List.range_succ_eq_map, List.map_cons, List.map_map, Nat.add_zero,
    Nat.mod_eq_of_lt hstart, window]
  refine congrArg _ (List.map_congr_left fun i _ => congrArg slots ?_)
  rw [advance_eq_mod hstart, Nat.mod_add_mod]
  congr 1
  omega

end RobotVacuum
