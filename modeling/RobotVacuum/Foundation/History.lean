import Mathlib.Data.List.Basic
import Mathlib.Tactic.Common

/-!
# Histories

A history is a list that only grows at its end. Where an entry stands in a longer history tells
where it stands in the history before (`split_append`). An entry is `Outstanding` as long as no
answer to it follows.
-/

namespace RobotVacuum

namespace History

variable {α : Type} {log l l₁ l₂ : List α} {a b : α}

/-- An entry of an extended history that is not a new one stands in the history before. -/
theorem split_append (h : log ++ l = l₁ ++ b :: l₂) (hb : b ∉ l) :
    ∃ l', l₂ = l' ++ l ∧ log = l₁ ++ b :: l' := by
  rcases List.append_eq_append_iff.mp h with ⟨l', rfl, rfl⟩ | ⟨l', rfl, hl⟩
  · exact absurd (List.mem_append_right _ List.mem_cons_self) hb
  · cases l' with
    | nil => exact absurd (by rw [← show b :: l₂ = l from hl]; exact List.mem_cons_self) hb
    | cons c l' =>
      obtain ⟨rfl, rfl⟩ := List.cons.inj hl
      exact ⟨l', rfl, rfl⟩

/-- Where an entry of an extended history stands: it is the new one or in the history before. -/
theorem snoc_eq (h : log ++ [a] = l₁ ++ b :: l₂) :
    b = a ∧ l₁ = log ∧ l₂ = [] ∨ ∃ l, l₂ = l ++ [a] ∧ log = l₁ ++ b :: l := by
  rcases l₂.eq_nil_or_concat with rfl | ⟨l, c, rfl⟩
  · obtain ⟨hlog, hb⟩ := List.append_inj' h rfl
    exact .inl ⟨(List.singleton_inj.mp hb).symm, hlog.symm, rfl⟩
  · have h' : log ++ [a] = (l₁ ++ b :: l) ++ [c] := by simpa using h
    obtain ⟨hlog, hc⟩ := List.append_inj' h' rfl
    exact .inr ⟨l, by rw [List.singleton_inj.mp hc, List.concat_eq_append], hlog⟩

/-- An `a` was not answered by a `b` yet. -/
def Outstanding (a b : α) (log : List α) : Prop := ∃ l₁ l₂, log = l₁ ++ a :: l₂ ∧ b ∉ l₂

theorem not_outstanding_nil : ¬Outstanding a b [] := by
  rintro ⟨l₁, l₂, h, -⟩
  simp at h

/-- What is outstanding and not new was outstanding before, and is not answered now. -/
theorem Outstanding.of_append (h : Outstanding a b (log ++ l)) (ha : a ∉ l) :
    Outstanding a b log ∧ b ∉ l := by
  obtain ⟨l₁, l₂, heq, hb⟩ := h
  obtain ⟨l', rfl, rfl⟩ := split_append heq ha
  rw [List.mem_append, not_or] at hb
  exact ⟨⟨l₁, l', rfl, hb.1⟩, hb.2⟩

/-- If nothing is outstanding, there is an answer after every entry. -/
theorem mem_of_not_outstanding (h : ¬Outstanding a b (l₁ ++ a :: l₂)) : b ∈ l₂ := by
  by_contra hb
  exact h ⟨l₁, l₂, rfl, hb⟩

/-! ### Exchanges -/

/-- How far the answer to the last `a` has come. -/
inductive ExchangeStage
  | rest | asked | begun
  deriving DecidableEq, Repr

/-- Every `a` is answered at once by a `b` and a `c`, and there is no `c` otherwise. -/
inductive Exchange (a b c : α) : ExchangeStage → List α → Prop
  | nil : Exchange a b c .rest []
  | other {log : List α} {x : α} : Exchange a b c .rest log → x ≠ a → x ≠ c →
    Exchange a b c .rest (log ++ [x])
  | asked {log : List α} : Exchange a b c .rest log → Exchange a b c .asked (log ++ [a])
  | begun {log : List α} : Exchange a b c .asked log → Exchange a b c .begun (log ++ [b])
  | done {log : List α} : Exchange a b c .begun log → Exchange a b c .rest (log ++ [c])

namespace Exchange

variable {c : α} {st : ExchangeStage}

/-- Entries that belong to no exchange. -/
theorem others (h : Exchange a b c .rest log) (ha : a ∉ l) (hc : c ∉ l) :
    Exchange a b c .rest (log ++ l) := by
  induction l generalizing log with
  | nil => rwa [List.append_nil]
  | cons x l ih =>
    simp only [List.mem_cons, not_or] at ha hc
    rw [List.append_cons]
    exact ih (h.other (Ne.symm ha.1) (Ne.symm hc.1)) ha.2 hc.2

end Exchange

end History

end RobotVacuum
