import Mathlib.Data.List.Basic
import Mathlib.Tactic.Common

/-!
# Logs of first-in first-out lists

A `QueueEvent` says that an element entered the list of a key at its end, that it left
whatever list it was in, or that it was dispatched from the list of a key. `replay` recovers
the contents of a list from the log of all lists.

A log is `Orderly` when no element enters a list it is in and only the first element of a list
is ever dispatched. `Orderly.fifo` is what this means over a whole log: elements are dispatched
from a list **in the order in which they entered it**, unless they leave before.
-/

namespace RobotVacuum

/-- What happens to a family of lists with keys `K` and elements `T`. -/
inductive QueueEvent (K T : Type)
  /-- The element was linked at the end of the list of a key. -/
  | enter (p : K) (t : T)
  /-- The element was unlinked from the list it was in, if any. -/
  | leave (t : T)
  /-- The element was dispatched from the list of a key, which it is about to leave. -/
  | dispatch (p : K) (t : T)
  deriving DecidableEq

namespace QueueEvent

variable {K T : Type} [DecidableEq K] [DecidableEq T]

/-- The contents of the list of `p` after an event. -/
def apply (p : K) (l : List T) : QueueEvent K T → List T
  | .enter p' t => if p' = p then l ++ [t] else l
  | .leave t => l.erase t
  | .dispatch _ _ => l

/-- The contents of the list of `p` after a log, starting empty. -/
def replay (p : K) (log : List (QueueEvent K T)) : List T := log.foldl (apply p) []

variable {p p' : K} {a b t : T} {e : QueueEvent K T} {l log m : List (QueueEvent K T)}

@[simp] theorem replay_nil : replay p ([] : List (QueueEvent K T)) = [] := rfl

@[simp] theorem replay_append_singleton :
    replay p (log ++ [e]) = apply p (replay p log) e := by
  simp [replay]

/-- What must hold of the log so far when an event happens. -/
def Admissible (log : List (QueueEvent K T)) : QueueEvent K T → Prop
  | .enter p t => t ∉ replay p log
  | .leave _ => True
  | .dispatch p t => (replay p log).head? = some t

/-- No element enters a list it is in, and only first elements are dispatched. -/
def Orderly (log : List (QueueEvent K T)) : Prop :=
  ∀ l e l', log = l ++ e :: l' → Admissible l e

theorem orderly_nil : Orderly ([] : List (QueueEvent K T)) := fun _ _ _ h => by
  simp at h

/-- A log is extended by an event that is admissible after it. -/
theorem Orderly.append_singleton (h : Orderly log) (he : Admissible log e) :
    Orderly (log ++ [e]) := by
  intro l e' l' heq
  rcases List.eq_nil_or_concat l' with rfl | ⟨l'', x, rfl⟩
  · obtain ⟨rfl, hx⟩ := List.append_inj' heq rfl
    obtain rfl : e = e' := by simpa using hx
    exact he
  · rw [List.concat_eq_append, ← List.cons_append, ← List.append_assoc] at heq
    exact h l e' l'' (List.append_inj' heq rfl).1

/-- `a` is in the list, and `b` is not in front of it. -/
private def Precedes (a b : T) (l : List T) : Prop := ∃ u v, l = u ++ a :: v ∧ b ∉ u

private theorem Precedes.apply {l : List T} (h : Precedes a b l) (he : e ≠ .leave a) :
    Precedes a b (e.apply p l) := by
  obtain ⟨u, v, rfl, hb⟩ := h
  cases e with
  | enter p' t =>
    simp only [QueueEvent.apply]
    split
    · exact ⟨u, v ++ [t], by simp, hb⟩
    · exact ⟨u, v, rfl, hb⟩
  | leave t =>
    have hta : t ≠ a := fun hta => he (congrArg _ hta)
    by_cases htu : t ∈ u
    · exact ⟨u.erase t, v, List.erase_append_left _ htu, fun hm => hb (List.mem_of_mem_erase hm)⟩
    · refine ⟨u, v.erase t, ?_, hb⟩
      rw [QueueEvent.apply, List.erase_append_right _ htu,
        List.erase_cons_tail (by simpa using hta.symm)]
  | dispatch p' t => exact ⟨u, v, rfl, hb⟩

private theorem Precedes.replay (h : Precedes a b (replay p log))
    (hl : .leave a ∉ m) : Precedes a b (QueueEvent.replay p (log ++ m)) := by
  induction m generalizing log with
  | nil => simpa using h
  | cons e m ih =>
    rw [List.mem_cons, not_or] at hl
    rw [← List.singleton_append, ← List.append_assoc]
    refine ih ?_ hl.2
    rw [replay_append_singleton]
    exact h.apply fun he => hl.1 he.symm

/-- **First in, first out.** If `b` entered the list of `p` after `a` did and is dispatched
from it later, then `a` left the list in the meantime. -/
theorem Orderly.fifo {l₁ l₂ l₃ l₄ : List (QueueEvent K T)}
    (h : Orderly (l₁ ++ .enter p a :: l₂ ++ .enter p b :: l₃ ++ .dispatch p b :: l₄))
    (hab : a ≠ b) : .leave a ∈ l₂ ++ l₃ := by
  by_contra hl
  rw [List.mem_append, not_or] at hl
  -- `a` is still in the list when `b` enters, since it did not leave
  have hstart : Precedes a a (replay p (l₁ ++ [.enter p a])) := by
    have ha : a ∉ replay p l₁ :=
      h l₁ (.enter p a) (l₂ ++ .enter p b :: l₃ ++ .dispatch p b :: l₄) (by simp)
    exact ⟨replay p l₁, [], by simp [apply], ha⟩
  obtain ⟨u, v, huv, -⟩ := hstart.replay hl.1
  have hb : b ∉ replay p (l₁ ++ [.enter p a] ++ l₂) :=
    h _ (.enter p b) (l₃ ++ .dispatch p b :: l₄) (by simp)
  have hprec : Precedes a b (replay p (l₁ ++ [.enter p a] ++ l₂)) :=
    ⟨u, v, huv, fun hm => hb (huv ▸ List.mem_append_left _ hm)⟩
  -- it stays in front of `b` until `b` is dispatched, but the dispatched element is first
  obtain ⟨u', v', huv', hb'⟩ := hprec.replay (m := .enter p b :: l₃) (by simpa using hl.2)
  have hhead : (replay p (l₁ ++ [.enter p a] ++ l₂ ++ .enter p b :: l₃)).head? = some b :=
    h _ (.dispatch p b) l₄ (by simp)
  rw [huv'] at hhead
  cases u' with
  | nil => exact hab (by simpa using hhead)
  | cons x u' =>
    obtain rfl : x = b := by simpa using hhead
    exact hb' List.mem_cons_self

end QueueEvent

end RobotVacuum
