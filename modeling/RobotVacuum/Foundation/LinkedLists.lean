import Mathlib.Data.List.Nodup
import Mathlib.Logic.Function.Basic

/-!
# Families of intrusive lists

Nodes of type `T` carry one link each, so a node can be queued in one list at a time; the
lists are told apart by their heads, of type `H`. A `ListFamily` gives the contents of every
list, front first. The two operations are the ones an intrusive list offers: `remove`
unlinks a node from wherever it is linked, with no list named, and `append` links a node at
the end of a list.

`Proper` says that the family is the contents of real intrusive lists: no node occurs twice,
in one list or in two. `append` keeps it for nodes that are not linked, `remove` always, and
membership after either operation has a one-line characterization under it.
-/

namespace RobotVacuum

variable {H T : Type}

/-- The contents of a family of lists, front first, indexed by list heads. -/
abbrev ListFamily (H T : Type) := H → List T

namespace ListFamily

variable {q : ListFamily H T} {h h' : H} {t x : T}

/-- The node is linked in some list. -/
def Linked (q : ListFamily H T) (x : T) : Prop := ∃ h, x ∈ q h

/-- Every node is linked in at most one list, and there at most once. -/
structure Proper (q : ListFamily H T) : Prop where
  nodup : ∀ h, (q h).Nodup
  unique : ∀ {h h' t}, t ∈ q h → t ∈ q h' → h = h'

/-! ### Unlinking -/

section Remove

variable [DecidableEq T]

/-- Unlink a node from the list that holds it. -/
def remove (q : ListFamily H T) (x : T) : ListFamily H T := fun h => (q h).erase x

@[simp] theorem remove_apply : q.remove x h = (q h).erase x := rfl

/-- Membership after `remove`, in a proper family. -/
theorem Proper.mem_remove (hq : q.Proper) : t ∈ q.remove x h ↔ t ≠ x ∧ t ∈ q h :=
  (hq.nodup h).mem_erase_iff

/-- `remove` unlinks the node. -/
theorem Proper.not_mem_remove (hq : q.Proper) : x ∉ q.remove x h := fun hx =>
  (hq.mem_remove.mp hx).1 rfl

theorem Proper.not_linked_remove (hq : q.Proper) : ¬ (q.remove x).Linked x := fun ⟨_, hm⟩ =>
  hq.not_mem_remove hm

/-- `remove` does nothing to lists that do not hold the node. -/
theorem remove_of_not_mem (hx : x ∉ q h) : q.remove x h = q h := List.erase_of_not_mem hx

/-- Removal keeps a family proper. -/
theorem Proper.remove (hq : q.Proper) (x : T) : (q.remove x).Proper where
  nodup h := (hq.nodup h).erase x
  unique hm hm' := hq.unique (hq.mem_remove.mp hm).2 (hq.mem_remove.mp hm').2

end Remove

/-! ### Linking -/

section Link

variable [DecidableEq H] {l : List T} {p : T → Bool}

/-- Membership when one list was exchanged for itself with one node added anywhere. -/
theorem mem_update (hl : l.Perm (x :: q h)) :
    t ∈ Function.update q h l h' ↔ t ∈ q h' ∨ h' = h ∧ t = x := by
  by_cases hh : h' = h
  · subst hh
    simp only [Function.update_self, hl.mem_iff, List.mem_cons, true_and]
    exact or_comm
  · simp [hh]

/-- Adding a node that is not linked, anywhere in one list, keeps a family proper. -/
theorem Proper.update (hq : q.Proper) (hx : ¬ q.Linked x) (hl : l.Perm (x :: q h)) :
    Proper (Function.update q h l) where
  nodup h' := by
    by_cases hh : h' = h
    · subst hh
      rw [Function.update_self]
      exact hl.nodup_iff.mpr (List.nodup_cons.mpr ⟨fun hm => hx ⟨h', hm⟩, hq.nodup h'⟩)
    · rw [Function.update_of_ne hh]
      exact hq.nodup h'
  unique := by
    intro h₁ h₂ t hm₁ hm₂
    rcases (mem_update hl).mp hm₁ with hm₁ | ⟨rfl, rfl⟩ <;>
      rcases (mem_update hl).mp hm₂ with hm₂ | ⟨h2, hx2⟩
    · exact hq.unique hm₁ hm₂
    · exact absurd ⟨h₁, hx2 ▸ hm₁⟩ hx
    · exact absurd ⟨h₂, hm₂⟩ hx
    · exact h2.symm

/-- Link a node at the end of a list. -/
def append (q : ListFamily H T) (h : H) (x : T) : ListFamily H T :=
  Function.update q h (q h ++ [x])

@[simp] theorem append_same : q.append h x h = q h ++ [x] := by simp [append]

@[simp] theorem append_of_ne (hne : h' ≠ h) : q.append h x h' = q h' := by
  simp [append, hne]

/-- Membership after `append`. -/
theorem mem_append : t ∈ q.append h x h' ↔ t ∈ q h' ∨ h' = h ∧ t = x :=
  mem_update (List.perm_append_singleton x (q h))

/-- Appending a node that is not linked keeps a family proper. -/
theorem Proper.append (hq : q.Proper) (hx : ¬ q.Linked x) : (q.append h x).Proper :=
  hq.update hx (List.perm_append_singleton x (q h))

/-- Link a node in front of the first node satisfying `p`, at the end if there is none. -/
def insertBefore (q : ListFamily H T) (h : H) (p : T → Bool) (x : T) : ListFamily H T :=
  Function.update q h ((q h).takeWhile (!p ·) ++ x :: (q h).dropWhile (!p ·))

omit [DecidableEq H] in
private theorem insertBefore_perm :
    ((q h).takeWhile (!p ·) ++ x :: (q h).dropWhile (!p ·)).Perm (x :: q h) := by
  refine List.perm_middle.trans ?_
  rw [List.takeWhile_append_dropWhile]

@[simp] theorem insertBefore_of_ne (hne : h' ≠ h) : q.insertBefore h p x h' = q h' := by
  simp [insertBefore, hne]

/-- Membership after `insertBefore`. -/
theorem mem_insertBefore : t ∈ q.insertBefore h p x h' ↔ t ∈ q h' ∨ h' = h ∧ t = x :=
  mem_update insertBefore_perm

/-- Inserting a node that is not linked keeps a family proper. -/
theorem Proper.insertBefore (hq : q.Proper) (hx : ¬ q.Linked x) :
    (q.insertBefore h p x).Proper :=
  hq.update hx insertBefore_perm

end Link

end ListFamily

end RobotVacuum
