import Mathlib.Logic.Basic

/-!
# Two runs of one machine

A `Transducer` answers every input with an output, or refuses it. Two states that are related by a
bisimulation have the same trace for every sequence of inputs (`Bisimulation.trace_eq`), so what
the relation leaves open has no effect that can be observed.
-/

namespace RobotVacuum

/-- A machine that answers inputs with outputs. -/
structure Transducer (σ ι o : Type*) where
  /-- The output and the next state, or `none` where the input is refused. -/
  step : σ → ι → Option (o × σ)

namespace Transducer

variable {σ ι o : Type*} (M : Transducer σ ι o)

/-- The outputs for a sequence of inputs, up to the first one that is refused. -/
def trace (s : σ) : List ι → List o
  | [] => []
  | i :: is =>
    match M.step s i with
    | none => []
    | some r => r.1 :: trace r.2 is

theorem trace_cons_some {s s' : σ} {i : ι} {is : List ι} {x : o}
    (h : M.step s i = some (x, s')) : M.trace s (i :: is) = x :: M.trace s' is := by
  rw [trace, h]

/-- Related states answer alike, and are related afterwards. -/
def Bisimulation (R : σ → σ → Prop) : Prop :=
  ∀ s t i, R s t → M.step s i = none ∧ M.step t i = none ∨
    ∃ x s' t', M.step s i = some (x, s') ∧ M.step t i = some (x, t') ∧ R s' t'

/-- **Related states have the same traces.** -/
theorem Bisimulation.trace_eq {M : Transducer σ ι o} {R : σ → σ → Prop} (h : M.Bisimulation R)
    {s t : σ} (hst : R s t) (is : List ι) : M.trace s is = M.trace t is := by
  induction is generalizing s t with
  | nil => rfl
  | cons i is ih =>
    rcases h s t i hst with ⟨hs, ht⟩ | ⟨x, s', t', hs, ht, hst'⟩
    · rw [trace, trace, hs, ht]
    · rw [M.trace_cons_some hs, M.trace_cons_some ht, ih hst']

end Transducer

end RobotVacuum
