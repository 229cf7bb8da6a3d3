import Mathlib.Data.Nat.Notation
import Mathlib.Data.Option.Basic
import Mathlib.Logic.Basic

/-!
# Labelled automata, constrained runs and their invariants

An `Automaton` has a set of initial states and a partial step function over labels; a step
function that answers `none` refuses the label in that state. Properties of whole runs are
stated over `Automaton.Reaches A ok`: the states reached by runs **whose every step meets**
the condition `ok`, a predicate on the state before the step and on its label. With `ok`
always true these are the reachable states, `Automaton.Reachable`.

* `Reaches.invariant` is the one induction over runs: what holds initially and is kept by
  every admitted step holds at the end of every admitted run.
* `Reaches.strengthen` carries an invariant already proved into the step condition, so that
  a later invariant may assume it on both sides of a step.
* `Reaches.map` transports runs along a simulation whose concrete step is matched by one
  abstract step or by none.
* `runList` executes a list of labels, and `Reachable.of_runList` turns a successful execution
  into a run, which is how concrete runs are exhibited; `runListWith` executes long ones.
* `counting` adds a counter of the steps that pass a test, as a history variable.
-/

namespace RobotVacuum

universe u v u' v'

/-- A labelled transition system with a partial, deterministic step function. -/
structure Automaton (σ : Type u) (ι : Type v) where
  /-- The initial states. -/
  init : σ → Prop
  /-- The state after a label, or `none` where the label is refused. -/
  step : σ → ι → Option σ

namespace Automaton

variable {σ : Type u} {ι : Type v} {A : Automaton σ ι} {ok ok' : σ → ι → Prop}

/-- The states at the end of runs whose every step meets `ok`. -/
inductive Reaches (A : Automaton σ ι) (ok : σ → ι → Prop) : σ → Prop
  | init {s : σ} : A.init s → Reaches A ok s
  | step {s s' : σ} {i : ι} : Reaches A ok s → ok s i → A.step s i = some s' → Reaches A ok s'

/-- The states at the end of arbitrary runs. -/
def Reachable (A : Automaton σ ι) : σ → Prop :=
  A.Reaches fun _ _ => True

/-- **Induction over runs.** An invariant of the initial states that every admitted step
keeps holds at the end of every admitted run. -/
theorem Reaches.invariant {I : σ → Prop} (hinit : ∀ s, A.init s → I s)
    (hstep : ∀ s i s', I s → ok s i → A.step s i = some s' → I s') {s : σ}
    (h : A.Reaches ok s) : I s := by
  induction h with
  | init h0 => exact hinit _ h0
  | step _ hok hs ih => exact hstep _ _ _ ih hok hs

/-- Runs under a stronger condition are runs under a weaker one. -/
theorem Reaches.mono (hle : ∀ s i, ok s i → ok' s i) {s : σ} (h : A.Reaches ok s) :
    A.Reaches ok' s := by
  induction h with
  | init h0 => exact .init h0
  | step _ hok hs ih => exact .step ih (hle _ _ hok) hs

/-- Admitted runs are runs. -/
theorem Reaches.reachable {s : σ} (h : A.Reaches ok s) : A.Reachable s :=
  h.mono fun _ _ _ => trivial

/-- An invariant of the admitted runs may be assumed at the source of every step. -/
theorem Reaches.strengthen {I : σ → Prop} (hI : ∀ s, A.Reaches ok s → I s) {s : σ}
    (h : A.Reaches ok s) : A.Reaches (fun s i => ok s i ∧ I s) s := by
  induction h with
  | init h0 => exact .init h0
  | step hr hok hs ih => exact .step ih ⟨hok, hI _ hr⟩ hs

/-- **Relative induction.** As `Reaches.invariant`, with an invariant proved earlier assumed
on both sides of the step. -/
theorem Reaches.invariant_of {J I : σ → Prop} (hJ : ∀ s, A.Reaches ok s → J s)
    (hinit : ∀ s, A.init s → I s)
    (hstep : ∀ s i s', J s → J s' → I s → ok s i → A.step s i = some s' → I s') {s : σ}
    (h : A.Reaches ok s) : I s := by
  induction h with
  | init h0 => exact hinit _ h0
  | step hr hok hs ih => exact hstep _ _ _ (hJ _ hr) (hJ _ (.step hr hok hs)) ih hok hs

/-- **Simulation.** If `f` maps initial states to initial states and every admitted step to
an admitted step or to no step, then it maps admitted runs to admitted runs. -/
theorem Reaches.map {τ : Type u'} {κ : Type v'} {B : Automaton τ κ} {okB : τ → κ → Prop}
    {f : σ → τ} (hinit : ∀ s, A.init s → B.init (f s))
    (hstep : ∀ s i s', ok s i → A.step s i = some s' →
      f s' = f s ∨ ∃ k, okB (f s) k ∧ B.step (f s) k = some (f s')) {s : σ}
    (h : A.Reaches ok s) : B.Reaches okB (f s) := by
  induction h with
  | init h0 => exact .init (hinit _ h0)
  | step _ hok hs ih =>
    rcases hstep _ _ _ hok hs with heq | ⟨k, hk, hb⟩
    · rw [heq]
      exact ih
    · exact .step ih hk hb

/-- Execute a list of labels from left to right. -/
def runList (A : Automaton σ ι) : σ → List ι → Option σ
  | s, [] => some s
  | s, i :: is => (A.step s i).bind fun s' => A.runList s' is

@[simp] theorem runList_nil (s : σ) : A.runList s [] = some s := rfl

/-- A successful execution from a reachable state ends in a reachable state. -/
theorem Reachable.of_runList {s s' : σ} {is : List ι} (h : A.Reachable s)
    (hr : A.runList s is = some s') : A.Reachable s' := by
  induction is generalizing s with
  | nil =>
    obtain rfl : s = s' := by simpa using hr
    exact h
  | cons i is ih =>
    rw [runList, Option.bind_eq_some_iff] at hr
    obtain ⟨t, ht, hrest⟩ := hr
    exact ih (.step h trivial ht) hrest

/-- If executing a list of labels succeeds and the final state passes a test, then some
reachable state passes it. -/
theorem Reachable.exists_of_runList {s : σ} (h : A.Reachable s) (is : List ι) (p : σ → Bool)
    (hr : (A.runList s is).any p = true) : ∃ s', A.Reachable s' ∧ p s' = true := by
  rw [Option.any_eq_true] at hr
  obtain ⟨s', hs', hp⟩ := hr
  exact ⟨s', .of_runList h hs', hp⟩

/-- Execute a list of labels, handing every state on through `force`. With a `force` that computes
part of the state before it goes on, evaluating the execution takes time linear in its length. -/
def runListWith (A : Automaton σ ι) (force : σ → (σ → Option σ) → Option σ) : σ → List ι → Option σ
  | s, [] => some s
  | s, i :: is => (A.step s i).bind fun s' => force s' fun s' => A.runListWith force s' is

/-- Computing part of the state changes no execution. -/
theorem runListWith_eq {force : σ → (σ → Option σ) → Option σ} (hf : ∀ s k, force s k = k s)
    (s : σ) (is : List ι) : A.runListWith force s is = A.runList s is := by
  induction is generalizing s with
  | nil => rfl
  | cons i is ih =>
    rw [runListWith, runList]
    congr 1
    funext s'
    rw [hf, ih]

/-- The automaton that refuses the labels failing a test. -/
def restrict (A : Automaton σ ι) (b : σ → ι → Bool) : Automaton σ ι where
  init := A.init
  step s i := if b s i then A.step s i else none

/-- Runs of the restricted automaton are runs whose every step passes the test. -/
theorem Reachable.of_restrict {b : σ → ι → Bool} (hb : ∀ s i, b s i = true → ok s i) {s : σ}
    (h : (A.restrict b).Reachable s) : A.Reaches ok s := by
  induction h with
  | init h0 => exact .init h0
  | step _ _ hs ih =>
    simp only [restrict] at hs
    split at hs
    · next hpass => exact .step ih (hb _ _ hpass) hs
    · cases hs

/-- The automaton with a counter of the steps that pass a test. -/
def counting (A : Automaton σ ι) (c : σ → σ → Bool) : Automaton (σ × ℕ) ι where
  init x := A.init x.1 ∧ x.2 = 0
  step x i := (A.step x.1 i).map fun s' => (s', if c x.1 s' then x.2 + 1 else x.2)

/-- Every run can be counted. -/
theorem Reaches.counting (c : σ → σ → Bool) {s : σ} (h : A.Reaches ok s) :
    ∃ n, (A.counting c).Reaches (fun x i => ok x.1 i) (s, n) := by
  induction h with
  | init h0 => exact ⟨0, .init ⟨h0, rfl⟩⟩
  | @step s s' i _ hok hs ih =>
    obtain ⟨n, hn⟩ := ih
    refine ⟨if c s s' then n + 1 else n, .step hn hok ?_⟩
    simp [Automaton.counting, hs]

end Automaton

end RobotVacuum
