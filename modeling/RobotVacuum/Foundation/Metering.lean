import Mathlib.Algebra.BigOperators.Group.Finset.Basic

/-!
# Metered machines

A machine in which one thread runs at a time and every thread has a meter that counts down. A
label ticks the meter of the running thread, sets one meter, or leaves the meters alone. Between
two settings a meter is what it was set to less the ticks charged to it (`meter_run`), and every
tick is charged to one thread (`sum_charges`), whatever the labels do to the choice of the running
thread.
-/

namespace RobotVacuum

/-- What a label does to the meters. -/
inductive MeterEffect (T : Type*)
  | quiet
  | tick
  | set (t : T) (d : ℕ)
  deriving DecidableEq

/-- A machine with a running thread and a meter for each thread. -/
structure Metered (σ ι T : Type*) [DecidableEq T] where
  step : σ → ι → σ
  running : σ → T
  meter : σ → T → ℕ
  effect : ι → MeterEffect T
  quiet {s : σ} {i : ι} : effect i = .quiet → meter (step s i) = meter s
  tick {s : σ} {i : ι} : effect i = .tick →
    meter (step s i) = Function.update (meter s) (running s) (meter s (running s) - 1)
  set {s : σ} {i : ι} {t : T} {d : ℕ} : effect i = .set t d →
    meter (step s i) = Function.update (meter s) t d

namespace Metered

variable {σ ι T : Type*} [DecidableEq T] (M : Metered σ ι T) {s : σ} {i : ι} {is : List ι} {t : T}

/-- Take one label after the other. -/
def run (s : σ) (is : List ι) : σ := is.foldl M.step s

/-- The threads the ticks are charged to, one for each tick. -/
def charges (s : σ) : List ι → List T
  | [] => []
  | i :: is =>
    let rest := charges (M.step s i) is
    if M.effect i = .tick then M.running s :: rest else rest

/-- The number of ticks charged to a thread. -/
def charged (s : σ) (is : List ι) (t : T) : ℕ := (M.charges s is).count t

/-- The number of ticks. -/
def elapsed (is : List ι) : ℕ := is.countP fun i => M.effect i = .tick

theorem charges_length : (M.charges s is).length = M.elapsed is := by
  induction is generalizing s with
  | nil => rfl
  | cons i is ih =>
    by_cases htick : M.effect i = .tick
    · simpa [charges, elapsed, htick] using ih
    · simpa [charges, elapsed, htick] using ih

/-- **A meter counts its own ticks**: it is what it was less the ticks charged to its thread, until
it is set again. -/
theorem meter_run (hset : ∀ i ∈ is, ∀ d, M.effect i ≠ .set t d) :
    M.meter (M.run s is) t = M.meter s t - M.charged s is t := by
  induction is generalizing s with
  | nil => rfl
  | cons i is ih =>
    have hrest : M.meter (M.run s (i :: is)) t =
        M.meter (M.step s i) t - M.charged (M.step s i) is t :=
      ih fun j hj => hset j (List.mem_cons_of_mem i hj)
    cases heffect : M.effect i with
    | quiet => simpa [charged, charges, heffect, M.quiet heffect] using hrest
    | tick =>
      rw [hrest, M.tick heffect, charged, charged, charges, if_pos heffect, List.count_cons]
      by_cases hrun : M.running s = t
      · subst hrun
        simp only [Function.update_self, beq_self_eq_true, if_true]
        omega
      · simp [hrun, Function.update_of_ne (Ne.symm hrun)]
    | set x d =>
      have hx : t ≠ x := fun h => hset i (by simp) d (h ▸ heffect)
      simpa [charged, charges, heffect, M.set heffect, Function.update_of_ne hx] using hrest

/-- **Every tick is charged once.** -/
theorem sum_charges {threads : Finset T} (h : ∀ t ∈ M.charges s is, t ∈ threads) :
    ∑ t ∈ threads, M.charged s is t = M.elapsed is := by
  calc ∑ t ∈ threads, M.charged s is t
      = ∑ t ∈ threads, (M.charges s is : Multiset T).count t :=
        Finset.sum_congr rfl fun t _ => (Multiset.coe_count t (M.charges s is)).symm
    _ = (M.charges s is : Multiset T).card := Multiset.sum_count_eq_card h
    _ = M.elapsed is := M.charges_length

end Metered

end RobotVacuum
