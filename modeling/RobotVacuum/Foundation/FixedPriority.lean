import Mathlib.Data.List.Basic
import Mathlib.Data.List.TakeDrop

/-!
# Preemptive fixed-priority schedules

Each task has a queue of unfinished jobs, oldest first, and the queues are listed in the order of
priority. In every tick the oldest job of the first queue that is not empty gets the processor,
all jobs age by one, and new jobs are released.

* `schedule_take`: the tasks of higher priority are scheduled as if there were no others.
* `schedule_add_period`, `schedule_mod`: if the releases repeat and the schedule returns to a
  state one such period later, then it repeats for ever.
-/

namespace RobotVacuum

namespace FixedPriority

/-- An unfinished job: the ticks since its release, and the ticks it still needs. -/
structure Job where
  age : ℕ
  left : ℕ
  deriving DecidableEq, Repr

/-- One tick goes by. -/
def Job.grow (j : Job) : Job := { j with age := j.age + 1 }

/-- The oldest job of the first queue that is not empty gets the processor for a tick. -/
def serve : List (List Job) → List (List Job)
  | [] => []
  | [] :: qs => [] :: serve qs
  | (j :: js) :: qs => (if j.left ≤ 1 then js else { j with left := j.left - 1 } :: js) :: qs

/-- New jobs are released: for each queue the duration of the new job, if there is one. -/
def release : List (Option ℕ) → List (List Job) → List (List Job) :=
  List.zipWith fun o q => q ++ (o.map (Job.mk 0)).toList

/-- One tick, and the releases at its end. -/
def advance (r : List (Option ℕ)) (qs : List (List Job)) : List (List Job) :=
  release r ((serve qs).map (List.map Job.grow))

/-- The queues of `m` tasks at each tick, where `rel n` are the releases at tick `n`. -/
def schedule (rel : ℕ → List (Option ℕ)) (m : ℕ) : ℕ → List (List Job)
  | 0 => List.replicate m []
  | n + 1 => advance (rel (n + 1)) (schedule rel m n)

variable {rel : ℕ → List (Option ℕ)} {m k n P N : ℕ} {r : List (Option ℕ)} {qs : List (List Job)}

/-- The queues of higher priority do not depend on the others. -/
theorem serve_take : (serve qs).take k = serve (qs.take k) := by
  induction qs generalizing k with
  | nil => simp [serve]
  | cons q qs ih =>
    cases k with
    | zero => simp [serve]
    | succ k =>
      cases q with
      | nil => simp [serve, ih]
      | cons j js => simp [serve]

theorem advance_take : (advance r qs).take k = advance (r.take k) (qs.take k) := by
  rw [advance, release, List.take_zipWith, ← List.map_take, serve_take]
  rfl

/-- **Priorities.** The first `k` tasks are scheduled as if there were no others. -/
theorem schedule_take :
    (schedule rel m n).take k = schedule (fun i => (rel i).take k) (min k m) n := by
  induction n with
  | zero => simp [schedule]
  | succ n ih => rw [schedule, advance_take, ih, schedule]

/-- **Hyperperiod.** A schedule that returns to a state while the releases repeat goes on
repeating. -/
theorem schedule_add_period (hrel : ∀ n, N < n → rel (n + P) = rel n)
    (hret : schedule rel m (N + P) = schedule rel m N) (hn : N ≤ n) :
    schedule rel m (n + P) = schedule rel m n := by
  obtain ⟨i, rfl⟩ := Nat.exists_eq_add_of_le hn
  clear hn
  induction i with
  | zero => exact hret
  | succ i ih =>
    have hnext : N + (i + 1) + P = N + i + P + 1 := by omega
    rw [hnext, schedule, ih, ← hnext, hrel _ (by omega), ← Nat.add_assoc, schedule]

/-- So every later state is one of the first repetition. -/
theorem schedule_mod (hrel : ∀ n, N < n → rel (n + P) = rel n)
    (hret : schedule rel m (N + P) = schedule rel m N) :
    schedule rel m (N + n) = schedule rel m (N + n % P) := by
  induction n using Nat.strongRecOn with
  | ind n ih =>
    rcases Nat.lt_or_ge n P with hlt | hge
    · rw [Nat.mod_eq_of_lt hlt]
    · rcases Nat.eq_zero_or_pos P with rfl | hpos
      · rw [Nat.mod_zero]
      · have hsub : N + n = N + (n - P) + P := by omega
        rw [hsub, schedule_add_period hrel hret (Nat.le_add_right _ _), ih _ (by omega),
          Nat.mod_eq_sub_mod hge]

end FixedPriority

end RobotVacuum
