import RobotVacuum.Foundation.FixedPriority
import RobotVacuum.Application.State

/-!
# Deadlines

The tasks as a preemptive fixed-priority schedule, tick by tick and without kernel overhead:
every job takes exactly the minimum duration of its task. The timers of Task1, Task2 and Task3
are started on tick 0 and that of Task5 15 ticks later; a job of Task4 may be released at any
tick, in particular once by each job of Task3.

Task1 and Task2 are released on the same tick and together take 11 ticks, so every job of Task2
is one tick late (`deadlines_missed`). All other jobs are in time.
-/

namespace RobotVacuum

open FixedPriority

/-- The tasks with a duration, in the order of their priorities. -/
def byPriority : List Task :=
  [.obstacleControl, .movementControl, .checkResources, .brushesSpeed, .acousticSignals]

example : byPriority.Pairwise fun x y => x.priority < y.priority := by decide

/-- `TICK_DELAY_T1` to `TICK_DELAY_T5`. -/
def Task.duration : Task → ℕ
  | .obstacleControl => 5
  | .movementControl => 6
  | .checkResources => 6
  | .acousticSignals => 2
  | .brushesSpeed => 7
  | _ => 0

/-- `PERIOD_TASK1` to `PERIOD_TASK5`; Task4 is aperiodic. -/
def Task.period : Task → Option ℕ
  | .obstacleControl => some 50
  | .movementControl => some 50
  | .checkResources => some 25
  | .brushesSpeed => some 25
  | _ => none

/-- When the timer of a task is started, in ticks. -/
def Task.timerStart : Task → ℕ
  | .brushesSpeed => 15
  | _ => 0

/-- The deadlines, in ticks after the release; Task4 has none. -/
def Task.deadline : Task → Option ℕ
  | .obstacleControl => some 10
  | .movementControl => some 10
  | .checkResources => some 20
  | .brushesSpeed => some 20
  | _ => none

/-- Whether a job of the task is released at a tick: the timers fire at multiples of the period
after their start. `alarm` are the ticks at which Task3 releases a job of Task4. -/
def Task.releasedAt (alarm : ℕ → Bool) (t : Task) (n : ℕ) : Bool :=
  match t.period with
  | some p => t.timerStart < n && (n - t.timerStart) % p == 0
  | none => alarm n

/-- The releases at a tick. -/
def releases (alarm : ℕ → Bool) (n : ℕ) : List (Option ℕ) :=
  byPriority.map fun t => if t.releasedAt alarm n then some t.duration else none

/-- The unfinished jobs of a task at a tick. -/
def unfinished (alarm : ℕ → Bool) (n : ℕ) (t : Task) : List Job :=
  (schedule (releases alarm) byPriority.length n).getD (byPriority.idxOf t) []

/-- A job is late if it is unfinished at the tick at which it should have ended, and so stays
unfinished beyond its deadline. -/
def Late (alarm : ℕ → Bool) (n : ℕ) (t : Task) : Prop :=
  ∃ j ∈ unfinished alarm n t, ∃ d, t.deadline = some d ∧ d ≤ j.age

/-- At no tick of the run is a job late. -/
def DeadlinesHold (alarm : ℕ → Bool) : Prop := ∀ n t, ¬Late alarm n t

/-! ### The periodic tasks -/

variable {alarm : ℕ → Bool} {n : ℕ} {t : Task}

/-- The queues of the periodic tasks. -/
def periodicQueues (n : ℕ) : List (List Job) :=
  schedule (fun i => (releases (fun _ => false) i).take 4) 4 n

/-- The periodic tasks do not notice Task4, which has the lowest priority. -/
theorem take_schedule (alarm : ℕ → Bool) :
    (schedule (releases alarm) byPriority.length n).take 4 = periodicQueues n :=
  schedule_take

theorem unfinished_eq (ht : byPriority.idxOf t < 4) :
    unfinished alarm n t = (periodicQueues n).getD (byPriority.idxOf t) [] := by
  rw [unfinished, ← take_schedule alarm, List.getD_eq_getElem?_getD,
    List.getD_eq_getElem?_getD, List.getElem?_take_of_lt ht]

/-- From tick 50 on, the releases repeat every 50 ticks. -/
theorem releases_add_period (hn : 50 < n) :
    (releases alarm (n + 50)).take 4 = (releases alarm n).take 4 := by
  have hperiod : ∀ t ∈ byPriority.take 4, t.releasedAt alarm (n + 50) = t.releasedAt alarm n := by
    have h50 : (n + 50) % 50 = n % 50 := by omega
    have h25 : (n + 50) % 25 = n % 25 := by omega
    have h15 : (n + 35) % 25 = (n - 15) % 25 := by omega
    have hpos : 0 < n := by omega
    have hlt : 15 < n := by omega
    have hlt' : 15 < n + 50 := by omega
    simp [byPriority, Task.releasedAt, Task.period, Task.timerStart, h50, h25, h15, hpos, hlt,
      hlt']
  rw [releases, releases, ← List.map_take, ← List.map_take]
  exact List.map_congr_left fun t ht => by rw [hperiod t ht]

/-- The hyperperiod: from tick 50 on, the queues repeat every 50 ticks. -/
theorem periodicQueues_mod (hn : 50 ≤ n) : periodicQueues n = periodicQueues (50 + n % 50) := by
  obtain ⟨i, rfl⟩ := Nat.exists_eq_add_of_le hn
  have hmod : (50 + i) % 50 = i % 50 := by omega
  rw [hmod]
  exact schedule_mod (fun _ => releases_add_period) (by decide +kernel)

/-- The only jobs that are late in the first hundred ticks. -/
theorem late_first : ∀ n < 100, ∀ t ∈ byPriority.take 4,
    (∃ j ∈ (periodicQueues n).getD (byPriority.idxOf t) [], ∃ d ∈ t.deadline, d ≤ j.age) ↔
      t = .movementControl ∧ 50 ≤ n ∧ n % 50 = 10 := by
  decide +kernel

/-- **Task2 misses its deadline** in every period, by one tick, and no other job is ever late. -/
theorem deadlines_missed (alarm : ℕ → Bool) : ¬DeadlinesHold alarm ∧
    ∀ n t, Late alarm n t ↔ t = .movementControl ∧ 50 ≤ n ∧ n % 50 = 10 := by
  have hlate : ∀ n t, Late alarm n t ↔ t = .movementControl ∧ 50 ≤ n ∧ n % 50 = 10 := by
    intro n t
    by_cases ht : t ∈ byPriority.take 4
    · have hidx : byPriority.idxOf t < 4 := by
        revert ht
        cases t <;> decide
      rw [Late, unfinished_eq hidx]
      rcases Nat.lt_or_ge n 50 with hlt | hge
      · exact late_first n (by omega) t ht
      · rw [periodicQueues_mod hge]
        have hfirst := late_first (50 + n % 50) (by omega) t ht
        rw [show (50 + n % 50) % 50 = n % 50 by omega] at hfirst
        refine hfirst.trans ?_
        constructor
        · exact fun h => ⟨h.1, hge, h.2.2⟩
        · exact fun h => ⟨h.1, by omega, h.2.2⟩
    · have hnone : t.deadline = none := by
        revert ht
        cases t <;> decide
      have hne : t ≠ .movementControl := fun heq => ht (heq ▸ by decide)
      constructor
      · rintro ⟨j, -, d, hd, -⟩
        rw [hnone] at hd
        cases hd
      · exact fun h => absurd h.1 hne
  exact ⟨fun h => h 60 .movementControl ((hlate 60 _).mpr ⟨rfl, by decide, by decide⟩), hlate⟩

/-- Without any job of Task4, 100 ms after its release the first job of Task2 still needs a
tick. -/
theorem deadlines_missed_at_60 : ¬DeadlinesHold (fun _ => false) := by
  intro h
  have hjob : unfinished (fun _ => false) 60 .movementControl = [⟨10, 1⟩] := by decide +kernel
  exact h 60 .movementControl ⟨⟨10, 1⟩, hjob ▸ List.mem_singleton_self _, 10, rfl, le_rfl⟩

end RobotVacuum
