import RobotVacuum.Application.State
import RobotVacuum.Ipc.Activation

/-!
# The activations of the tasks

`event_tasks_activation`, on which Task1, Task2, Task3 and Task5 wait for the flags that the
timeout functions of their timers send.
-/

namespace RobotVacuum

/-- The task a timer activates. -/
def TimerId.task : TimerId → Task
  | .obstacleControlActivation => .obstacleControl
  | .movementControlActivation => .movementControl
  | .checkResourcesActivation => .checkResources
  | .brushesSpeedActivation => .brushesSpeed

/-- The numbers of the flags `EVENT_*_ACTIVATION`. -/
def eventTasksActivation : ActivationEvent Task Unit where
  tasks t := t = .obstacleControl ∨ t = .movementControl ∨ t = .checkResources ∨
    t = .brushesSpeed
  bit
    | .obstacleControl => 1
    | .movementControl => 2
    | .checkResources => 3
    | .brushesSpeed => 5
    | _ => 0
  waitList := ()
  injective t u := by cases t <;> cases u <;> decide

namespace Activations

/-- **Activations are isolated from one another**: each timer sends the flag of its task, and
that task alone is concerned. -/
theorem eventTasksActivation_isolated {s : Activations Task Unit}
    (h : (runs eventTasksActivation).Reachable s) (d : TimerId) :
    eventTasksActivation.flag d.task = d.flag ∧ Isolated eventTasksActivation s d.task := by
  have htask : eventTasksActivation.tasks d.task = true := by cases d <;> rfl
  refine ⟨?_, isolated_of_reachable h htask⟩
  cases d <;> rfl

/-- The four tasks were started, and the most urgent one, Task1, runs. -/
def started : Activations Task Unit where
  kernel := [Task.obstacleControl, .movementControl, .checkResources, .brushesSpeed].foldl
    Kernel.rtThreadStartup (Kernel.boot .idle Task.priority 5)
  flags := 0
  pc _ := .recv
  releases _ := 0
  merged _ := 0
  bodies _ := 0

theorem started_reachable : (runs eventTasksActivation).Reachable started := by
  have hboot : Kernel.ReadyQueueInv (Kernel.boot .idle Task.priority 5 : Kernel Task Unit) :=
    (Kernel.booted_boot fun t => by cases t <;> decide).readyQueueInv
  refine .init ⟨⟨?_, fun t _ => ⟨?_, ?_⟩, fun t ht => ?_, fun t _ hpc => ?_, fun t _ => ?_⟩,
    fun _ => ⟨rfl, rfl⟩⟩
  · simp only [started, List.foldl_cons, List.foldl_nil]
    exact hboot.rtThreadStartup.rtThreadStartup.rtThreadStartup.rtThreadStartup
  · cases t <;> decide
  · cases t <;> decide
  · have hnil : started.waiters eventTasksActivation = [] := rfl
    rw [hnil] at ht
    cases ht
  · cases hpc
  · unfold Balanced
    cases t <;> decide

/-- Task1, Task2 and Task3 have joined the list, and the flag of Task2 was sent. -/
def woken : List (ActivationOp Task) :=
  [.recv, .schedule, .recv, .schedule, .recv, .schedule, .timeout .movementControl]

/-- Task2 was woken out of the middle of the list. -/
theorem eventTasksActivation_isolated_of_run : ∃ s : Activations Task Unit,
    s.waiters eventTasksActivation = [.obstacleControl, .checkResources] ∧
    Isolated eventTasksActivation s .movementControl := by
  obtain ⟨s, hs, hp⟩ := started_reachable.exists_of_runList woken
    (fun s => s.waiters eventTasksActivation = [.obstacleControl, .checkResources])
    (by decide +kernel)
  exact ⟨s, by simpa using hp,
    (eventTasksActivation_isolated hs .movementControlActivation).2⟩

/-- The body that belongs to the release has not begun yet. -/
theorem bodies_ne_releases : ¬∀ s : Activations Task Unit,
    (runs eventTasksActivation).Reachable s → ∀ d : TimerId,
      s.bodies d.task = s.releases d.task - s.merged d.task := by
  intro h
  obtain ⟨s, hs, hp⟩ := started_reachable.exists_of_runList woken
    (fun s => s.releases .movementControl = 1 ∧ s.merged .movementControl = 0 ∧
      s.bodies .movementControl = 0)
    (by decide +kernel)
  have hbodies := h s hs .movementControlActivation
  simp only [decide_eq_true_eq, TimerId.task] at hp hbodies
  omega

end Activations

end RobotVacuum
