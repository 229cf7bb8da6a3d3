import RobotVacuum.Application.Runs

/-!
# What a step of the application does

`Moves` lists the ways the application goes on: the running thread executes a statement of its
own or of its handler, returns from its handler, or the machine takes a step on its own. Every
invariant of the application is proved by these cases, with a frame lemma for the statements
that do not touch the data it is about.

Concrete runs are long, so they are executed with the running thread computed at every step
(`App.force`).
-/

namespace RobotVacuum

/-- The task that records an entry, in its own code or in its handler. -/
def LogEntry.writer : LogEntry → Task
  | .begun t => t
  | .reported => .obstacleControl
  | .stop => .movementStop
  | .handled | .start | .arrived | .mailed .mb2_5 => .movementControl
  | .raised _ | .mailed .mb2_3 => .checkResources
  | .alarm _ => .acousticSignals
  | .power _ => .brushesSpeed

namespace App

variable {a : Addresses} {s s' : App} {i : Label} {t : Task}

/-- The next statement of the task is one of its own, not of its handler. -/
def Executes (s : App) (t : Task) : Prop :=
  s.machine.current = t ∧ ∀ b n, (s.ctx t).sig ≠ .running b n

/-- How the application goes on. -/
inductive Moves (a : Addresses) (s : App) : Label → App → Prop
  | own {input : Input} {m : RobotMachine} : s.Executes s.machine.current →
    s.machine.step (platform a) (.act (s.statement input s.machine.current).1) = some m →
    Moves a s (.run input) ((s.statement input s.machine.current).2.withMachine m)
  | handler {input : Input} {m : RobotMachine} {b : Bool} {n : Signo} {act : RobotAct} {s₁ : App} :
    (s.ctx s.machine.current).sig = .running b n →
    s.handlerStatement (s.handler s.machine.current n) = some (act, s₁) →
    s.machine.step (platform a) (.act act) = some m →
    Moves a s (.run input) (s₁.withMachine m)
  | returned {input : Input} {m : RobotMachine} {b : Bool} {n : Signo} :
    (s.ctx s.machine.current).sig = .running b n →
    s.handlerStatement (s.handler s.machine.current n) = none →
    s.machine.step (platform a) .hret = some m →
    Moves a s (.run input) ((s.resetHandler (s.handler s.machine.current n)).withMachine m)
  | kern {m : RobotMachine} : s.machine.step (platform a) .kern = some m →
    Moves a s .kern (s.withMachine m)
  | tick {due : List TimerId} {m : RobotMachine} :
    s.machine.step (platform a) (.tick due) = some m → Moves a s (.tick due) (s.withMachine m)

/-- Every step is one of these. -/
theorem moves_of_step (h : s.step a i = some s') : Moves a s i s' := by
  cases i with
  | run input =>
    simp only [step] at h
    split at h
    · cases h
    · unfold run at h
      dsimp only at h
      split at h
      · next b n hsig =>
        split at h
        · next act s₁ hh =>
          obtain ⟨m, hm, rfl⟩ := Option.map_eq_some_iff.mp h
          exact .handler hsig hh hm
        · next hh =>
          obtain ⟨m, hm, rfl⟩ := Option.map_eq_some_iff.mp h
          exact .returned hsig hh hm
      · next hsig =>
        obtain ⟨m, hm, rfl⟩ := Option.map_eq_some_iff.mp h
        exact .own ⟨rfl, hsig⟩ hm
  | kern =>
    simp only [step] at h
    split at h
    · cases h
    · obtain ⟨m, hm, rfl⟩ := Option.map_eq_some_iff.mp h
      exact .kern hm
  | tick due =>
    simp only [step] at h
    split at h
    · cases h
    · obtain ⟨m, hm, rfl⟩ := Option.map_eq_some_iff.mp h
      exact .tick hm

/-! ### What the statements of each task write

Each task writes its own position and the data it owns; the log only grows. -/

section Owns

variable {input : Input}

theorem accessMap_eq (p : ℤ × ℤ) : ∃ fault, s.accessMap p = { s with mapFault := fault } := by
  unfold accessMap
  split
  · exact ⟨_, rfl⟩
  · exact ⟨_, rfl⟩

theorem testMove_eq (d : Directions) : ∃ fault, s.testMove d = { s with mapFault := fault } := by
  unfold testMove
  split
  · exact accessMap_eq _
  · exact ⟨_, rfl⟩

theorem mainStatement_owns : ∃ pc time,
    s.mainStatement.2 = { s with mainPc := pc, startingTime := time } := by
  unfold mainStatement
  split <;> (try split) <;> exact ⟨_, _, rfl⟩

theorem systemStatement_owns : ∃ pc handler, s.systemStatement.2 = { s with
    systemPc := pc
    handler := handler
    batteryStatus := if s.systemPc = .decrement then s.batteryStatus - decValue else s.batteryStatus
    decrements := if s.systemPc = .decrement then s.decrements + 1 else s.decrements } ∧
      ∀ t n, handler t n = .obstacle → s.handler t n = .obstacle := by
  have hinstall : ∀ t n, (if t = .tsystem ∧ n = .sigusr2 then .turnOff else s.handler t n) =
      Handler.obstacle → s.handler t n = .obstacle := fun t n h => by
    split at h
    · cases h
    · exact h
  unfold systemStatement
  split <;> (try split) <;> simp_all only [reduceCtorEq, if_false] <;>
    first
    | exact ⟨_, _, rfl, hinstall⟩
    | exact ⟨_, _, rfl, fun _ _ => id⟩

theorem obstacleStatement_owns (s : App) (input : Input) : ∃ pc l,
    (s.obstacleStatement input).2 = { s with obstaclePc := pc, log := s.log ++ l } ∧
      ∀ e ∈ l, e.writer = .obstacleControl := by
  unfold obstacleStatement
  split <;> (try split) <;>
    first
    | exact ⟨_, _, rfl, by simp [LogEntry.writer]⟩
    | exact ⟨_, [], by rw [List.append_nil], by simp⟩

theorem stopStatement_owns : ∃ pc l,
    s.stopStatement.2 = { s with stopPc := pc, log := s.log ++ l } ∧
      ∀ e ∈ l, e.writer = .movementStop := by
  unfold stopStatement
  split <;> (try split) <;>
    first
    | exact ⟨_, _, rfl, by simp [LogEntry.writer]⟩
    | exact ⟨_, [], by rw [List.append_nil], by simp⟩

theorem resourcesStatement_owns : ∃ pc l,
    s.resourcesStatement.2 = { s with resourcesPc := pc, log := s.log ++ l } ∧
      ∀ e ∈ l, e.writer = .checkResources := by
  unfold resourcesStatement
  split <;> (try split) <;>
    first
    | exact ⟨_, _, rfl, by simp [LogEntry.writer]⟩
    | exact ⟨_, [], by rw [List.append_nil], by simp⟩

theorem acousticStatement_owns : ∃ pc l,
    s.acousticStatement.2 = { s with acousticPc := pc, log := s.log ++ l } ∧
      ∀ e ∈ l, e.writer = .acousticSignals := by
  unfold acousticStatement speak
  split <;> (try split) <;> (try split) <;>
    first
    | exact ⟨_, _, rfl, by simp [LogEntry.writer]⟩
    | exact ⟨_, [], by rw [List.append_nil], by simp⟩

theorem adjustBrushes_eq : ∃ power l,
    s.adjustBrushes = { s with brushesPower := power, log := s.log ++ l } ∧
      ∀ e ∈ l, e.writer = .brushesSpeed := by
  unfold adjustBrushes writePower record
  split_ifs <;>
    first
    | exact ⟨_, _, rfl, by simp [LogEntry.writer]⟩
    | exact ⟨_, [], by rw [List.append_nil], by simp⟩

theorem brushesStatement_owns (s : App) (input : Input) :
    ∃ pc speed power l, (s.brushesStatement input).2 = { s with
    brushesPc := pc, brushesSpeedV := speed, brushesPower := power, log := s.log ++ l } ∧
      ∀ e ∈ l, e.writer = .brushesSpeed := by
  obtain ⟨power, l, hadjust, hl⟩ := adjustBrushes_eq (s := s)
  unfold brushesStatement
  split <;> (try split) <;>
    first
    | exact ⟨_, _, _, _, rfl, by simp [LogEntry.writer]⟩
    | exact ⟨_, _, _, [], by rw [List.append_nil], by simp⟩
    | exact ⟨_, _, _, l, by rw [hadjust], hl⟩

/-- Task2 owns the robot, and marks the tile it stands on at most. -/
theorem movementStatement_owns : ∃ pc handler map position direction stuck garbage fault moved l,
    s.movementStatement.2 = { s with
      movementPc := pc, handler := handler, map := map, position := position
      direction := direction, stuck := stuck, garbageBagValue := garbage, mapFault := fault
      moved := moved, log := s.log ++ l } := by
  obtain ⟨fault, hf⟩ := accessMap_eq (s := s) s.position
  choose fault' hf' using fun d => testMove_eq (s := s) d
  have hnil : s.log ++ [] = s.log := List.append_nil _
  unfold movementStatement guardStatement findStatement setTile
  split <;> (try split) <;>
    first
    | exact ⟨_, _, _, _, _, _, _, _, _, _, rfl⟩
    | exact ⟨_, _, _, _, _, _, _, _, _, [], by rw [hnil]⟩
    | exact ⟨_, _, _, _, _, _, _, fault, _, [], by rw [hf, hnil]⟩
    | exact ⟨_, _, _, _, _, _, _, fault' _, _, [], by rw [hf', hnil]⟩

theorem obstacleHandlerStatement_owns {act : RobotAct}
    (h : s.obstacleHandlerStatement = some (act, s')) : ∃ pc map position fault moved l,
    act = .local ∧ s' = { s with
      handlerPc := pc, map := map, position := position, mapFault := fault, moved := moved
      log := s.log ++ l } := by
  obtain ⟨fault, hf⟩ := accessMap_eq (s := s) s.position
  unfold obstacleHandlerStatement setTile at h
  split at h
  · cases h
    exact ⟨_, _, _, fault, _, _, rfl, by rw [hf]; rfl⟩
  · cases h
    exact ⟨_, _, _, _, _, [], rfl, by rw [List.append_nil]⟩
  · cases h

theorem turnOffStatement_owns {act : RobotAct} (h : s.turnOffStatement = some (act, s')) :
    ∃ pc flag, s' = { s with turnOffPc := pc, turnOffFlag := flag } := by
  unfold turnOffStatement at h
  split at h <;> cases h <;> exact ⟨_, _, rfl⟩

end Owns

/-! ### Executing long runs -/

/-- The state with the given running thread written into it. -/
def withCurrent (s : App) (t : Task) : App :=
  { s with machine := { s.machine with
      kernel := { s.machine.kernel with currentThread := t } } }

/-- Compute which thread runs before going on. -/
def force (s : App) (k : App → Option App) : Option App :=
  match s.machine.kernel.currentThread with
  | .main => k (s.withCurrent .main)
  | .tsystem => k (s.withCurrent .tsystem)
  | .obstacleControl => k (s.withCurrent .obstacleControl)
  | .movementStop => k (s.withCurrent .movementStop)
  | .movementControl => k (s.withCurrent .movementControl)
  | .checkResources => k (s.withCurrent .checkResources)
  | .acousticSignals => k (s.withCurrent .acousticSignals)
  | .brushesSpeed => k (s.withCurrent .brushesSpeed)
  | .idle => k (s.withCurrent .idle)

theorem force_eq (s : App) (k : App → Option App) : s.force k = k s := by
  have hwrite : ∀ t, s.machine.kernel.currentThread = t → s.withCurrent t = s := by
    rintro t rfl
    rfl
  unfold force
  split <;> rw [hwrite _ ‹_›]

/-- A list of labels by digits: statements, steps inside the kernel and ticks. -/
def labels (l : List ℕ) : List Label := l.map fun
  | 0 => .run {}
  | 1 => .kern
  | _ => .tick []

/-- The main thread starts all tasks. Where it shares a time slice with the system task, ticks
pass until it is its turn again. -/
def startupLabels : List Label :=
  labels [0, 1, 0, 1, 0, 1, 1, 1, 0, 0, 0, 0, 2, 2, 2, 2, 2, 1, 0, 1, 0, 1, 1, 1, 2, 2, 2, 2, 2,
    1, 0, 1, 0, 0, 0, 0, 0, 0, 0, 1, 1, 1, 2, 2, 2, 2, 2, 1, 0, 1, 0, 1, 1, 1, 2, 2, 2, 2, 2, 1,
    0, 1, 0, 1, 1, 1, 2, 2, 2, 2, 2, 1, 0, 1, 0, 1, 1, 1, 2, 2, 2, 2, 2, 1, 0, 0, 0]

/-- If executing a list of labels from the start ends in a state that passes a test, then a
reachable state passes it. -/
theorem exists_reachable {b : Boot} (is : List Label) {p : App → Bool}
    (h : ((runs a).runListWith force (initial b) is).any p = true) :
    ∃ s, (runs a).Reachable s ∧ p s = true := by
  rw [Automaton.runListWith_eq force_eq] at h
  have hinit : (runs a).Reachable (initial b) := .init ⟨b, rfl⟩
  exact hinit.exists_of_runList is p h

end App

end RobotVacuum
