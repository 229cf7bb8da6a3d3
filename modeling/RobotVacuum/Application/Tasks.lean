import RobotVacuum.Application.State

/-!
# The programs of the tasks

Each task is a function from the state to its next statement: what the statement asks of the
machine, and the data and position after it. A statement that calls the kernel is followed by
a position that tests the result, where the source tests it. The busy-waiting loops go on until
the kernel has charged the task its minimum duration.

`input` stands for what comes from outside: the answer of the proximity sensor and the levels
of the pins.
-/

namespace RobotVacuum

/-- What a statement reads from outside. -/
structure Input where
  obstacle : Bool := false
  pin : ℤ := 0

namespace App

/-- The context of a task. -/
abbrev ctx (s : App) (t : Task) : Ctx Task EventId MutexId MailboxId String := s.machine.ctx t

/-- The result of the last call of a task is `RT_EOK`. -/
abbrev gotOk (s : App) (t : Task) : Prop := (s.ctx t).ret = .eok

/-- `get_tick_count(&task) != 0`. -/
abbrev isBusy (s : App) (t : Task) : Prop := (s.machine.kernel.thread t).tickCount ≠ 0

/-- `rt_tick_get_millisecond`. -/
def millisecond (s : App) : BitVec 32 := s.machine.kernel.tick * 10

/-- Record what the robot does. -/
def record (s : App) (e : LogEntry) : App := { s with log := s.log ++ [e] }

/-! ### The map -/

/-- The tile is on the map. -/
def inMap (p : ℤ × ℤ) : Prop := 0 ≤ p.1 ∧ p.1 < mapSide ∧ 0 ≤ p.2 ∧ p.2 < mapSide

instance (p : ℤ × ℤ) : Decidable (inMap p) := by
  unfold inMap
  infer_instance

/-- The value of a tile. -/
def tile (s : App) (p : ℤ × ℤ) : ℤ := s.map p.1 p.2

/-- Access an element of the map. -/
def accessMap (s : App) (p : ℤ × ℤ) : App :=
  if inMap p then s else { s with mapFault := true }

/-- Write a tile. -/
def setTile (s : App) (p : ℤ × ℤ) (v : ℤ) : App :=
  { s.accessMap p with map := Function.update s.map p.1 (Function.update (s.map p.1) p.2 v) }

/-- The test whether a move in a direction is possible. The tile is only read inside the
bound. -/
def canMove (s : App) (d : Directions) : Prop :=
  d.inBound mapSide s.position = true ∧ s.tile (d.next s.position) ≠ 1

instance (s : App) (d : Directions) : Decidable (s.canMove d) := by
  unfold canMove
  infer_instance

/-- What the test accesses. -/
def testMove (s : App) (d : Directions) : App :=
  if d.inBound mapSide s.position then s.accessMap (d.next s.position) else s

/-! ### The main thread and the system task -/

/-- The threads `main` starts, in order; the first one in `initSystem`. -/
def startupOrder : List Task :=
  [.tsystem, .obstacleControl, .movementStop, .movementControl, .checkResources,
    .acousticSignals, .brushesSpeed]

/-- `main`, from the first call of `rt_thread_startup`. -/
def mainStatement (s : App) : RobotAct × App :=
  match s.mainPc with
  | .startup (t :: rest) => (.startup t, { s with mainPc := .startup rest })
  | .startup [] => (.local, { s with mainPc := .startingTime })
  | .startingTime => (.local, { s with
      startingTime := s.millisecond
      mainPc := .timerStart [.obstacleControlActivation, .movementControlActivation,
        .checkResourcesActivation] })
  | .timerStart (d :: rest) => (.timerStart d, { s with mainPc := .timerStart rest })
  | .timerStart [] => (.local, { s with mainPc := .delay })
  | .delay =>
    if s.millisecond.ult (s.startingTime + 150) then (.local, s)
    else (.timerStart .brushesSpeedActivation, { s with mainPc := .exit })
  | .exit => (.exit, s)

/-- The tasks `closeAllTasks` closes, in order. -/
def closeOrder : List Task :=
  [.movementStop, .obstacleControl, .movementControl, .checkResources, .acousticSignals,
    .brushesSpeed]

/-- The activation timers, in the order `closeAllTasks` stops and detaches them. -/
def timers : List TimerId :=
  [.obstacleControlActivation, .movementControlActivation, .checkResourcesActivation,
    .brushesSpeedActivation]

/-- `Tsystem_task_entry`. `closeTask` compares the status byte as a whole. -/
def systemStatement (s : App) : RobotAct × App :=
  match s.systemPc with
  | .install => (.local, { s with
      handler := fun t n => if t = .tsystem ∧ n = .sigusr2 then .turnOff else s.handler t n
      systemPc := .unmask })
  | .unmask => (.unmask .sigusr2, { s with systemPc := .started })
  | .started => (.setTaskStarted 10, { s with systemPc := .testTurnOff })
  | .testTurnOff =>
    if s.turnOffFlag then (.local, { s with systemPc := .timerStop timers })
    else (.local, { s with systemPc := .currTime })
  | .timerStop (d :: rest) => (.timerStop d, { s with systemPc := .timerStop rest })
  | .timerStop [] => (.local, { s with systemPc := .closeTask closeOrder })
  | .closeTask (t :: rest) =>
    if (s.machine.kernel.thread t).stat.byte ≠ ThreadState.code .close then
      (.local, { s with systemPc := .detach t rest })
    else (.local, { s with systemPc := .closeTask rest })
  | .closeTask [] => (.local, { s with systemPc := .timerDetach timers })
  | .detach t rest => (.detach t, { s with systemPc := .closeTask rest })
  | .timerDetach (d :: rest) => (.timerDetach d, { s with systemPc := .timerDetach rest })
  | .timerDetach [] => (.local, { s with systemPc := .control })
  | .control => (.control .tsystem tsystemPriority, { s with systemPc := .preemptableFlag })
  | .preemptableFlag => (.setPreemptableFlag .tsystem false, { s with systemPc := .exit })
  | .exit => (.exit, s)
  | .currTime => (.local, { s with systemPc := .testTime s.millisecond })
  | .testTime currTime =>
    if currTime.toInt.tmod 900 = 0 ∧ s.startingTime ≠ 0 then
      (.local, { s with systemPc := .take })
    else (.local, { s with systemPc := .testTurnOff })
  | .take => (.take .battMutex, { s with systemPc := .decrement })
  | .decrement => (.local, { s with
      batteryStatus := s.batteryStatus - decValue
      decrements := s.decrements + 1
      systemPc := .release })
  | .release => (.release .battMutex, { s with systemPc := .testTurnOff })

/-- `turnOffSystem`, a signal handler; `none` at its end. -/
def turnOffStatement (s : App) : Option (RobotAct × App) :=
  match s.turnOffPc with
  | .mask1 => some (.mask .sigusr1, { s with turnOffPc := .mask2 })
  | .mask2 => some (.mask .sigusr2, { s with turnOffPc := .control })
  | .control => some (.control .tsystem 0, { s with turnOffPc := .preemptableFlag })
  | .preemptableFlag => some (.setPreemptableFlag .tsystem true, { s with turnOffPc := .turnOff })
  | .turnOff => some (.local, { s with turnOffFlag := true, turnOffPc := .ret })
  | .ret => none

/-! ### Task1 and TaskS -/

/-- `obstacle_control_entry`. -/
def obstacleStatement (s : App) (input : Input) : RobotAct × App :=
  match s.obstaclePc with
  | .recv => (.recv .tasksActivation TimerId.obstacleControlActivation.flag andClear,
      { s with obstaclePc := .test })
  | .test =>
    if s.gotOk .obstacleControl then
      (.local, { s.record (.begun .obstacleControl) with obstaclePc := .started })
    else (.local, { s with obstaclePc := .recv })
  | .started => (.setTaskStarted 5, { s with obstaclePc := .read })
  | .read => (.local, { s with obstaclePc := if input.obstacle then .kill else .busy })
  | .kill => (.kill .movementControl .sigusr1, { s.record .reported with obstaclePc := .send })
  | .send => (.send .obstacle eventObstacleFound, { s with obstaclePc := .busy })
  | .busy => (.local, { s with obstaclePc := if s.isBusy .obstacleControl then .busy else .ended })
  | .ended => (.setTaskEnded, { s with obstaclePc := .recv })

/-- `movement_stop_entry`. -/
def stopStatement (s : App) : RobotAct × App :=
  match s.stopPc with
  | .recv => (.recv .obstacle eventObstacleFound andClear, { s with stopPc := .test })
  | .test =>
    if s.gotOk .movementStop then
      (.local, { s.record (.begun .movementStop) with stopPc := .write })
    else (.local, { s with stopPc := .recv })
  | .write => (.local, { s.record .stop with stopPc := .recv })

/-! ### Task2 -/

/-- The statement after the test of a move: `position` is updated, or `find_new_position` is
called. -/
def guardStatement (s : App) (d : Directions) : App :=
  { s.testMove d with
    movementPc := if s.canMove d then .move d else .find [.up, .down, .left, .right] }

/-- One test of `find_new_position`. -/
def findStatement (s : App) (d : Directions) (rest : List Directions) : App :=
  if s.direction = d.opposite then { s with movementPc := .find rest }
  else { s.testMove d with movementPc := if s.canMove d then .findMove d else .find rest }

/-- `movement_control_entry`. -/
def movementStatement (s : App) : RobotAct × App :=
  match s.movementPc with
  | .row0 => (.local, { s with position := (0, s.position.2), movementPc := .col0 })
  | .col0 => (.local, { s with position := (s.position.1, 0), movementPc := .setDown })
  | .setDown => (.local, { s with direction := .down, movementPc := .clearMap })
  -- the two loops over the map, which no other thread uses yet
  | .clearMap => (.local, { s with map := fun _ _ => 0, movementPc := .install })
  | .install => (.local, { s with
      handler := fun t n =>
        if t = .movementControl ∧ n = .sigusr1 then .obstacle else s.handler t n
      movementPc := .unmask })
  | .unmask => (.unmask .sigusr1, { s with movementPc := .recv })
  | .recv => (.recv .tasksActivation TimerId.movementControlActivation.flag andClear,
      { s with movementPc := .test })
  | .test =>
    if s.gotOk .movementControl then
      (.local, { s.record (.begun .movementControl) with movementPc := .started })
    else (.local, { s with movementPc := .recv })
  | .started => (.setTaskStarted 6, { s with movementPc := .mbRecv })
  | .mbRecv => (.mbRecv .mb2_3 false, { s with movementPc := .testMail })
  | .testMail =>
    (.local, { s with movementPc := if s.gotOk .movementControl then .setReturn else .testTile })
  | .setReturn => (.local, { s with direction := .returning, movementPc := .mask })
  | .mask => (.mask .sigusr1, { s with movementPc := .mbSend })
  | .mbSend => (.mbSend .mb2_5 mbStr4, { s.record (.mailed .mb2_5) with movementPc := .testTile })
  | .testTile => (.local, { s.accessMap s.position with
      movementPc := if s.tile s.position = 0 then .markTile else .switch })
  | .markTile => (.local, { s.setTile s.position 2 with movementPc := .garbage })
  | .garbage => (.local, { s with
      garbageBagValue := s.garbageBagValue + 1, movementPc := .switch })
  | .switch => (.local, { s with
      movementPc := if s.direction = .returning then .home else .guard s.direction })
  | .guard d => (.local, s.guardStatement d)
  | .move d => (.local, { s with
      position := d.next s.position, moved := true, movementPc := .testStuck })
  | .find (d :: rest) => (.local, s.findStatement d rest)
  | .find [] => (.local, { s with movementPc := .setStuck 1 })
  | .findMove d => (.local, { s with position := d.next s.position, movementPc := .findTurn d })
  | .findTurn d => (.local, { s with direction := d, moved := true, movementPc := .setStuck 0 })
  | .setStuck r => (.local, { s with stuck := r, movementPc := .testStuck })
  | .home => (.local, { s with
      movementPc := if 0 < s.position.1 then .homeRow
        else if 0 < s.position.2 then .homeCol else .testStuck })
  | .homeRow => (.local, { s with
      position := (s.position.1 - 1, s.position.2), movementPc := .testStuck })
  | .homeCol => (.local, { s with
      position := (s.position.1, s.position.2 - 1), movementPc := .testStuck })
  | .testStuck => (.local, { s with movementPc := if s.stuck = 1 then .exit else .testHome })
  | .testHome => (.local, { s with
      movementPc := if s.direction = .returning ∧ s.position = (0, 0) then .kill else .engine })
  | .kill => (.kill .tsystem .sigusr2, { s.record .arrived with movementPc := .exit })
  | .engine => (.local, { s.record .start with movementPc := .busy })
  | .busy => (.local, { s with movementPc := if s.isBusy .movementControl then .busy else .ended })
  | .ended => (.setTaskEnded, { s with movementPc := .recv })
  | .exit => (.exit, s)

/-- `movement_control_obstacle_handler`, a signal handler; `none` at its end. -/
def obstacleHandlerStatement (s : App) : Option (RobotAct × App) :=
  match s.handlerPc with
  | .mark => some (.local, { (s.setTile s.position 1).record .handled with handlerPc := .revert })
  | .revert => some (.local, { s with
      position := s.direction.opposite.next s.position, moved := false, handlerPc := .ret })
  | .ret => none

/-! ### Task3, Task4 and Task5 -/

/-- `check_resources_entry`. -/
def resourcesStatement (s : App) : RobotAct × App :=
  match s.resourcesPc with
  | .recv => (.recv .tasksActivation TimerId.checkResourcesActivation.flag andClear,
      { s with resourcesPc := .test })
  | .test =>
    if s.gotOk .checkResources then
      (.local, { s.record (.begun .checkResources) with resourcesPc := .started })
    else (.local, { s with resourcesPc := .recv })
  | .started => (.setTaskStarted 6, { s with resourcesPc := .take })
  | .take => (.take .battMutex, { s with resourcesPc := .testEmpty })
  | .testEmpty => (.local, { s with
      resourcesPc := if s.batteryStatus ≤ totallyDischarge then .kill else .testCritical })
  | .kill => (.kill .tsystem .sigusr2, { s with resourcesPc := .release })
  | .testCritical => (.local, { s with
      resourcesPc := if s.batteryStatus ≤ discharge ∧ totallyDischarge < s.batteryStatus then
        .sendCritical else .testLow })
  | .sendCritical =>
    (.send .resources eventFlag1, { s.record (.raised eventFlag1) with resourcesPc := .mailCritical })
  | .mailCritical =>
    (.mbSend .mb2_3 mbStr3, { s.record (.mailed .mb2_3) with resourcesPc := .release })
  | .testLow => (.local, { s with
      resourcesPc := if s.batteryStatus ≤ dischargeThreshold ∧ discharge < s.batteryStatus then
        .sendLow else .release })
  | .sendLow =>
    (.send .resources eventFlag1, { s.record (.raised eventFlag1) with resourcesPc := .mailLow })
  | .mailLow => (.mbSend .mb2_3 mbStr2, { s.record (.mailed .mb2_3) with resourcesPc := .release })
  | .release => (.release .battMutex, { s with resourcesPc := .readBag })
  | .readBag => (.local, { s with resourcesPc := .testBag s.garbageBagValue })
  | .testBag v => (.local, { s with resourcesPc := if v = full then .sendFull else .busy })
  | .sendFull =>
    (.send .resources eventFlag2, { s.record (.raised eventFlag2) with resourcesPc := .mailFull })
  | .mailFull => (.mbSend .mb2_3 mbStr1, { s.record (.mailed .mb2_3) with resourcesPc := .busy })
  | .busy => (.local, { s with resourcesPc := if s.isBusy .checkResources then .busy else .ended })
  | .ended => (.setTaskEnded, { s with resourcesPc := .recv })

/-- What Task4 says to the flags it received, which it compares with each flag alone. -/
def speak (s : App) (e : BitVec 32) : App :=
  if e = 0x2 then s.record (.alarm .lowBattery)
  else if e = 0x4 then s.record (.alarm .garbageBagFull)
  else s

/-- `acoustic_signals_entry`. -/
def acousticStatement (s : App) : RobotAct × App :=
  match s.acousticPc with
  | .recv => (.recv .resources (eventFlag1 ||| eventFlag2) orClear, { s with acousticPc := .test })
  | .test =>
    if s.gotOk .acousticSignals then
      (.local, { s.record (.begun .acousticSignals) with acousticPc := .started })
    else (.local, { s with acousticPc := .recv })
  | .started => (.setTaskStarted 2, { s with acousticPc := .speak })
  | .speak => (.local, { s.speak (s.ctx .acousticSignals).recved with acousticPc := .busy })
  | .busy => (.local, { s with acousticPc := if s.isBusy .acousticSignals then .busy else .ended })
  | .ended => (.setTaskEnded, { s with acousticPc := .recv })

/-- Write the power pin of the brushes, and remember the level as its two bits. -/
def writePower (s : App) (level : ℤ) (bits : ℤ × ℤ) : App :=
  { s.record (.power level) with brushesPower := bits }

/-- How Task5 answers the level of the speed pin. -/
def adjustBrushes (s : App) : App :=
  if s.brushesSpeedV = (1, 0) then
    if s.brushesPower = (1, 0) then s.writePower medium (0, 0)
    else if s.brushesPower = (0, 0) then s.writePower high (0, 1) else s
  else if s.brushesSpeedV = (0, 1) then
    if s.brushesPower = (0, 1) then s.writePower medium (0, 0)
    else if s.brushesPower = (0, 0) then s.writePower low (1, 0) else s
  else s

/-- `brushes_speed_entry`. The last level read overwrites the second one. -/
def brushesStatement (s : App) (input : Input) : RobotAct × App :=
  match s.brushesPc with
  | .recv => (.recv .tasksActivation TimerId.brushesSpeedActivation.flag andClear,
      { s with brushesPc := .test })
  | .test =>
    if s.gotOk .brushesSpeed then
      (.local, { s.record (.begun .brushesSpeed) with brushesPc := .started })
    else (.local, { s with brushesPc := .recv })
  | .started => (.setTaskStarted 7, { s with brushesPc := .mbRecv })
  | .mbRecv => (.mbRecv .mb2_5 false, { s with brushesPc := .testMail })
  | .testMail =>
    (.local, { s with brushesPc := if s.gotOk .brushesSpeed then .compare else .readSpeed0 })
  | .compare => (.local, { s with
      brushesPc := if (s.ctx .brushesSpeed).mail = some mbStr4 then .writeStop else .readSpeed0 })
  | .writeStop => (.local, { s.record (.power stopBrushes) with brushesPc := .setStop })
  | .setStop => (.local, { s with brushesPower := (1, 1), brushesPc := .readSpeed0 })
  | .readSpeed0 => (.local, { s with
      brushesSpeedV := (input.pin, s.brushesSpeedV.2), brushesPc := .readSpeed1 })
  | .readSpeed1 => (.local, { s with
      brushesSpeedV := (s.brushesSpeedV.1, input.pin), brushesPc := .readPower0 })
  | .readPower0 => (.local, { s with
      brushesPower := (input.pin, s.brushesPower.2), brushesPc := .readPower1 })
  | .readPower1 => (.local, { s with
      brushesSpeedV := (s.brushesSpeedV.1, input.pin), brushesPc := .decide })
  | .decide => (.local, { s.adjustBrushes with brushesPc := .busy })
  | .busy => (.local, { s with brushesPc := if s.isBusy .brushesSpeed then .busy else .ended })
  | .ended => (.setTaskEnded, { s with brushesPc := .recv })

/-! ### All tasks -/

/-- The next statement of a task. -/
def statement (s : App) (input : Input) : Task → RobotAct × App
  | .main => s.mainStatement
  | .tsystem => s.systemStatement
  | .obstacleControl => s.obstacleStatement input
  | .movementStop => s.stopStatement
  | .movementControl => s.movementStatement
  | .checkResources => s.resourcesStatement
  | .acousticSignals => s.acousticStatement
  | .brushesSpeed => s.brushesStatement input
  | .idle => (.local, s)

/-- The next statement of a handler; the default handler returns at once. -/
def handlerStatement (s : App) : Handler → Option (RobotAct × App)
  | .default => none
  | .obstacle => s.obstacleHandlerStatement
  | .turnOff => s.turnOffStatement

/-! ### Steps -/

/-- The addresses of the priority fields are left open. -/
structure Addresses where
  currentPriority : Task → BitVec 32
  originalPriority : BitVec 32

/-- The platform: the timers send the activation events. -/
def platform (a : Addresses) : Platform Task EventId MutexId TimerId where
  addr := a.currentPriority
  originalAddr _ := a.originalPriority
  timeout d := (.tasksActivation, d.flag)
  idle := .idle

/-- What happens next: the running thread executes a statement or takes a step in the kernel, or
a tick comes with the timers that are due. -/
inductive Label
  | run (input : Input)
  | kern
  | tick (due : List TimerId)

/-- Replace the machine. -/
def withMachine (s : App) (m : RobotMachine) : App := { s with machine := m }

/-- The handler that ran has returned. -/
def resetHandler (s : App) : Handler → App
  | .default => s
  | .obstacle => { s with handlerPc := .mark }
  | .turnOff => { s with turnOffPc := .mask1 }

/-- The running thread executes a statement, of its handler or of its own. -/
def run (a : Addresses) (s : App) (input : Input) : Option App :=
  let current := s.machine.current
  match (s.ctx current).sig with
  | .running _ signo =>
    match s.handlerStatement (s.handler current signo) with
    | some (act, s') => (s.machine.step (platform a) (.act act)).map s'.withMachine
    | none =>
      (s.machine.step (platform a) .hret).map (s.resetHandler (s.handler current signo)).withMachine
  | _ =>
    let (act, s') := s.statement input current
    (s.machine.step (platform a) (.act act)).map s'.withMachine

/-- One step; none after an access beyond the map. -/
def step (a : Addresses) (s : App) : Label → Option App
  | .run input => if s.mapFault then none else s.run a input
  | .kern => if s.mapFault then none else (s.machine.step (platform a) .kern).map s.withMachine
  | .tick due =>
    if s.mapFault then none else (s.machine.step (platform a) (.tick due)).map s.withMachine

end App

end RobotVacuum
