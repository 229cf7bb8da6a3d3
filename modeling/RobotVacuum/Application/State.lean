import RobotVacuum.Machine.Machine

/-!
# The state of the robot

The threads, events, mutex, mailboxes and timers of the application, the data the tasks share,
and where each task stands in its program. A position of a program is the statement that is
executed next; statements on shared data are separate positions, so a task can be preempted,
and a signal handler can run, between any two of them.

`App` puts the data on top of a machine. It also has the log of what the robot does, as a
history variable: the activations that begin, the obstacles reported and handled, the commands
to the engine, the levels written to the power pin, the attempts to send a mail, and the alarms
that are raised and sounded.
-/

namespace RobotVacuum

/-! ### Threads and objects -/

/-- The threads: the seven tasks, the system task, the main thread and the idle thread. -/
inductive Task
  | main | tsystem | obstacleControl | movementStop | movementControl | checkResources
  | acousticSignals | brushesSpeed | idle
  deriving DecidableEq, Repr

/-- The events. -/
inductive EventId
  | tasksActivation | obstacle | resources
  deriving DecidableEq, Repr

/-- The only mutex, which protects the battery status. -/
inductive MutexId
  | battMutex
  deriving DecidableEq, Repr

/-- The mailboxes: to Task2 from Task3, and to Task5 from Task2. -/
inductive MailboxId
  | mb2_3 | mb2_5
  deriving DecidableEq, Repr

/-- The activation timers. -/
inductive TimerId
  | obstacleControlActivation | movementControlActivation | checkResourcesActivation
  | brushesSpeedActivation
  deriving DecidableEq, Repr

/-- The machine the application runs on. -/
abbrev RobotMachine := Machine Task EventId MutexId MailboxId TimerId String

/-- What a statement of the application asks of the machine. -/
abbrev RobotAct := Machine.Act Task EventId MutexId MailboxId TimerId String

/-- The priorities of `tasks.h`, and those of the main and the idle thread. -/
def Task.priority : Task → ℕ
  | .movementStop => 1
  | .obstacleControl => 2
  | .movementControl => 3
  | .checkResources => 4
  | .brushesSpeed => 5
  | .acousticSignals => 6
  | .tsystem => 10
  | .main => 10
  | .idle => 31

/-- `TSYSTEM_PRIORITY`. -/
abbrev tsystemPriority : BitVec 32 := 10

/-- The flag of each activation timer, which is also the one its task waits for. -/
def TimerId.flag : TimerId → BitVec 32
  | .obstacleControlActivation => 1 <<< 1
  | .movementControlActivation => 1 <<< 2
  | .checkResourcesActivation => 1 <<< 3
  | .brushesSpeedActivation => 1 <<< 5

/-- `EVENT_OBSTACLE_FOUND`. -/
abbrev eventObstacleFound : BitVec 32 := 1 <<< 1

/-- `EVENT_FLAG1`: the battery is low. -/
abbrev eventFlag1 : BitVec 32 := 1 <<< 1

/-- `EVENT_FLAG2`: the garbage bag is full. -/
abbrev eventFlag2 : BitVec 32 := 1 <<< 2

/-- `RT_EVENT_FLAG_AND | RT_EVENT_FLAG_CLEAR`. -/
abbrev andClear : EventOption := { and := true, clear := true }

/-- `RT_EVENT_FLAG_OR | RT_EVENT_FLAG_CLEAR`. -/
abbrev orClear : EventOption := { or := true, clear := true }

/-- The texts of the mails. -/
abbrev mbStr1 : String := "Garbage bag full"
abbrev mbStr2 : String := "Battery Low"
abbrev mbStr3 : String := "Battery status is critical"
abbrev mbStr4 : String := "Come back home"

/-! ### Constants -/

abbrev mapSide : ℤ := 10

abbrev dischargeThreshold : BitVec 32 := 20
abbrev discharge : BitVec 32 := 10
abbrev totallyDischarge : BitVec 32 := 0
abbrev decValue : BitVec 32 := 2
abbrev charge : BitVec 32 := 100
abbrev full : ℕ := 30

/-- The levels written to the power pin of the brushes. -/
abbrev stopBrushes : ℤ := 0
abbrev low : ℤ := 1
abbrev medium : ℤ := 2
abbrev high : ℤ := 3

/-! ### Directions -/

/-- `enum directions`; `returning` is `RETURN`. -/
inductive Directions
  | up | down | left | right | returning
  deriving DecidableEq, Repr

namespace Directions

/-- The direction `find_new_position` excludes when it tries this one. -/
def opposite : Directions → Directions
  | up => down
  | down => up
  | left => right
  | right => left
  | returning => returning

/-- The neighbour of a tile in a direction. -/
def next (d : Directions) (p : ℤ × ℤ) : ℤ × ℤ :=
  match d with
  | up => (p.1 - 1, p.2)
  | down => (p.1 + 1, p.2)
  | left => (p.1, p.2 - 1)
  | right => (p.1, p.2 + 1)
  | returning => p

/-- The test against the bound of a map of the given side in a direction. -/
def inBound (side : ℤ) (d : Directions) (p : ℤ × ℤ) : Bool :=
  match d with
  | up => 0 < p.1
  | down => p.1 < side - 1
  | left => 0 < p.2
  | right => p.2 < side - 1
  | returning => false

end Directions

/-! ### Programs -/

/-- `main`: the calls of `rt_thread_startup` still to be made, then those of `rt_timer_start`. -/
inductive MainPc
  | startup (rest : List Task)
  | startingTime
  | timerStart (rest : List TimerId)
  | delay
  | exit
  deriving DecidableEq, Repr

/-- `Tsystem_task_entry`, with `closeAllTasks` and `set_task_as_preemptable` in it. -/
inductive SystemPc
  | install | unmask | started
  | testTurnOff
  | timerStop (rest : List TimerId)
  | closeTask (rest : List Task)
  | detach (t : Task) (rest : List Task)
  | timerDetach (rest : List TimerId)
  | control | preemptableFlag
  | exit
  | currTime
  | testTime (currTime : BitVec 32)
  | take | decrement | release
  deriving DecidableEq, Repr

/-- `turnOffSystem`. -/
inductive TurnOffPc
  | mask1 | mask2 | control | preemptableFlag | turnOff | ret
  deriving DecidableEq, Repr

/-- `obstacle_control_entry`. -/
inductive ObstaclePc
  | recv | test | started | read | kill | send | busy | ended
  deriving DecidableEq, Repr

/-- `movement_stop_entry`. -/
inductive StopPc
  | recv | test | write
  deriving DecidableEq, Repr

/-- `movement_control_entry`, with `find_new_position` in it. -/
inductive MovementPc
  | row0 | col0 | setDown | clearMap | install | unmask
  | recv | test | started
  | mbRecv | testMail | setReturn | mask | mbSend
  | testTile | markTile | garbage
  | switch
  | guard (d : Directions)
  | move (d : Directions)
  | find (rest : List Directions)
  | findMove (d : Directions)
  | findTurn (d : Directions)
  | setStuck (r : ℤ)
  | home
  | homeRow | homeCol
  | testStuck | testHome | kill
  | engine | busy | ended
  | exit
  deriving DecidableEq, Repr

/-- `movement_control_obstacle_handler`. -/
inductive ObstacleHandlerPc
  | mark | revert | ret
  deriving DecidableEq, Repr

/-- `check_resources_entry`. -/
inductive ResourcesPc
  | recv | test | started
  | take
  | testEmpty | kill
  | testCritical | sendCritical | mailCritical
  | testLow | sendLow | mailLow
  | release
  | readBag
  | testBag (v : ℕ)
  | sendFull | mailFull
  | busy | ended
  deriving DecidableEq, Repr

/-- `acoustic_signals_entry`. -/
inductive AcousticPc
  | recv | test | started | speak | busy | ended
  deriving DecidableEq, Repr

/-- `brushes_speed_entry`. -/
inductive BrushesPc
  | recv | test | started
  | mbRecv | testMail | compare | writeStop | setStop
  | readSpeed0 | readSpeed1 | readPower0 | readPower1
  | decide
  | busy | ended
  deriving DecidableEq, Repr

/-- What is installed as the handler of a signal. -/
inductive Handler
  | default | obstacle | turnOff
  deriving DecidableEq, Repr

/-! ### The application -/

/-- What the speaker says. -/
inductive Alarm
  | lowBattery | garbageBagFull
  deriving DecidableEq, Repr

/-- What the robot does, as far as it is recorded. -/
inductive LogEntry
  /-- An activation of a task begins: `rt_event_recv` returned `RT_EOK` to it. -/
  | begun (t : Task)
  /-- Task1 is about to call `rt_thread_kill(&movement_control, SIGUSR1)`. -/
  | reported
  /-- `movement_control_obstacle_handler` begins. -/
  | handled
  | stop | start
  /-- A level is written to the power pin of the brushes. -/
  | power (level : ℤ)
  /-- A call of `rt_mb_send`, accepted or not. -/
  | mailed (b : MailboxId)
  /-- Task3 raises a flag for Task4. -/
  | raised (flag : BitVec 32)
  | alarm (x : Alarm)
  /-- Task2 is about to call `rt_thread_kill(&Tsystem, SIGUSR2)`. -/
  | arrived
  deriving DecidableEq, Repr

/-- The machine, the program positions and the data of the tasks. -/
structure App where
  machine : RobotMachine
  mainPc : MainPc
  systemPc : SystemPc := .install
  turnOffPc : TurnOffPc := .mask1
  obstaclePc : ObstaclePc := .recv
  stopPc : StopPc := .recv
  movementPc : MovementPc := .row0
  handlerPc : ObstacleHandlerPc := .mark
  resourcesPc : ResourcesPc := .recv
  acousticPc : AcousticPc := .recv
  brushesPc : BrushesPc := .recv
  handler : Task → Signo → Handler := fun _ _ => .default
  map : ℤ → ℤ → ℤ := fun _ _ => 0
  position : ℤ × ℤ := (0, 0)
  direction : Directions := .up
  /-- A local variable of Task2 that is read before its first assignment. -/
  stuck : ℤ
  batteryStatus : BitVec 32 := charge
  /-- History variable: how often the battery status was decremented. -/
  decrements : ℕ := 0
  garbageBagValue : ℕ := 0
  startingTime : BitVec 32 := 0
  turnOffFlag : Bool := false
  /-- Local arrays of Task5, which are not initialized. -/
  brushesSpeedV : ℤ × ℤ
  brushesPower : ℤ × ℤ
  /-- An element beyond the bounds of `map` was accessed. -/
  mapFault : Bool := false
  /-- History variable: what the robot did so far, oldest first. -/
  log : List LogEntry := []
  /-- History variable: a move was completed since the obstacle handler last ran. -/
  moved : Bool := false

end RobotVacuum
