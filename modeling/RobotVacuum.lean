import RobotVacuum.Foundation.Automaton
import RobotVacuum.Kernel.Selection
import RobotVacuum.Ipc.PriorityInheritance
import RobotVacuum.Application.NewPosition
import RobotVacuum.Application.Steps
import RobotVacuum.Ipc.NonPreemptable
import RobotVacuum.Machine.View
import RobotVacuum.Machine.Signals
import RobotVacuum.Machine.Scheduling
import RobotVacuum.Machine.Handling
import RobotVacuum.Application.Battery
import RobotVacuum.Application.Homing
import RobotVacuum.Timers.Periodic
import RobotVacuum.Application.Deadlines
import RobotVacuum.Application.Activations
import RobotVacuum.Application.Alarms
import RobotVacuum.Application.Mails
import RobotVacuum.Kernel.Accounting
import RobotVacuum.Application.CpuUsage
import RobotVacuum.Application.Cleaning
import RobotVacuum.Application.GarbageBag
import RobotVacuum.Foundation.TwoRuns
import RobotVacuum.Application.Locals
import RobotVacuum.Application.Brushes
import RobotVacuum.Application.Drain
import RobotVacuum.Application.Position
import RobotVacuum.Application.Restart
import RobotVacuum.Application.Obstacles
import RobotVacuum.Application.Shutdown
import RobotVacuum.Application.Urgency
import RobotVacuum.Application.EmergencyStop
