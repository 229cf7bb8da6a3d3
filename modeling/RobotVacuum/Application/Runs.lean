import RobotVacuum.Application.Tasks
import RobotVacuum.Foundation.Automaton

/-!
# Runs of the application

The application starts where the kernel has started the main thread and the idle thread, all
other threads were initialized but not started, and the main thread is about to start them.
What the environment and memory decide is left open: the time at the start, the values of the
variables that are not initialized and the addresses of the priority fields.
-/

namespace RobotVacuum

/-- `RT_SIG_INFO_MAX`, the number of signal nodes. -/
abbrev rtSigInfoMax : ℕ := 32

/-- The number of mails a mailbox holds: its pool has 128 bytes. -/
abbrev mailboxSize : ℕ := 128 / 4

/-- What is not determined at the start. -/
structure Boot where
  tick : BitVec 32 := 0
  stuck : ℤ := 0
  brushesSpeedV : ℤ × ℤ := (0, 0)
  brushesPower : ℤ × ℤ := (0, 0)
  msgPool : MailboxId → ℕ → String := fun _ _ => ""

/-- The time slice of a thread, in ticks: `THREAD_TIMESLICE` for the tasks. -/
def Task.timeslice : Task → BitVec 32
  | .main => 20
  | .idle => 32
  | _ => 5

/-- The scheduling state of a thread at the start. -/
def Task.initialState : Task → ThreadState
  | .main => .running
  | .idle => .ready
  | _ => .init

/-- The control block of a thread at the start. -/
def Task.initialThread (t : Task) : Thread where
  object := if t = .main then .dynamic else .static
  stat := { state := t.initialState }
  currentPriority := t.priority
  initPriority := t.priority
  numberMask := if t.initialState.started then priorityMask 32 t.priority else 0
  initTick := t.timeslice
  remainingTick := t.timeslice

/-- The kernel at the start: the main thread runs and the idle thread is ready. -/
def initialKernel (b : Boot) : Kernel Task (WaitQueue EventId MutexId MailboxId) where
  thread := Task.initialThread
  queue h := if h = .ready 31 then [.idle] else []
  readyPriorityGroup := priorityMask 32 31
  currentThread := .main
  schedulerLockNest := 0
  tick := b.tick
  siginfoPool := rtSigInfoMax
  history := [.enter 31 .idle]

namespace App

/-- The application at the start. -/
def initial (b : Boot) : App where
  machine :=
    { kernel := initialKernel b
      mailbox := fun m => { msgPool := b.msgPool m, size := mailboxSize } }
  mainPc := .startup startupOrder
  stuck := b.stuck
  brushesSpeedV := b.brushesSpeedV
  brushesPower := b.brushesPower

/-- All runs of the application. -/
def runs (a : Addresses) : Automaton App Label where
  init s := ∃ b, s = initial b
  step := step a

end App

end RobotVacuum
