import RobotVacuum.Ipc.WaitList
import Mathlib.Data.Int.Notation

/-!
# Mutexes

The mutex of `ipc.c`. A take by a thread other than the owner is a section of statements that
runs with interrupts disabled the first time, and with interrupts enabled when it is entered
again after a signal; the statements are therefore separate functions, and `rtMutexTake` is
their composition.

The priority arguments of `rt_thread_control` are the addresses of the fields the priorities
are stored in, as in the source: `addr t` is the address of the field `current_priority` of
the thread `t`, and `originalAddr` is the address of the field `original_priority` of the
mutex.
-/

set_option linter.unusedSectionVars false

namespace RobotVacuum

/-- `RT_MUTEX_HOLD_MAX`. -/
abbrev rtMutexHoldMax : ℕ := 0xff

/-- `RT_MUTEX_VALUE_MAX`. -/
abbrev rtMutexValueMax : ℕ := 0xffff

/-- A mutex. The fields `hold` and `original_priority` are bytes, `value` is two bytes wide. -/
structure Mutex (T : Type) where
  value : ℕ := 1
  hold : ℕ := 0
  owner : Option T := none
  originalPriority : ℕ := 0xFF

namespace Mutex

variable {T : Type}

/-- `mutex->value --`. -/
def decrement (m : Mutex T) : Mutex T :=
  { m with value := (m.value + rtMutexValueMax) % (rtMutexValueMax + 1) }

/-- `mutex->owner = thread`. -/
def setOwner (m : Mutex T) (t : T) : Mutex T := { m with owner := some t }

/-- `mutex->original_priority = thread->current_priority`. -/
def setOriginalPriority (m : Mutex T) (p : ℕ) : Mutex T := { m with originalPriority := p }

/-- `mutex->hold ++`, unless that overflows. -/
def addHold (m : Mutex T) : Mutex T × RtErr :=
  if m.hold < rtMutexHoldMax then ({ m with hold := m.hold + 1 }, .eok) else (m, .efull)

/-- `mutex->hold --`. -/
def dropHold (m : Mutex T) : Mutex T :=
  { m with hold := (m.hold + rtMutexHoldMax) % (rtMutexHoldMax + 1) }

/-- Take an available mutex. -/
def takeAvailable (m : Mutex T) (t : T) (p : ℕ) : Mutex T × RtErr :=
  ((m.decrement.setOwner t).setOriginalPriority p).addHold

end Mutex

namespace Kernel

variable {T Q : Type} [DecidableEq T] [DecidableEq Q]

/-- Write the error of a thread. -/
def setError (k : Kernel T Q) (t : T) (e : RtErr) : Kernel T Q :=
  k.modify t fun th => { th with error := e }

section SetError

variable {k : Kernel T Q} {t x : T} {e : RtErr}

@[simp] theorem setError_prio : (k.setError t e).prio x = k.prio x := by
  rw [setError, modify_prio]
  split
  · next h => rw [h]
  · rfl

@[simp] theorem setError_state : (k.setError t e).state x = k.state x := by
  rw [setError, modify_state]
  split
  · next h => rw [h]
  · rfl

end SetError

/-- `rt_timer_start` on the built-in timer of a thread, after setting its timeout. -/
def startThreadTimer (k : Kernel T Q) (t : T) : Kernel T Q :=
  if !(k.thread t).threadTimer.attached then k.raise .assertion
  else k.modify t fun th => { th with threadTimer := { th.threadTimer with activated := true } }

/-- Raise the owner's priority to the one of a more urgent thread about to wait. -/
def changeOwnerPriority (k : Kernel T Q) (m : Mutex T) (addr : T → BitVec 32) (t : T) :
    Kernel T Q :=
  match m.owner with
  | none => k.raise .nullPointer
  | some o => if k.prio t < k.prio o then k.rtThreadControl o (addr t) else k

/-- Wait for a mutex that is not available, for at most `time` ticks if that is positive. -/
def rtMutexWait (k : Kernel T Q) (m : Mutex T) (q : Q) (addr : T → BitVec 32) (t : T)
    (time : ℤ) : Kernel T Q :=
  let k := (k.changeOwnerPriority m addr t).ipcListSuspend q t .prio
  if 0 < time then k.startThreadTimer t else k

/-- `rt_mutex_take` by the running thread, up to the scheduling at which it waits. The result is
`none` when it has to wait. -/
def rtMutexTake (k : Kernel T Q) (m : Mutex T) (q : Q) (addr : T → BitVec 32) (time : ℤ) :
    Kernel T Q × Mutex T × Option RtErr :=
  let t := k.currentThread
  let k := k.setError t .eok
  if m.owner = some t then
    let (m, r) := m.addHold
    (k, m, some r)
  else if 0 < m.value then
    let (m, r) := m.takeAvailable t (k.prio t)
    (k, m, some r)
  else if time = 0 then
    (k.setError t .etimeout, m, some .etimeout)
  else
    (k.rtMutexWait m q addr t time, m, none)

/-- Give the thread that drops its last hold the priority it had when it took the mutex. -/
def restorePriority (k : Kernel T Q) (m : Mutex T) (t : T) (originalAddr : BitVec 32) :
    Kernel T Q :=
  if m.originalPriority ≠ k.prio t then k.rtThreadControl t originalAddr else k

/-- Hand a mutex without holds to the first waiting thread, which is resumed, or free it. The
last component tells whether a scheduling is needed. -/
def handOver (k : Kernel T Q) (m : Mutex T) (q : Q) : Kernel T Q × Mutex T × RtErr × Bool :=
  match k.queue (.wait q) with
  | s :: _ =>
    let (m, r) := ((m.setOwner s).setOriginalPriority (k.prio s)).addHold
    if r = .efull then (k, m, r, false) else (k.rtThreadResume s, m, .eok, true)
  | [] =>
    if m.value < rtMutexValueMax then
      (k, { m with value := m.value + 1, owner := none, originalPriority := 0xff }, .eok, false)
    else (k, m, .efull, false)

/-- `rt_mutex_release` by the running thread, up to the scheduling it ends with when a waiting
thread was resumed. -/
def rtMutexRelease (k : Kernel T Q) (m : Mutex T) (q : Q) (originalAddr : BitVec 32) :
    Kernel T Q × Mutex T × RtErr × Bool :=
  let t := k.currentThread
  if m.owner ≠ some t then (k.setError t .error, m, .error, false)
  else
    let m := m.dropHold
    if m.hold = 0 then (k.restorePriority m t originalAddr).handOver m q
    else (k, m, .eok, false)

end Kernel

end RobotVacuum
