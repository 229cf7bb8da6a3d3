import RobotVacuum.Foundation.LinkedLists
import RobotVacuum.Foundation.PriorityMask
import RobotVacuum.Foundation.QueueLog

/-!
# Threads and the kernel state

The data the scheduler works on: the thread control block `Thread` with its status byte, and
the state `Kernel` with the ready table, the bitmap of ready priorities and the running
thread. Thread identifiers `T` and the heads `Q` of the wait lists of inter-process objects
are arbitrary types, so that every fact about the scheduler holds for any set of threads.

Two representations are worth a word. The status byte is kept as its fields, and `Stat.byte`
gives the byte itself with the equations that tie the masks of the C code to the fields. A
thread is linked through one node, so ready lists and wait lists are one family of intrusive
lists (`ListFamily`), told apart by their heads.

A failing assertion loops forever and an index beyond the ready table corrupts memory. Both
are recorded in `Kernel.fault`; a kernel with a fault has no defined behaviour from there on.
-/

namespace RobotVacuum

/-! ### The status byte -/

/-- The low three bits of `stat`: the scheduling state of a thread. -/
inductive ThreadState
  | init | ready | suspend | running | close
  deriving DecidableEq, Repr

/-- The value of a scheduling state in the byte. -/
def ThreadState.code : ThreadState → BitVec 8
  | .init => 0x00
  | .ready => 0x01
  | .suspend => 0x02
  | .running => 0x03
  | .close => 0x04

/-- The thread was started and has not ended. -/
@[simp] def ThreadState.started : ThreadState → Bool
  | .ready | .suspend | .running => true
  | .init | .close => false

/-- The byte `stat` of a thread, by fields: the scheduling state and the flag bits. -/
structure Stat where
  state : ThreadState
  /-- `RT_THREAD_STAT_YIELD`: the time slice was reloaded since the last scheduling. -/
  yield : Bool := false
  /-- `RT_THREAD_STAT_SIGNAL`: the thread holds signals. -/
  signal : Bool := false
  /-- `RT_THREAD_STAT_SIGNAL_WAIT`: the thread waits for signals. -/
  signalWait : Bool := false
  /-- `RT_THREAD_STAT_SIGNAL_PENDING`: signals are held and were not processed yet. -/
  signalPending : Bool := false
  deriving DecidableEq, Repr

namespace Stat

/-- A flag bit of the byte. -/
def bit (b : Bool) (m : BitVec 8) : BitVec 8 := if b then m else 0

/-- The byte itself. -/
def byte (s : Stat) : BitVec 8 :=
  s.state.code ||| bit s.yield 0x08 ||| bit s.signal 0x10 ||| bit s.signalWait 0x20 |||
    bit s.signalPending 0x40

/-- Masking with `RT_THREAD_STAT_MASK` reads the scheduling state. -/
theorem byte_and_mask (s : Stat) : s.byte &&& 0x07 = s.state.code := by
  obtain ⟨st, y, g, w, p⟩ := s
  cases st <;> cases y <;> cases g <;> cases w <;> cases p <;> rfl

/-- Writing `RT_THREAD_x | (stat & ~RT_THREAD_STAT_MASK)` replaces the state and keeps the
flags. -/
theorem byte_withState (s : Stat) (st : ThreadState) :
    ({ s with state := st } : Stat).byte = st.code ||| (s.byte &&& ~~~0x07) := by
  obtain ⟨st', y, g, w, p⟩ := s
  cases st <;> cases st' <;> cases y <;> cases g <;> cases w <;> cases p <;> rfl

/-- The byte determines the fields, so comparing bytes compares all of them. -/
theorem byte_injective : Function.Injective byte := by
  intro s s' h
  have hst : s.state = s'.state := by
    have hcode : s.state.code = s'.state.code := by
      rw [← byte_and_mask, ← byte_and_mask, h]
    revert hcode
    cases s.state <;> cases s'.state <;> decide
  obtain ⟨st, y, g, w, p⟩ := s
  obtain ⟨st', y', g', w', p'⟩ := s'
  obtain rfl : st = st' := hst
  revert h
  cases st <;> cases y <;> cases y' <;> cases g <;> cases g' <;> cases w <;> cases w' <;>
    cases p <;> cases p' <;> decide

/-- `RT_THREAD_CLOSE` as a whole byte: closed, and no flag set. -/
def closed : Stat := { state := .close }

/-- A byte equals `RT_THREAD_CLOSE` exactly when the thread is closed with no flag set. -/
theorem byte_eq_close_iff {s : Stat} : s.byte = ThreadState.code .close ↔ s = closed := by
  constructor
  · exact fun h => byte_injective (h.trans rfl)
  · rintro rfl
    rfl

end Stat

/-! ### Thread control blocks -/

/-- The error codes of the kernel, each standing for the value returned (`RT_EOK`,
`-RT_ERROR` and so on). -/
inductive RtErr
  | eok | error | etimeout | efull | eintr | einval
  deriving DecidableEq, Repr

/-- The signals of the application. -/
inductive Signo
  | sigusr1 | sigusr2
  deriving DecidableEq, Repr

/-- How a thread waits on an event: the bits of `event_info`. -/
structure EventOption where
  and : Bool := false
  or : Bool := false
  clear : Bool := false
  deriving DecidableEq, Repr

/-- The object header of a thread: static (initialized in place), dynamic (allocated), or
detached from the object system, after which its type is no longer that of a thread. -/
inductive ThreadObject
  | static | dynamic | detached
  deriving DecidableEq, Repr

/-- A timer as its users see it: whether its object is still registered as a timer, and
whether it is in the list of active timers. -/
structure RtTimer where
  attached : Bool := true
  activated : Bool := false
  deriving DecidableEq, Repr

/-- The thread control block. -/
structure Thread where
  object : ThreadObject := .static
  stat : Stat := { state := .init }
  currentPriority : ℕ
  initPriority : ℕ
  numberMask : BitVec 32 := 0
  error : RtErr := .eok
  eventSet : BitVec 32 := 0
  eventInfo : EventOption := {}
  sigPending : Signo → Bool := fun _ => false
  sigMask : Signo → Bool := fun _ => false
  /-- The queued signal nodes, oldest first. -/
  siList : List Signo := []
  initTick : BitVec 32
  remainingTick : BitVec 32
  threadTimer : RtTimer := {}
  endFlag : Bool := false
  tickCount : ℕ := 0
  preemptableFlag : Bool := false

namespace Thread

/-- Replace the scheduling state, keeping the flag bits. -/
def withState (th : Thread) (st : ThreadState) : Thread :=
  { th with stat := { th.stat with state := st } }

/-- The part of a control block that queueing and scheduling leave alone: all but the
scheduling state, the yield bit and whether the thread's own timer is active. -/
def frame (th : Thread) : Thread :=
  { th with
    stat := { th.stat with state := .init, yield := false }
    threadTimer := { th.threadTimer with activated := false } }

@[simp] theorem frame_withState {th : Thread} {st : ThreadState} :
    (th.withState st).frame = th.frame := rfl

/-- What only depends on the frame is equal for equal frames. -/
theorem of_frame {α : Type} (g : Thread → α) (hg : ∀ th : Thread, g th.frame = g th)
    {th th' : Thread} (h : th.frame = th'.frame) : g th = g th' := by
  rw [← hg th, h, hg]

/-- Some signal is pending and not blocked: `sig_pending & sig_mask` is not zero. -/
def deliverable (th : Thread) : Bool :=
  (th.sigPending .sigusr1 && th.sigMask .sigusr1) ||
    (th.sigPending .sigusr2 && th.sigMask .sigusr2)

end Thread

/-! ### The kernel -/

/-- The heads of the lists a thread can be linked in: the ready list of a priority, or the
wait list of an object. -/
inductive Head (Q : Type)
  | ready (p : ℕ)
  | wait (q : Q)
  deriving DecidableEq

/-- Undefined behaviour the code can run into. -/
inductive Fault
  /-- A failing `RT_ASSERT`, which loops forever. -/
  | assertion
  /-- An access beyond the end of `rt_thread_priority_table`. -/
  | outOfBounds
  /-- A use of a null pointer. -/
  | nullPointer
  /-- The scheduler took the first node of an empty list. -/
  | emptyList
  /-- A node that is linked already, or one of a thread that is not suspended, is linked in a wait
  list. -/
  | relink
  deriving DecidableEq, Repr

/-- `RT_THREAD_PRIORITY_MAX`, the number of priorities and the width of the bitmap. -/
abbrev rtThreadPriorityMax : ℕ := 32

/-- The state of the kernel the scheduler works on. -/
structure Kernel (T Q : Type) where
  thread : T → Thread
  /-- `rt_thread_priority_table` and the wait lists of objects. -/
  queue : ListFamily (Head Q) T
  readyPriorityGroup : BitVec 32
  currentThread : T
  schedulerLockNest : ℕ
  tick : BitVec 32
  /-- The free nodes of the pool signal nodes are allocated from. -/
  siginfoPool : ℕ
  fault : Option Fault := none
  /-- History variable: what happened to the ready lists so far, oldest first. -/
  history : List (QueueEvent ℕ T) := []

namespace Kernel

variable {T Q : Type} {k : Kernel T Q}

/-- The scheduling state of a thread. -/
abbrev state (k : Kernel T Q) (t : T) : ThreadState := (k.thread t).stat.state

/-- The current priority of a thread. -/
abbrev prio (k : Kernel T Q) (t : T) : ℕ := (k.thread t).currentPriority

/-- Record a fault, unless there is one already. -/
def raise (k : Kernel T Q) (e : Fault) : Kernel T Q :=
  { k with fault := some (k.fault.getD e) }

/-- Write `rt_current_thread`. -/
def setCurrent (k : Kernel T Q) (t : T) : Kernel T Q := { k with currentThread := t }

/-- Record what happens to a ready list. -/
def record (k : Kernel T Q) (e : QueueEvent ℕ T) : Kernel T Q :=
  { k with history := k.history ++ [e] }

@[simp] theorem raise_thread {e : Fault} : (k.raise e).thread = k.thread := rfl
@[simp] theorem raise_queue {e : Fault} : (k.raise e).queue = k.queue := rfl
@[simp] theorem raise_readyPriorityGroup {e : Fault} :
    (k.raise e).readyPriorityGroup = k.readyPriorityGroup := rfl
@[simp] theorem raise_currentThread {e : Fault} : (k.raise e).currentThread = k.currentThread := rfl
@[simp] theorem raise_history {e : Fault} : (k.raise e).history = k.history := rfl

@[simp] theorem setCurrent_thread {t : T} : (k.setCurrent t).thread = k.thread := rfl
@[simp] theorem setCurrent_state {t t' : T} : (k.setCurrent t).state t' = k.state t' := rfl
@[simp] theorem setCurrent_prio {t t' : T} : (k.setCurrent t).prio t' = k.prio t' := rfl
@[simp] theorem setCurrent_queue {t : T} : (k.setCurrent t).queue = k.queue := rfl
@[simp] theorem setCurrent_readyPriorityGroup {t : T} :
    (k.setCurrent t).readyPriorityGroup = k.readyPriorityGroup := rfl
@[simp] theorem setCurrent_currentThread {t : T} : (k.setCurrent t).currentThread = t := rfl
@[simp] theorem setCurrent_history {t : T} : (k.setCurrent t).history = k.history := rfl
@[simp] theorem setCurrent_fault {t : T} : (k.setCurrent t).fault = k.fault := rfl

@[simp] theorem record_thread {e : QueueEvent ℕ T} : (k.record e).thread = k.thread := rfl
@[simp] theorem record_state {e : QueueEvent ℕ T} {t : T} : (k.record e).state t = k.state t := rfl
@[simp] theorem record_prio {e : QueueEvent ℕ T} {t : T} : (k.record e).prio t = k.prio t := rfl
@[simp] theorem record_queue {e : QueueEvent ℕ T} : (k.record e).queue = k.queue := rfl
@[simp] theorem record_readyPriorityGroup {e : QueueEvent ℕ T} :
    (k.record e).readyPriorityGroup = k.readyPriorityGroup := rfl
@[simp] theorem record_currentThread {e : QueueEvent ℕ T} :
    (k.record e).currentThread = k.currentThread := rfl
@[simp] theorem record_fault {e : QueueEvent ℕ T} : (k.record e).fault = k.fault := rfl
@[simp] theorem record_history {e : QueueEvent ℕ T} :
    (k.record e).history = k.history ++ [e] := rfl

variable [DecidableEq T] {t t' : T} {f : Thread → Thread}

/-- Update one thread control block. -/
def modify (k : Kernel T Q) (t : T) (f : Thread → Thread) : Kernel T Q :=
  { k with thread := Function.update k.thread t (f (k.thread t)) }

/-- Set the scheduling state of a thread, keeping its flag bits. -/
def setState (k : Kernel T Q) (t : T) (st : ThreadState) : Kernel T Q :=
  k.modify t fun th => th.withState st

@[simp] theorem modify_thread_same : (k.modify t f).thread t = f (k.thread t) := by
  simp [modify]

@[simp] theorem modify_thread_of_ne (h : t' ≠ t) : (k.modify t f).thread t' = k.thread t' := by
  simp [modify, h]

theorem modify_thread : (k.modify t f).thread t' =
    if t' = t then f (k.thread t) else k.thread t' := by
  by_cases h : t' = t
  · subst h
    simp
  · simp [h]

theorem modify_state : (k.modify t f).state t' =
    if t' = t then (f (k.thread t)).stat.state else k.state t' := by
  rw [state, modify_thread]
  split <;> rfl

theorem modify_prio : (k.modify t f).prio t' =
    if t' = t then (f (k.thread t)).currentPriority else k.prio t' := by
  rw [prio, modify_thread]
  split <;> rfl

/-- Writing a control block outside its frame keeps every frame. -/
theorem modify_frame (hf : (f (k.thread t)).frame = (k.thread t).frame) :
    ((k.modify t f).thread t').frame = (k.thread t').frame := by
  rw [modify_thread]
  split
  · next h => rw [hf, h]
  · rfl

@[simp] theorem setState_frame {st : ThreadState} :
    ((k.setState t st).thread t').frame = (k.thread t').frame := modify_frame rfl

@[simp] theorem modify_queue : (k.modify t f).queue = k.queue := rfl
@[simp] theorem modify_readyPriorityGroup :
    (k.modify t f).readyPriorityGroup = k.readyPriorityGroup := rfl
@[simp] theorem modify_currentThread : (k.modify t f).currentThread = k.currentThread := rfl
@[simp] theorem modify_schedulerLockNest :
    (k.modify t f).schedulerLockNest = k.schedulerLockNest := rfl
@[simp] theorem modify_fault : (k.modify t f).fault = k.fault := rfl
@[simp] theorem modify_history : (k.modify t f).history = k.history := rfl
@[simp] theorem modify_siginfoPool : (k.modify t f).siginfoPool = k.siginfoPool := rfl
@[simp] theorem modify_tick : (k.modify t f).tick = k.tick := rfl

theorem setState_state {st : ThreadState} :
    (k.setState t st).state t' = if t' = t then st else k.state t' := by
  simp only [state, setState, modify_thread]
  split <;> rfl

@[simp] theorem setState_prio {st : ThreadState} : (k.setState t st).prio t' = k.prio t' := by
  simp only [prio, setState, modify_thread]
  split
  · next h => rw [h, Thread.withState]
  · rfl

@[simp] theorem setState_numberMask {st : ThreadState} :
    ((k.setState t st).thread t').numberMask = (k.thread t').numberMask := by
  simp only [setState, modify_thread]
  split
  · next h => rw [h, Thread.withState]
  · rfl

@[simp] theorem setState_queue {st : ThreadState} : (k.setState t st).queue = k.queue := rfl
@[simp] theorem setState_readyPriorityGroup {st : ThreadState} :
    (k.setState t st).readyPriorityGroup = k.readyPriorityGroup := rfl
@[simp] theorem setState_currentThread {st : ThreadState} :
    (k.setState t st).currentThread = k.currentThread := rfl
@[simp] theorem setState_fault {st : ThreadState} : (k.setState t st).fault = k.fault := rfl
@[simp] theorem setState_history {st : ThreadState} : (k.setState t st).history = k.history := rfl

end Kernel

end RobotVacuum
