import RobotVacuum.Kernel.Scheduler

/-!
# Thread operations

The functions of `thread.c` and the per-tick accounting of `clock.c`, over `Kernel`. An
operation whose assertion fails records `Fault.assertion` and changes nothing else. A thread's
own timer appears as its two flags, since that is all these functions use of it.
-/

set_option linter.unusedSectionVars false

namespace RobotVacuum

namespace Kernel

variable {T Q : Type} [DecidableEq T] [DecidableEq Q]

/-- `RT_ASSERT` on the type of a thread object: it must still be registered as a thread. -/
def isThread (k : Kernel T Q) (t : T) : Bool := (k.thread t).object ≠ .detached

/-- `rt_timer_stop` on the built-in timer of a thread. -/
def stopThreadTimer (k : Kernel T Q) (t : T) : Kernel T Q :=
  if !(k.thread t).threadTimer.attached then k.raise .assertion
  else k.modify t fun th => { th with threadTimer := { th.threadTimer with activated := false } }

/-- `rt_timer_detach` on the built-in timer of a thread. -/
def detachThreadTimer (k : Kernel T Q) (t : T) : Kernel T Q :=
  if !(k.thread t).threadTimer.attached then k.raise .assertion
  else k.modify t fun th => { th with threadTimer := { attached := false, activated := false } }

/-- `rt_thread_free_sig`: give the queued signal nodes of a thread back to the pool. -/
def rtThreadFreeSig (k : Kernel T Q) (t : T) : Kernel T Q :=
  let n := (k.thread t).siList.length
  let k := k.modify t fun th => { th with siList := [] }
  { k with siginfoPool := k.siginfoPool + n }

/-- `rt_thread_resume`: queue a suspended thread as ready, or mark it running again if it has
not left the processor. -/
def rtThreadResume (k : Kernel T Q) (t : T) : Kernel T Q :=
  if !k.isThread t then k.raise .assertion
  else if k.state t ≠ .suspend then k
  else ((k.rtListRemove t).stopThreadTimer t).rtScheduleInsertThread t

/-- The first part of `rt_thread_startup`, up to the scheduling it ends with. -/
def rtThreadStartupQueue (k : Kernel T Q) (t : T) : Kernel T Q :=
  if k.state t ≠ .init then k.raise .assertion
  else if !k.isThread t then k.raise .assertion
  else
    (k.modify t fun th =>
      { th with
        currentPriority := th.initPriority
        numberMask := priorityMask 32 th.initPriority
        stat := { state := .suspend } }).rtThreadResume t

/-- `rt_thread_startup`. -/
def rtThreadStartup (k : Kernel T Q) (t : T) : Kernel T Q :=
  if k.state t ≠ .init ∨ k.isThread t = false then k.raise .assertion
  else (k.rtThreadStartupQueue t).rtSchedule

/-- `rt_thread_suspend`. The running thread may suspend only itself, and stays on the
processor until the next scheduling. -/
def rtThreadSuspend (k : Kernel T Q) (t : T) : Kernel T Q :=
  if !k.isThread t then k.raise .assertion
  else if k.state t ≠ .ready ∧ k.state t ≠ .running then k
  else if k.state t = .running ∧ t ≠ k.currentThread then k.raise .assertion
  else ((k.rtScheduleRemoveThread t).setState t .suspend).stopThreadTimer t

/-- `rt_thread_yield`. -/
def rtThreadYield (k : Kernel T Q) : Kernel T Q :=
  (k.modify k.currentThread fun th =>
    { th with remainingTick := th.initTick, stat := { th.stat with yield := true } }).rtSchedule

/-- Write a thread's priority and recompute its mask. The field is one byte wide. -/
def changePriority (th : Thread) (arg : BitVec 32) : Thread :=
  { th with
    currentPriority := arg.toNat % 256
    numberMask := priorityMask 32 (arg.toNat % 256) }

/-- `rt_thread_control(thread, RT_THREAD_CTRL_CHANGE_PRIORITY, arg)`: a ready thread moves to
the list of its new priority. The argument is the new priority itself, not a pointer to it. -/
def rtThreadControl (k : Kernel T Q) (t : T) (arg : BitVec 32) : Kernel T Q :=
  if !k.isThread t then k.raise .assertion
  else if k.state t = .ready then
    ((k.rtScheduleRemoveThread t).modify t (changePriority · arg)).rtScheduleInsertThread t
  else k.modify t (changePriority · arg)

section Control

variable {k : Kernel T Q} {t x : T} {arg : BitVec 32}

/-- Changing a priority writes the priority and the mask of one thread, besides queueing. -/
theorem rtThreadControl_frame (h : k.isThread t = true) (x : T) (arg : BitVec 32) :
    ((k.rtThreadControl t arg).thread x).frame =
      (if x = t then changePriority (k.thread t) arg else k.thread x).frame := by
  rw [rtThreadControl, h]
  simp only [Bool.not_true, Bool.false_eq_true, if_false]
  split
  · rw [rtScheduleInsertThread_frame, modify_thread, rtScheduleRemoveThread_thread]
  · rw [modify_thread]

theorem rtThreadControl_prio (h : k.isThread t = true) :
    (k.rtThreadControl t arg).prio x = if x = t then arg.toNat % 256 else k.prio x := by
  rw [prio, Thread.of_frame (·.currentPriority) (fun _ => rfl) (rtThreadControl_frame h _ _)]
  split <;> rfl

theorem rtThreadControl_state (h : k.isThread t = true) (ht : t ≠ k.currentThread) :
    (k.rtThreadControl t arg).state x = k.state x := by
  rw [rtThreadControl, h]
  simp only [Bool.not_true, Bool.false_eq_true, if_false]
  split
  · next hr =>
    rw [rtScheduleInsertThread_state]
    split
    · next hx => simp [hx, ht, hr]
    · next hx => rw [modify_state, if_neg hx, rtScheduleRemoveThread_state]
  · rw [modify_state]
    split
    · next hx => rw [hx]; rfl
    · rfl

@[simp] theorem rtThreadControl_currentThread :
    (k.rtThreadControl t arg).currentThread = k.currentThread := by
  unfold rtThreadControl
  split_ifs <;> simp

end Control

/-- The second statement of `set_task_as_not_preemptable` and `set_task_as_preemptable`. -/
def setPreemptableFlag (k : Kernel T Q) (t : T) (b : Bool) : Kernel T Q :=
  k.modify t fun th => { th with preemptableFlag := b }

/-- `set_task_as_not_preemptable`. -/
def setTaskAsNotPreemptable (k : Kernel T Q) (t : T) : Kernel T Q :=
  (k.rtThreadControl t 0x0).setPreemptableFlag t true

/-- `set_task_as_preemptable`. -/
def setTaskAsPreemptable (k : Kernel T Q) (t : T) (priority : BitVec 32) : Kernel T Q :=
  (k.rtThreadControl t priority).setPreemptableFlag t false

/-- Close a thread: the status byte becomes `RT_THREAD_CLOSE` as a whole. -/
def close (k : Kernel T Q) (t : T) : Kernel T Q :=
  k.modify t fun th => { th with stat := Stat.closed }

/-- `rt_object_detach` for a static thread; a dynamic one goes to the list of defunct threads
and keeps its type. -/
def detachObject (k : Kernel T Q) (t : T) : Kernel T Q :=
  if (k.thread t).object = .static then k.modify t fun th => { th with object := .detached }
  else k

/-- `rt_thread_detach`. It compares the scheduling state alone, without the flag bits. -/
def rtThreadDetach (k : Kernel T Q) (t : T) : Kernel T Q :=
  if (k.thread t).object ≠ .static then k.raise .assertion
  else if k.state t = .close then k
  else
    let k := if k.state t ≠ .init then k.rtScheduleRemoveThread t else k
    (((k.rtThreadFreeSig t).detachThreadTimer t).close t).detachObject t

/-- `_thread_exit`: the running thread returned from its entry function. -/
def threadExit (k : Kernel T Q) : Kernel T Q :=
  let t := k.currentThread
  (((((k.rtThreadFreeSig t).rtScheduleRemoveThread t).close t).detachThreadTimer
    t).detachObject t).rtSchedule

/-- `rt_thread_timeout`: a suspended thread gave up waiting. -/
def rtThreadTimeout (k : Kernel T Q) (t : T) : Kernel T Q :=
  if k.state t ≠ .suspend ∨ k.isThread t = false then k.raise .assertion
  else
    let k := k.modify t fun th => { th with error := .etimeout }
    ((k.rtListRemove t).rtScheduleInsertThread t).rtSchedule

/-- `rt_tick_increase` up to the timer check: advance the clock, charge the tick to the running
thread, and schedule with its yield bit set when its time slice is over. -/
def rtTickCharge (k : Kernel T Q) : Kernel T Q :=
  let t := k.currentThread
  let k := { k with tick := k.tick + 1 }
  let k := k.modify t fun th =>
    { th with remainingTick := th.remainingTick - 1, tickCount := th.tickCount - 1 }
  if (k.thread t).remainingTick = 0 then
    (k.modify t fun th =>
      { th with remainingTick := th.initTick, stat := { th.stat with yield := true } }).rtSchedule
  else k

/-- `rt_tick_increase`, with the timeout functions of the timers that are due. -/
def rtTickIncrease (k : Kernel T Q) (rtTimerCheck : Kernel T Q → Kernel T Q) : Kernel T Q :=
  rtTimerCheck k.rtTickCharge

/-! ### The per-job tick counters -/

/-- `set_task_started`: the job is to last at least `duration` ticks of its own. -/
def setTaskStarted (k : Kernel T Q) (t : T) (duration : ℕ) : Kernel T Q :=
  k.modify t fun th => { th with tickCount := duration % 0x10000, endFlag := false }

/-- `set_task_ended`. -/
def setTaskEnded (k : Kernel T Q) (t : T) : Kernel T Q :=
  k.modify t fun th => { th with endFlag := true }

end Kernel

end RobotVacuum
