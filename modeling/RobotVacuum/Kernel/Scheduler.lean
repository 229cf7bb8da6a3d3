import RobotVacuum.Kernel.Thread
import Mathlib.Tactic.SplitIfs

/-!
# The scheduler

The functions of `scheduler.c` for a single processor and at most 32 priorities: linking a
thread into the ready table, unlinking it, and `rtSchedule`, which picks the first thread of
the most urgent nonempty list and dispatches it. Each runs with interrupts disabled, so each
is one function from kernel states to kernel states; the hardware context switch is the
change of `currentThread`.

`rtSchedule` has the early return of this project's kernel: it does nothing while the running
thread has its `preemptableFlag` set.
-/

set_option linter.unusedSectionVars false

namespace RobotVacuum

namespace Kernel

variable {T Q : Type} [DecidableEq T] [DecidableEq Q]

/-- `rt_list_remove` on the node of a thread. -/
def rtListRemove (k : Kernel T Q) (t : T) : Kernel T Q :=
  { k with queue := k.queue.remove t }

/-- `rt_list_insert_before` a list head: link a thread at the end of the list. -/
def rtListInsertBefore (k : Kernel T Q) (h : Head Q) (t : T) : Kernel T Q :=
  { k with queue := k.queue.append h t }

/-- An access of `rt_thread_priority_table` at an index. -/
def accessTable (k : Kernel T Q) (p : ℕ) : Kernel T Q :=
  if p < rtThreadPriorityMax then k else k.raise .outOfBounds

section Table

variable {k : Kernel T Q} {t : T} {p : ℕ}

@[simp] theorem rtListRemove_queue : (k.rtListRemove t).queue = k.queue.remove t := rfl
@[simp] theorem rtListRemove_thread : (k.rtListRemove t).thread = k.thread := rfl
@[simp] theorem rtListRemove_readyPriorityGroup :
    (k.rtListRemove t).readyPriorityGroup = k.readyPriorityGroup := rfl
@[simp] theorem rtListRemove_currentThread :
    (k.rtListRemove t).currentThread = k.currentThread := rfl
@[simp] theorem rtListRemove_fault : (k.rtListRemove t).fault = k.fault := rfl
@[simp] theorem rtListRemove_history : (k.rtListRemove t).history = k.history := rfl

@[simp] theorem accessTable_thread : (k.accessTable p).thread = k.thread := by
  unfold accessTable; split <;> rfl
@[simp] theorem accessTable_queue : (k.accessTable p).queue = k.queue := by
  unfold accessTable; split <;> rfl
@[simp] theorem accessTable_readyPriorityGroup :
    (k.accessTable p).readyPriorityGroup = k.readyPriorityGroup := by
  unfold accessTable; split <;> rfl
@[simp] theorem accessTable_currentThread :
    (k.accessTable p).currentThread = k.currentThread := by
  unfold accessTable; split <;> rfl
@[simp] theorem accessTable_history : (k.accessTable p).history = k.history := by
  unfold accessTable; split <;> rfl
theorem accessTable_of_lt (h : p < rtThreadPriorityMax) : k.accessTable p = k := if_pos h

end Table

/-- `rt_schedule_insert_thread`: the running thread is only marked running, any other is
marked ready and linked at the end of the list of its priority. -/
def rtScheduleInsertThread (k : Kernel T Q) (t : T) : Kernel T Q :=
  if t = k.currentThread then
    k.setState t .running
  else
    let k := k.setState t .ready
    let p := k.prio t
    let k := ((k.accessTable p).rtListInsertBefore (.ready p) t).record (.enter p t)
    { k with readyPriorityGroup := k.readyPriorityGroup ||| (k.thread t).numberMask }

/-- `rt_schedule_remove_thread`: unlink a thread, and clear the bit of its priority if that
leaves the list of its priority empty. -/
def rtScheduleRemoveThread (k : Kernel T Q) (t : T) : Kernel T Q :=
  let k := (k.rtListRemove t).record (.leave t)
  let p := k.prio t
  let k := k.accessTable p
  if k.queue (.ready p) = [] then
    { k with readyPriorityGroup := k.readyPriorityGroup &&& ~~~(k.thread t).numberMask }
  else k

section Effects

variable {k : Kernel T Q} {t t' : T}

theorem rtScheduleInsertThread_of_eq (h : t = k.currentThread) :
    k.rtScheduleInsertThread t = k.setState t .running := if_pos h

@[simp] theorem rtScheduleInsertThread_thread : (k.rtScheduleInsertThread t).thread =
    (k.setState t (if t = k.currentThread then .running else .ready)).thread := by
  unfold rtScheduleInsertThread
  split <;> simp [rtListInsertBefore]

theorem rtScheduleInsertThread_state : (k.rtScheduleInsertThread t).state t' =
    if t' = t then (if t = k.currentThread then .running else .ready) else k.state t' := by
  rw [state, rtScheduleInsertThread_thread]
  exact setState_state

@[simp] theorem rtScheduleInsertThread_prio :
    (k.rtScheduleInsertThread t).prio t' = k.prio t' := by
  rw [prio, rtScheduleInsertThread_thread]
  exact setState_prio

@[simp] theorem rtScheduleInsertThread_numberMask :
    ((k.rtScheduleInsertThread t).thread t').numberMask = (k.thread t').numberMask := by
  rw [rtScheduleInsertThread_thread, setState_numberMask]

@[simp] theorem rtScheduleInsertThread_frame :
    ((k.rtScheduleInsertThread t).thread t').frame = (k.thread t').frame := by
  rw [rtScheduleInsertThread_thread, setState_frame]

@[simp] theorem rtScheduleInsertThread_queue : (k.rtScheduleInsertThread t).queue =
    if t = k.currentThread then k.queue else k.queue.append (.ready (k.prio t)) t := by
  unfold rtScheduleInsertThread
  split <;> simp [rtListInsertBefore]

@[simp] theorem rtScheduleInsertThread_readyPriorityGroup :
    (k.rtScheduleInsertThread t).readyPriorityGroup = if t = k.currentThread then
      k.readyPriorityGroup else k.readyPriorityGroup ||| (k.thread t).numberMask := by
  unfold rtScheduleInsertThread
  split <;> simp [rtListInsertBefore]

@[simp] theorem rtScheduleInsertThread_currentThread :
    (k.rtScheduleInsertThread t).currentThread = k.currentThread := by
  unfold rtScheduleInsertThread
  split <;> simp [rtListInsertBefore]

@[simp] theorem rtScheduleInsertThread_history : (k.rtScheduleInsertThread t).history =
    k.history ++ if t = k.currentThread then [] else [.enter (k.prio t) t] := by
  unfold rtScheduleInsertThread
  split <;> simp [rtListInsertBefore]

theorem rtScheduleInsertThread_fault (h : k.prio t < rtThreadPriorityMax) :
    (k.rtScheduleInsertThread t).fault = k.fault := by
  simp only [rtScheduleInsertThread, setState_prio, accessTable_of_lt h]
  split <;> rfl

@[simp] theorem rtScheduleRemoveThread_thread :
    (k.rtScheduleRemoveThread t).thread = k.thread := by
  simp only [rtScheduleRemoveThread]
  split <;> simp

@[simp] theorem rtScheduleRemoveThread_state :
    (k.rtScheduleRemoveThread t).state t' = k.state t' := by
  rw [state, rtScheduleRemoveThread_thread]

@[simp] theorem rtScheduleRemoveThread_prio :
    (k.rtScheduleRemoveThread t).prio t' = k.prio t' := by
  rw [prio, rtScheduleRemoveThread_thread]

@[simp] theorem rtScheduleRemoveThread_queue :
    (k.rtScheduleRemoveThread t).queue = k.queue.remove t := by
  simp only [rtScheduleRemoveThread]
  split <;> simp

@[simp] theorem rtScheduleRemoveThread_readyPriorityGroup :
    (k.rtScheduleRemoveThread t).readyPriorityGroup =
      if k.queue.remove t (.ready (k.prio t)) = [] then
        k.readyPriorityGroup &&& ~~~(k.thread t).numberMask else k.readyPriorityGroup := by
  simp only [rtScheduleRemoveThread, accessTable_queue, record_queue, rtListRemove_queue, prio,
    record_thread, rtListRemove_thread]
  split <;> simp only [accessTable_readyPriorityGroup, accessTable_thread, record_thread,
    record_readyPriorityGroup, rtListRemove_thread, rtListRemove_readyPriorityGroup]

@[simp] theorem rtScheduleRemoveThread_currentThread :
    (k.rtScheduleRemoveThread t).currentThread = k.currentThread := by
  simp only [rtScheduleRemoveThread]
  split <;> simp

@[simp] theorem rtScheduleRemoveThread_history :
    (k.rtScheduleRemoveThread t).history = k.history ++ [.leave t] := by
  simp only [rtScheduleRemoveThread]
  split <;> simp

theorem rtScheduleRemoveThread_fault (h : k.prio t < rtThreadPriorityMax) :
    (k.rtScheduleRemoveThread t).fault = k.fault := by
  have ht : ((k.rtListRemove t).record (.leave t)).prio t < rtThreadPriorityMax := h
  simp only [rtScheduleRemoveThread, accessTable_of_lt ht]
  split <;> rfl

end Effects

/-- `_scheduler_get_highest_priority_thread`: the most urgent priority of the bitmap and the
first thread of its list, if there is one. -/
def schedulerGetHighestPriorityThread (k : Kernel T Q) : Option (ℕ × T) :=
  let highestReadyPriority := ffs k.readyPriorityGroup - 1
  (k.queue (.ready highestReadyPriority)).head?.map fun t => (highestReadyPriority, t)

/-- The running thread keeps the processor against a ready thread of priority `hp`: it is
running, and more urgent, or as urgent without having used up its time slice. -/
def keepsProcessor (th : Thread) (hp : ℕ) : Bool :=
  th.stat.state = .running &&
    (th.currentPriority < hp || th.currentPriority = hp && !th.stat.yield)

/-- Clear the yield bit of the running thread. -/
def clearYield (k : Kernel T Q) : Kernel T Q :=
  k.modify k.currentThread fun th => { th with stat := { th.stat with yield := false } }

/-- Take the processor from the running thread and give it to `toThread`, the first ready
thread, whose priority is `hp`. The running thread is queued first if it was running. -/
def switchTo (k : Kernel T Q) (hp : ℕ) (toThread : T) (needInsertFromThread : Bool) :
    Kernel T Q :=
  let fromThread := k.currentThread
  let k := k.setCurrent toThread
  let k := if needInsertFromThread then k.rtScheduleInsertThread fromThread else k
  ((k.record (.dispatch hp toThread)).rtScheduleRemoveThread toThread).setState toThread .running

/-- `rt_schedule`. -/
def rtSchedule (k : Kernel T Q) : Kernel T Q :=
  if k.schedulerLockNest ≠ 0 then k
  else if k.readyPriorityGroup = 0 then k
  else if (k.thread k.currentThread).preemptableFlag then k
  else match k.schedulerGetHighestPriorityThread with
    | none => k.raise .emptyList
    | some (hp, highest) =>
      let cur := k.thread k.currentThread
      let running : Bool := cur.stat.state = .running
      let toThread := if keepsProcessor cur hp then k.currentThread else highest
      let k := if running then k.clearYield else k
      if toThread ≠ k.currentThread then
        k.switchTo hp toThread running
      else
        (k.rtScheduleRemoveThread k.currentThread).setState k.currentThread .running

section Frames

variable {k : Kernel T Q} {t : T} {p : ℕ} {x : T} {b : Bool}

@[simp] theorem clearYield_frame : (k.clearYield.thread t).frame = (k.thread t).frame :=
  modify_frame rfl

@[simp] theorem switchTo_frame : ((k.switchTo p x b).thread t).frame = (k.thread t).frame := by
  cases b <;> simp [switchTo]

/-- A scheduling only writes scheduling states and the yield bit. -/
@[simp] theorem rtSchedule_frame : (k.rtSchedule.thread t).frame = (k.thread t).frame := by
  unfold rtSchedule
  split
  · rfl
  · split
    · rfl
    · split
      · rfl
      · split
        · rfl
        · dsimp only
          split_ifs <;> simp

end Frames

end Kernel

end RobotVacuum
