import RobotVacuum.Kernel.Operations

/-!
# The wait lists of inter-process objects

`_ipc_list_suspend` takes a thread off the processor and links it in the wait list of an
object, at the end or in front of the first less urgent thread; `rt_thread_resume` on the
first thread of the list wakes it. This file has what these two do to the ready queue, and the
field-by-field effects of suspending the running thread and of resuming a suspended one.

Both assert that the thread and its timer are registered objects (`Attached`), which holds of
every thread that was not detached.
-/

set_option linter.unusedSectionVars false

namespace RobotVacuum

namespace Kernel

variable {T Q : Type} [DecidableEq T] [DecidableEq Q]

/-- `RT_IPC_FLAG_FIFO` and `RT_IPC_FLAG_PRIO`: how a wait list is ordered. -/
inductive IpcFlag
  | fifo | prio
  deriving DecidableEq, Repr

/-- Link a thread in a wait list. -/
def rtListInsertWait (k : Kernel T Q) (q : Q) (t : T) : IpcFlag → Kernel T Q
  | .fifo => k.rtListInsertBefore (.wait q) t
  | .prio => { k with
      queue := k.queue.insertBefore (.wait q) (fun s => k.prio t < k.prio s) t }

/-- `_ipc_list_suspend`. It ignores that `rt_thread_suspend` refuses a thread that is suspended
already, and links its node a second time. -/
def ipcListSuspend (k : Kernel T Q) (q : Q) (t : T) (flag : IpcFlag) : Kernel T Q :=
  if k.state t = .suspend then k.raise .relink
  else (k.rtThreadSuspend t).rtListInsertWait q t flag

/-- Neither the thread nor its timer was detached. -/
structure Attached (k : Kernel T Q) (t : T) : Prop where
  object : (k.thread t).object ≠ .detached
  timer : (k.thread t).threadTimer.attached = true

variable {k k' : Kernel T Q} {t x : T} {p : ℕ} {q : Q} {flag : IpcFlag}

theorem Attached.of_frame (h : Attached k t)
    (hf : (k'.thread t).frame = (k.thread t).frame) : Attached k' t where
  object := by
    rw [Thread.of_frame (·.object) (fun _ => rfl) hf]
    exact h.object
  timer := by
    rw [Thread.of_frame (·.threadTimer.attached) (fun _ => rfl) hf]
    exact h.timer

theorem Attached.isThread (h : Attached k t) : k.isThread t = true := by
  simpa [Kernel.isThread] using h.object

/-! ### Linking -/

section Link

@[simp] theorem rtListInsertWait_thread : (k.rtListInsertWait q t flag).thread = k.thread := by
  cases flag <;> rfl
@[simp] theorem rtListInsertWait_readyPriorityGroup :
    (k.rtListInsertWait q t flag).readyPriorityGroup = k.readyPriorityGroup := by
  cases flag <;> rfl
@[simp] theorem rtListInsertWait_currentThread :
    (k.rtListInsertWait q t flag).currentThread = k.currentThread := by
  cases flag <;> rfl
@[simp] theorem rtListInsertWait_history :
    (k.rtListInsertWait q t flag).history = k.history := by
  cases flag <;> rfl
@[simp] theorem rtListInsertWait_fault : (k.rtListInsertWait q t flag).fault = k.fault := by
  cases flag <;> rfl
@[simp] theorem rtListInsertWait_state : (k.rtListInsertWait q t flag).state x = k.state x := by
  cases flag <;> rfl
@[simp] theorem rtListInsertWait_prio : (k.rtListInsertWait q t flag).prio x = k.prio x := by
  cases flag <;> rfl

@[simp] theorem rtListInsertWait_ready :
    (k.rtListInsertWait q t flag).queue (.ready p) = k.queue (.ready p) := by
  have hne : (Head.ready p : Head Q) ≠ .wait q := by simp
  cases flag with
  | fifo => exact ListFamily.append_of_ne (q := k.queue) (x := t) hne
  | prio =>
    exact ListFamily.insertBefore_of_ne (q := k.queue) (x := t)
      (p := fun s => k.prio t < k.prio s) hne

theorem mem_rtListInsertWait {h : Head Q} : x ∈ (k.rtListInsertWait q t flag).queue h ↔
    x ∈ k.queue h ∨ h = .wait q ∧ x = t := by
  cases flag with
  | fifo => exact ListFamily.mem_append
  | prio => exact ListFamily.mem_insertBefore

/-- Linking a suspended thread that is in no list keeps the ready-queue invariant. -/
theorem ReadyQueueInv.rtListInsertWait (h : ReadyQueueInv k) (hs : k.state t = .suspend)
    (hl : ¬ k.queue.Linked t) : ReadyQueueInv (k.rtListInsertWait q t flag) where
  table :=
    { proper := by
        cases flag with
        | fifo => exact h.table.proper.append hl
        | prio => exact h.table.proper.insertBefore hl
      prio := fun hm => by
        rw [rtListInsertWait_ready] at hm
        rw [rtListInsertWait_prio, h.table.prio hm]
      bit := fun p hlt => by
        rw [rtListInsertWait_readyPriorityGroup, rtListInsertWait_ready, h.table.bit p hlt]
      orderly := by
        rw [rtListInsertWait_history]
        exact h.table.orderly
      log := fun p => by
        rw [rtListInsertWait_ready, rtListInsertWait_history, h.table.log] }
  ready_iff x := by simp [h.ready_iff]
  wait {q' x} hm := by
    rw [rtListInsertWait_state]
    rcases mem_rtListInsertWait.mp hm with hm | ⟨-, rfl⟩
    · exact h.wait hm
    · exact hs
  running hr := by
    rw [rtListInsertWait_state] at hr
    rw [rtListInsertWait_currentThread, h.running hr]
  current := by
    rw [rtListInsertWait_state, rtListInsertWait_currentThread]
    exact h.current
  mask hs := by
    rw [rtListInsertWait_state, rtListInsertWait_currentThread] at hs
    rw [rtListInsertWait_thread]
    exact h.mask hs

end Link

/-! ### Suspending the running thread -/

section Suspend

theorem rtThreadSuspend_eq (ha : Attached k t) (hr : k.state t = .running)
    (ht : t = k.currentThread) : k.rtThreadSuspend t =
      ((k.rtScheduleRemoveThread t).setState t .suspend).modify t fun th =>
        { th with threadTimer := { th.threadTimer with activated := false } } := by
  have htimer : (((k.rtScheduleRemoveThread t).setState t .suspend).thread
      t).threadTimer.attached = true := by
    simpa [setState, Thread.withState] using ha.timer
  simp [rtThreadSuspend, ha.isThread, hr, ht.symm, stopThreadTimer, htimer]

theorem rtThreadSuspend_state (ha : Attached k t) (hr : k.state t = .running)
    (ht : t = k.currentThread) :
    (k.rtThreadSuspend t).state x = if x = t then .suspend else k.state x := by
  rw [rtThreadSuspend_eq ha hr ht, modify_state]
  split
  · exact setState_state.trans (if_pos rfl)
  · next hx => rw [setState_state, if_neg hx, rtScheduleRemoveThread_state]

@[simp] theorem stopThreadTimer_frame :
    ((k.stopThreadTimer t).thread x).frame = (k.thread x).frame := by
  unfold stopThreadTimer
  split
  · rfl
  · exact modify_frame rfl

@[simp] theorem rtThreadSuspend_frame :
    ((k.rtThreadSuspend t).thread x).frame = (k.thread x).frame := by
  unfold rtThreadSuspend
  split_ifs <;> simp

theorem rtThreadSuspend_queue (ha : Attached k t) (hr : k.state t = .running)
    (ht : t = k.currentThread) : (k.rtThreadSuspend t).queue = k.queue.remove t := by
  rw [rtThreadSuspend_eq ha hr ht]
  simp

@[simp] theorem stopThreadTimer_currentThread :
    (k.stopThreadTimer t).currentThread = k.currentThread := by
  unfold stopThreadTimer
  split <;> rfl

@[simp] theorem rtThreadSuspend_currentThread :
    (k.rtThreadSuspend t).currentThread = k.currentThread := by
  unfold rtThreadSuspend
  split_ifs <;> simp

end Suspend

/-! ### Waiting and waking -/

section Wait

@[simp] theorem ipcListSuspend_frame :
    ((k.ipcListSuspend q t flag).thread x).frame = (k.thread x).frame := by
  unfold ipcListSuspend
  split <;> simp

@[simp] theorem ipcListSuspend_prio : (k.ipcListSuspend q t flag).prio x = k.prio x :=
  Thread.of_frame (·.currentPriority) (fun _ => rfl) ipcListSuspend_frame

@[simp] theorem ipcListSuspend_currentThread :
    (k.ipcListSuspend q t flag).currentThread = k.currentThread := by
  unfold ipcListSuspend
  split <;> simp

theorem ReadyQueueInv.ipcListSuspend (h : ReadyQueueInv k) (ha : Attached k t)
    (hr : k.state t = .running) (ht : t = k.currentThread) :
    ReadyQueueInv (k.ipcListSuspend q t flag) := by
  rw [Kernel.ipcListSuspend, if_neg (by simp [hr])]
  refine h.rtThreadSuspend.rtListInsertWait ?_ ?_
  · rw [rtThreadSuspend_state ha hr ht, if_pos rfl]
  · rw [rtThreadSuspend_queue ha hr ht]
    exact h.table.proper.not_linked_remove

theorem Contained.ipcListSuspend (h : Contained k) (hr : k.state t = .running) :
    Contained (k.ipcListSuspend q t flag) := by
  rw [Kernel.ipcListSuspend, if_neg (by simp [hr])]
  exact h.rtThreadSuspend.of_frame (fun _ => by rw [rtListInsertWait_thread])
    rtListInsertWait_fault

@[simp] theorem rtThreadResume_frame :
    ((k.rtThreadResume t).thread x).frame = (k.thread x).frame := by
  unfold rtThreadResume
  split_ifs <;> simp

@[simp] theorem rtThreadResume_currentThread :
    (k.rtThreadResume t).currentThread = k.currentThread := by
  unfold rtThreadResume
  split_ifs <;> simp

end Wait

end Kernel

end RobotVacuum
