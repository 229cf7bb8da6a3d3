import RobotVacuum.Kernel.ReadyQueue

/-!
# Sequences of kernel operations

`KernelOp` lists the operations of the kernel that touch the ready queue, and `kernelOps` is
the automaton that performs any sequence of them, starting where one thread runs and the
others were initialized but not started. The ready-queue invariant holds at every reachable
state, and so does its reading in the words of the source, `ReadyQueueSound`.

Most operations are a few queue operations surrounded by writes the scheduler never reads.
`SchedEq` relates two kernels that differ in such writes only.
-/

set_option linter.unusedSectionVars false

namespace RobotVacuum

namespace Kernel

variable {T Q : Type} [DecidableEq T] [DecidableEq Q]
variable {k k' k'' : Kernel T Q} {t t' : T} {p : ℕ} {f : Thread → Thread}

/-! ### Writes the scheduler never reads -/

/-- The two kernels agree on the lists, the bitmap, the history, the running thread, and the
state, priority and mask of every thread. -/
structure SchedEq (k k' : Kernel T Q) : Prop where
  queue : k'.queue = k.queue
  group : k'.readyPriorityGroup = k.readyPriorityGroup
  history : k'.history = k.history
  current : k'.currentThread = k.currentThread
  state : ∀ t, k'.state t = k.state t
  prio : ∀ t, k'.prio t = k.prio t
  mask : ∀ t, (k'.thread t).numberMask = (k.thread t).numberMask

namespace SchedEq

theorem refl (k : Kernel T Q) : SchedEq k k :=
  ⟨rfl, rfl, rfl, rfl, fun _ => rfl, fun _ => rfl, fun _ => rfl⟩

theorem trans (h : SchedEq k k') (h' : SchedEq k' k'') : SchedEq k k'' where
  queue := h'.queue.trans h.queue
  group := h'.group.trans h.group
  history := h'.history.trans h.history
  current := h'.current.trans h.current
  state t := (h'.state t).trans (h.state t)
  prio t := (h'.prio t).trans (h.prio t)
  mask t := (h'.mask t).trans (h.mask t)

/-- Writing a control block outside the state, the priority and the mask. -/
theorem modify (hs : (f (k.thread t)).stat.state = k.state t)
    (hp : (f (k.thread t)).currentPriority = k.prio t)
    (hm : (f (k.thread t)).numberMask = (k.thread t).numberMask) : SchedEq k (k.modify t f) := by
  refine ⟨rfl, rfl, rfl, rfl, fun t' => ?_, fun t' => ?_, fun t' => ?_⟩
  · rw [modify_state]
    split
    · next ht => rw [hs, ht]
    · rfl
  · rw [modify_prio]
    split
    · next ht => rw [hp, ht]
    · rfl
  · rw [modify_thread]
    split
    · next ht => rw [hm, ht]
    · rfl

theorem raise (k : Kernel T Q) (e : Fault) : SchedEq k (k.raise e) :=
  ⟨rfl, rfl, rfl, rfl, fun _ => rfl, fun _ => rfl, fun _ => rfl⟩

theorem stopThreadTimer (k : Kernel T Q) (t : T) : SchedEq k (k.stopThreadTimer t) := by
  unfold Kernel.stopThreadTimer
  split
  · exact raise k _
  · exact modify rfl rfl rfl

theorem detachThreadTimer (k : Kernel T Q) (t : T) : SchedEq k (k.detachThreadTimer t) := by
  unfold Kernel.detachThreadTimer
  split
  · exact raise k _
  · exact modify rfl rfl rfl

theorem rtThreadFreeSig (k : Kernel T Q) (t : T) : SchedEq k (k.rtThreadFreeSig t) := by
  have h : SchedEq k (k.modify t fun th => { th with siList := [] }) := modify rfl rfl rfl
  exact ⟨h.queue, h.group, h.history, h.current, h.state, h.prio, h.mask⟩

theorem detachObject (k : Kernel T Q) (t : T) : SchedEq k (k.detachObject t) := by
  unfold Kernel.detachObject
  split
  · exact modify rfl rfl rfl
  · exact refl k

theorem close (h : SchedEq k k') (t : T) : SchedEq (k.close t) (k'.close t) where
  queue := h.queue
  group := h.group
  history := h.history
  current := h.current
  state t' := by
    simp only [Kernel.close, modify_state]
    split
    · rfl
    · exact h.state t'
  prio t' := by
    simp only [Kernel.close, modify_prio]
    split
    · exact h.prio t
    · exact h.prio t'
  mask t' := by
    simp only [Kernel.close, modify_thread]
    split
    · exact h.mask t
    · exact h.mask t'

end SchedEq

/-- The invariant only reads what the scheduler reads. -/
theorem ReadyQueueInv.of_schedEq (h : ReadyQueueInv k) (he : SchedEq k k') : ReadyQueueInv k' :=
  h.congr he.queue he.group he.history he.current he.state he.prio he.mask

/-! ### One lemma for each operation -/

namespace ReadyQueueInv

theorem raise (h : ReadyQueueInv k) (e : Fault) : ReadyQueueInv (k.raise e) :=
  h.of_schedEq (.raise k e)

/-- Unlinking a thread and writing a state that is neither ready nor running. -/
theorem removeThread (h : ReadyQueueInv k) (hm : MaskOk (k.thread t))
    (hr : (f (k.thread t)).stat.state ≠ .ready) (hrun : (f (k.thread t)).stat.state ≠ .running)
    (hp : (f (k.thread t)).currentPriority = k.prio t)
    (hmask : (f (k.thread t)).numberMask = (k.thread t).numberMask) :
    ReadyQueueInv ((k.rtScheduleRemoveThread t).modify t f) := by
  have hne : ∀ x, x ≠ t → ((k.rtScheduleRemoveThread t).modify t f).thread x = k.thread x :=
    fun x hx => by rw [modify_thread_of_ne hx, rtScheduleRemoveThread_thread]
  have hself : ((k.rtScheduleRemoveThread t).modify t f).thread t = f (k.thread t) := by simp
  refine h.unlink (t := t) ?_ (by simp) ?_ (fun x hx => by rw [state, hne x hx])
    (by rwa [state, hself]) (fun hs => absurd (by rwa [state, hself] at hs) hrun)
    (fun x hx hmx => by rwa [hne x hx]) fun _ => ?_
  · refine (h.table.rtScheduleRemoveThread hm).modify fun _ => ?_
    simpa using hp
  · intro h' x
    rw [modify_queue, rtScheduleRemoveThread_queue, h.table.proper.mem_remove]
  · rw [hself, MaskOk, hmask, hp]
    exact hm

/-- Writing a control block of a thread that is in no list: its state may become suspended,
with the mask of its priority, or closed. -/
theorem modifyUnlinked (h : ReadyQueueInv k) (hl : ¬ k.queue.Linked t)
    (hr : (f (k.thread t)).stat.state ≠ .ready) (hrun : (f (k.thread t)).stat.state ≠ .running)
    (hm : (f (k.thread t)).stat.state.started = true ∨ t = k.currentThread →
      MaskOk (f (k.thread t))) :
    ReadyQueueInv (k.modify t f) := by
  refine h.unlink (t := t) (h.table.modify fun ⟨p, hmem⟩ => absurd ⟨_, hmem⟩ hl) rfl ?_
    (fun x hx => by rw [modify_state, if_neg hx]) (by rwa [modify_state, if_pos rfl])
    (fun hs => absurd (by rwa [modify_state, if_pos rfl] at hs) hrun)
    (fun x hx hmx => by rwa [modify_thread_of_ne hx]) fun hs => ?_
  · intro h' x
    exact ⟨fun hmem => ⟨fun hx => hl ⟨h', hx ▸ hmem⟩, hmem⟩, fun hmem => hmem.2⟩
  · rw [modify_state, if_pos rfl] at hs
    rw [modify_thread_same]
    exact hm hs

theorem rtThreadResume (h : ReadyQueueInv k) : ReadyQueueInv (k.rtThreadResume t) := by
  unfold Kernel.rtThreadResume
  split
  · exact h.raise _
  · split
    · exact h
    · next hs =>
      have hs : k.state t = .suspend := not_not.mp hs
      have he := SchedEq.stopThreadTimer (k.rtListRemove t) t
      have hi := (h.rtListRemove hs).of_schedEq he
      refine hi.rtScheduleInsertThread ?_ (hi.mask ?_)
      · rw [he.queue, rtListRemove_queue]
        exact h.table.proper.not_linked_remove
      · rw [he.state]
        exact .inl (hs ▸ rfl)

theorem rtThreadStartupQueue (h : ReadyQueueInv k) : ReadyQueueInv (k.rtThreadStartupQueue t) := by
  unfold Kernel.rtThreadStartupQueue
  split
  · exact h.raise _
  · next hs =>
    have hs : k.state t = .init := not_not.mp hs
    split
    · exact h.raise _
    · have hl : ¬ k.queue.Linked t := h.not_linked (by simp [hs]) (by simp [hs])
      refine rtThreadResume (h.modifyUnlinked hl ?_ ?_ fun _ => rfl) <;> simp

theorem rtThreadStartup (h : ReadyQueueInv k) : ReadyQueueInv (k.rtThreadStartup t) := by
  unfold Kernel.rtThreadStartup
  split
  · exact h.raise _
  · exact h.rtThreadStartupQueue.rtSchedule

theorem rtThreadSuspend (h : ReadyQueueInv k) : ReadyQueueInv (k.rtThreadSuspend t) := by
  unfold Kernel.rtThreadSuspend
  split
  · exact h.raise _
  · split
    · exact h
    · next hs =>
      split
      · exact h.raise _
      · have hstarted : (k.state t).started = true := by
          rcases hst : k.state t with _ | _ | _ | _ | _ <;> simp [hst] at hs ⊢
        exact (h.removeThread (h.mask (.inl hstarted)) (by simp [Thread.withState])
          (by simp [Thread.withState]) rfl rfl).of_schedEq (.stopThreadTimer _ _)

theorem rtThreadYield (h : ReadyQueueInv k) : ReadyQueueInv k.rtThreadYield :=
  (h.of_schedEq (.modify rfl rfl rfl)).rtSchedule

theorem rtThreadControl (h : ReadyQueueInv k) {arg : BitVec 32} :
    ReadyQueueInv (k.rtThreadControl t arg) := by
  unfold Kernel.rtThreadControl
  split
  · exact h.raise _
  · split
    · next hr =>
      -- a ready thread is unlinked, changed and linked again under its new priority
      have hne : t ≠ k.currentThread := h.ne_current (h.mem_own hr)
      have hm : MaskOk (k.thread t) := h.mask (by simp [hr])
      have hrem : (k.rtScheduleRemoveThread t).queue = k.queue.remove t := by simp
      have hunlinked : ¬ (k.rtScheduleRemoveThread t).queue.Linked t := by
        rw [hrem]
        exact h.table.proper.not_linked_remove
      have htab := ((h.table.rtScheduleRemoveThread hm).modify (f := (changePriority · arg))
        fun hmem => absurd (hmem.elim fun _ hp => ⟨_, hp⟩) hunlinked).rtScheduleInsertThread
          hunlinked (by rw [modify_thread_same]; exact rfl)
      have hother : ∀ x, x ≠ t →
          ((k.rtScheduleRemoveThread t).modify t (changePriority · arg)).thread x = k.thread x :=
        fun x hx => by rw [modify_thread_of_ne hx, rtScheduleRemoveThread_thread]
      refine h.link (t := t) (p := arg.toNat % 256) htab hne (by simp) ?_ ?_ ?_ ?_ ?_
      · intro h' x
        rw [rtScheduleInsertThread_queue, if_neg (by simpa using hne), ListFamily.mem_append,
          modify_queue, hrem, h.table.proper.mem_remove, modify_prio, if_pos rfl]
        rfl
      · intro x hx
        rw [rtScheduleInsertThread_state, if_neg hx, state, hother x hx]
      · simp [rtScheduleInsertThread_state, hne]
      · intro x hx hmx
        rw [MaskOk, rtScheduleInsertThread_numberMask, hother x hx]
        refine hmx.trans (congrArg _ ?_)
        exact ((rtScheduleInsertThread_prio).trans (by rw [prio, hother x hx])).symm
      · rw [MaskOk, rtScheduleInsertThread_numberMask, modify_thread_same]
        refine congrArg (priorityMask 32) (Eq.symm ?_)
        exact rtScheduleInsertThread_prio.trans (by rw [modify_prio, if_pos rfl]; rfl)
    · next hr =>
      have hst : ∀ x, (k.modify t (changePriority · arg)).state x = k.state x := fun x => by
        rw [modify_state]
        split
        · next hx => rw [hx]; rfl
        · rfl
      refine ⟨h.table.modify fun hm => absurd ((h.ready_iff t).mpr hm) hr,
        fun x => ?_, fun hm => ?_, fun hs => ?_, ?_, fun {x} hi => ?_⟩
      · rw [hst, modify_queue, h.ready_iff]
      · rw [hst, h.wait hm]
      · rw [hst] at hs
        exact h.running hs
      · rw [hst]
        exact h.current
      · rw [modify_thread]
        split
        · exact rfl
        · exact h.mask (hst x ▸ hi)

theorem setPreemptableFlag (h : ReadyQueueInv k) {b : Bool} :
    ReadyQueueInv (k.setPreemptableFlag t b) :=
  h.of_schedEq (.modify rfl rfl rfl)

theorem setTaskAsNotPreemptable (h : ReadyQueueInv k) :
    ReadyQueueInv (k.setTaskAsNotPreemptable t) :=
  h.rtThreadControl.setPreemptableFlag

theorem setTaskAsPreemptable (h : ReadyQueueInv k) {arg : BitVec 32} :
    ReadyQueueInv (k.setTaskAsPreemptable t arg) :=
  h.rtThreadControl.setPreemptableFlag

theorem rtThreadDetach (h : ReadyQueueInv k) : ReadyQueueInv (k.rtThreadDetach t) := by
  unfold Kernel.rtThreadDetach
  split
  · exact h.raise _
  · split
    · exact h
    · refine of_schedEq ?_ (.detachObject _ _)
      -- closing the thread right after unlinking it gives the same queues
      refine of_schedEq (k := Kernel.close _ t) ?_
        (SchedEq.close ((SchedEq.rtThreadFreeSig _ t).trans (.detachThreadTimer _ t)) t)
      by_cases hi : k.state t = .init
      · rw [if_neg (not_not.mpr hi)]
        have hl : ¬ k.queue.Linked t := h.not_linked (by simp [hi]) (by simp [hi])
        exact h.modifyUnlinked hl (by simp [Stat.closed]) (by simp [Stat.closed])
          fun hc => h.mask (.inr (hc.resolve_left (by simp [Stat.closed])))
      · rw [if_pos hi]
        have hstarted : (k.state t).started = true := by
          rcases hst : k.state t with _ | _ | _ | _ | _ <;> simp_all
        exact h.removeThread (f := fun th => { th with stat := Stat.closed })
          (h.mask (.inl hstarted))
          (by simp [Stat.closed]) (by simp [Stat.closed]) rfl rfl

/-- The kernel just before the scheduling that ends `_thread_exit`. -/
theorem beforeExit (h : ReadyQueueInv k) : ReadyQueueInv
    (((((k.rtThreadFreeSig k.currentThread).rtScheduleRemoveThread k.currentThread).close
      k.currentThread).detachThreadTimer k.currentThread).detachObject k.currentThread) := by
  have hfree := SchedEq.rtThreadFreeSig k k.currentThread
  have hclose := (h.of_schedEq hfree).removeThread (f := fun th => { th with stat := Stat.closed })
    ((h.of_schedEq hfree).mask (.inr hfree.current.symm))
    (by simp [Stat.closed]) (by simp [Stat.closed]) rfl rfl
  exact (hclose.of_schedEq (.detachThreadTimer _ _)).of_schedEq (.detachObject _ _)

theorem threadExit (h : ReadyQueueInv k) : ReadyQueueInv k.threadExit := h.beforeExit.rtSchedule

/-- The kernel just before the scheduling that ends `rt_thread_timeout`. -/
theorem beforeTimeout (h : ReadyQueueInv k) (hs : k.state t = .suspend) : ReadyQueueInv
    (((k.modify t fun th => { th with error := .etimeout }).rtListRemove
      t).rtScheduleInsertThread t) := by
  have he : SchedEq k (k.modify t fun th => { th with error := .etimeout }) :=
    .modify rfl rfl rfl
  have hrem := (h.of_schedEq he).rtListRemove (t := t) (by rw [he.state, hs])
  refine hrem.rtScheduleInsertThread ?_ (hrem.mask ?_)
  · exact h.table.proper.not_linked_remove
  · exact .inl ((he.state t).trans hs ▸ rfl)

theorem rtThreadTimeout (h : ReadyQueueInv k) : ReadyQueueInv (k.rtThreadTimeout t) := by
  unfold Kernel.rtThreadTimeout
  split
  · exact h.raise _
  · next hs =>
    exact (h.beforeTimeout (not_not.mp (not_or.mp hs).1)).rtSchedule

/-- The kernel after the accounting of a tick, before a scheduling. -/
theorem charged (h : ReadyQueueInv k) : ReadyQueueInv (({ k with tick := k.tick + 1 } :
    Kernel T Q).modify k.currentThread fun th =>
      { th with remainingTick := th.remainingTick - 1, tickCount := th.tickCount - 1 }) := by
  have htick : SchedEq k { k with tick := k.tick + 1 } :=
    ⟨rfl, rfl, rfl, rfl, fun _ => rfl, fun _ => rfl, fun _ => rfl⟩
  exact (h.of_schedEq htick).of_schedEq (.modify rfl rfl rfl)

theorem rtTickCharge (h : ReadyQueueInv k) : ReadyQueueInv k.rtTickCharge := by
  unfold Kernel.rtTickCharge
  dsimp only
  split
  · exact (h.charged.of_schedEq (.modify rfl rfl rfl)).rtSchedule
  · exact h.charged

end ReadyQueueInv

/-! ### Priorities -/

namespace PrioritiesBounded

/-- Whatever keeps the frames keeps the bound. -/
theorem of_frame (h : PrioritiesBounded k)
    (hf : ∀ t, (k'.thread t).frame = (k.thread t).frame) : PrioritiesBounded k' := fun t => by
  have hp : k'.prio t = k.prio t := Thread.of_frame (·.currentPriority) (fun _ => rfl) (hf t)
  have hi : (k'.thread t).initPriority = (k.thread t).initPriority :=
    Thread.of_frame (·.initPriority) (fun _ => rfl) (hf t)
  rw [hp, hi]
  exact h t

theorem modify (h : PrioritiesBounded k)
    (hp : (f (k.thread t)).currentPriority < rtThreadPriorityMax)
    (hi : (f (k.thread t)).initPriority = (k.thread t).initPriority) :
    PrioritiesBounded (k.modify t f) := fun t' => by
  rw [modify_prio, modify_thread]
  split
  · rw [hi]
    exact ⟨hp, (h t).2⟩
  · exact h t'

end PrioritiesBounded

/-! ### Sequences of operations -/

/-- The operations on the ready queue. -/
inductive KernelOp (T : Type)
  | startup (t : T)
  | suspend (t : T)
  | resume (t : T)
  | yield
  | schedule
  /-- A tick at which the built-in timers of the threads `due` expire. -/
  | tickIncrease (due : List T)
  | timeout (t : T)
  | changePriority (t : T) (arg : BitVec 32)
  | detach (t : T)
  | exit
  | setTaskAsNotPreemptable (t : T)
  | setTaskAsPreemptable (t : T) (priority : BitVec 32)

/-- A thread may suspend itself or a ready thread, and a new priority is below the maximum. -/
def KernelOp.Admitted (k : Kernel T Q) : KernelOp T → Prop
  | .suspend t => t = k.currentThread ∨ k.state t = .ready
  | .changePriority _ arg => arg.toNat < rtThreadPriorityMax
  | .setTaskAsPreemptable _ priority => priority.toNat < rtThreadPriorityMax
  | _ => True

instance (k : Kernel T Q) (op : KernelOp T) : Decidable (op.Admitted k) := by
  cases op <;> unfold KernelOp.Admitted <;> infer_instance

/-- Perform one operation. -/
def perform (k : Kernel T Q) : KernelOp T → Kernel T Q
  | .startup t => k.rtThreadStartup t
  | .suspend t => k.rtThreadSuspend t
  | .resume t => k.rtThreadResume t
  | .yield => k.rtThreadYield
  | .schedule => k.rtSchedule
  | .tickIncrease due => k.rtTickIncrease fun k => due.foldl rtThreadTimeout k
  | .timeout t => k.rtThreadTimeout t
  | .changePriority t arg => k.rtThreadControl t arg
  | .detach t => k.rtThreadDetach t
  | .exit => k.threadExit
  | .setTaskAsNotPreemptable t => k.setTaskAsNotPreemptable t
  | .setTaskAsPreemptable t priority => k.setTaskAsPreemptable t priority

/-- One thread runs, every other thread was initialized and not started. -/
structure Booted (k : Kernel T Q) : Prop where
  queue : ∀ h, k.queue h = []
  group : k.readyPriorityGroup = 0
  current : k.state k.currentThread = .running
  mask : MaskOk (k.thread k.currentThread)
  others : ∀ t, t ≠ k.currentThread → k.state t = .init
  bounded : PrioritiesBounded k
  fault : k.fault = none
  history : k.history = []

/-- The kernel right after the first thread was dispatched: it runs, with the given initial
priorities and one time slice for all threads. -/
def boot (current : T) (initPriority : T → ℕ) (timeSlice : BitVec 32) : Kernel T Q where
  thread t :=
    { stat := { state := if t = current then .running else .init }
      currentPriority := initPriority t
      initPriority := initPriority t
      numberMask := if t = current then priorityMask 32 (initPriority t) else 0
      initTick := timeSlice
      remainingTick := timeSlice }
  queue _ := []
  readyPriorityGroup := 0
  currentThread := current
  schedulerLockNest := 0
  tick := 0
  siginfoPool := 32

theorem booted_boot {current : T} {initPriority : T → ℕ} {timeSlice : BitVec 32}
    (h : ∀ t, initPriority t < rtThreadPriorityMax) :
    Booted (boot current initPriority timeSlice : Kernel T Q) where
  queue _ := rfl
  group := rfl
  current := if_pos rfl
  mask := if_pos rfl
  others _ ht := if_neg ht
  bounded t := ⟨h t, h t⟩
  fault := rfl
  history := rfl

/-- Any sequence of admitted operations, up to the first fault. -/
def kernelOps (T Q : Type) [DecidableEq T] [DecidableEq Q] : Automaton (Kernel T Q) (KernelOp T) where
  init := Booted
  step k op := if k.fault = none ∧ op.Admitted k then some (k.perform op) else none

theorem Booted.readyQueueInv (h : Booted k) : ReadyQueueInv k where
  table :=
    { proper := ⟨fun h' => by simp [h.queue], fun {h₁ _ _} hm => by simp [h.queue] at hm⟩
      prio := fun hm => by simp [h.queue] at hm
      bit := fun p _ => by simp [h.queue, h.group]
      orderly := h.history ▸ QueueEvent.orderly_nil
      log := fun p => by simp [h.queue, h.history] }
  ready_iff t := by
    by_cases ht : t = k.currentThread
    · simp [ht, h.current, h.queue]
    · simp [h.others t ht, h.queue]
  wait hm := by simp [h.queue] at hm
  running {t} hr := by
    by_contra ht
    simp [h.others t ht] at hr
  current := by simp [h.current]
  mask {t} hs := by
    by_cases ht : t = k.currentThread
    · exact ht ▸ h.mask
    · simp [h.others t ht, ht] at hs

/-- Every operation keeps the ready-queue invariant. -/
theorem ReadyQueueInv.perform (h : ReadyQueueInv k) (op : KernelOp T) :
    ReadyQueueInv (k.perform op) := by
  cases op with
  | startup t => exact h.rtThreadStartup
  | suspend t => exact h.rtThreadSuspend
  | resume t => exact h.rtThreadResume
  | yield => exact h.rtThreadYield
  | schedule => exact h.rtSchedule
  | tickIncrease due =>
    have hfold : ∀ (due : List T) {k : Kernel T Q}, ReadyQueueInv k →
        ReadyQueueInv (due.foldl Kernel.rtThreadTimeout k) := by
      intro due
      induction due with
      | nil => exact id
      | cons t due ih => exact fun h => ih h.rtThreadTimeout
    exact hfold due h.rtTickCharge
  | timeout t => exact h.rtThreadTimeout
  | changePriority t arg => exact h.rtThreadControl
  | detach t => exact h.rtThreadDetach
  | exit => exact h.threadExit
  | setTaskAsNotPreemptable t => exact h.setTaskAsNotPreemptable
  | setTaskAsPreemptable t arg => exact h.setTaskAsPreemptable

/-! ### Faults -/

/-- Priorities are in range and no fault but a failed assertion happened: no access left the
ready table and no empty list was read. -/
structure Contained (k : Kernel T Q) : Prop where
  bounded : PrioritiesBounded k
  fault : k.fault = none ∨ k.fault = some .assertion

namespace Contained

theorem raise (h : Contained k) : Contained (k.raise .assertion) where
  bounded := h.bounded
  fault := by rcases h.fault with hf | hf <;> simp [Kernel.raise, hf]

theorem of_frame (h : Contained k) (hf : ∀ t, (k'.thread t).frame = (k.thread t).frame)
    (hfault : k'.fault = k.fault) : Contained k' :=
  ⟨h.bounded.of_frame hf, hfault ▸ h.fault⟩

theorem modify (h : Contained k) (hp : (f (k.thread t)).currentPriority < rtThreadPriorityMax)
    (hi : (f (k.thread t)).initPriority = (k.thread t).initPriority) :
    Contained (k.modify t f) :=
  ⟨h.bounded.modify hp hi, h.fault⟩

theorem rtListRemove (h : Contained k) : Contained (k.rtListRemove t) := ⟨h.bounded, h.fault⟩

theorem rtScheduleInsertThread (h : Contained k) : Contained (k.rtScheduleInsertThread t) :=
  h.of_frame (fun _ => rtScheduleInsertThread_frame) (rtScheduleInsertThread_fault (h.bounded t).1)

theorem rtScheduleRemoveThread (h : Contained k) : Contained (k.rtScheduleRemoveThread t) :=
  h.of_frame (fun _ => by rw [rtScheduleRemoveThread_thread])
    (rtScheduleRemoveThread_fault (h.bounded t).1)

theorem rtSchedule (h : Contained k) (hinv : ReadyQueueInv k) : Contained k.rtSchedule :=
  h.of_frame (fun _ => rtSchedule_frame) (rtSchedule_fault hinv h.bounded)

theorem stopThreadTimer (h : Contained k) : Contained (k.stopThreadTimer t) := by
  unfold Kernel.stopThreadTimer
  split
  · exact h.raise
  · exact h.modify (h.bounded t).1 rfl

theorem detachThreadTimer (h : Contained k) : Contained (k.detachThreadTimer t) := by
  unfold Kernel.detachThreadTimer
  split
  · exact h.raise
  · exact h.modify (h.bounded t).1 rfl

theorem rtThreadFreeSig (h : Contained k) : Contained (k.rtThreadFreeSig t) :=
  have hm := h.modify (t := t) (f := fun th => { th with siList := [] }) (h.bounded t).1 rfl
  ⟨hm.bounded, hm.fault⟩

theorem close (h : Contained k) : Contained (k.close t) := h.modify (h.bounded t).1 rfl

theorem detachObject (h : Contained k) : Contained (k.detachObject t) := by
  unfold Kernel.detachObject
  split
  · exact h.modify (h.bounded t).1 rfl
  · exact h

theorem rtThreadResume (h : Contained k) : Contained (k.rtThreadResume t) := by
  unfold Kernel.rtThreadResume
  split
  · exact h.raise
  · split
    · exact h
    · exact h.rtListRemove.stopThreadTimer.rtScheduleInsertThread

theorem rtThreadStartupQueue (h : Contained k) : Contained (k.rtThreadStartupQueue t) := by
  unfold Kernel.rtThreadStartupQueue
  split
  · exact h.raise
  · split
    · exact h.raise
    · exact (h.modify (h.bounded t).2 rfl).rtThreadResume

theorem rtThreadStartup (h : Contained k) (hinv : ReadyQueueInv k) :
    Contained (k.rtThreadStartup t) := by
  unfold Kernel.rtThreadStartup
  split
  · exact h.raise
  · exact h.rtThreadStartupQueue.rtSchedule hinv.rtThreadStartupQueue

theorem rtThreadSuspend (h : Contained k) : Contained (k.rtThreadSuspend t) := by
  unfold Kernel.rtThreadSuspend
  split
  · exact h.raise
  · split
    · exact h
    · split
      · exact h.raise
      · have hrem := h.rtScheduleRemoveThread (t := t)
        exact (hrem.modify (hrem.bounded t).1 rfl).stopThreadTimer

theorem rtThreadYield (h : Contained k) (hinv : ReadyQueueInv k) : Contained k.rtThreadYield :=
  (h.modify (h.bounded _).1 rfl).rtSchedule (hinv.of_schedEq (.modify rfl rfl rfl))

theorem rtThreadControl (h : Contained k) {arg : BitVec 32}
    (hlt : arg.toNat % 256 < rtThreadPriorityMax) : Contained (k.rtThreadControl t arg) := by
  unfold Kernel.rtThreadControl
  split
  · exact h.raise
  · split
    · exact (h.rtScheduleRemoveThread.modify hlt rfl).rtScheduleInsertThread
    · exact h.modify hlt rfl

theorem setPreemptableFlag (h : Contained k) {b : Bool} : Contained (k.setPreemptableFlag t b) :=
  h.modify (h.bounded t).1 rfl

theorem rtThreadDetach (h : Contained k) : Contained (k.rtThreadDetach t) := by
  unfold Kernel.rtThreadDetach
  split
  · exact h.raise
  · split
    · exact h
    · refine Contained.detachObject (Contained.close (Contained.detachThreadTimer
        (Contained.rtThreadFreeSig ?_)))
      split
      · exact h.rtScheduleRemoveThread
      · exact h

theorem threadExit (h : Contained k) (hinv : ReadyQueueInv k) : Contained k.threadExit := by
  have hend := (h.rtThreadFreeSig (t := k.currentThread)).rtScheduleRemoveThread
    (t := k.currentThread)
  exact hend.close.detachThreadTimer.detachObject.rtSchedule hinv.beforeExit

theorem rtThreadTimeout (h : Contained k) (hinv : ReadyQueueInv k) :
    Contained (k.rtThreadTimeout t) := by
  unfold Kernel.rtThreadTimeout
  split
  · exact h.raise
  · next hs =>
    exact (h.modify (h.bounded t).1 rfl).rtListRemove.rtScheduleInsertThread.rtSchedule
      (hinv.beforeTimeout (not_not.mp (not_or.mp hs).1))

theorem rtTickCharge (h : Contained k) (hinv : ReadyQueueInv k) : Contained k.rtTickCharge := by
  have htick : Contained { k with tick := k.tick + 1 } := ⟨h.bounded, h.fault⟩
  have hcharge := htick.modify (t := k.currentThread) (f := fun th => { th with
    remainingTick := th.remainingTick - 1, tickCount := th.tickCount - 1 }) (h.bounded _).1 rfl
  unfold Kernel.rtTickCharge
  dsimp only
  split
  · exact (hcharge.modify (hcharge.bounded _).1 rfl).rtSchedule
      (hinv.charged.of_schedEq (.modify rfl rfl rfl))
  · exact hcharge

/-- Every admitted operation keeps the kernel contained. -/
theorem perform (h : Contained k) (hinv : ReadyQueueInv k) {op : KernelOp T}
    (hop : op.Admitted k) : Contained (k.perform op) := by
  cases op with
  | startup t => exact h.rtThreadStartup hinv
  | suspend t => exact h.rtThreadSuspend
  | resume t => exact h.rtThreadResume
  | yield => exact h.rtThreadYield hinv
  | schedule => exact h.rtSchedule hinv
  | tickIncrease due =>
    have hfold : ∀ (due : List T) {k : Kernel T Q}, Contained k → ReadyQueueInv k →
        Contained (due.foldl Kernel.rtThreadTimeout k) := by
      intro due
      induction due with
      | nil => exact fun h _ => h
      | cons t due ih => exact fun h hinv => ih (h.rtThreadTimeout hinv) hinv.rtThreadTimeout
    exact hfold due (h.rtTickCharge hinv) hinv.rtTickCharge
  | timeout t => exact h.rtThreadTimeout hinv
  | changePriority t arg =>
    exact h.rtThreadControl (Nat.lt_of_le_of_lt (Nat.mod_le _ _) hop)
  | detach t => exact h.rtThreadDetach
  | exit => exact h.threadExit hinv
  | setTaskAsNotPreemptable t => exact (h.rtThreadControl (by decide)).setPreemptableFlag
  | setTaskAsPreemptable t arg =>
    exact (h.rtThreadControl (Nat.lt_of_le_of_lt (Nat.mod_le _ _) hop)).setPreemptableFlag

end Contained

/-! ### The invariant at every reachable state -/

/-- The ready-queue invariant in the words of the source: what holds of the bitmap, of every
thread in a list of the table, of every ready thread and of every running one. -/
structure ReadyQueueSound (k : Kernel T Q) : Prop where
  /-- A bit of the bitmap is set if and only if the list of its priority is nonempty. -/
  bit : ∀ p < rtThreadPriorityMax,
    k.readyPriorityGroup.getLsbD p = true ↔ k.queue (.ready p) ≠ []
  /-- A thread in a list of the table is ready, with the priority and mask of the list; it is
  linked there once, in no other list, and it is not running. -/
  linked : ∀ {p t}, t ∈ k.queue (.ready p) → p < rtThreadPriorityMax ∧ k.state t = .ready ∧
    k.prio t = p ∧ (k.thread t).numberMask = priorityMask 32 p ∧
    (k.queue (.ready p)).count t = 1 ∧ (∀ h, t ∈ k.queue h → h = .ready p) ∧ t ≠ k.currentThread
  /-- A ready thread is linked in a list of the table. -/
  ready : ∀ {t}, k.state t = .ready → ∃ p < rtThreadPriorityMax, t ∈ k.queue (.ready p)
  /-- Only the current thread is running. -/
  running : ∀ {t}, k.state t = .running → t = k.currentThread

theorem ReadyQueueInv.sound (h : ReadyQueueInv k) (hb : PrioritiesBounded k) :
    ReadyQueueSound k where
  bit := h.table.bit
  linked {p t} hm := by
    have hr : k.state t = .ready := (h.ready_iff t).mpr ⟨p, hm⟩
    have hp : k.prio t = p := h.table.prio hm
    refine ⟨hp ▸ (hb t).1, hr, hp, ?_, List.count_eq_one_of_mem (h.table.proper.nodup _) hm,
      fun h' hm' => h.table.proper.unique hm' hm, h.ne_current hm⟩
    rw [← hp]
    exact h.mask (.inl (by simp [hr]))
  ready hr := ⟨_, (hb _).1, h.mem_own hr⟩
  running := h.running

/-- Reachable kernels satisfy the invariant and are contained. -/
theorem kernelOps_inv (h : (kernelOps T Q).Reachable k) : ReadyQueueInv k ∧ Contained k := by
  refine h.invariant (I := fun k => ReadyQueueInv k ∧ Contained k)
    (fun k (hk : Booted k) => ⟨hk.readyQueueInv, hk.bounded, .inl hk.fault⟩)
    fun k op k' ⟨hinv, hcon⟩ _ hs => ?_
  simp only [kernelOps] at hs
  split at hs
  · next hop =>
    cases hs
    exact ⟨hinv.perform op, hcon.perform hinv hop.2⟩
  · cases hs

/-- **The ready queue is sound at every reachable state**: after any sequence of operations,
the bitmap, the lists, the states, the priorities and the masks agree. -/
theorem readyQueueSound_of_reachable (h : (kernelOps T Q).Reachable k) : ReadyQueueSound k :=
  (kernelOps_inv h).1.sound (kernelOps_inv h).2.bounded

/-- A run of three threads: both others are started, the first yields, suspends itself and
schedules, and then its successor ends. -/
theorem readyQueueSound_of_run : ∃ k : Kernel (Fin 3) Empty,
    (kernelOps (Fin 3) Empty).runList (boot 0 (fun t => t.val + 4) 5)
      [.startup 1, .startup 2, .yield, .suspend 0, .schedule, .exit] = some k ∧
    k.currentThread = 2 ∧ ReadyQueueSound k := by
  have hboot : Booted (boot 0 (fun t => t.val + 4) 5 : Kernel (Fin 3) Empty) :=
    booted_boot (by decide : ∀ t : Fin 3, t.val + 4 < rtThreadPriorityMax)
  have hrun : (kernelOps (Fin 3) Empty).runList (boot 0 (fun t => t.val + 4) 5)
      [.startup 1, .startup 2, .yield, .suspend 0, .schedule, .exit] = some _ := rfl
  exact ⟨_, hrun, rfl, readyQueueSound_of_reachable (.of_runList (.init hboot) hrun)⟩

/-- No sequence of operations makes the scheduler leave the table or read an empty list. -/
theorem fault_of_reachable (h : (kernelOps T Q).Reachable k) :
    k.fault = none ∨ k.fault = some .assertion :=
  (kernelOps_inv h).2.fault

end Kernel

end RobotVacuum
