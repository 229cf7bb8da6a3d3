import Mathlib.Logic.Function.Iterate
import RobotVacuum.Kernel.Selection
import RobotVacuum.Ipc.View

/-!
# Non-preemptable sections

While the preemptable flag of the running thread is set, `rt_schedule` returns at once. So
ticks, timeouts, event sends and resumptions only do two things: they charge the ticks to the
running thread, which touches nothing but its control block and the clock, and they make other
threads ready, which never looks at that control block. The two commute, hence the section can
be replayed with all its wake-ups at the end (`section_eq`), and the first scheduling after it
decides as if they had just happened.

Leaving the section does not schedule: `set_task_as_preemptable` lowers the priority and clears
the flag, and a more urgent thread that was woken meanwhile has to wait for the next scheduling.
-/

set_option linter.unusedSectionVars false

namespace RobotVacuum

/-- A kernel and the flags of its events. -/
structure EventKernel (T E Q : Type) where
  kernel : Kernel T Q
  event : E → BitVec 32

/-- What makes threads ready: `rt_thread_resume`, `rt_thread_timeout` and `rt_event_send`. -/
inductive Wakeup (T E : Type)
  | resume (x : T)
  | timeout (x : T)
  | send (e : E) (set : BitVec 32)

/-- What can happen while a thread that may not be preempted runs. A tick comes with what the
timeout functions of the due timers do. -/
inductive SectionOp (T E : Type)
  | schedule
  | wake (w : Wakeup T E)
  | tick (due : List (Wakeup T E))

namespace Kernel

variable {T Q : Type} [DecidableEq T] [DecidableEq Q]

/-- `rt_thread_timeout` without the scheduling it ends with. -/
def timeoutQueue (k : Kernel T Q) (x : T) : Kernel T Q :=
  if k.state x ≠ .suspend ∨ k.isThread x = false then k.raise .assertion
  else
    let k := k.modify x fun th => { th with error := .etimeout }
    (k.rtListRemove x).rtScheduleInsertThread x

/-- `rt_event_send` on an event whose threads wait in the list of `q`: the flags it leaves, and
the scheduling it may end with. -/
def rtEventSend (k : Kernel T Q) (flags : BitVec 32) (q : Q) (set : BitVec 32) :
    Kernel T Q × BitVec 32 :=
  if set = 0 then (k, flags)
  else
    let r := k.eventSendWalk (flags ||| set) (k.queue (.wait q))
    if !r.2.2.1.isEmpty && r.2.2.2 then (r.1.rtSchedule, r.2.1) else (r.1, r.2.1)

/-- `rt_event_send` without that scheduling. -/
def eventSendQueue (k : Kernel T Q) (flags : BitVec 32) (q : Q) (set : BitVec 32) :
    Kernel T Q × BitVec 32 :=
  if set = 0 then (k, flags)
  else
    let r := k.eventSendWalk (flags ||| set) (k.queue (.wait q))
    (r.1, r.2.1)

end Kernel

namespace EventKernel

variable {T E Q : Type} [DecidableEq T] [DecidableEq E] [DecidableEq Q]

/-- A wake-up as the kernel performs it, where the threads waiting for an event are in the list
`waitList` gives. -/
def wake (waitList : E → Q) (s : EventKernel T E Q) : Wakeup T E → EventKernel T E Q
  | .resume x => { s with kernel := s.kernel.rtThreadResume x }
  | .timeout x => { s with kernel := s.kernel.rtThreadTimeout x }
  | .send e set =>
    let r := s.kernel.rtEventSend (s.event e) (waitList e) set
    { s with kernel := r.1, event := Function.update s.event e r.2 }

/-- A wake-up without any scheduling. -/
def wakeQueue (waitList : E → Q) (s : EventKernel T E Q) : Wakeup T E → EventKernel T E Q
  | .resume x => { s with kernel := s.kernel.rtThreadResume x }
  | .timeout x => { s with kernel := s.kernel.timeoutQueue x }
  | .send e set =>
    let r := s.kernel.eventSendQueue (s.event e) (waitList e) set
    { s with kernel := r.1, event := Function.update s.event e r.2 }

/-- One thing that happens. -/
def performOp (waitList : E → Q) (s : EventKernel T E Q) : SectionOp T E → EventKernel T E Q
  | .schedule => { s with kernel := s.kernel.rtSchedule }
  | .wake w => s.wake waitList w
  | .tick due => due.foldl (wake waitList) { s with kernel := s.kernel.rtTickCharge }

/-- A sequence of things that happen. -/
def runSection (waitList : E → Q) (s : EventKernel T E Q) (ops : List (SectionOp T E)) :
    EventKernel T E Q :=
  ops.foldl (performOp waitList) s

/-- The wake-ups one after the other, without any scheduling. -/
def wakeAll (waitList : E → Q) (s : EventKernel T E Q) (ws : List (Wakeup T E)) :
    EventKernel T E Q :=
  ws.foldl (wakeQueue waitList) s

end EventKernel

namespace SectionOp

variable {T E : Type}

/-- The wake-ups of a sequence, in order. -/
def wakeups : List (SectionOp T E) → List (Wakeup T E)
  | [] => []
  | .schedule :: ops => wakeups ops
  | .wake w :: ops => w :: wakeups ops
  | .tick due :: ops => due ++ wakeups ops

/-- The number of ticks of a sequence. -/
def ticks : List (SectionOp T E) → ℕ
  | [] => 0
  | .tick _ :: ops => ticks ops + 1
  | _ :: ops => ticks ops

end SectionOp

namespace Kernel

variable {T Q : Type} [DecidableEq T] [DecidableEq Q]
variable {k : Kernel T Q} {t x : T} {q : Q} {th th' : Thread} {c c' : BitVec 32}

/-! ### Writing the control block of one thread and the clock -/

/-- Write the control block of a thread and the clock. -/
def own (k : Kernel T Q) (t : T) (th : Thread) (c : BitVec 32) : Kernel T Q :=
  { k with thread := Function.update k.thread t th, tick := c }

section Own

@[simp] theorem own_queue : (k.own t th c).queue = k.queue := rfl
@[simp] theorem own_currentThread : (k.own t th c).currentThread = k.currentThread := rfl
@[simp] theorem own_tick : (k.own t th c).tick = c := rfl
@[simp] theorem own_thread_self : (k.own t th c).thread t = th := by simp [own]

theorem own_thread_of_ne (h : x ≠ t) : (k.own t th c).thread x = k.thread x := by
  simp [own, h]

@[simp] theorem own_own : (k.own t th c).own t th' c' = k.own t th' c' := by simp [own]

theorem own_rtListRemove : (k.own t th c).rtListRemove x = (k.rtListRemove x).own t th c := rfl

theorem own_modify {f : Thread → Thread} (h : x ≠ t) :
    (k.own t th c).modify x f = (k.modify x f).own t th c := by
  simp only [modify, own_thread_of_ne h]
  simp only [own, Function.update_comm h]

theorem own_accessTable {p : ℕ} : (k.own t th c).accessTable p = (k.accessTable p).own t th c := by
  unfold accessTable
  split <;> rfl

theorem own_rtScheduleInsertThread (h : x ≠ t) : (k.own t th c).rtScheduleInsertThread x =
    (k.rtScheduleInsertThread x).own t th c := by
  unfold rtScheduleInsertThread
  split
  · next hx => rw [if_pos (by simpa using hx), setState, own_modify h]; rfl
  · next hx =>
    rw [if_neg (by simpa using hx)]
    simp only [setState, own_modify h]
    generalize k.modify x (fun th => th.withState .ready) = k
    simp only [prio, own_thread_of_ne h, own_accessTable]
    unfold accessTable
    split <;> simp [record, rtListInsertBefore, raise, own, Function.update_of_ne h]

theorem own_stopThreadTimer (h : x ≠ t) :
    (k.own t th c).stopThreadTimer x = (k.stopThreadTimer x).own t th c := by
  unfold stopThreadTimer
  rw [own_thread_of_ne h]
  split
  · rfl
  · exact own_modify h

theorem own_isThread (hobj : th.object = (k.thread t).object) :
    (k.own t th c).isThread x = k.isThread x := by
  by_cases hx : x = t
  · subst hx
    simp [isThread, hobj]
  · simp [isThread, own_thread_of_ne hx]

theorem own_state (hth : th.stat.state = .running) (hrun : k.state t = .running) :
    (k.own t th c).state x = k.state x := by
  by_cases hx : x = t
  · subst hx
    rw [state, own_thread_self, hth, hrun]
  · rw [state, own_thread_of_ne hx]

/-- Resuming a thread neither reads nor writes the control block of the running one. -/
theorem own_rtThreadResume (hth : th.stat.state = .running) (hrun : k.state t = .running)
    (hobj : th.object = (k.thread t).object) :
    (k.own t th c).rtThreadResume x = (k.rtThreadResume x).own t th c := by
  unfold rtThreadResume
  rw [own_isThread hobj, own_state hth hrun]
  split
  · rfl
  · split
    · rfl
    · next hs =>
      have hx : x ≠ t := by
        rintro rfl
        simp [hrun] at hs
      rw [own_rtListRemove, own_stopThreadTimer hx, own_rtScheduleInsertThread hx]

theorem own_timeoutQueue (hth : th.stat.state = .running) (hrun : k.state t = .running)
    (hobj : th.object = (k.thread t).object) :
    (k.own t th c).timeoutQueue x = (k.timeoutQueue x).own t th c := by
  unfold timeoutQueue
  rw [own_isThread hobj, own_state hth hrun]
  split
  · rfl
  · next hs =>
    have hx : x ≠ t := by
      rintro rfl
      simp [hrun] at hs
    dsimp only
    rw [own_modify hx, own_rtListRemove, own_rtScheduleInsertThread hx]

end Own

/-! ### What a wake-up changes -/

/-- The thread `t` is inside a non-preemptable section. -/
structure InSection (t : T) (k : Kernel T Q) : Prop where
  inv : ReadyQueueInv k
  current : k.currentThread = t
  running : k.state t = .running
  flag : (k.thread t).preemptableFlag = true
  thread : k.isThread t = true

/-- From `k` to `k'` threads were only made ready: the running thread `t` was not touched, and
threads were only added at the end of the ready lists. -/
structure Woken (t : T) (k k' : Kernel T Q) : Prop where
  inv : ReadyQueueInv k'
  current : k'.currentThread = k.currentThread
  own : k'.thread t = k.thread t
  tick : k'.tick = k.tick
  lock : k'.schedulerLockNest = k.schedulerLockNest
  bounded : PrioritiesBounded k → PrioritiesBounded k'
  ready : ∀ p, k.queue (.ready p) <+: k'.queue (.ready p)

namespace Woken

variable {k' k'' : Kernel T Q}

theorem refl (h : ReadyQueueInv k) : Woken t k k :=
  ⟨h, rfl, rfl, rfl, rfl, id, fun _ => List.prefix_rfl⟩

theorem trans (h : Woken t k k') (h' : Woken t k' k'') : Woken t k k'' where
  inv := h'.inv
  current := h'.current.trans h.current
  own := h'.own.trans h.own
  tick := h'.tick.trans h.tick
  lock := h'.lock.trans h.lock
  bounded hb := h'.bounded (h.bounded hb)
  ready p := (h.ready p).trans (h'.ready p)

/-- The thread is still inside its section. -/
theorem inSection (h : Woken t k k') (hs : InSection t k) : InSection t k' where
  inv := h.inv
  current := h.current.trans hs.current
  running := by rw [state, h.own]; exact hs.running
  flag := by rw [h.own]; exact hs.flag
  thread := by rw [isThread, h.own]; exact hs.thread

theorem raise (h : ReadyQueueInv k) (e : Fault) : Woken t k (k.raise e) :=
  ⟨h.raise e, rfl, rfl, rfl, rfl, id, fun _ => List.prefix_rfl⟩

/-- A write of another control block that is not about scheduling. -/
theorem modify {f : Thread → Thread} (h : ReadyQueueInv k) (hx : t ≠ x)
    (hs : (f (k.thread x)).stat.state = k.state x)
    (hp : (f (k.thread x)).currentPriority = k.prio x)
    (hm : (f (k.thread x)).numberMask = (k.thread x).numberMask)
    (hi : (f (k.thread x)).initPriority = (k.thread x).initPriority) :
    Woken t k (k.modify x f) where
  inv := h.of_schedEq (.modify hs hp hm)
  current := rfl
  own := modify_thread_of_ne hx
  tick := rfl
  lock := rfl
  bounded hb := hb.modify (hp ▸ (hb x).1) hi
  ready _ := List.prefix_rfl

/-- A suspended thread is taken out of its wait list and queued as ready. -/
theorem makeReady (h : ReadyQueueInv k) (hs : k.state x = .suspend) (hx : t ≠ x) :
    Woken t k ((k.rtListRemove x).rtScheduleInsertThread x) where
  inv := by
    have hrem := h.rtListRemove (t := x) hs
    refine hrem.rtScheduleInsertThread h.table.proper.not_linked_remove (hrem.mask (.inl ?_))
    rw [state, rtListRemove_thread, ← state, hs]
    rfl
  current := by simp
  own := by
    rw [rtScheduleInsertThread_thread, setState, modify_thread_of_ne hx, rtListRemove_thread]
  tick := by
    unfold rtScheduleInsertThread accessTable
    split
    · rfl
    · dsimp only
      split <;> rfl
  lock := congrArg Prod.fst (rtScheduleInsertThread_shared (k := k.rtListRemove x) (t := x))
  bounded hb y := by
    have hframe : (((k.rtListRemove x).rtScheduleInsertThread x).thread y).frame =
        (k.thread y).frame := by
      rw [rtScheduleInsertThread_frame, rtListRemove_thread]
    rw [prio, Thread.of_frame (·.currentPriority) (fun _ => rfl) hframe,
      Thread.of_frame (·.initPriority) (fun _ => rfl) hframe]
    exact hb y
  ready p := by
    have hnot : x ∉ k.queue (.ready p) := h.not_mem_ready (by simp [hs]) p
    rw [rtScheduleInsertThread_queue, rtListRemove_queue]
    split
    · simp only [ListFamily.remove_of_not_mem hnot, List.prefix_refl]
    · by_cases hp : (Head.ready p : Head Q) = .ready ((k.rtListRemove x).prio x)
      · rw [← hp, ListFamily.append_same, ListFamily.remove_of_not_mem hnot]
        exact List.prefix_append _ _
      · rw [ListFamily.append_of_ne hp]
        simp only [ListFamily.remove_of_not_mem hnot, List.prefix_refl]

theorem stopThreadTimer (h : ReadyQueueInv k) (hx : t ≠ x) : Woken t k (k.stopThreadTimer x) := by
  unfold Kernel.stopThreadTimer
  split
  · exact raise h _
  · exact modify h hx rfl rfl rfl rfl

theorem rtThreadResume (h : InSection t k) : Woken t k (k.rtThreadResume x) := by
  unfold Kernel.rtThreadResume
  split
  · exact raise h.inv _
  · split
    · exact refl h.inv
    · next hs =>
      have hs : k.state x = .suspend := not_not.mp hs
      have hx : t ≠ x := by
        rintro rfl
        simp [h.running] at hs
      have hstop := stopThreadTimer (t := t) h.inv hx
      -- stopping the timer and unlinking the thread can be exchanged
      have hswap : (k.rtListRemove x).stopThreadTimer x = (k.stopThreadTimer x).rtListRemove x := by
        unfold Kernel.stopThreadTimer
        rw [rtListRemove_thread]
        split <;> rfl
      rw [hswap]
      refine hstop.trans (makeReady hstop.inv ?_ hx)
      rw [(SchedEq.stopThreadTimer k x).state, hs]

theorem timeoutQueue (h : InSection t k) : Woken t k (k.timeoutQueue x) := by
  unfold Kernel.timeoutQueue
  split
  · exact raise h.inv _
  · next hs =>
    have hs : k.state x = .suspend := not_not.mp (not_or.mp hs).1
    have hx : t ≠ x := by
      rintro rfl
      simp [h.running] at hs
    have herr := modify (t := t) (f := fun th => { th with error := .etimeout }) h.inv hx rfl rfl
      rfl rfl
    refine herr.trans (makeReady herr.inv ?_ hx)
    rw [modify_state, if_pos rfl]
    exact hs

theorem eventResume (h : InSection t k) (hx : t ≠ x) {received : BitVec 32} :
    Woken t k (k.eventResume x received) := by
  have hset := modify (t := t) (f := fun th => { th with eventSet := received }) h.inv hx rfl rfl
    rfl rfl
  exact hset.trans (rtThreadResume (hset.inSection h))

theorem eventSendWalk (h : InSection t k) (set : BitVec 32) {l : List T} (hl : t ∉ l) :
    Woken t k (k.eventSendWalk set l).1 :=
  eventSendWalk_induct (P := fun k' => Woken t k k') (refl h.inv) fun _ _ _ hx hk =>
    hk.trans (eventResume (hk.inSection h) fun heq => hl (heq ▸ hx))

end Woken

/-- The walk over the waiting threads neither reads nor writes the control block of the running
thread, which is not among them. -/
theorem own_eventSendWalk {set : BitVec 32} {l : List T} (hth : th.stat.state = .running)
    (h : InSection t k) (hobj : th.object = (k.thread t).object) (hl : t ∉ l) :
    (k.own t th c).eventSendWalk set l =
      ((k.eventSendWalk set l).1.own t th c, (k.eventSendWalk set l).2) := by
  induction l generalizing k set with
  | nil => rfl
  | cons x l ih =>
    have hx : x ≠ t := fun heq => hl (heq ▸ List.mem_cons_self)
    have hl' : t ∉ l := fun hm => hl (List.mem_cons_of_mem _ hm)
    have hset : ∀ received, (k.own t th c).eventResume x received =
        (k.eventResume x received).own t th c := fun received => by
      rw [eventResume, own_modify hx, own_rtThreadResume hth]
      · rfl
      · rw [modify_state, if_neg (Ne.symm hx)]
        exact h.running
      · rw [modify_thread_of_ne (Ne.symm hx)]
        exact hobj
    have hwoken : ∀ received, Woken t k (k.eventResume x received) := fun received =>
      Woken.eventResume h (Ne.symm hx)
    simp only [eventSendWalk, own_thread_of_ne hx]
    split
    · rfl
    · exact ih h hobj hl'
    · rw [hset, ih ((hwoken _).inSection h) (by rw [(hwoken _).own]; exact hobj) hl']

/-! ### What the running thread undergoes -/

/-- The control block of the running thread after a tick. -/
def charge (th : Thread) : Thread :=
  let th := { th with remainingTick := th.remainingTick - 1, tickCount := th.tickCount - 1 }
  if th.remainingTick = 0 then
    { th with remainingTick := th.initTick, stat := { th.stat with yield := true } }
  else th

/-- The control block of the running thread after `set_task_as_preemptable`. -/
def leave (p : BitVec 32) (th : Thread) : Thread :=
  { changePriority th p with preemptableFlag := false }

section Running

/-- Inside a section `rt_schedule` does nothing. -/
theorem InSection.rtSchedule (h : InSection t k) : k.rtSchedule = k := by
  have hflag : (k.thread k.currentThread).preemptableFlag = true := by rw [h.current, h.flag]
  unfold Kernel.rtSchedule
  rw [if_pos hflag]
  split
  · rfl
  · split <;> rfl

/-- The fields of a control block that a tick leaves alone. -/
theorem charge_fields (th : Thread) :
    (charge th).stat.state = th.stat.state ∧ (charge th).object = th.object ∧
    (charge th).preemptableFlag = th.preemptableFlag ∧
    (charge th).currentPriority = th.currentPriority ∧
    (charge th).numberMask = th.numberMask ∧ (charge th).initPriority = th.initPriority := by
  unfold charge
  dsimp only
  split <;> exact ⟨rfl, rfl, rfl, rfl, rfl, rfl⟩

/-- Writing the control block of the running thread outside scheduling stays in the section. -/
theorem InSection.own (h : InSection t k) (hs : th.stat.state = .running)
    (ho : th.object = (k.thread t).object) (hf : th.preemptableFlag = true)
    (hp : th.currentPriority = k.prio t) (hm : th.numberMask = (k.thread t).numberMask) :
    InSection t (k.own t th c) where
  inv := by
    have hmod : SchedEq k (k.modify t fun _ => th) := .modify (hs.trans h.running.symm) hp hm
    have htick : SchedEq (k.modify t fun _ => th) (k.own t th c) :=
      ⟨rfl, rfl, rfl, rfl, fun _ => rfl, fun _ => rfl, fun _ => rfl⟩
    exact h.inv.of_schedEq (hmod.trans htick)
  current := h.current
  running := by rw [state, own_thread_self, hs]
  flag := by rw [own_thread_self, hf]
  thread := by rw [own_isThread ho, h.thread]

theorem InSection.charged (h : InSection t k) : InSection t (k.own t (charge (k.thread t)) c) := by
  obtain ⟨hs, ho, hf, hp, hm, -⟩ := charge_fields (k.thread t)
  exact h.own (hs.trans h.running) ho (hf.trans h.flag) hp hm

/-- Inside a section a tick is charged to the running thread and nothing else happens. -/
theorem InSection.rtTickCharge (h : InSection t k) :
    k.rtTickCharge = k.own t (charge (k.thread t)) (k.tick + 1) := by
  have hwrite : ∀ f : Thread → Thread, ({ k with tick := k.tick + 1 } : Kernel T Q).modify
      k.currentThread f = k.own t (f (k.thread t)) (k.tick + 1) := fun f => by
    obtain rfl := h.current
    rfl
  have hcharged : InSection t (k.own t (charge (k.thread t)) (k.tick + 1)) := h.charged
  unfold Kernel.rtTickCharge
  dsimp only
  rw [hwrite]
  unfold charge at hcharged ⊢
  dsimp only at hcharged ⊢
  rw [h.current, own_thread_self]
  split
  · next h0 =>
    rw [if_pos h0] at hcharged
    rw [← hcharged.rtSchedule]
    congr 1
    simp [Kernel.own, modify]
  · rfl

/-- Leaving the section writes the control block of the running thread, and does not schedule. -/
theorem setTaskAsPreemptable_eq {p : BitVec 32} (hrun : k.state t = .running)
    (ht : k.isThread t = true) :
    k.setTaskAsPreemptable t p = k.own t (leave p (k.thread t)) k.tick := by
  rw [setTaskAsPreemptable, rtThreadControl, ht]
  simp [hrun, setPreemptableFlag, modify, Kernel.own, leave]

end Running

end Kernel

namespace EventKernel

variable {T E Q : Type} [DecidableEq T] [DecidableEq E] [DecidableEq Q]
variable {s : EventKernel T E Q} {t : T} {w : Wakeup T E} {ws : List (Wakeup T E)}
  {waitList : E → Q} {th : Thread} {c : BitVec 32} {ops : List (SectionOp T E)}

open Kernel (InSection Woken charge leave PrioritiesBounded Selected)

/-- Write the control block of a thread and the clock. -/
def own (s : EventKernel T E Q) (t : T) (th : Thread) (c : BitVec 32) : EventKernel T E Q :=
  { s with kernel := s.kernel.own t th c }

/-! ### Wake-ups inside a section -/

/-- The running thread waits for no event. -/
private theorem not_waiting {k : Kernel T Q} (h : InSection t k) {q : Q} :
    t ∉ k.queue (.wait q) := h.inv.not_mem_wait (by simp [h.running])

theorem woken_wakeQueue (waitList : E → Q) (w : Wakeup T E) (h : InSection t s.kernel) :
    Woken t s.kernel (s.wakeQueue waitList w).kernel := by
  cases w with
  | resume x => exact .rtThreadResume h
  | timeout x => exact .timeoutQueue h
  | send e set =>
    simp only [wakeQueue, Kernel.eventSendQueue]
    split
    · exact .refl h.inv
    · exact .eventSendWalk h _ (not_waiting h)

/-- Inside a section the scheduling a wake-up ends with does nothing. -/
theorem wake_eq (h : InSection t s.kernel) : s.wake waitList w = s.wakeQueue waitList w := by
  cases w with
  | resume x => rfl
  | timeout x =>
    have hq := (Woken.timeoutQueue (x := x) h).inSection h
    simp only [wake, wakeQueue, Kernel.rtThreadTimeout]
    unfold Kernel.timeoutQueue at hq ⊢
    split
    · rfl
    · next hs =>
      rw [if_neg hs] at hq
      dsimp only at hq ⊢
      rw [hq.rtSchedule]
  | send e set =>
    simp only [wake, wakeQueue, Kernel.rtEventSend, Kernel.eventSendQueue]
    by_cases hset : set = 0
    · simp [hset]
    · have hq := (Woken.eventSendWalk h (s.event e ||| set)
        (not_waiting (q := waitList e) h)).inSection h
      simp only [hset, if_false, hq.rtSchedule, ite_self]

theorem woken_wakeAll (waitList : E → Q) (ws : List (Wakeup T E)) (h : InSection t s.kernel) :
    Woken t s.kernel (s.wakeAll waitList ws).kernel := by
  induction ws generalizing s with
  | nil => exact .refl h.inv
  | cons w ws ih =>
    have hw := woken_wakeQueue waitList w h
    exact hw.trans (ih (hw.inSection h))

/-- A wake-up does not look at what the running thread undergoes. -/
theorem wakeQueue_own (h : InSection t s.kernel) (hth : th.stat.state = .running)
    (hobj : th.object = (s.kernel.thread t).object) :
    (s.own t th c).wakeQueue waitList w = (s.wakeQueue waitList w).own t th c := by
  cases w with
  | resume x =>
    simp only [wakeQueue, own, Kernel.own_rtThreadResume hth h.running hobj]
  | timeout x =>
    simp only [wakeQueue, own, Kernel.own_timeoutQueue hth h.running hobj]
  | send e set =>
    simp only [wakeQueue, own, Kernel.eventSendQueue, Kernel.own_queue,
      Kernel.own_eventSendWalk hth h hobj (not_waiting h)]
    split <;> rfl

theorem wakeAll_own (h : InSection t s.kernel) (hth : th.stat.state = .running)
    (hobj : th.object = (s.kernel.thread t).object) :
    (s.own t th c).wakeAll waitList ws = (s.wakeAll waitList ws).own t th c := by
  induction ws generalizing s with
  | nil => rfl
  | cons w ws ih =>
    have hw := woken_wakeQueue waitList w h
    simp only [wakeAll, List.foldl_cons, wakeQueue_own h hth hobj]
    exact ih (hw.inSection h) (by rw [hw.own]; exact hobj)

/-! ### Sections -/

theorem foldl_wake (h : InSection t s.kernel) :
    ws.foldl (wake waitList) s = s.wakeAll waitList ws := by
  induction ws generalizing s with
  | nil => rfl
  | cons w ws ih =>
    rw [List.foldl_cons, wake_eq h]
    exact ih ((woken_wakeQueue _ _ h).inSection h)

/-- **A section, replayed with its wake-ups at the end.** The ticks are charged to the running
thread, the wake-ups are performed without any scheduling, and neither looks at the other. -/
theorem section_eq (h : InSection t s.kernel) : s.runSection waitList ops =
    (s.wakeAll waitList (SectionOp.wakeups ops)).own t
      (charge^[SectionOp.ticks ops] (s.kernel.thread t))
      (s.kernel.tick + BitVec.ofNat 32 (SectionOp.ticks ops)) := by
  induction ops generalizing s with
  | nil =>
    simp [runSection, wakeAll, SectionOp.wakeups, SectionOp.ticks, own, Kernel.own]
  | cons op ops ih =>
    cases op with
    | schedule =>
      have hs : s.performOp waitList .schedule = s := by
        simp only [performOp, h.rtSchedule]
      rw [runSection, List.foldl_cons, hs]
      exact ih h
    | wake w =>
      have hw := woken_wakeQueue waitList w h
      rw [runSection, List.foldl_cons, performOp, wake_eq h]
      have hrest := ih (hw.inSection h)
      rw [hw.own, hw.tick] at hrest
      exact hrest
    | tick due =>
      -- the tick is charged first, then the due timers wake threads
      obtain ⟨hst, hobj, -⟩ := Kernel.charge_fields (s.kernel.thread t)
      have hcharged :
          InSection t (s.own t (charge (s.kernel.thread t)) (s.kernel.tick + 1)).kernel :=
        h.charged
      have hdue := woken_wakeAll waitList due h
      have hstep : s.performOp waitList (.tick due) =
          (s.wakeAll waitList due).own t (charge (s.kernel.thread t)) (s.kernel.tick + 1) := by
        rw [performOp, h.rtTickCharge]
        change List.foldl (wake waitList) (s.own t _ _) due = _
        rw [foldl_wake hcharged, wakeAll_own h (hst.trans h.running) hobj]
      have hnext : InSection t ((s.wakeAll waitList due).own t (charge (s.kernel.thread t))
          (s.kernel.tick + 1)).kernel := by
        have hin := hdue.inSection h
        have := hin.charged (c := s.kernel.tick + 1)
        rwa [hdue.own] at this
      rw [runSection, List.foldl_cons, hstep]
      refine (ih hnext).trans ?_
      rw [wakeAll_own (hdue.inSection h) (hst.trans h.running) (by rw [hdue.own]; exact hobj)]
      simp only [own, Kernel.own_own, Kernel.own_thread_self, Kernel.own_tick, SectionOp.wakeups,
        SectionOp.ticks, wakeAll, List.foldl_append, Function.iterate_succ_apply]
      congr 2
      rw [BitVec.add_assoc, BitVec.add_comm 1, BitVec.ofNat_add]
      rfl

theorem charge_iterate (th : Thread) (n : ℕ) : (charge^[n] th).stat.state = th.stat.state ∧
    (charge^[n] th).object = th.object ∧ (charge^[n] th).preemptableFlag = th.preemptableFlag ∧
    (charge^[n] th).currentPriority = th.currentPriority ∧
    (charge^[n] th).numberMask = th.numberMask ∧
    (charge^[n] th).initPriority = th.initPriority := by
  induction n with
  | zero => exact ⟨rfl, rfl, rfl, rfl, rfl, rfl⟩
  | succ n ih =>
    obtain ⟨hs, ho, hf, hp, hm, hi⟩ := ih
    obtain ⟨hs', ho', hf', hp', hm', hi'⟩ := Kernel.charge_fields (charge^[n] th)
    rw [Function.iterate_succ_apply']
    exact ⟨hs'.trans hs, ho'.trans ho, hf'.trans hf, hp'.trans hp, hm'.trans hm, hi'.trans hi⟩

/-- The thread is inside its section to the end, and threads were only added to the lists. -/
theorem inSection_runSection (waitList : E → Q) (ops : List (SectionOp T E))
    (h : InSection t s.kernel) :
    InSection t (s.runSection waitList ops).kernel := by
  have hw := woken_wakeAll waitList (SectionOp.wakeups ops) h
  obtain ⟨hs, ho, hf, hp, hm, -⟩ := charge_iterate (s.kernel.thread t) (SectionOp.ticks ops)
  rw [section_eq h]
  refine (hw.inSection h).own (hs.trans h.running) ?_ (hf.trans h.flag) ?_ ?_
  · rw [hw.own, ho]
  · rw [Kernel.prio, hw.own, hp]
  · rw [hw.own, hm]

theorem ready_runSection (h : InSection t s.kernel) (p : ℕ) :
    s.kernel.queue (.ready p) <+: (s.runSection waitList ops).kernel.queue (.ready p) := by
  rw [section_eq h]
  exact (woken_wakeAll _ _ h).ready p

theorem bounded_runSection (h : InSection t s.kernel) (hb : PrioritiesBounded s.kernel) :
    PrioritiesBounded (s.runSection waitList ops).kernel := by
  have hw := woken_wakeAll waitList (SectionOp.wakeups ops) h
  obtain ⟨-, -, -, hp, -, hi⟩ := charge_iterate (s.kernel.thread t) (SectionOp.ticks ops)
  rw [section_eq h]
  intro x
  simp only [own, Kernel.prio]
  by_cases hx : x = t
  · subst hx
    rw [Kernel.own_thread_self, hp, hi]
    exact hb x
  · rw [Kernel.own_thread_of_ne hx]
    exact hw.bounded hb x

/-- The running thread leaves its section. -/
def leaveSection (s : EventKernel T E Q) (t : T) (p : BitVec 32) : EventKernel T E Q :=
  { s with kernel := s.kernel.setTaskAsPreemptable t p }

/-- **Wake-ups are only deferred.** Leaving a section after its ticks and wake-ups is leaving it
after its ticks alone, with all wake-ups just after that. -/
theorem leaveSection_eq (h : InSection t s.kernel) {p : BitVec 32} :
    (s.runSection waitList ops).leaveSection t p =
      ((s.runSection waitList (List.replicate (SectionOp.ticks ops) (.tick []))).leaveSection t
        p).wakeAll waitList (SectionOp.wakeups ops) := by
  have hticks (n) : SectionOp.ticks (List.replicate n (.tick [] : SectionOp T E)) = n := by
    induction n with
    | zero => rfl
    | succ n ih => rw [List.replicate_succ, SectionOp.ticks, ih]
  have hwakeups : ∀ n, SectionOp.wakeups (List.replicate n (.tick [] : SectionOp T E)) = [] :=
    fun n => by
      induction n with
      | zero => rfl
      | succ n ih => rw [List.replicate_succ, SectionOp.wakeups, ih, List.nil_append]
  have hleave : ∀ ops, (s.runSection waitList ops).leaveSection t p =
      (s.wakeAll waitList (SectionOp.wakeups ops)).own t
        (leave p (charge^[SectionOp.ticks ops] (s.kernel.thread t)))
        (s.kernel.tick + BitVec.ofNat 32 (SectionOp.ticks ops)) := fun ops => by
    have hin := inSection_runSection waitList ops h
    rw [leaveSection, Kernel.setTaskAsPreemptable_eq hin.running hin.thread, section_eq h]
    simp only [own, Kernel.own_thread_self, Kernel.own_tick, Kernel.own_own]
  obtain ⟨hs, ho, -⟩ := charge_iterate (s.kernel.thread t) (SectionOp.ticks ops)
  have hrun : (leave p (charge^[SectionOp.ticks ops] (s.kernel.thread t))).stat.state = .running :=
    hs.trans h.running
  rw [hleave, hleave, hticks, hwakeups]
  exact (wakeAll_own h hrun ho).symm

/-- A thread that is ready is linked once, in the list of its priority, and in no other list. -/
def LinkedOnce (k : Kernel T Q) (x : T) : Prop :=
  (k.queue (.ready (k.prio x))).count x = 1 ∧
    ∀ l, x ∈ k.queue l → l = .ready (k.prio x)

/-- **Non-preemptable sections exclude every other thread and lose no wake-up.** Whatever ticks,
timeouts, event sends, resumptions and schedulings happen, the thread keeps the processor, what
became ready is linked once in the list of its priority and stays there; and after the section
the first scheduling selects by the ordinary rule, from the state in which all wake-ups happened
just before it. -/
theorem nonPreemptable_section (h : InSection t s.kernel) (hb : PrioritiesBounded s.kernel) :
    (∀ ops, (s.runSection waitList ops).kernel.currentThread = t ∧
      (s.runSection waitList ops).kernel.state t = .running ∧
      (∀ x, (s.runSection waitList ops).kernel.state x = .ready →
        LinkedOnce (s.runSection waitList ops).kernel x) ∧
      ∀ ops' p, (s.runSection waitList ops).kernel.queue (.ready p) <+:
        (s.runSection waitList (ops ++ ops')).kernel.queue (.ready p)) ∧
    ∀ ops (p : BitVec 32), p.toNat < rtThreadPriorityMax →
      let left := (s.runSection waitList ops).leaveSection t p
      left.kernel.prio t = p.toNat ∧
      (left.kernel.schedulerLockNest = 0 → Selected left.kernel left.kernel.rtSchedule) ∧
      left = ((s.runSection waitList (List.replicate (SectionOp.ticks ops) (.tick []))).leaveSection
        t p).wakeAll waitList (SectionOp.wakeups ops) := by
  refine ⟨fun ops => ?_, fun ops p hp => ?_⟩
  · have hin := inSection_runSection waitList ops h
    have hsound := hin.inv.sound (bounded_runSection h hb)
    refine ⟨hin.current, hin.running, fun x hx => ?_, fun ops' p => ?_⟩
    · have hlinked := hsound.linked (hin.inv.mem_own hx)
      exact ⟨hlinked.2.2.2.2.1, fun _ => hlinked.2.2.2.2.2.1 _⟩
    · have happend : s.runSection waitList (ops ++ ops') =
          (s.runSection waitList ops).runSection waitList ops' := List.foldl_append
      rw [happend]
      exact ready_runSection hin p
  · have hin := inSection_runSection waitList ops h
    have hprio : ((s.runSection waitList ops).leaveSection t p).kernel.prio t = p.toNat := by
      rw [leaveSection, Kernel.setTaskAsPreemptable_eq hin.running hin.thread, Kernel.prio,
        Kernel.own_thread_self]
      exact Nat.mod_eq_of_lt (Nat.lt_trans hp (by decide))
    refine ⟨hprio, fun hlock => ?_, leaveSection_eq h⟩
    have hinv : Kernel.ReadyQueueInv ((s.runSection waitList ops).leaveSection t p).kernel :=
      hin.inv.setTaskAsPreemptable
    have hbounded : PrioritiesBounded ((s.runSection waitList ops).leaveSection t p).kernel := by
      rw [leaveSection, Kernel.setTaskAsPreemptable_eq hin.running hin.thread]
      intro x
      simp only [Kernel.prio]
      by_cases hx : x = t
      · subst hx
        rw [Kernel.own_thread_self]
        exact ⟨Nat.lt_of_le_of_lt (Nat.mod_le _ _) hp, (bounded_runSection h hb x).2⟩
      · rw [Kernel.own_thread_of_ne hx]
        exact bounded_runSection h hb x
    -- the thread itself is running, so some thread competes for the processor
    refine Kernel.selected_rtSchedule (hinv.sound hbounded) (?_ : Kernel.Competing _ t) hlock ?_
    · refine .inr ?_
      rw [leaveSection, Kernel.setTaskAsPreemptable_eq hin.running hin.thread, Kernel.state,
        Kernel.own_thread_self]
      exact hin.running
    · rw [leaveSection, Kernel.setTaskAsPreemptable_eq hin.running hin.thread,
        Kernel.own_currentThread, hin.current, Kernel.own_thread_self]
      rfl

/-- The first of three threads is inside a section while the second one is resumed. -/
theorem nonPreemptable_section_of_run : ∃ s : EventKernel (Fin 3) Empty Empty,
    InSection 0 s.kernel ∧
    (s.runSection id [.tick [.resume 1], .schedule]).kernel.state 1 = .ready ∧
    (s.runSection id [.tick [.resume 1], .schedule]).kernel.currentThread = 0 := by
  have hboot : Kernel.Booted (Kernel.boot 0 (fun t => t.val + 4) 5 : Kernel (Fin 3) Empty) :=
    Kernel.booted_boot (by decide : ∀ t : Fin 3, t.val + 4 < rtThreadPriorityMax)
  have hrun : (Kernel.kernelOps (Fin 3) Empty).runList (Kernel.boot 0 (fun t => t.val + 4) 5)
      [.startup 1, .suspend 1, .setTaskAsNotPreemptable 0] = some _ := rfl
  have hinv := Kernel.kernelOps_inv (.of_runList (.init hboot) hrun)
  have hin := InSection.mk (t := 0) hinv.1 rfl rfl rfl rfl
  exact ⟨⟨_, Empty.elim⟩, hin, rfl, ((nonPreemptable_section hin hinv.2.bounded).1 _).1⟩

end EventKernel

/-! ### Leaving a section -/

namespace Kernel

variable {T Q : Type} [DecidableEq T] [DecidableEq Q] {k : Kernel T Q} {t : T} {p : BitVec 32}

/-- After `set_task_as_preemptable(t, p)` the thread has the priority, it can be preempted, and
no ready thread is more urgent. -/
structure RestoresScheduling (k : Kernel T Q) (t : T) (p : BitVec 32) : Prop where
  prio : (k.setTaskAsPreemptable t p).prio t = p.toNat
  flag : ((k.setTaskAsPreemptable t p).thread t).preemptableFlag = false
  highest : ∀ x, (k.setTaskAsPreemptable t p).state x = .ready →
    ¬ (k.setTaskAsPreemptable t p).prio x < p.toNat

/-- **Leaving a section does not schedule.** Where the call of the running thread returns, it
restores priority scheduling exactly if no thread more urgent than the new priority is ready. -/
theorem restoresScheduling_iff (hrun : k.state t = .running) (hp : p.toNat < rtThreadPriorityMax)
    (hret : (k.setTaskAsPreemptable t p).fault = none) :
    RestoresScheduling k t p ↔ ∀ x, k.state x = .ready → p.toNat ≤ k.prio x := by
  have hthread : k.isThread t = true := by
    by_contra hno
    rw [setTaskAsPreemptable, rtThreadControl, if_pos (by simpa using hno)] at hret
    cases hret
  have hprio : p.toNat % 256 = p.toNat := Nat.mod_eq_of_lt (Nat.lt_trans hp (by decide))
  have hstate : ∀ x, (k.own t (leave p (k.thread t)) k.tick).state x = k.state x := fun x =>
    own_state hrun hrun
  -- a ready thread is not the running one, so its priority is unchanged
  have hother : ∀ x, k.state x = .ready →
      (k.own t (leave p (k.thread t)) k.tick).prio x = k.prio x := fun x hx => by
    have hne : x ≠ t := by
      rintro rfl
      simp [hrun] at hx
    rw [prio, own_thread_of_ne hne]
  have heq := setTaskAsPreemptable_eq (p := p) hrun hthread
  constructor
  · intro h x hx
    have hle := h.highest x (by rw [heq, hstate, hx])
    rw [heq, hother x hx] at hle
    exact Nat.not_lt.mp hle
  · intro h
    refine ⟨?_, ?_, fun x hx => ?_⟩
    · rw [heq, prio, own_thread_self]
      exact hprio
    · rw [heq, own_thread_self]
      rfl
    · rw [heq, hstate] at hx
      rw [heq, hother x hx]
      exact Nat.not_lt.mpr (h x hx)

/-- A thread leaves its section while no other thread is ready. -/
theorem restoresScheduling_of_alone :
    RestoresScheduling ((boot 0 (fun _ => 4) 5 : Kernel (Fin 3) Empty).setTaskAsNotPreemptable 0)
      0 10 :=
  (restoresScheduling_iff rfl (by decide) rfl).mpr (by decide)

/-- A thread of priority 5 was started during the section and is still ready when the running
thread has gone on with priority 10. -/
theorem restoresScheduling_fails : ∃ k : Kernel (Fin 3) Empty,
    (kernelOps (Fin 3) Empty).Reachable k ∧ k.fault = none ∧ k.currentThread = 0 ∧
    k.state 0 = .running ∧ (k.thread 0).preemptableFlag = true ∧ k.schedulerLockNest = 0 ∧
    (k.setTaskAsPreemptable 0 10).fault = none ∧ ¬ RestoresScheduling k 0 10 := by
  have hboot : Booted (boot 0 (fun t => t.val + 4) 5 : Kernel (Fin 3) Empty) :=
    booted_boot (by decide : ∀ t : Fin 3, t.val + 4 < rtThreadPriorityMax)
  have hrun : (kernelOps (Fin 3) Empty).runList (boot 0 (fun t => t.val + 4) 5)
      [.setTaskAsNotPreemptable 0, .startup 1] = some _ := rfl
  refine ⟨_, .of_runList (.init hboot) hrun, rfl, rfl, rfl, rfl, rfl, rfl, fun h => ?_⟩
  exact h.highest 1 rfl (by decide)

end Kernel

end RobotVacuum
