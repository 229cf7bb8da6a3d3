import RobotVacuum.Kernel.ThreadControl
import RobotVacuum.Foundation.Automaton

/-!
# The ready queue

The representation invariant of the scheduler, in two layers. `ReadyTable` ties the bitmap to
the lists: the lists are proper intrusive lists, every thread in a ready list has the priority
of the list, and the bit of a priority is set exactly when its list is nonempty.
`ReadyQueueInv` adds what the lists mean: the threads in the ready lists are the ready ones,
only suspended threads are in wait lists, and only the running thread is marked running.

The layers are proved in turn. Linking, unlinking and writing a control block are each one
lemma about `ReadyTable`; an operation of the kernel is a chain of these, and `ReadyQueueInv`
of its result follows by computing which threads are linked and which states they have.

Priorities are bounded separately (`PrioritiesBounded`): the invariant itself holds for any
priorities, and with the bound no access of the table is out of bounds.
-/

set_option linter.unusedSectionVars false

namespace RobotVacuum

open QueueEvent (Orderly Admissible replay replay_append_singleton)

namespace Kernel

variable {T Q : Type} [DecidableEq T] [DecidableEq Q]

/-- The bitmap, the ready lists, the priorities of the threads in them and the history of the
lists agree. -/
structure ReadyTable (k : Kernel T Q) : Prop where
  proper : k.queue.Proper
  prio : ∀ {p t}, t ∈ k.queue (.ready p) → k.prio t = p
  bit : ∀ p < rtThreadPriorityMax,
    k.readyPriorityGroup.getLsbD p = true ↔ k.queue (.ready p) ≠ []
  orderly : Orderly k.history
  log : ∀ p, k.queue (.ready p) = replay p k.history

/-- The mask of a thread is the one of its priority. -/
def MaskOk (th : Thread) : Prop := th.numberMask = priorityMask 32 th.currentPriority

/-- **The ready-queue invariant**: the ready table, and what being linked means. -/
structure ReadyQueueInv (k : Kernel T Q) : Prop where
  table : ReadyTable k
  ready_iff : ∀ t, k.state t = .ready ↔ ∃ p, t ∈ k.queue (.ready p)
  wait : ∀ {q t}, t ∈ k.queue (.wait q) → k.state t = .suspend
  running : ∀ {t}, k.state t = .running → t = k.currentThread
  current : k.state k.currentThread ≠ .ready
  mask : ∀ {t}, (k.state t).started = true ∨ t = k.currentThread → MaskOk (k.thread t)

/-- Every priority is below `RT_THREAD_PRIORITY_MAX`. -/
def PrioritiesBounded (k : Kernel T Q) : Prop :=
  ∀ t, k.prio t < rtThreadPriorityMax ∧ (k.thread t).initPriority < rtThreadPriorityMax

variable {k k' : Kernel T Q} {t t' : T} {p : ℕ} {q : Q} {f : Thread → Thread}

/-! ### The table under the basic operations -/

namespace ReadyTable

/-- Only the lists, the bitmap, the priorities and the history matter. -/
theorem congr (h : ReadyTable k) (hq : k'.queue = k.queue)
    (hg : k'.readyPriorityGroup = k.readyPriorityGroup) (hh : k'.history = k.history)
    (hp : ∀ {p t}, t ∈ k.queue (.ready p) → k'.prio t = k.prio t) : ReadyTable k' where
  proper := hq ▸ h.proper
  prio hm := by
    rw [hq] at hm
    rw [hp hm, h.prio hm]
  bit p hlt := by rw [hg, hq, h.bit p hlt]
  orderly := hh ▸ h.orderly
  log p := by rw [hq, hh, h.log p]

/-- Writing a control block keeps the table if the thread is in no ready list or keeps its
priority. -/
theorem modify (h : ReadyTable k)
    (hf : (∃ p, t ∈ k.queue (.ready p)) → (f (k.thread t)).currentPriority = k.prio t) :
    ReadyTable (k.modify t f) :=
  h.congr rfl rfl rfl fun {p t'} hm => by
    rw [modify_prio]
    split
    · next ht =>
      subst ht
      exact hf ⟨p, hm⟩
    · rfl

/-- Linking a thread that is in no list, with the mask of its priority. -/
theorem rtScheduleInsertThread (h : ReadyTable k) (hl : ¬ k.queue.Linked t)
    (hm : MaskOk (k.thread t)) : ReadyTable (k.rtScheduleInsertThread t) := by
  by_cases hc : t = k.currentThread
  · rw [rtScheduleInsertThread_of_eq hc]
    exact h.modify fun _ => rfl
  · refine ⟨?_, fun {p t'} hmem => ?_, fun p hlt => ?_, ?_, fun p => ?_⟩
    · rw [rtScheduleInsertThread_queue, if_neg hc]
      exact h.proper.append hl
    · simp only [rtScheduleInsertThread_queue, if_neg hc, ListFamily.mem_append] at hmem
      rw [rtScheduleInsertThread_prio]
      rcases hmem with hmem | ⟨hp, rfl⟩
      · exact h.prio hmem
      · exact (Head.ready.inj hp).symm
    · have hm : (k.thread t).numberMask = priorityMask 32 (k.prio t) := hm
      simp only [rtScheduleInsertThread_readyPriorityGroup, if_neg hc, hm,
        getLsbD_or_priorityMask hlt, Bool.or_eq_true, decide_eq_true_eq, h.bit p hlt,
        rtScheduleInsertThread_queue]
      by_cases hp : p = k.prio t
      · simp [hp]
      · rw [ListFamily.append_of_ne (by simpa using hp)]
        simp [hp]
    · rw [rtScheduleInsertThread_history, if_neg hc]
      refine h.orderly.append_singleton ?_
      rw [Admissible, ← h.log]
      exact fun hmem => hl ⟨_, hmem⟩
    · rw [rtScheduleInsertThread_history, if_neg hc, replay_append_singleton, ← h.log,
        rtScheduleInsertThread_queue, if_neg hc, QueueEvent.apply]
      by_cases hp : k.prio t = p
      · subst hp
        rw [ListFamily.append_same, if_pos rfl]
      · rw [ListFamily.append_of_ne (by simpa using Ne.symm hp), if_neg hp]

/-- Unlinking a thread with the mask of its priority, linked or not. -/
theorem rtScheduleRemoveThread (h : ReadyTable k) (hm : MaskOk (k.thread t)) :
    ReadyTable (k.rtScheduleRemoveThread t) := by
  refine ⟨?_, fun {p t'} hmem => ?_, fun p hlt => ?_, ?_, fun p => ?_⟩
  · rw [rtScheduleRemoveThread_queue]
    exact h.proper.remove t
  · rw [rtScheduleRemoveThread_queue, h.proper.mem_remove] at hmem
    rw [Kernel.prio, rtScheduleRemoveThread_thread]
    exact h.prio hmem.2
  · rw [rtScheduleRemoveThread_readyPriorityGroup, rtScheduleRemoveThread_queue]
    -- the bit of another priority stays, since only the thread's own list can change
    have hother : p ≠ k.prio t → k.queue.remove t (.ready p) = k.queue (.ready p) := fun hp =>
      ListFamily.remove_of_not_mem fun hmem => hp (h.prio hmem).symm
    split
    · next hempty =>
      have hm : (k.thread t).numberMask = priorityMask 32 (k.prio t) := hm
      rw [hm, getLsbD_and_not_priorityMask hlt, Bool.and_eq_true, decide_eq_true_eq, h.bit p hlt]
      by_cases hp : p = k.prio t
      · subst hp
        simp only [ne_eq, not_true_eq_false, and_false, false_iff, not_not]
        exact hempty
      · rw [hother hp]
        simp [hp]
    · next hne =>
      rw [h.bit p hlt]
      by_cases hp : p = k.prio t
      · subst hp
        refine ⟨fun _ => hne, fun _ hnil => hne ?_⟩
        rw [ListFamily.remove_apply, hnil, List.erase_nil]
      · rw [hother hp]
  · rw [rtScheduleRemoveThread_history]
    exact h.orderly.append_singleton trivial
  · rw [rtScheduleRemoveThread_history, replay_append_singleton, ← h.log,
      rtScheduleRemoveThread_queue, QueueEvent.apply, ListFamily.remove_apply]

/-- Unlinking a thread that is in no ready list. -/
theorem rtListRemove (h : ReadyTable k) (hn : ∀ p, t ∉ k.queue (.ready p)) :
    ReadyTable (k.rtListRemove t) where
  proper := h.proper.remove t
  prio hm := h.prio (h.proper.mem_remove.mp hm).2
  bit p hlt := by
    rw [rtListRemove_readyPriorityGroup, rtListRemove_queue, ListFamily.remove_of_not_mem (hn p)]
    exact h.bit p hlt
  orderly := h.orderly
  log p := by
    rw [rtListRemove_queue, ListFamily.remove_of_not_mem (hn p)]
    exact h.log p

end ReadyTable

/-! ### The invariant under linking, unlinking and switching -/

namespace ReadyQueueInv

/-- A linked thread is ready or suspended, according to the list. -/
theorem not_linked (h : ReadyQueueInv k) (hr : k.state t ≠ .ready) (hs : k.state t ≠ .suspend) :
    ¬ k.queue.Linked t := by
  rintro ⟨p | q, hm⟩
  · exact hr ((h.ready_iff t).mpr ⟨p, hm⟩)
  · exact hs (h.wait hm)

theorem not_mem_ready (h : ReadyQueueInv k) (hr : k.state t ≠ .ready) (p : ℕ) :
    t ∉ k.queue (.ready p) := fun hm => hr ((h.ready_iff t).mpr ⟨p, hm⟩)

theorem ne_current (h : ReadyQueueInv k) (hm : t ∈ k.queue (.ready p)) : t ≠ k.currentThread := by
  rintro rfl
  exact h.current ((h.ready_iff _).mpr ⟨p, hm⟩)

/-- A ready thread is in the list of its own priority. -/
theorem mem_own (h : ReadyQueueInv k) (hr : k.state t = .ready) :
    t ∈ k.queue (.ready (k.prio t)) := by
  obtain ⟨p, hm⟩ := (h.ready_iff t).mp hr
  rwa [h.table.prio hm]

/-- Only the lists, the bitmap, the history, the running thread and the states, priorities and
masks of the threads matter. -/
theorem congr (h : ReadyQueueInv k) (hq : k'.queue = k.queue)
    (hg : k'.readyPriorityGroup = k.readyPriorityGroup)
    (hh : k'.history = k.history) (hc : k'.currentThread = k.currentThread)
    (hs : ∀ t, k'.state t = k.state t) (hp : ∀ t, k'.prio t = k.prio t)
    (hm : ∀ t, (k'.thread t).numberMask = (k.thread t).numberMask) : ReadyQueueInv k' where
  table := h.table.congr hq hg hh fun _ => hp _
  ready_iff t := by rw [hs, hq, h.ready_iff]
  wait hmem := by
    rw [hs]
    rw [hq] at hmem
    exact h.wait hmem
  running hr := by
    rw [hs] at hr
    rw [hc, h.running hr]
  current := by
    rw [hs, hc]
    exact h.current
  mask hi := by
    rw [hs, hc] at hi
    exact (hm _).trans ((h.mask hi).trans (congrArg _ (hp _).symm))

/-- Writing a control block outside the state and the priority. -/
theorem modify (h : ReadyQueueInv k) (hs : (f (k.thread t)).stat.state = k.state t)
    (hp : (f (k.thread t)).currentPriority = k.prio t)
    (hm : (f (k.thread t)).numberMask = (k.thread t).numberMask) :
    ReadyQueueInv (k.modify t f) := by
  refine h.congr rfl rfl rfl rfl (fun t' => ?_) (fun t' => ?_) fun t' => ?_
  · rw [modify_state]
    split
    · next ht => rw [hs, ht]
    · rfl
  · rw [modify_prio]
    split
    · next ht => rw [hp, ht]
    · rfl
  · rw [modify_thread]
    split
    · next ht => rw [hm, ht]
    · rfl

/-- **Unlinking.** If `t` was unlinked and is now neither ready nor running elsewhere, and
nothing else changed, then the invariant holds again. -/
theorem unlink (h : ReadyQueueInv k) (htab : ReadyTable k')
    (hc : k'.currentThread = k.currentThread)
    (hq : ∀ {h' x}, x ∈ k'.queue h' ↔ x ≠ t ∧ x ∈ k.queue h')
    (hst : ∀ x, x ≠ t → k'.state x = k.state x) (hr : k'.state t ≠ .ready)
    (hrun : k'.state t = .running → t = k.currentThread)
    (hm : ∀ x, x ≠ t → MaskOk (k.thread x) → MaskOk (k'.thread x))
    (hmt : (k'.state t).started = true ∨ t = k.currentThread → MaskOk (k'.thread t)) :
    ReadyQueueInv k' where
  table := htab
  ready_iff x := by
    by_cases hx : x = t
    · subst hx
      simp [hr, hq]
    · simp [hst x hx, h.ready_iff, hq, hx]
  wait hmem := by
    obtain ⟨hx, hmem⟩ := hq.mp hmem
    rw [hst _ hx, h.wait hmem]
  running {x} hx := by
    rw [hc]
    by_cases hxt : x = t
    · subst hxt
      exact hrun hx
    · exact h.running (hst x hxt ▸ hx)
  current := by
    rw [hc]
    by_cases hx : k.currentThread = t
    · rwa [hx]
    · rw [hst _ hx]
      exact h.current
  mask {x} hx := by
    rw [hc] at hx
    by_cases hxt : x = t
    · subst hxt
      exact hmt hx
    · exact hm x hxt (h.mask (hst x hxt ▸ hx))

/-- **Linking as ready.** If `t`, which is not running, was moved to the ready list of its
priority and marked ready, and nothing else changed, then the invariant holds again. -/
theorem link (h : ReadyQueueInv k) (htab : ReadyTable k') (ht : t ≠ k.currentThread)
    (hc : k'.currentThread = k.currentThread)
    (hq : ∀ {h' x}, x ∈ k'.queue h' ↔ (x ≠ t ∧ x ∈ k.queue h') ∨ h' = .ready p ∧ x = t)
    (hst : ∀ x, x ≠ t → k'.state x = k.state x) (hr : k'.state t = .ready)
    (hm : ∀ x, x ≠ t → MaskOk (k.thread x) → MaskOk (k'.thread x))
    (hmt : MaskOk (k'.thread t)) : ReadyQueueInv k' where
  table := htab
  ready_iff x := by
    by_cases hx : x = t
    · subst hx
      simp [hr, hq]
    · simp [hst x hx, h.ready_iff, hq, hx]
  wait {q x} hmem := by
    rcases hq.mp hmem with ⟨hx, hmem⟩ | ⟨hh, -⟩
    · rw [hst _ hx, h.wait hmem]
    · cases hh
  running {x} hx := by
    rw [hc]
    by_cases hxt : x = t
    · subst hxt
      simp [hr] at hx
    · exact h.running (hst x hxt ▸ hx)
  current := by
    rw [hc, hst _ (Ne.symm ht)]
    exact h.current
  mask {x} hx := by
    rw [hc] at hx
    by_cases hxt : x = t
    · subst hxt
      exact hmt
    · exact hm x hxt (h.mask (hst x hxt ▸ hx))

/-- Queueing a thread that is in no list: it is running if it is the current thread. -/
theorem rtScheduleInsertThread (h : ReadyQueueInv k) (hl : ¬ k.queue.Linked t)
    (hm : MaskOk (k.thread t)) : ReadyQueueInv (k.rtScheduleInsertThread t) := by
  have hmask : ∀ x, MaskOk (k.thread x) → MaskOk ((k.rtScheduleInsertThread t).thread x) := by
    intro x hx
    rw [MaskOk, rtScheduleInsertThread_numberMask]
    exact hx.trans (congrArg _ rtScheduleInsertThread_prio.symm)
  have hst : ∀ x, x ≠ t → (k.rtScheduleInsertThread t).state x = k.state x := fun x hx => by
    rw [rtScheduleInsertThread_state, if_neg hx]
  have htab := h.table.rtScheduleInsertThread hl hm
  by_cases hc : t = k.currentThread
  · refine h.unlink htab rtScheduleInsertThread_currentThread ?_ hst ?_ (fun _ => hc)
      (fun x _ => hmask x) fun _ => hmask t hm
    · intro h' x
      rw [rtScheduleInsertThread_queue, if_pos hc]
      exact ⟨fun hx => ⟨fun hxt => hl ⟨h', hxt ▸ hx⟩, hx⟩, fun hx => hx.2⟩
    · simp [rtScheduleInsertThread_state, hc]
  · refine h.link (p := k.prio t) htab hc rtScheduleInsertThread_currentThread ?_ hst ?_
      (fun x _ => hmask x) (hmask t hm)
    · intro h' x
      rw [rtScheduleInsertThread_queue, if_neg hc, ListFamily.mem_append]
      exact or_congr_left ⟨fun hx => ⟨fun hxt => hl ⟨h', hxt ▸ hx⟩, hx⟩, fun hx => hx.2⟩
    · simp [rtScheduleInsertThread_state, hc]

/-- Unlinking a suspended thread from the wait list it may be in. -/
theorem rtListRemove (h : ReadyQueueInv k) (hs : k.state t = .suspend) :
    ReadyQueueInv (k.rtListRemove t) := by
  refine h.unlink (t := t) (h.table.rtListRemove (h.not_mem_ready (by simp [hs]))) rfl ?_
    (fun _ _ => rfl) ?_ ?_ (fun _ _ hx => hx) fun hi => h.mask hi
  · intro h' x
    rw [rtListRemove_queue, h.table.proper.mem_remove]
  · exact fun hr => absurd (hs.symm.trans hr) (by decide)
  · exact fun hr => h.running hr

end ReadyQueueInv

/-! ### What one scheduling does -/

/-- The running thread stays: its yield bit is cleared. -/
def keepCurrent (k : Kernel T Q) : Kernel T Q :=
  (k.clearYield.rtScheduleRemoveThread k.currentThread).setState k.currentThread .running

/-- The running thread gives the processor to `x`, from the ready list of `p`. -/
def giveTo (k : Kernel T Q) (p : ℕ) (x : T) : Kernel T Q :=
  let running : Bool := k.state k.currentThread = .running
  (if running then k.clearYield else k).switchTo p x running

/-- The scheduler is locked, nothing is ready, or the running thread may not be preempted. -/
def Unscheduled (k : Kernel T Q) : Prop :=
  k.schedulerLockNest ≠ 0 ∨ k.readyPriorityGroup = 0 ∨
    (k.thread k.currentThread).preemptableFlag = true

/-- `x` is the first thread of the most urgent nonempty ready list, the one of `p`. -/
structure IsHighest (k : Kernel T Q) (p : ℕ) (x : T) : Prop where
  lt : p < rtThreadPriorityMax
  head : (k.queue (.ready p)).head? = some x
  least : ∀ i < p, k.queue (.ready i) = []

theorem IsHighest.mem {x : T} (h : IsHighest k p x) : x ∈ k.queue (.ready p) :=
  List.mem_of_mem_head? h.head

/-- On a nonempty bitmap the scheduler finds the first thread of the most urgent list. -/
theorem schedulerGetHighestPriorityThread_eq (hbit : ∀ p < rtThreadPriorityMax,
    k.readyPriorityGroup.getLsbD p = true ↔ k.queue (.ready p) ≠ [])
    (hg : k.readyPriorityGroup ≠ 0) :
    ∃ p x, k.schedulerGetHighestPriorityThread = some (p, x) ∧ IsHighest k p x := by
  obtain ⟨p, hlt, hffs, hset, hbelow⟩ := ffs_spec hg
  obtain ⟨x, rest, hl⟩ := List.exists_cons_of_ne_nil ((hbit p hlt).mp hset)
  refine ⟨p, x, ?_, hlt, by simp [hl], fun i hi => ?_⟩
  · simp [schedulerGetHighestPriorityThread, hffs, hl]
  · by_contra hne
    have := (hbit i (Nat.lt_trans hi hlt)).mpr hne
    simp [hbelow i hi] at this

/-- **One scheduling.** Either it changes nothing, or it compares the running thread with the
first thread of the most urgent ready list and one of the two gets the processor. -/
theorem rtSchedule_cases_of (hbit : ∀ p < rtThreadPriorityMax,
    k.readyPriorityGroup.getLsbD p = true ↔ k.queue (.ready p) ≠ [])
    (hcur : ∀ {p t}, t ∈ k.queue (.ready p) → t ≠ k.currentThread) :
    (Unscheduled k ∧ k.rtSchedule = k) ∨
    (¬ Unscheduled k ∧ ∃ p x, IsHighest k p x ∧
      ((keepsProcessor (k.thread k.currentThread) p = true ∧ k.rtSchedule = k.keepCurrent) ∨
        (keepsProcessor (k.thread k.currentThread) p = false ∧ k.rtSchedule = k.giveTo p x))) := by
  by_cases hu : Unscheduled k
  · refine Or.inl ⟨hu, ?_⟩
    unfold rtSchedule
    by_cases hlock : k.schedulerLockNest ≠ 0
    · rw [if_pos hlock]
    · by_cases hg : k.readyPriorityGroup = 0
      · rw [if_neg hlock, if_pos hg]
      · rw [if_neg hlock, if_neg hg, if_pos ((hu.resolve_left hlock).resolve_left hg)]
  · refine Or.inr ⟨hu, ?_⟩
    simp only [Unscheduled, not_or, not_not, Bool.not_eq_true] at hu
    obtain ⟨hlock, hg, hflag⟩ := hu
    obtain ⟨p, x, hfind, hx⟩ := schedulerGetHighestPriorityThread_eq hbit hg
    have hne : x ≠ k.currentThread := hcur hx.mem
    refine ⟨p, x, hx, ?_⟩
    unfold rtSchedule
    rw [if_neg (not_not.mpr hlock), if_neg hg, hflag, hfind]
    cases hkeep : keepsProcessor (k.thread k.currentThread) p with
    | true =>
      refine Or.inl ⟨rfl, ?_⟩
      have hrun : (k.thread k.currentThread).stat.state = .running := by
        simp only [keepsProcessor, Bool.and_eq_true, decide_eq_true_eq] at hkeep
        exact hkeep.1
      simp [hkeep, hrun, keepCurrent, clearYield]
    | false =>
      refine Or.inr ⟨rfl, ?_⟩
      by_cases hrun : k.state k.currentThread = .running
      · simp [hkeep, giveTo, hne, hrun, clearYield]
      · simp [hkeep, giveTo, hne, hrun]

theorem rtSchedule_cases (h : ReadyQueueInv k) :
    (Unscheduled k ∧ k.rtSchedule = k) ∨
    (¬ Unscheduled k ∧ ∃ p x, IsHighest k p x ∧
      ((keepsProcessor (k.thread k.currentThread) p = true ∧ k.rtSchedule = k.keepCurrent) ∨
        (keepsProcessor (k.thread k.currentThread) p = false ∧ k.rtSchedule = k.giveTo p x))) :=
  rtSchedule_cases_of h.table.bit h.ne_current

/-! ### The effect of a scheduling, field by field -/

section Effects

variable {x : T}

@[simp] theorem clearYield_state : k.clearYield.state t = k.state t := by
  rw [clearYield, modify_state]
  split
  · next h => rw [h]
  · rfl

@[simp] theorem clearYield_prio : k.clearYield.prio t = k.prio t := by
  rw [clearYield, modify_prio]
  split
  · next h => rw [h]
  · rfl

@[simp] theorem clearYield_numberMask :
    (k.clearYield.thread t).numberMask = (k.thread t).numberMask := by
  rw [clearYield, modify_thread]
  split
  · next h => rw [h]
  · rfl

@[simp] theorem clearYield_queue : k.clearYield.queue = k.queue := rfl
@[simp] theorem clearYield_readyPriorityGroup :
    k.clearYield.readyPriorityGroup = k.readyPriorityGroup := rfl
@[simp] theorem clearYield_currentThread : k.clearYield.currentThread = k.currentThread := rfl
@[simp] theorem clearYield_history : k.clearYield.history = k.history := rfl

theorem keepCurrent_state (h : k.state k.currentThread = .running) :
    k.keepCurrent.state t = k.state t := by
  rw [keepCurrent, setState_state, rtScheduleRemoveThread_state, clearYield_state]
  split
  · next ht => rw [ht, h]
  · rfl

@[simp] theorem keepCurrent_prio : k.keepCurrent.prio t = k.prio t := by simp [keepCurrent]

@[simp] theorem keepCurrent_numberMask :
    (k.keepCurrent.thread t).numberMask = (k.thread t).numberMask := by
  rw [keepCurrent, setState_numberMask, rtScheduleRemoveThread_thread, clearYield_numberMask]

@[simp] theorem keepCurrent_queue : k.keepCurrent.queue = k.queue.remove k.currentThread := by
  simp [keepCurrent]

@[simp] theorem keepCurrent_currentThread : k.keepCurrent.currentThread = k.currentThread := by
  simp [keepCurrent]

@[simp] theorem giveTo_currentThread : (k.giveTo p x).currentThread = x := by
  simp only [giveTo, switchTo]
  split <;> simp

@[simp] theorem giveTo_prio : (k.giveTo p x).prio t = k.prio t := by
  by_cases hrun : k.state k.currentThread = .running <;> simp [giveTo, switchTo, hrun]

@[simp] theorem giveTo_numberMask :
    ((k.giveTo p x).thread t).numberMask = (k.thread t).numberMask := by
  by_cases hrun : k.state k.currentThread = .running <;> simp [giveTo, switchTo, hrun]

/-- The running thread is ready afterwards, a suspended or closed one keeps its state. -/
theorem giveTo_state (hx : x ≠ k.currentThread) : (k.giveTo p x).state t =
    if t = x then .running
    else if t = k.currentThread ∧ k.state k.currentThread = .running then .ready
    else k.state t := by
  by_cases hrun : k.state k.currentThread = .running <;>
    simp [giveTo, switchTo, hrun, setState_state, rtScheduleInsertThread_state, hx.symm]

theorem giveTo_queue (hx : x ≠ k.currentThread) : (k.giveTo p x).queue =
    (if k.state k.currentThread = .running then
      k.queue.append (.ready (k.prio k.currentThread)) k.currentThread else k.queue).remove x := by
  by_cases hrun : k.state k.currentThread = .running <;>
    simp [giveTo, switchTo, hrun, hx.symm]

end Effects

/-! ### The invariant across a scheduling -/

/-- A special case of `congr`. -/
private theorem ReadyTable.of_eq (h : ReadyTable k) (hq : k'.queue = k.queue)
    (hg : k'.readyPriorityGroup = k.readyPriorityGroup) (hh : k'.history = k.history)
    (hp : ∀ t, k'.prio t = k.prio t) : ReadyTable k' :=
  h.congr hq hg hh fun _ => hp _

/-- The dispatch of the first thread of a ready list. -/
private theorem ReadyTable.record {x : T} (h : ReadyTable k)
    (hx : (k.queue (.ready p)).head? = some x) : ReadyTable (k.record (.dispatch p x)) where
  proper := h.proper
  prio := h.prio
  bit := h.bit
  orderly := h.orderly.append_singleton (by rwa [Admissible, ← h.log])
  log p' := by
    rw [record_history, replay_append_singleton, ← h.log]
    rfl

private theorem maskOk_of_eq (h : MaskOk (k.thread t)) (hp : k'.prio t = k.prio t)
    (hm : (k'.thread t).numberMask = (k.thread t).numberMask) : MaskOk (k'.thread t) :=
  hm.trans (h.trans (congrArg _ hp.symm))

private theorem ReadyTable.clearYield (h : ReadyTable k) : ReadyTable k.clearYield :=
  h.of_eq clearYield_queue clearYield_readyPriorityGroup clearYield_history fun _ => clearYield_prio

private theorem MaskOk.clearYield (h : MaskOk (k.thread t)) : MaskOk (k.clearYield.thread t) :=
  maskOk_of_eq h clearYield_prio clearYield_numberMask

theorem ReadyTable.keepCurrent (h : ReadyTable k) (hm : MaskOk (k.thread k.currentThread)) :
    ReadyTable k.keepCurrent := by
  have hremove : ReadyTable (k.clearYield.rtScheduleRemoveThread k.currentThread) :=
    h.clearYield.rtScheduleRemoveThread hm.clearYield
  exact hremove.of_eq rfl rfl rfl fun _ => setState_prio

theorem ReadyTable.switchTo {x : T} {b : Bool} (h : ReadyTable k)
    (hhead : (k.queue (.ready p)).head? = some x) (hx : MaskOk (k.thread x))
    (hl : b = true → ¬ k.queue.Linked k.currentThread)
    (hm : b = true → MaskOk (k.thread k.currentThread)) : ReadyTable (k.switchTo p x b) := by
  have hcur : ReadyTable (k.setCurrent x) := h.of_eq rfl rfl rfl fun _ => rfl
  -- the running thread is queued before the next one is taken out
  have hins : ReadyTable (if b then (k.setCurrent x).rtScheduleInsertThread k.currentThread
      else k.setCurrent x) := by
    split
    · next hb => exact hcur.rtScheduleInsertThread (hl hb) (hm hb)
    · exact hcur
  have hmask : MaskOk ((if b then (k.setCurrent x).rtScheduleInsertThread k.currentThread
      else k.setCurrent x).thread x) := by
    split
    · exact maskOk_of_eq hx (by simp) (by simp)
    · exact hx
  have hfirst : ((if b then (k.setCurrent x).rtScheduleInsertThread k.currentThread
      else k.setCurrent x).queue (.ready p)).head? = some x := by
    split
    · rw [rtScheduleInsertThread_queue]
      split
      · exact hhead
      · by_cases hp : p = k.prio k.currentThread
        · subst hp
          simp [hhead]
        · rw [ListFamily.append_of_ne (by simpa using hp)]
          exact hhead
    · exact hhead
  have hrem := (hins.record hfirst).rtScheduleRemoveThread hmask
  exact hrem.of_eq rfl rfl rfl fun _ => setState_prio

namespace ReadyQueueInv

theorem keepCurrent (h : ReadyQueueInv k) (hrun : k.state k.currentThread = .running) :
    ReadyQueueInv k.keepCurrent := by
  have hm : MaskOk (k.thread k.currentThread) := h.mask (by simp [hrun])
  have hmask : ∀ t, MaskOk (k.thread t) → MaskOk (k.keepCurrent.thread t) := fun t ht =>
    maskOk_of_eq ht keepCurrent_prio keepCurrent_numberMask
  refine h.unlink (h.table.keepCurrent hm) keepCurrent_currentThread ?_
    (fun t _ => keepCurrent_state hrun) ?_ (fun _ => rfl) (fun t _ => hmask t) fun _ => hmask _ hm
  · intro h' t
    rw [keepCurrent_queue, h.table.proper.mem_remove]
  · simp [keepCurrent_state hrun, hrun]

theorem giveTo {x : T} (h : ReadyQueueInv k) (hx : IsHighest k p x) :
    ReadyQueueInv (k.giveTo p x) := by
  have hne : x ≠ k.currentThread := h.ne_current hx.mem
  have hxr : k.state x = .ready := (h.ready_iff x).mpr ⟨p, hx.mem⟩
  have hmask : ∀ t, MaskOk (k.thread t) → MaskOk ((k.giveTo p x).thread t) := fun t ht =>
    maskOk_of_eq ht giveTo_prio giveTo_numberMask
  have hmx : MaskOk (k.thread x) := h.mask (by simp [hxr])
  have hlinked : k.state k.currentThread = .running → ¬ k.queue.Linked k.currentThread :=
    fun hr => h.not_linked (by simp [hr]) (by simp [hr])
  have hmem : ∀ {h' t}, t ∈ (k.giveTo p x).queue h' ↔ t ≠ x ∧ (t ∈ k.queue h' ∨
      k.state k.currentThread = .running ∧ h' = .ready (k.prio k.currentThread) ∧
        t = k.currentThread) := by
    intro h' t
    rw [giveTo_queue hne]
    split
    · next hr =>
      rw [(h.table.proper.append (hlinked hr)).mem_remove, ListFamily.mem_append]
      simp [hr]
    · next hr =>
      rw [h.table.proper.mem_remove]
      simp [hr]
  refine ⟨?_, fun t => ?_, fun {q t} hm => ?_, fun {t} hr => ?_, ?_, fun {t} hi => ?_⟩
  · rw [Kernel.giveTo]
    by_cases hr : k.state k.currentThread = .running
    · simp only [hr, decide_true, if_true]
      have hmc : MaskOk (k.thread k.currentThread) := h.mask (by simp [hr])
      exact h.table.clearYield.switchTo hx.head hmx.clearYield (fun _ => hlinked hr) fun _ =>
        hmc.clearYield
    · simp only [hr, decide_false, Bool.false_eq_true, if_false]
      exact h.table.switchTo hx.head hmx (by simp) (by simp)
  · rw [giveTo_state hne]
    simp only [hmem]
    by_cases ht : t = x
    · simp [ht]
    · by_cases htc : t = k.currentThread
      · subst htc
        by_cases hr : k.state k.currentThread = .running
        · simp [ht, hr]
        · simp [ht, hr, h.ready_iff]
      · simp [ht, htc, h.ready_iff]
  · obtain ⟨ht, hm⟩ := hmem.mp hm
    have hs : k.state t = .suspend := by
      rcases hm with hm | ⟨-, hh, -⟩
      · exact h.wait hm
      · cases hh
    rw [giveTo_state hne, if_neg ht, if_neg, hs]
    rintro ⟨rfl, hr⟩
    simp [hr] at hs
  · rw [giveTo_currentThread]
    rw [giveTo_state hne] at hr
    by_contra ht
    rw [if_neg ht] at hr
    split at hr
    · cases hr
    · next hc =>
      have htc := h.running hr
      subst htc
      exact hc ⟨rfl, hr⟩
  · rw [giveTo_currentThread, giveTo_state hne, if_pos rfl]
    decide
  · refine hmask t ?_
    rw [giveTo_state hne, giveTo_currentThread] at hi
    by_cases ht : t = x
    · exact ht ▸ hmx
    · rw [if_neg ht, or_iff_left ht] at hi
      split at hi
      · next hc => exact h.mask (.inr hc.1)
      · exact h.mask (.inl hi)

/-- **Scheduling keeps the ready-queue invariant.** -/
theorem rtSchedule (h : ReadyQueueInv k) : ReadyQueueInv k.rtSchedule := by
  rcases rtSchedule_cases h with ⟨-, heq⟩ | ⟨-, p, x, hx, ⟨hkeep, heq⟩ | ⟨-, heq⟩⟩
  · rwa [heq]
  · rw [heq]
    refine h.keepCurrent ?_
    simp only [keepsProcessor, Bool.and_eq_true, decide_eq_true_eq] at hkeep
    exact hkeep.1
  · rw [heq]
    exact h.giveTo hx

end ReadyQueueInv

/-- With priorities below the maximum, no scheduling leaves the table or takes the first node
of an empty list. -/
theorem rtSchedule_fault (h : ReadyQueueInv k) (hp : PrioritiesBounded k) :
    k.rtSchedule.fault = k.fault := by
  rcases rtSchedule_cases h with ⟨-, heq⟩ | ⟨-, p, x, hx, ⟨-, heq⟩ | ⟨-, heq⟩⟩
  · rw [heq]
  · rw [heq, keepCurrent, setState_fault, rtScheduleRemoveThread_fault]
    · rfl
    · rw [clearYield_prio]
      exact (hp _).1
  · rw [heq, giveTo, switchTo]
    have hfrom : ∀ {k' : Kernel T Q}, (∀ t, k'.prio t = k.prio t) → k'.fault = k.fault →
        ((((k'.setCurrent x).rtScheduleInsertThread k.currentThread).record
          (.dispatch p x)).rtScheduleRemoveThread x).fault = k.fault := fun hprio hf => by
      rw [rtScheduleRemoveThread_fault, record_fault, rtScheduleInsertThread_fault,
        setCurrent_fault, hf]
      · rw [setCurrent_prio, hprio]
        exact (hp _).1
      · rw [record_prio, rtScheduleInsertThread_prio, setCurrent_prio, hprio]
        exact (hp _).1
    by_cases hrun : k.state k.currentThread = .running
    · simpa [hrun] using hfrom (fun _ => clearYield_prio) rfl
    · simpa [hrun] using rtScheduleRemoveThread_fault (k := (k.setCurrent x).record
        (.dispatch p x)) (hp x).1

end Kernel

end RobotVacuum
