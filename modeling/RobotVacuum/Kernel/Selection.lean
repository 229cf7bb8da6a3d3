import RobotVacuum.Kernel.Operations

/-!
# What the scheduler selects

One scheduling of a sound ready queue, with the idle thread started, the scheduler not locked
and a preemptable running thread, is specified by `Selected`: the thread that has the
processor afterwards is running and no ready thread is more urgent, a running thread is only
displaced by a more urgent one or at the end of its time slice, and no thread enters or leaves
the ready and running threads.

The order among threads of one priority is a statement about runs: the history of the ready
lists is orderly, so threads leave a list towards the processor in the order they entered it.
-/

set_option linter.unusedSectionVars false

namespace RobotVacuum

open QueueEvent (Orderly replay)

namespace Kernel

variable {T Q : Type} [DecidableEq T] [DecidableEq Q]
variable {k k' : Kernel T Q} {t x : T} {p : ℕ}

/-- The thread competes for the processor. -/
def Competing (k : Kernel T Q) (t : T) : Prop := k.state t = .ready ∨ k.state t = .running

/-- The scheduler went from `k` to `k'` and selected rightly. -/
structure Selected (k k' : Kernel T Q) : Prop where
  /-- The current thread runs. -/
  running : k'.state k'.currentThread = .running
  /-- No ready thread is more urgent than the current one. -/
  highest : ∀ t, k'.state t = .ready → k'.prio k'.currentThread ≤ k'.prio t
  /-- A running thread loses the processor only to a more urgent thread, or to one as urgent
  when its yield bit is set, and is then queued in the list of its priority. -/
  displaced : ∀ t, k.state t = .running → t ≠ k'.currentThread →
    (k'.prio k'.currentThread < k'.prio t ∨
      k'.prio k'.currentThread = k'.prio t ∧ (k.thread t).stat.yield = true) ∧
    k'.state t = .ready ∧ t ∈ k'.queue (.ready (k'.prio t))
  /-- The same threads compete for the processor. -/
  competing : ∀ t, Competing k' t ↔ Competing k t

/-- What `keepsProcessor` compares. -/
theorem keepsProcessor_iff {th : Thread} : keepsProcessor th p = true ↔
    th.stat.state = .running ∧
      (th.currentPriority < p ∨ th.currentPriority = p ∧ th.stat.yield = false) := by
  simp [keepsProcessor]

/-- A ready thread is no more urgent than the first thread of the most urgent list. -/
theorem ReadyQueueSound.le_prio (h : ReadyQueueSound k) (hx : IsHighest k p x)
    (ht : k.state t = .ready) : p ≤ k.prio t := by
  obtain ⟨p', -, hm⟩ := h.ready ht
  obtain ⟨-, -, hp, -⟩ := h.linked hm
  by_contra hlt
  rw [hx.least p' (by omega)] at hm
  cases hm

/-- The running thread stays on the processor. -/
private theorem selected_keepCurrent (h : ReadyQueueSound k) (hx : IsHighest k p x)
    (hkeep : keepsProcessor (k.thread k.currentThread) p = true) : Selected k k.keepCurrent := by
  obtain ⟨hrun, hle⟩ := keepsProcessor_iff.mp hkeep
  have hst : ∀ t, k.keepCurrent.state t = k.state t := fun t => keepCurrent_state hrun
  refine ⟨?_, fun t ht => ?_, fun t ht hne => ?_, fun t => ?_⟩
  · rw [hst, keepCurrent_currentThread]
    exact hrun
  · rw [hst] at ht
    rw [keepCurrent_prio, keepCurrent_prio, keepCurrent_currentThread]
    have := h.le_prio hx ht
    change k.prio k.currentThread < p ∨ k.prio k.currentThread = p ∧ _ at hle
    omega
  · rw [keepCurrent_currentThread] at hne
    exact absurd (h.running ht) hne
  · simp only [Competing, hst]

/-- The running thread gives way to the first thread of the most urgent list. -/
private theorem selected_giveTo (h : ReadyQueueSound k) (hx : IsHighest k p x)
    (hkeep : keepsProcessor (k.thread k.currentThread) p = false) :
    Selected k (k.giveTo p x) := by
  obtain ⟨-, hxr, hxp, -, -, -, hne⟩ := h.linked hx.mem
  -- a running thread that does not keep the processor is not more urgent
  have hge : k.state k.currentThread = .running → p < k.prio k.currentThread ∨
      p = k.prio k.currentThread ∧ (k.thread k.currentThread).stat.yield = true := by
    intro hrun
    have hno := Bool.eq_false_iff.mp hkeep
    rw [ne_eq, keepsProcessor_iff] at hno
    simp only [not_and, not_or, Bool.not_eq_false] at hno
    have hno := hno hrun
    rcases Nat.lt_or_ge p (k.prio k.currentThread) with hlt | hge
    · exact .inl hlt
    · have heq : k.prio k.currentThread = p := Nat.le_antisymm hge (Nat.not_lt.mp hno.1)
      exact .inr ⟨heq.symm, hno.2 heq⟩
  refine ⟨?_, fun t ht => ?_, fun t ht htx => ?_, fun t => ?_⟩
  · rw [giveTo_currentThread, giveTo_state hne, if_pos rfl]
  · rw [giveTo_state hne] at ht
    rw [giveTo_prio, giveTo_prio, giveTo_currentThread, hxp]
    split at ht
    · cases ht
    · split at ht
      · next hc =>
        rw [hc.1]
        rcases hge hc.2 with hlt | ⟨heq, -⟩
        · exact Nat.le_of_lt hlt
        · exact Nat.le_of_eq heq
      · exact h.le_prio hx ht
  · obtain rfl := h.running ht
    rw [giveTo_currentThread] at htx
    rw [giveTo_prio, giveTo_prio, giveTo_currentThread, hxp, giveTo_state hne, if_neg htx,
      if_pos ⟨rfl, ht⟩, giveTo_queue hne, if_pos ht]
    refine ⟨hge ht, rfl, ?_⟩
    rw [ListFamily.remove_apply, List.mem_erase_of_ne htx, ListFamily.append_same]
    exact List.mem_append_right _ (List.mem_singleton_self _)
  · simp only [Competing, giveTo_state hne]
    by_cases htx : t = x
    · simp [htx, hxr]
    · by_cases hc : t = k.currentThread ∧ k.state k.currentThread = .running
      · obtain ⟨rfl, hrun⟩ := hc
        simp [htx, hrun]
      · simp [htx, hc]

/-- **One scheduling selects rightly.** -/
theorem selected_rtSchedule {idle : T} (h : ReadyQueueSound k) (hidle : Competing k idle)
    (hlock : k.schedulerLockNest = 0)
    (hflag : (k.thread k.currentThread).preemptableFlag = false) : Selected k k.rtSchedule := by
  rcases rtSchedule_cases_of h.bit fun hm => (h.linked hm).2.2.2.2.2.2 with
    ⟨hu, heq⟩ | ⟨-, p, x, hx, ⟨hkeep, heq⟩ | ⟨hkeep, heq⟩⟩
  · -- nothing is ready, so the idle thread is the one that runs
    have hg : k.readyPriorityGroup = 0 := by
      rcases hu with hu | hu | hu
      · exact absurd hlock hu
      · exact hu
      · simp [hflag] at hu
    have hnone : ∀ t, k.state t ≠ .ready := fun t ht => by
      obtain ⟨p, hlt, hm⟩ := h.ready ht
      have := (h.bit p hlt).mpr (List.ne_nil_of_mem hm)
      simp [hg] at this
    have hrun : k.state idle = .running := hidle.resolve_left (hnone idle)
    rw [heq]
    refine ⟨h.running hrun ▸ hrun, fun t ht => absurd ht (hnone t), fun t ht hne => ?_,
      fun _ => Iff.rfl⟩
    exact absurd (h.running ht) hne
  · rw [heq]
    exact selected_keepCurrent h hx hkeep
  · rw [heq]
    exact selected_giveTo h hx hkeep

/-! ### The order among threads of one priority -/

/-- The history of a reachable kernel is orderly, and replaying it gives the ready lists. -/
theorem history_of_reachable (h : (kernelOps T Q).Reachable k) :
    Orderly k.history ∧ ∀ p, k.queue (.ready p) = replay p k.history :=
  ⟨(kernelOps_inv h).1.table.orderly, (kernelOps_inv h).1.table.log⟩

/-- Threads are dispatched from the list of a priority in the order they entered it: if `b`
entered after `a` and is dispatched from there later, then `a` left the list before. -/
def DispatchedInOrder (log : List (QueueEvent ℕ T)) : Prop :=
  ∀ p a b l₁ l₂ l₃ l₄, a ≠ b →
    log = l₁ ++ .enter p a :: l₂ ++ .enter p b :: l₃ ++ .dispatch p b :: l₄ → .leave a ∈ l₂ ++ l₃

/-- **The scheduler selects rightly**: every scheduling of a sound ready queue selects the most
urgent thread and displaces a running one only for cause, and over every run the threads of
one priority are dispatched in the order in which they entered its list. -/
theorem scheduler_selection :
    (∀ (k : Kernel T Q) (idle : T), ReadyQueueSound k → Competing k idle →
      k.schedulerLockNest = 0 → (k.thread k.currentThread).preemptableFlag = false →
      Selected k k.rtSchedule) ∧
    ∀ k : Kernel T Q, (kernelOps T Q).Reachable k →
      DispatchedInOrder k.history ∧ ∀ p, k.queue (.ready p) = replay p k.history := by
  refine ⟨fun k idle h hidle hlock hflag => selected_rtSchedule h hidle hlock hflag,
    fun k h => ⟨fun p a b l₁ l₂ l₃ l₄ hab hlog => ?_, (history_of_reachable h).2⟩⟩
  have horderly := (history_of_reachable h).1
  rw [hlog] at horderly
  exact horderly.fifo hab

/-- Three threads: the one that runs displaced the booted one, and the third is ready. -/
theorem scheduler_selection_of_run : ∃ k : Kernel (Fin 3) Empty,
    (kernelOps (Fin 3) Empty).runList (boot 0 (fun t => 20 - t.val) 5)
      [.startup 2, .suspend 0, .startup 1] = some k ∧
    Selected k k.rtSchedule ∧ DispatchedInOrder k.history := by
  have hboot : Booted (boot 0 (fun t => 20 - t.val) 5 : Kernel (Fin 3) Empty) :=
    booted_boot (by decide : ∀ t : Fin 3, 20 - t.val < rtThreadPriorityMax)
  have hrun : (kernelOps (Fin 3) Empty).runList (boot 0 (fun t => 20 - t.val) 5)
      [.startup 2, .suspend 0, .startup 1] = some _ := rfl
  have hreach := Automaton.Reachable.of_runList (.init hboot) hrun
  have hinv := kernelOps_inv hreach
  exact ⟨_, hrun, scheduler_selection.1 _ 2 (hinv.1.sound hinv.2.bounded) (.inr rfl) rfl rfl,
    (scheduler_selection.2 _ hreach).1⟩

end Kernel

end RobotVacuum
