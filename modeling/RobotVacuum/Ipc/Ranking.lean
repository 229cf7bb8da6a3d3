import RobotVacuum.Ipc.View
import RobotVacuum.Ipc.Event
import RobotVacuum.Ipc.Mutex
import RobotVacuum.Kernel.Selection

/-!
# Urgent threads

A `Ranking` says which threads are urgent and which priorities each thread may have: an urgent
thread has one priority, ahead of those of all other threads. In a kernel that is `Ranked`, whose
scheduler is not locked and whose threads can all be preempted, a scheduling leaves no urgent thread
waiting behind a less urgent one (`Ranked.rtSchedule_le`).
-/

set_option linter.unusedSectionVars false

namespace RobotVacuum

/-- Which threads are urgent, and which priorities the threads may have. -/
structure Ranking (T : Type) where
  urgent : T → Prop
  allowed : T → ℕ → Prop
  fixed : ∀ {t p q}, urgent t → allowed t p → allowed t q → p = q
  lt : ∀ {t p}, urgent t → allowed t p → p < rtThreadPriorityMax
  above : ∀ {t x p q}, urgent t → ¬urgent x → allowed t p → allowed x q → p < q

namespace Kernel

variable {T Q : Type} [DecidableEq T] [DecidableEq Q]
variable {R : Ranking T} {k k' : Kernel T Q} {t x : T} {q : Q} {f : Thread → Thread}
  {flag : IpcFlag} {m : Mutex T} {addr : T → BitVec 32} {arg : BitVec 32}

/-- The rank of a thread: its flag and its two priorities. -/
def rank (th : Thread) : Bool × ℕ × ℕ := (th.preemptableFlag, th.currentPriority, th.initPriority)

/-- The scheduler is not locked, all threads can be preempted and have priorities they may have. -/
structure Ranked (R : Ranking T) (k : Kernel T Q) : Prop where
  lock : k.schedulerLockNest = 0
  flag : ∀ t, (k.thread t).preemptableFlag = false
  prio : ∀ t, R.allowed t (k.prio t)
  init : ∀ t, R.allowed t (k.thread t).initPriority

namespace Ranked

theorem of_rank (h : Ranked R k) (hlock : k'.schedulerLockNest = k.schedulerLockNest)
    (hrank : ∀ t, rank (k'.thread t) = rank (k.thread t)) : Ranked R k' := by
  have hflag : ∀ t, (k'.thread t).preemptableFlag = (k.thread t).preemptableFlag := fun t =>
    congrArg Prod.fst (hrank t)
  have hprio : ∀ t, k'.prio t = k.prio t := fun t => congrArg (·.2.1) (hrank t)
  have hinit : ∀ t, (k'.thread t).initPriority = (k.thread t).initPriority := fun t =>
    congrArg (·.2.2) (hrank t)
  exact ⟨hlock.trans h.lock, fun t => (hflag t).trans (h.flag t), fun t => hprio t ▸ h.prio t,
    fun t => hinit t ▸ h.init t⟩

theorem of_frame (h : Ranked R k) (hlock : k'.schedulerLockNest = k.schedulerLockNest)
    (hframe : ∀ t, (k'.thread t).frame = (k.thread t).frame) : Ranked R k' :=
  h.of_rank hlock fun t => Thread.of_frame rank (fun _ => rfl) (hframe t)

theorem modify (h : Ranked R k) (hf : rank (f (k.thread x)) = rank (k.thread x)) :
    Ranked R (k.modify x f) :=
  h.of_rank rfl fun t => by
    rw [modify_thread]
    split
    · next ht => rw [hf, ht]
    · rfl

/-- A write of one control block. -/
theorem write (h : Ranked R k) {th : Thread} (hlock : k'.schedulerLockNest = k.schedulerLockNest)
    (hthread : k'.thread = Function.update k.thread x th) (hr : rank th = rank (k.thread x)) :
    Ranked R k' :=
  h.of_rank hlock fun t => by
    rw [hthread]
    by_cases ht : t = x
    · rw [ht, Function.update_self, hr]
    · rw [Function.update_of_ne ht]

theorem raise (h : Ranked R k) (e : Fault) : Ranked R (k.raise e) := h.of_rank rfl fun _ => rfl

theorem setError (h : Ranked R k) {e : RtErr} : Ranked R (k.setError x e) := h.modify rfl

theorem setState (h : Ranked R k) {st : ThreadState} : Ranked R (k.setState x st) := h.modify rfl

theorem accessTable_lock {p : ℕ} : (k.accessTable p).schedulerLockNest = k.schedulerLockNest := by
  unfold accessTable
  split <;> rfl

theorem rtScheduleInsertThread (h : Ranked R k) : Ranked R (k.rtScheduleInsertThread x) :=
  h.of_frame (congrArg Prod.fst rtScheduleInsertThread_shared) fun _ => rtScheduleInsertThread_frame

theorem rtScheduleRemoveThread (h : Ranked R k) : Ranked R (k.rtScheduleRemoveThread x) := by
  refine h.of_rank ?_ fun t => by rw [rtScheduleRemoveThread_thread]
  unfold Kernel.rtScheduleRemoveThread
  dsimp only
  split <;> exact accessTable_lock

theorem rtSchedule (h : Ranked R k) : Ranked R k.rtSchedule := by
  refine h.of_frame ?_ fun _ => rtSchedule_frame
  have hremove : ∀ (k' : Kernel T Q) x, (k'.rtScheduleRemoveThread x).schedulerLockNest =
      k'.schedulerLockNest := fun k' x => by
    unfold Kernel.rtScheduleRemoveThread
    dsimp only
    split <;> exact accessTable_lock
  have hinsert : ∀ (k' : Kernel T Q) x, (k'.rtScheduleInsertThread x).schedulerLockNest =
      k'.schedulerLockNest := fun _ _ => congrArg Prod.fst rtScheduleInsertThread_shared
  have hset : ∀ (k' : Kernel T Q) x st, (k'.setState x st).schedulerLockNest =
      k'.schedulerLockNest := fun _ _ _ => rfl
  have hclear : ∀ k' : Kernel T Q, k'.clearYield.schedulerLockNest = k'.schedulerLockNest :=
    fun _ => rfl
  unfold Kernel.rtSchedule switchTo
  split
  · rfl
  · split
    · rfl
    · split
      · rfl
      · split
        · rfl
        · dsimp only
          split_ifs <;> simp only [hset, hremove] <;>
            first
            | exact hclear _
            | exact hinsert _ _

theorem stopThreadTimer (h : Ranked R k) : Ranked R (k.stopThreadTimer x) := by
  unfold Kernel.stopThreadTimer
  split
  · exact h.raise _
  · exact h.modify rfl

theorem rtListRemove (h : Ranked R k) : Ranked R (k.rtListRemove x) := h.of_rank rfl fun _ => rfl

theorem rtThreadResume (h : Ranked R k) : Ranked R (k.rtThreadResume x) := by
  unfold Kernel.rtThreadResume
  split
  · exact h.raise _
  · split
    · exact h
    · exact h.rtListRemove.stopThreadTimer.rtScheduleInsertThread

theorem rtThreadStartupQueue (h : Ranked R k) : Ranked R (k.rtThreadStartupQueue x) := by
  unfold Kernel.rtThreadStartupQueue
  split
  · exact h.raise _
  · split
    · exact h.raise _
    · refine rtThreadResume ⟨h.lock, fun t => ?_, fun t => ?_, fun t => ?_⟩
      · rw [modify_thread]
        split
        · exact h.flag x
        · exact h.flag t
      · rw [modify_prio]
        split
        · next ht => exact ht ▸ h.init x
        · exact h.prio t
      · rw [modify_thread]
        split
        · next ht => exact ht ▸ h.init x
        · exact h.init t

theorem rtThreadSuspend (h : Ranked R k) : Ranked R (k.rtThreadSuspend x) := by
  unfold Kernel.rtThreadSuspend
  split
  · exact h.raise _
  · split
    · exact h
    · split
      · exact h.raise _
      · exact h.rtScheduleRemoveThread.setState.stopThreadTimer

theorem rtListInsertWait (h : Ranked R k) : Ranked R (k.rtListInsertWait q x flag) := by
  refine h.of_rank ?_ fun t => by rw [rtListInsertWait_thread]
  unfold Kernel.rtListInsertWait
  cases flag <;> rfl

theorem ipcListSuspend (h : Ranked R k) : Ranked R (k.ipcListSuspend q x flag) := by
  unfold Kernel.ipcListSuspend
  split
  · exact h.raise _
  · exact h.rtThreadSuspend.rtListInsertWait

theorem rtThreadControl (h : Ranked R k) (hx : R.allowed x (arg.toNat % 256)) :
    Ranked R (k.rtThreadControl x arg) := by
  have hmod : ∀ {k' : Kernel T Q}, Ranked R k' → Ranked R (k'.modify x (changePriority · arg)) :=
    fun h' => by
      refine ⟨h'.lock, fun t => ?_, fun t => ?_, fun t => ?_⟩
      · rw [modify_thread]
        split
        · exact h'.flag x
        · exact h'.flag t
      · rw [modify_prio]
        split
        · next ht => exact ht ▸ hx
        · exact h'.prio t
      · rw [modify_thread]
        split
        · next ht => exact ht ▸ h'.init x
        · exact h'.init t
  unfold Kernel.rtThreadControl
  split
  · exact h.raise _
  · split
    · exact (hmod h.rtScheduleRemoveThread).rtScheduleInsertThread
    · exact hmod h

theorem changeOwnerPriority (h : Ranked R k)
    (hm : ∀ o, m.owner = some o → ∀ t, R.allowed o ((addr t).toNat % 256)) :
    Ranked R (k.changeOwnerPriority m addr x) := by
  unfold Kernel.changeOwnerPriority
  split
  · exact h.raise _
  · next o ho =>
    split
    · exact h.rtThreadControl (hm o ho x)
    · exact h

theorem rtMutexTake (h : Ranked R k)
    (hm : ∀ o, m.owner = some o → ∀ t, R.allowed o ((addr t).toNat % 256)) :
    Ranked R (k.rtMutexTake m q addr (-1)).1 := by
  unfold Kernel.rtMutexTake Kernel.rtMutexWait
  dsimp only
  split
  · exact h.setError
  · split
    · exact h.setError
    · rw [if_neg (by decide), if_neg (by decide)]
      exact (h.setError.changeOwnerPriority hm).ipcListSuspend

theorem handOver (h : Ranked R k) : Ranked R (k.handOver m q).1 := by
  unfold Kernel.handOver
  split
  · dsimp only
    split
    · exact h
    · exact h.rtThreadResume
  · split <;> exact h

theorem rtMutexRelease (h : Ranked R k)
    (hm : ∀ o, m.owner = some o → R.allowed o (arg.toNat % 256)) :
    Ranked R (k.rtMutexRelease m q arg).1 := by
  unfold Kernel.rtMutexRelease restorePriority
  by_cases ho : m.owner = some k.currentThread
  · simp only [ho, ne_eq, not_true_eq_false, if_false]
    split
    · split
      · exact (h.rtThreadControl (hm _ ho)).handOver
      · exact h.handOver
    · exact h
  · simp only [ne_eq, ho, not_false_eq_true, if_true]
    exact h.setError

theorem eventSendWalk (h : Ranked R k) {set : BitVec 32} {l : List T} :
    Ranked R (k.eventSendWalk set l).1 :=
  eventSendWalk_induct h fun _ _ _ _ h' => (h'.modify rfl).rtThreadResume

theorem rtThreadFreeSig (h : Ranked R k) : Ranked R (k.rtThreadFreeSig x) :=
  (h.modify (x := x) (f := fun th => { th with siList := [] }) rfl).of_rank rfl fun _ => rfl

theorem detachThreadTimer (h : Ranked R k) : Ranked R (k.detachThreadTimer x) := by
  unfold Kernel.detachThreadTimer
  split
  · exact h.raise _
  · exact h.modify rfl

theorem close (h : Ranked R k) : Ranked R (k.close x) := h.modify rfl

theorem detachObject (h : Ranked R k) : Ranked R (k.detachObject x) := by
  unfold Kernel.detachObject
  split
  · exact h.modify rfl
  · exact h

theorem rtThreadDetach (h : Ranked R k) : Ranked R (k.rtThreadDetach x) := by
  unfold Kernel.rtThreadDetach
  split
  · exact h.raise _
  · split
    · exact h
    · dsimp only
      split
      · exact h.rtScheduleRemoveThread.rtThreadFreeSig.detachThreadTimer.close.detachObject
      · exact h.rtThreadFreeSig.detachThreadTimer.close.detachObject

theorem beforeExit (h : Ranked R k) : Ranked R (((((k.rtThreadFreeSig
    k.currentThread).rtScheduleRemoveThread k.currentThread).close
    k.currentThread).detachThreadTimer k.currentThread).detachObject k.currentThread) :=
  h.rtThreadFreeSig.rtScheduleRemoveThread.close.detachThreadTimer.detachObject

theorem threadExit (h : Ranked R k) : Ranked R k.threadExit := h.beforeExit.rtSchedule

theorem rtTickCharge (h : Ranked R k) : Ranked R k.rtTickCharge := by
  have htick : Ranked R { k with tick := k.tick + 1 } := h.of_rank rfl fun _ => rfl
  have hcharge : Ranked R ({ k with tick := k.tick + 1 }.modify k.currentThread fun th =>
      { th with remainingTick := th.remainingTick - 1, tickCount := th.tickCount - 1 }) :=
    htick.modify rfl
  unfold Kernel.rtTickCharge
  dsimp only
  split
  · exact (hcharge.modify rfl).rtSchedule
  · exact hcharge

/-- An urgent thread keeps its priority. -/
theorem prio_eq (h : Ranked R k) (h' : Ranked R k') (ht : R.urgent t) : k'.prio t = k.prio t :=
  R.fixed ht (h'.prio t) (h.prio t)

/-- A thread that is no less urgent than an urgent thread is urgent itself. -/
theorem urgent_of_le (h : Ranked R k) (ht : R.urgent t) (hle : k.prio x ≤ k.prio t) :
    R.urgent x := by
  by_contra hx
  have := R.above ht hx (h.prio t) (h.prio x)
  omega

end Ranked

/-! ### What a scheduling leaves -/

/-- **No urgent thread waits behind a less urgent one** after a scheduling. -/
theorem Ranked.rtSchedule_le (h : Ranked R k) (hk : ReadyQueueInv k) (ht : R.urgent t)
    (hc : Competing k.rtSchedule t) :
    k.rtSchedule.prio k.rtSchedule.currentThread ≤ k.rtSchedule.prio t := by
  have hlt : k.prio t < rtThreadPriorityMax := R.lt ht (h.prio t)
  have hsame : ∀ x, k.rtSchedule.prio x = k.prio x := fun x =>
    Thread.of_frame (·.currentPriority) (fun _ => rfl) rtSchedule_frame
  have hmem : k.state t = .ready → t ∈ k.queue (.ready (k.prio t)) := fun hr => by
    obtain ⟨p, hp⟩ := (hk.ready_iff t).mp hr
    rwa [hk.table.prio hp]
  rw [hsame, hsame]
  have hc : Competing k t := ThreadState.phase_eq_ready.mp
    (hk.rtSchedule_phase ▸ ThreadState.phase_eq_ready.mpr hc)
  rcases rtSchedule_cases hk with ⟨hu, heq⟩ | ⟨-, p, x, hx, hcase⟩
  · -- nothing is ready, so the thread is the one that runs
    have hnone : k.readyPriorityGroup = 0 := by
      rcases hu with hu | hu | hu
      · exact absurd h.lock hu
      · exact hu
      · rw [h.flag] at hu
        cases hu
    have hrun : k.state t = .running := hc.resolve_left fun hr => by
      have hbit := (hk.table.bit _ hlt).mpr (List.ne_nil_of_mem (hmem hr))
      simp [hnone] at hbit
    rw [heq]
    exact Nat.le_of_eq (congrArg k.prio (hk.running hrun).symm)
  · have hle : k.state t = .ready → p ≤ k.prio t := fun hr => by
      by_contra hgt
      have hm := hmem hr
      rw [hx.least _ (by omega)] at hm
      cases hm
    rcases hcase with ⟨hkeep, heq⟩ | ⟨hkeep, heq⟩
    · rw [heq, keepCurrent_currentThread]
      rcases hc with hr | hrun
      · have hcur := (keepsProcessor_iff.mp hkeep).2
        have := hle hr
        change k.prio k.currentThread < p ∨ k.prio k.currentThread = p ∧ _ at hcur
        omega
      · exact Nat.le_of_eq (congrArg k.prio (hk.running hrun).symm)
    · rw [heq, giveTo_currentThread, hk.table.prio hx.mem]
      rcases hc with hr | hrun
      · exact hle hr
      · have hcur : ¬k.prio k.currentThread < p := fun hlt => by
          have hrun : k.state k.currentThread = .running := hk.running hrun ▸ hrun
          have := Bool.eq_false_iff.mp hkeep
          exact this (keepsProcessor_iff.mpr ⟨hrun, .inl hlt⟩)
        rw [hk.running hrun]
        omega

/-- A suspended thread leaves the processor at the next scheduling if another one is ready. -/
theorem Ranked.rtSchedule_leaves (h : Ranked R k) (hk : ReadyQueueInv k)
    (hs : k.state k.currentThread = .suspend) (hc : Competing k x)
    (hlt : k.prio x < rtThreadPriorityMax) : k.rtSchedule.currentThread ≠ k.currentThread := by
  have hready : k.state x = .ready := hc.resolve_right fun hrun => by
    rw [hk.running hrun] at hrun
    exact absurd (hs.symm.trans hrun) (by simp)
  rcases rtSchedule_cases hk with ⟨hu, -⟩ | ⟨-, p, y, hy, ⟨hkeep, -⟩ | ⟨-, heq⟩⟩
  · exfalso
    rcases hu with hu | hu | hu
    · exact hu h.lock
    · obtain ⟨p, hp⟩ := (hk.ready_iff x).mp hready
      have hbit := (hk.table.bit _ (hk.table.prio hp ▸ hlt)).mpr (List.ne_nil_of_mem hp)
      simp [hu] at hbit
    · rw [h.flag] at hu
      cases hu
  · have hrun := (keepsProcessor_iff.mp hkeep).1
    exact absurd (hs.symm.trans hrun) (by simp)
  · rw [heq, giveTo_currentThread]
    exact hk.ne_current hy.mem

/-! ### Sending an event -/

/-- A thread waits for all or for any of the flags. -/
def ValidWait (k : Kernel T Q) (t : T) : Prop :=
  (k.thread t).eventInfo.and = true ∨ (k.thread t).eventInfo.or = true

theorem validWait_eventResume {received : BitVec 32} (h : ValidWait k x) :
    ValidWait (k.eventResume t received) x := by
  have hinfo : ((k.eventResume t received).thread x).eventInfo = (k.thread x).eventInfo := by
    rw [eventResume, Thread.of_frame (·.eventInfo) (fun _ => rfl) rtThreadResume_frame,
      modify_thread]
    split
    · next hx => rw [hx]
    · rfl
  unfold ValidWait
  rw [hinfo]
  exact h

/-- The walk over threads that wait validly goes to its end. -/
theorem eventSendWalk_valid {set : BitVec 32} {l : List T} (h : ∀ t ∈ l, ValidWait k t) :
    (k.eventSendWalk set l).2.2.2 = true := by
  induction l generalizing k set with
  | nil => rfl
  | cons t ts ih =>
    have hts : ∀ x ∈ ts, ValidWait k x := fun x hx => h x (List.mem_cons_of_mem _ hx)
    rw [Kernel.eventSendWalk]
    dsimp only
    split
    · next hnone =>
      have ht := h t List.mem_cons_self
      unfold eventStatus at hnone
      unfold ValidWait at ht
      split_ifs at hnone
      simp_all
    · exact ih hts
    · exact ih fun x hx => validWait_eventResume (hts x hx)

/-- A walk that resumes no thread changes nothing. -/
theorem eventSendWalk_of_nil {set : BitVec 32} {l : List T}
    (h : (k.eventSendWalk set l).2.2.1 = []) : (k.eventSendWalk set l).1 = k := by
  induction l generalizing k set with
  | nil => rfl
  | cons t ts ih =>
    rw [Kernel.eventSendWalk] at h ⊢
    dsimp only at h ⊢
    split at h
    · rfl
    · exact ih h
    · cases h

/-! ### Releasing a mutex -/

/-- A release that resumes no thread disturbs no other thread. -/
theorem rtMutexRelease_view_of_false (h : ReadyQueueInv k) (ht : t ≠ k.currentThread)
    (hno : (k.rtMutexRelease m q arg).2.2.2 = false) :
    (k.rtMutexRelease m q arg).1.view t = k.view t := by
  have hover : ∀ {k' : Kernel T Q} {m' : Mutex T}, (k'.handOver m' q).2.2.2 = false →
      (k'.handOver m' q).1 = k' := fun {k' m'} hno => by
    unfold Kernel.handOver at hno ⊢
    split
    · next w l hq =>
      simp only [hq] at hno ⊢
      split
      · rfl
      · next hr =>
        rw [if_neg hr] at hno
        cases hno
    · next hq =>
      simp only [hq] at hno ⊢
      split <;> rfl
  unfold Kernel.rtMutexRelease at hno ⊢
  by_cases ho : m.owner = some k.currentThread
  · simp only [ho, ne_eq, not_true_eq_false, if_false] at hno ⊢
    split
    · next hold =>
      rw [if_pos hold] at hno
      rw [hover hno]
      exact restorePriority_view h
    · rfl
  · simp only [ne_eq, ho, not_false_eq_true, if_true]
    exact setError_view_of_ne ht

end Kernel

end RobotVacuum
