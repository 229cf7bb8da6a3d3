import RobotVacuum.Machine.Handling
import RobotVacuum.Ipc.Ranking

/-!
# Who waits for what

A thread enters a wait list by a step of its own, inside a call on the object of the list
(`waits_of_step`), and with a valid option if it waits for an event (`ValidWaits.of_step`).
-/

set_option linter.unusedSectionVars false

namespace RobotVacuum

open Kernel (ReadyQueueInv KernelOk)

/-! ### The wait lists of the kernel -/

namespace Kernel

variable {T Q : Type} [DecidableEq T] [DecidableEq Q]
variable {k₀ k k' k'' : Kernel T Q} {t x : T} {q : Q} {flag : IpcFlag} {m : Mutex T}
  {addr : T → BitVec 32} {arg : BitVec 32}

/-- No thread entered a wait list, and all threads wait as they did. -/
structure Shrinks (k k' : Kernel T Q) : Prop where
  info : ∀ t, (k'.thread t).eventInfo = (k.thread t).eventInfo
  waits : ∀ t q, t ∈ k'.queue (.wait q) → t ∈ k.queue (.wait q)

namespace Shrinks

theorem refl : Shrinks k k := ⟨fun _ => rfl, fun _ _ => id⟩

theorem trans (h : Shrinks k k') (h' : Shrinks k' k'') : Shrinks k k'' :=
  ⟨fun t => (h'.info t).trans (h.info t), fun t q ht => h.waits t q (h'.waits t q ht)⟩

/-- A write of one control block. -/
theorem write (h : Shrinks k₀ k) {th : Thread} (hq : k'.queue = k.queue)
    (hthread : k'.thread = Function.update k.thread x th)
    (hi : th.eventInfo = (k.thread x).eventInfo) : Shrinks k₀ k' := by
  refine h.trans ⟨fun t => ?_, fun t q => by rw [hq]; exact id⟩
  rw [hthread]
  by_cases ht : t = x
  · rw [ht, Function.update_self, hi]
  · rw [Function.update_of_ne ht]

theorem of_eq (h : Shrinks k₀ k) (hq : k'.queue = k.queue) (hthread : k'.thread = k.thread) :
    Shrinks k₀ k' :=
  h.trans ⟨fun t => by rw [hthread], fun t q => by rw [hq]; exact id⟩

theorem raise (h : Shrinks k₀ k) {e : Fault} : Shrinks k₀ (k.raise e) := h.of_eq rfl rfl

theorem setState (h : Shrinks k₀ k) {st : ThreadState} : Shrinks k₀ (k.setState x st) :=
  h.write rfl rfl rfl

theorem rtListRemove (h : Shrinks k₀ k) : Shrinks k₀ (k.rtListRemove x) :=
  h.trans ⟨fun _ => rfl, fun _ _ => List.mem_of_mem_erase⟩

theorem rtScheduleInsertThread (h : Shrinks k₀ k) : Shrinks k₀ (k.rtScheduleInsertThread x) := by
  refine h.trans ⟨fun t => ?_, fun t q ht => ?_⟩
  · exact Thread.of_frame (·.eventInfo) (fun _ => rfl) rtScheduleInsertThread_frame
  · rw [rtScheduleInsertThread_queue] at ht
    split at ht
    · exact ht
    · rwa [ListFamily.append_of_ne (by simp)] at ht

theorem rtScheduleRemoveThread (h : Shrinks k₀ k) : Shrinks k₀ (k.rtScheduleRemoveThread x) := by
  refine h.trans ⟨fun t => by rw [rtScheduleRemoveThread_thread], fun t q ht => ?_⟩
  rw [rtScheduleRemoveThread_queue] at ht
  exact List.mem_of_mem_erase ht

theorem switchTo (h : Shrinks k₀ k) {p : ℕ} {b : Bool} : Shrinks k₀ (k.switchTo p x b) := by
  have hcur : Shrinks k₀ (k.setCurrent x) := h.of_eq rfl rfl
  have hrecord : ∀ {k' : Kernel T Q} {e : QueueEvent ℕ T}, Shrinks k₀ k' →
      Shrinks k₀ (k'.record e) := fun h' => h'.of_eq rfl rfl
  unfold Kernel.switchTo
  cases b with
  | false => exact (hrecord hcur).rtScheduleRemoveThread.setState
  | true => exact (hrecord hcur.rtScheduleInsertThread).rtScheduleRemoveThread.setState

theorem rtSchedule (h : Shrinks k₀ k) : Shrinks k₀ k.rtSchedule := by
  have hclear : Shrinks k₀ k.clearYield := h.write rfl rfl rfl
  have hgo : ∀ {k' : Kernel T Q} {p : ℕ} {x : T} {b : Bool}, Shrinks k₀ k' → Shrinks k₀
      (if x ≠ k'.currentThread then k'.switchTo p x b
        else (k'.rtScheduleRemoveThread k'.currentThread).setState k'.currentThread .running) :=
    fun h' => by
      split
      · exact h'.switchTo
      · exact h'.rtScheduleRemoveThread.setState
  unfold Kernel.rtSchedule
  split
  · exact h
  · split
    · exact h
    · split
      · exact h
      · split
        · exact h.raise
        · refine hgo ?_
          split
          · exact hclear
          · exact h

theorem stopThreadTimer (h : Shrinks k₀ k) : Shrinks k₀ (k.stopThreadTimer x) := by
  unfold Kernel.stopThreadTimer
  split
  · exact h.raise
  · exact h.write rfl rfl rfl

theorem rtThreadResume (h : Shrinks k₀ k) : Shrinks k₀ (k.rtThreadResume x) := by
  unfold Kernel.rtThreadResume
  split
  · exact h.raise
  · split
    · exact h
    · exact h.rtListRemove.stopThreadTimer.rtScheduleInsertThread

theorem rtThreadStartupQueue (h : Shrinks k₀ k) : Shrinks k₀ (k.rtThreadStartupQueue x) := by
  unfold Kernel.rtThreadStartupQueue
  split
  · exact h.raise
  · split
    · exact h.raise
    · refine rtThreadResume ?_
      exact h.write rfl rfl rfl

theorem rtThreadSuspend (h : Shrinks k₀ k) : Shrinks k₀ (k.rtThreadSuspend x) := by
  unfold Kernel.rtThreadSuspend
  split
  · exact h.raise
  · split
    · exact h
    · split
      · exact h.raise
      · exact h.rtScheduleRemoveThread.setState.stopThreadTimer

theorem rtThreadControl (h : Shrinks k₀ k) : Shrinks k₀ (k.rtThreadControl x arg) := by
  unfold Kernel.rtThreadControl
  split
  · exact h.raise
  · split
    · refine rtScheduleInsertThread ?_
      exact (h.rtScheduleRemoveThread (x := x)).write rfl rfl rfl
    · exact h.write rfl rfl rfl

theorem changeOwnerPriority (h : Shrinks k₀ k) : Shrinks k₀ (k.changeOwnerPriority m addr x) := by
  unfold Kernel.changeOwnerPriority
  split
  · exact h.raise
  · split
    · exact h.rtThreadControl
    · exact h

theorem setError (h : Shrinks k₀ k) {e : RtErr} : Shrinks k₀ (k.setError x e) :=
  h.write rfl rfl rfl

theorem handOver (h : Shrinks k₀ k) : Shrinks k₀ (k.handOver m q).1 := by
  unfold Kernel.handOver
  split
  · dsimp only
    split
    · exact h
    · exact h.rtThreadResume
  · split <;> exact h

theorem rtMutexRelease (h : Shrinks k₀ k) : Shrinks k₀ (k.rtMutexRelease m q arg).1 := by
  unfold Kernel.rtMutexRelease restorePriority
  dsimp only
  split_ifs
  · exact h.setError
  · exact h.rtThreadControl.handOver
  · exact h.handOver
  · exact h

theorem eventSendWalk (h : Shrinks k₀ k) {set : BitVec 32} {l : List T} :
    Shrinks k₀ (k.eventSendWalk set l).1 :=
  eventSendWalk_induct (P := Shrinks k₀) h fun k' t received _ h' => by
    refine rtThreadResume ?_
    exact h'.write rfl rfl rfl

theorem rtThreadFreeSig (h : Shrinks k₀ k) : Shrinks k₀ (k.rtThreadFreeSig x) := h.write rfl rfl rfl

theorem detachThreadTimer (h : Shrinks k₀ k) : Shrinks k₀ (k.detachThreadTimer x) := by
  unfold Kernel.detachThreadTimer
  split
  · exact h.raise
  · exact h.write rfl rfl rfl

theorem close (h : Shrinks k₀ k) : Shrinks k₀ (k.close x) := h.write rfl rfl rfl

theorem detachObject (h : Shrinks k₀ k) : Shrinks k₀ (k.detachObject x) := by
  unfold Kernel.detachObject
  split
  · exact h.write rfl rfl rfl
  · exact h

theorem rtThreadDetach (h : Shrinks k₀ k) : Shrinks k₀ (k.rtThreadDetach x) := by
  unfold Kernel.rtThreadDetach
  split
  · exact h.raise
  · split
    · exact h
    · dsimp only
      split
      · exact h.rtScheduleRemoveThread.rtThreadFreeSig.detachThreadTimer.close.detachObject
      · exact h.rtThreadFreeSig.detachThreadTimer.close.detachObject

theorem threadExit (h : Shrinks k₀ k) : Shrinks k₀ k.threadExit :=
  h.rtThreadFreeSig.rtScheduleRemoveThread.close.detachThreadTimer.detachObject.rtSchedule

theorem rtTickCharge (h : Shrinks k₀ k) : Shrinks k₀ k.rtTickCharge := by
  have hcharge : Shrinks k₀ ({ k with tick := k.tick + 1 }.modify k.currentThread fun th =>
      { th with remainingTick := th.remainingTick - 1, tickCount := th.tickCount - 1 }) :=
    h.write rfl rfl rfl
  unfold Kernel.rtTickCharge
  dsimp only
  split
  · refine rtSchedule ?_
    exact hcharge.write rfl rfl rfl
  · exact hcharge

end Shrinks

/-- A thread entered the list of an object at most. -/
structure Joins (x : T) (q : Q) (k k' : Kernel T Q) : Prop where
  info : ∀ t, (k'.thread t).eventInfo = (k.thread t).eventInfo
  waits : ∀ t q', t ∈ k'.queue (.wait q') → t ∈ k.queue (.wait q') ∨ t = x ∧ q' = q

theorem Shrinks.joins (h : Shrinks k k') : Joins x q k k' :=
  ⟨h.info, fun t q' ht => .inl (h.waits t q' ht)⟩

theorem Shrinks.rtListInsertWait (h : Shrinks k₀ k) :
    Joins x q k₀ (k.rtListInsertWait q x flag) := by
  refine ⟨fun t => by rw [rtListInsertWait_thread, h.info], fun t q' ht => ?_⟩
  have hmem : t ∈ k.queue (.wait q') ∨ (.wait q' : Head Q) = .wait q ∧ t = x := by
    cases flag with
    | fifo => exact ListFamily.mem_append.mp ht
    | prio => exact ListFamily.mem_insertBefore.mp ht
  rcases hmem with hmem | ⟨hq, hx⟩
  · exact .inl (h.waits t q' hmem)
  · cases hq
    exact .inr ⟨hx, rfl⟩

theorem Shrinks.ipcListSuspend (h : Shrinks k₀ k) : Joins x q k₀ (k.ipcListSuspend q x flag) := by
  unfold Kernel.ipcListSuspend
  split
  · exact h.raise.joins
  · exact h.rtThreadSuspend.rtListInsertWait

theorem Shrinks.rtMutexTake (h : Shrinks k₀ k) :
    Joins k.currentThread q k₀ (k.rtMutexTake m q addr (-1)).1 := by
  unfold Kernel.rtMutexTake Kernel.rtMutexWait
  dsimp only
  split
  · exact h.setError.joins
  · split
    · exact h.setError.joins
    · rw [if_neg (by decide), if_neg (by decide)]
      exact h.setError.changeOwnerPriority.ipcListSuspend

end Kernel

/-! ### The wait lists of a machine -/

/-- The object a thread may wait for inside a call. -/
def Call.object {T E M B : Type} : Call T E M B → Option (WaitQueue E M B)
  | .recv e _ _ _ => some (.event e)
  | .take m _ => some (.mutex m)
  | .mbRecv b _ _ => some (.mail b)
  | .kill _ _ _ => none

namespace Machine

open Kernel (Shrinks Joins ValidWait)

variable {T E M B D V : Type} [DecidableEq T] [DecidableEq E] [DecidableEq M] [DecidableEq B]
  [DecidableEq D]

variable {s s' : Machine T E M B D V} {p : Platform T E M D} {t x : T}
  {i : Label T E M B D V} {a : Act T E M B D V} {c : Call T E M B} {q : WaitQueue E M B}

theorem perform_shrinks : Shrinks s.kernel (s.perform p a).kernel := by
  have h : Shrinks s.kernel s.kernel := .refl
  cases a with
  | recv e set option =>
    simp only [perform]
    split <;> exact h
  | send e set =>
    simp only [perform]
    split
    · exact h
    · split <;> exact h.eventSendWalk
  | release m =>
    simp only [perform]
    split <;> exact h.rtMutexRelease
  | mbSend b v =>
    simp only [perform]
    split
    · exact h.rtThreadResume
    · exact h
  | mask n => exact h.write rfl rfl rfl
  | unmask n =>
    simp only [perform, rtSignalUnmask]
    split <;> exact h.write rfl rfl rfl
  | control t arg => exact h.rtThreadControl
  | setPreemptableFlag t b => exact h.write rfl rfl rfl
  | startup t => exact h.rtThreadStartupQueue
  | detach t => exact h.rtThreadDetach
  | exit => exact h.threadExit
  | timerStart d | timerStop d | timerDetach d =>
    simp only [perform, setTimer]
    split
    · exact h.raise
    · exact h
  | setTaskStarted n | setTaskEnded => exact h.write rfl rfl rfl
  | _ => exact h

theorem rtTimerTimeout_shrinks {k : Kernel T (WaitQueue E M B)} (h : Shrinks k s.kernel) {d : D} :
    Shrinks k (rtTimerTimeout p s d).kernel := by
  simp only [rtTimerTimeout]
  split
  · exact h.eventSendWalk.rtSchedule
  · exact h.eventSendWalk

theorem rtTickIncrease_shrinks {due : List D} :
    Shrinks s.kernel (s.rtTickIncrease p due).kernel := by
  have hrun : ∀ r : Machine T E M B D V, Shrinks s.kernel r.kernel →
      Shrinks s.kernel (due.foldl (rtTimerTimeout p) r).kernel := by
    induction due with
    | nil => exact fun _ => id
    | cons d due ih => exact fun r h => ih _ (rtTimerTimeout_shrinks h)
  exact hrun _ Shrinks.refl.rtTickCharge

theorem handleLoop_shrinks {b : Bool} {k : Kernel T (WaitQueue E M B)} (h : Shrinks k s.kernel) :
    Shrinks k (s.handleLoop b).kernel := by
  simp only [handleLoop]
  split
  · split <;> exact h.write rfl rfl rfl
  · exact h.write rfl rfl rfl

/-- A step other than one inside a call lets no thread enter a wait list. -/
theorem shrinks_of_step (hstep : s.step p i = some s') : Shrinks s.kernel s'.kernel ∨
    ∃ c, (s.ctx s.current).call = some c ∧ s' = s.stepCall p c := by
  cases i with
  | tick due =>
    simp only [step] at hstep
    split at hstep
    · cases hstep
      exact .inl rtTickIncrease_shrinks
    · cases hstep
  | act a =>
    simp only [step] at hstep
    split at hstep
    · unfold stepAct at hstep
      split at hstep <;> split at hstep <;> cases hstep <;> exact .inl perform_shrinks
    · cases hstep
  | hret =>
    simp only [step] at hstep
    split at hstep
    · unfold stepHret at hstep
      split at hstep
      · cases hstep
        refine .inl (handleLoop_shrinks ?_)
        exact Shrinks.refl.write rfl rfl rfl
      · cases hstep
    · cases hstep
  | kern =>
    simp only [step] at hstep
    split at hstep
    · unfold stepKern at hstep
      split at hstep <;> cases hstep
      · refine .inl ?_
        simp only [enterHandleSig]
        split
        · exact handleLoop_shrinks .refl
        · split
          · exact .refl
          · exact Shrinks.refl.write rfl rfl rfl
      · exact .inl Shrinks.refl.rtSchedule
      · refine .inl ?_
        simp only [afterSwitch]
        split
        · exact Shrinks.refl.write rfl rfl rfl
        · exact .refl
      · next c _ _ hc => exact .inr ⟨c, hc, rfl⟩
    · cases hstep

/-- What a step inside a call does to the wait lists, the test of the flags apart. -/
theorem stepCall_joins (hc : ∀ e set option, c ≠ .recv e set option .enter) :
    Shrinks s.kernel (s.stepCall p c).kernel ∨ ∃ q, c.object = some q ∧ (∀ e, q ≠ .event e) ∧
      Joins s.current q s.kernel (s.stepCall p c).kernel := by
  have h : Shrinks s.kernel s.kernel := .refl
  cases c with
  | recv e set option stage =>
    cases stage with
    | enter => exact absurd rfl (hc e set option)
    | reset => exact .inl h.setError
    | check =>
      simp only [stepCall, stepRecv]
      split <;> exact .inl h
    | ret => exact .inl h
  | take m stage =>
    have hmutex : ∀ {k : Kernel T (WaitQueue E M B)},
        Joins s.current (.mutex m) s.kernel k → ∃ q,
          (Call.take m stage : Call T E M B).object = some q ∧ (∀ e, q ≠ .event e) ∧
            Joins s.current q s.kernel k := fun hj =>
      ⟨_, rfl, fun _ hq => (by cases hq), hj⟩
    cases stage with
    | enter =>
      have htake : Joins s.current (.mutex m) s.kernel
          (s.kernel.rtMutexTake (s.mutex m) (.mutex m) p.addr (-1)).1 := h.rtMutexTake
      simp only [stepCall, stepTake]
      split <;> exact .inr (hmutex htake)
    | boost => exact .inl h.changeOwnerPriority
    | suspend =>
      simp only [stepCall, stepTake]
      split
      · exact .inl h.raise
      · exact .inl h.rtThreadSuspend
    | link =>
      simp only [stepCall, stepTake]
      split
      · exact .inl h.raise
      · have hlink : Joins s.current (.mutex m) s.kernel
            (s.kernel.rtListInsertWait (.mutex m) s.current .prio) := h.rtListInsertWait
        exact .inr (hmutex hlink)
    | check | test =>
      simp only [stepCall, stepTake]
      split <;> exact .inl h
    | decrement | setOwner | setOriginal | addHold => exact .inl h
  | mbRecv b wait stage =>
    cases stage with
    | enter =>
      simp only [stepCall, stepMbRecv]
      split
      · split
        · exact .inl h
        · refine .inr ⟨_, rfl, fun _ hq => (by cases hq), ?_⟩
          exact (h.setError (x := s.current)).ipcListSuspend
      · split
        · exact .inl h
        · exact .inl h.rtThreadResume
    | check =>
      simp only [stepCall, stepMbRecv]
      split <;> exact .inl h
  | kill x n stage =>
    cases stage with
    | check =>
      simp only [stepCall, stepKill]
      split <;> exact .inl h
    | alloc =>
      simp only [stepCall, stepKill]
      split
      · exact .inl h
      · exact .inl (h.of_eq rfl rfl)
    | enqueue => exact .inl (h.write rfl rfl rfl)
    | deliver =>
      refine .inl ?_
      simp only [stepCall, stepKill, signalDeliver]
      split
      · exact h
      · split
        · exact (h.rtThreadResume (x := x)).write rfl rfl rfl
        · split
          · exact h.write rfl rfl rfl
          · split
            · exact h.write rfl rfl rfl
            · exact h

/-- Testing the flags, a thread may come to wait for them, and then waits validly. -/
theorem stepRecv_enter (e : E) (set : BitVec 32) (option : EventOption) :
    Shrinks s.kernel (s.stepRecv e set option .enter).kernel ∨ ∃ k,
      (∀ t, t ≠ s.current → (k.thread t).eventInfo = (s.kernel.thread t).eventInfo) ∧
      ValidWait k s.current ∧ k.queue = s.kernel.queue ∧
      Joins s.current (.event e) k (s.stepRecv e set option .enter).kernel := by
  have hvalid : ∀ {b}, Kernel.eventStatus option set (s.event e) = some b →
      option.and = true ∨ option.or = true := fun {b} hb => by
    unfold Kernel.eventStatus at hb
    split_ifs at hb <;> simp_all
  have hset : ∀ {th : Thread} (k : Kernel T (WaitQueue E M B)),
      k.thread = Function.update s.kernel.thread s.current th → th.eventInfo = option →
      option.and = true ∨ option.or = true →
      (∀ t, t ≠ s.current → (k.thread t).eventInfo = (s.kernel.thread t).eventInfo) ∧
        ValidWait k s.current := fun k hk hth hopt => by
    refine ⟨fun t ht => by rw [hk, Function.update_of_ne ht], ?_⟩
    unfold ValidWait
    rw [hk, Function.update_self, hth]
    exact hopt
  simp only [stepRecv]
  split
  · exact .inl Shrinks.refl.raise
  · next hb =>
    obtain ⟨hinfo, hv⟩ := hset (s.takeFlags e set option).kernel rfl rfl (hvalid hb)
    exact .inr ⟨_, hinfo, hv, rfl, Shrinks.refl.joins⟩
  · next hb =>
    obtain ⟨hinfo, hv⟩ := hset (s.kernel.modify s.current fun th =>
      { th with eventSet := set, eventInfo := option }) rfl rfl (hvalid hb)
    exact .inr ⟨_, hinfo, hv, rfl, Shrinks.refl.ipcListSuspend⟩

/-- **A thread enters a wait list by a step of its own**, inside a call on the object of the
list. -/
theorem waits_of_step (hstep : s.step p i = some s') (ht : t ∈ s'.kernel.queue (.wait q)) :
    t ∈ s.kernel.queue (.wait q) ∨
      t = s.current ∧ ∃ c, (s.ctx s.current).call = some c ∧ c.object = some q := by
  rcases shrinks_of_step hstep with hs | ⟨c, hc, rfl⟩
  · exact .inl (hs.waits t q ht)
  by_cases hrecv : ∃ e set option, c = .recv e set option .enter
  · obtain ⟨e, set, option, rfl⟩ := hrecv
    rcases stepRecv_enter (s := s) e set option with
      hs | ⟨k, -, -, hq, hj⟩
    · exact .inl (hs.waits t q ht)
    · rcases hj.waits t q ht with hmem | ⟨rfl, rfl⟩
      · exact .inl (hq ▸ hmem)
      · exact .inr ⟨rfl, _, hc, rfl⟩
  · simp only [not_exists] at hrecv
    rcases stepCall_joins (s := s) (p := p) hrecv with hs | ⟨q', hobject, -, hj⟩
    · exact .inl (hs.waits t q ht)
    · rcases hj.waits t q ht with hmem | ⟨rfl, rfl⟩
      · exact .inl hmem
      · exact .inr ⟨rfl, c, hc, hobject⟩

/-- All threads that wait for an event wait validly. -/
def ValidWaits (s : Machine T E M B D V) : Prop :=
  ∀ t e, t ∈ s.kernel.queue (.wait (.event e)) → ValidWait s.kernel t

theorem ValidWaits.of_shrinks (h : s.ValidWaits) (hs : Shrinks s.kernel s'.kernel) :
    s'.ValidWaits := fun t e ht => by
  have hv := h t e (hs.waits t _ ht)
  unfold ValidWait
  rw [hs.info]
  exact hv

theorem ValidWaits.step (h : s.ValidWaits) (hstep : s.step p i = some s') : s'.ValidWaits := by
  rcases shrinks_of_step hstep with hs | ⟨c, hc, rfl⟩
  · exact h.of_shrinks hs
  by_cases hrecv : ∃ e set option, c = .recv e set option .enter
  · obtain ⟨e, set, option, rfl⟩ := hrecv
    rcases stepRecv_enter (s := s) e set option with
      hs | ⟨k, hinfo, hcur, hq, hj⟩
    · exact h.of_shrinks hs
    · intro t e' ht
      unfold ValidWait
      rw [stepCall, hj.info]
      by_cases htc : t = s.current
      · exact htc ▸ hcur
      · rw [hinfo t htc]
        rcases hj.waits t _ ht with hmem | ⟨hcur', -⟩
        · exact h t e' (hq ▸ hmem)
        · exact absurd hcur' htc
  · simp only [not_exists] at hrecv
    rcases stepCall_joins (s := s) (p := p) hrecv with hs | ⟨q, -, hq, hj⟩
    · exact h.of_shrinks hs
    · intro t e ht
      unfold ValidWait
      rw [hj.info]
      rcases hj.waits t _ ht with hmem | ⟨-, heq⟩
      · exact h t e hmem
      · exact absurd heq.symm (hq e)

end Machine

end RobotVacuum
