import RobotVacuum.Foundation.Metering
import RobotVacuum.Ipc.WaitList

/-!
# Execution accounting

`rt_tick_increase` charges a tick to the thread it interrupts before the time slice or a timer may
give the processor to another one, and nothing else but `set_task_started` writes a tick count. The
kernel with its operations, free context switches and the calls of the jobs is therefore a metered
machine, from which the accounting of a job follows for every schedule (`tickCount_exact`).
-/

set_option linter.unusedSectionVars false

namespace RobotVacuum

namespace Kernel

variable {T Q : Type} [DecidableEq T] [DecidableEq Q] {k : Kernel T Q} {t x : T}

/-- `get_tick_count`. -/
def getTickCount (k : Kernel T Q) (t : T) : ℕ := (k.thread t).tickCount

/-- What may happen to the threads: an operation of the kernel, a context switch of any other
cause, or the calls with which a job begins and ends. -/
inductive ScheduleOp (T : Type)
  | kernel (op : KernelOp T)
  | contextSwitch (toThread : T)
  | setTaskStarted (t : T) (duration : ℕ)
  | setTaskEnded (t : T)

/-- Perform one operation of a schedule. -/
def performOp (k : Kernel T Q) : ScheduleOp T → Kernel T Q
  | .kernel op => k.perform op
  | .contextSwitch toThread => k.setCurrent toThread
  | .setTaskStarted t duration => k.setTaskStarted t duration
  | .setTaskEnded t => k.setTaskEnded t

/-- The tick interrupt is what ticks the counts. -/
def ScheduleOp.effect : ScheduleOp T → MeterEffect T
  | .kernel (.tickIncrease _) => .tick
  | .setTaskStarted t duration => .set t (duration % 0x10000)
  | _ => .quiet

/-! ### What writes a tick count -/

theorem getTickCount_of_frame {k' : Kernel T Q} (h : (k'.thread t).frame = (k.thread t).frame) :
    k'.getTickCount t = k.getTickCount t :=
  Thread.of_frame (·.tickCount) (fun _ => rfl) h

theorem getTickCount_modify {f : Thread → Thread}
    (hf : (f (k.thread x)).tickCount = (k.thread x).tickCount) :
    (k.modify x f).getTickCount t = k.getTickCount t := by
  rw [getTickCount, modify_thread]
  split
  · next h => rw [hf, h, getTickCount]
  · rfl

@[simp] theorem getTickCount_raise {e : Fault} :
    (k.raise e).getTickCount t = k.getTickCount t := rfl

@[simp] theorem getTickCount_rtSchedule : k.rtSchedule.getTickCount t = k.getTickCount t :=
  getTickCount_of_frame rtSchedule_frame

@[simp] theorem getTickCount_rtThreadResume :
    (k.rtThreadResume x).getTickCount t = k.getTickCount t :=
  getTickCount_of_frame rtThreadResume_frame

@[simp] theorem getTickCount_rtScheduleInsertThread :
    (k.rtScheduleInsertThread x).getTickCount t = k.getTickCount t :=
  getTickCount_of_frame rtScheduleInsertThread_frame

@[simp] theorem getTickCount_rtScheduleRemoveThread :
    (k.rtScheduleRemoveThread x).getTickCount t = k.getTickCount t := by
  rw [getTickCount, rtScheduleRemoveThread_thread, getTickCount]

@[simp] theorem getTickCount_rtThreadControl {arg : BitVec 32} :
    (k.rtThreadControl x arg).getTickCount t = k.getTickCount t := by
  unfold rtThreadControl
  split_ifs
  · rfl
  · rw [getTickCount_rtScheduleInsertThread, getTickCount_modify (by rfl),
      getTickCount_rtScheduleRemoveThread]
  · exact getTickCount_modify (by rfl)

@[simp] theorem getTickCount_setPreemptableFlag {b : Bool} :
    (k.setPreemptableFlag x b).getTickCount t = k.getTickCount t :=
  getTickCount_modify (by rfl)

@[simp] theorem getTickCount_rtThreadTimeout :
    (k.rtThreadTimeout x).getTickCount t = k.getTickCount t := by
  unfold rtThreadTimeout
  split_ifs
  · rfl
  · rw [getTickCount_rtSchedule, getTickCount_rtScheduleInsertThread]
    change (k.modify x fun th => { th with error := .etimeout }).getTickCount t = _
    exact getTickCount_modify (by rfl)

theorem getTickCount_foldl_timeout (due : List T) :
    (due.foldl rtThreadTimeout k).getTickCount t = k.getTickCount t := by
  induction due generalizing k with
  | nil => rfl
  | cons x due ih => rw [List.foldl_cons, ih, getTickCount_rtThreadTimeout]

@[simp] theorem getTickCount_rtThreadFreeSig :
    (k.rtThreadFreeSig x).getTickCount t = k.getTickCount t := by
  change (k.modify x fun th => { th with siList := [] }).getTickCount t = _
  exact getTickCount_modify (by rfl)

@[simp] theorem getTickCount_detachThreadTimer :
    (k.detachThreadTimer x).getTickCount t = k.getTickCount t := by
  unfold detachThreadTimer
  split
  · rfl
  · exact getTickCount_modify (by rfl)

@[simp] theorem getTickCount_setTaskEnded :
    (k.setTaskEnded x).getTickCount t = k.getTickCount t := by
  unfold setTaskEnded
  exact getTickCount_modify (by rfl)

@[simp] theorem getTickCount_close : (k.close x).getTickCount t = k.getTickCount t :=
  getTickCount_modify (by rfl)

@[simp] theorem getTickCount_detachObject :
    (k.detachObject x).getTickCount t = k.getTickCount t := by
  unfold detachObject
  split
  · exact getTickCount_modify (by rfl)
  · rfl

/-- No operation but the tick writes a tick count. -/
theorem getTickCount_perform {op : KernelOp T} (hop : ∀ due, op ≠ .tickIncrease due) :
    (k.perform op).getTickCount t = k.getTickCount t := by
  cases op with
  | startup x =>
    simp only [perform, rtThreadStartup, rtThreadStartupQueue]
    split_ifs
    · rfl
    · exact getTickCount_rtSchedule
    · exact getTickCount_rtSchedule
    · rw [getTickCount_rtSchedule, getTickCount_rtThreadResume]
      exact getTickCount_modify (by rfl)
  | suspend x => exact getTickCount_of_frame rtThreadSuspend_frame
  | resume x => exact getTickCount_rtThreadResume
  | yield => exact getTickCount_rtSchedule.trans (getTickCount_modify (by rfl))
  | schedule => exact getTickCount_rtSchedule
  | tickIncrease due => exact absurd rfl (hop due)
  | timeout x => exact getTickCount_rtThreadTimeout
  | changePriority x arg => exact getTickCount_rtThreadControl
  | detach x =>
    simp only [perform, rtThreadDetach]
    split_ifs <;> simp
  | exit => simp [perform, threadExit]
  | setTaskAsNotPreemptable x => simp [perform, setTaskAsNotPreemptable]
  | setTaskAsPreemptable x arg => simp [perform, setTaskAsPreemptable]

/-- **The charge is taken from the interrupted thread**, whatever the rest of the interrupt does
to the choice of the running thread. -/
theorem getTickCount_tickIncrease {due : List T} :
    (k.perform (.tickIncrease due)).getTickCount =
      Function.update k.getTickCount k.currentThread (k.getTickCount k.currentThread - 1) := by
  funext t
  have hcharge : k.rtTickCharge.getTickCount t =
      Function.update k.getTickCount k.currentThread (k.getTickCount k.currentThread - 1) t := by
    have hslice : k.rtTickCharge.getTickCount t =
        (({ k with tick := k.tick + 1 } : Kernel T Q).modify k.currentThread fun th =>
          { th with
            remainingTick := th.remainingTick - 1
            tickCount := th.tickCount - 1 }).getTickCount t := by
      simp only [rtTickCharge]
      split
      · exact getTickCount_rtSchedule.trans (getTickCount_modify (by rfl))
      · rfl
    rw [hslice, getTickCount, modify_thread, Function.update_apply]
    split <;> rfl
  exact (getTickCount_foldl_timeout due).trans hcharge

theorem getTickCount_setTaskStarted {duration : ℕ} :
    (k.setTaskStarted x duration).getTickCount =
      Function.update k.getTickCount x (duration % 0x10000) := by
  funext t
  rw [getTickCount, setTaskStarted, modify_thread, Function.update_apply]
  split <;> rfl

/-! ### What advances the clock -/

@[simp] theorem raise_tick {e : Fault} : (k.raise e).tick = k.tick := rfl
@[simp] theorem rtListRemove_tick : (k.rtListRemove x).tick = k.tick := rfl
@[simp] theorem record_tick {e : QueueEvent ℕ T} : (k.record e).tick = k.tick := rfl
@[simp] theorem setCurrent_tick : (k.setCurrent x).tick = k.tick := rfl
@[simp] theorem setState_tick {st : ThreadState} : (k.setState x st).tick = k.tick := rfl

theorem accessTable_tick {p : ℕ} : (k.accessTable p).tick = k.tick := by
  unfold accessTable
  split <;> rfl

@[simp] theorem rtScheduleInsertThread_tick : (k.rtScheduleInsertThread x).tick = k.tick := by
  unfold rtScheduleInsertThread
  split
  · rfl
  · exact accessTable_tick

@[simp] theorem rtScheduleRemoveThread_tick : (k.rtScheduleRemoveThread x).tick = k.tick := by
  simp only [rtScheduleRemoveThread]
  split <;> exact accessTable_tick

@[simp] theorem clearYield_tick : k.clearYield.tick = k.tick := rfl

@[simp] theorem switchTo_tick {p : ℕ} {b : Bool} : (k.switchTo p x b).tick = k.tick := by
  cases b <;> simp [switchTo]

@[simp] theorem rtSchedule_tick : k.rtSchedule.tick = k.tick := by
  unfold rtSchedule
  split
  · rfl
  · split
    · rfl
    · split
      · rfl
      · split
        · rfl
        · dsimp only
          split_ifs <;> simp

@[simp] theorem rtThreadResume_tick : (k.rtThreadResume x).tick = k.tick := by
  unfold rtThreadResume stopThreadTimer
  split_ifs <;> simp

@[simp] theorem rtThreadControl_tick {arg : BitVec 32} :
    (k.rtThreadControl x arg).tick = k.tick := by
  unfold rtThreadControl
  split_ifs <;> simp

@[simp] theorem rtThreadTimeout_tick : (k.rtThreadTimeout x).tick = k.tick := by
  unfold rtThreadTimeout
  split_ifs <;> simp

@[simp] theorem detachThreadTimer_tick : (k.detachThreadTimer x).tick = k.tick := by
  unfold detachThreadTimer
  split <;> rfl

@[simp] theorem close_tick : (k.close x).tick = k.tick := rfl

@[simp] theorem detachObject_tick : (k.detachObject x).tick = k.tick := by
  unfold detachObject
  split <;> rfl

@[simp] theorem rtThreadFreeSig_tick : (k.rtThreadFreeSig x).tick = k.tick := rfl

/-- No operation but the tick advances the clock. -/
theorem perform_tick {op : KernelOp T} (hop : ∀ due, op ≠ .tickIncrease due) :
    (k.perform op).tick = k.tick := by
  cases op with
  | startup x =>
    simp only [perform, rtThreadStartup, rtThreadStartupQueue]
    split_ifs <;> simp
  | suspend x =>
    simp only [perform, rtThreadSuspend, stopThreadTimer]
    split_ifs <;> simp
  | resume x => exact rtThreadResume_tick
  | yield => exact rtSchedule_tick.trans modify_tick
  | schedule => exact rtSchedule_tick
  | tickIncrease due => exact absurd rfl (hop due)
  | timeout x => exact rtThreadTimeout_tick
  | changePriority x arg => exact rtThreadControl_tick
  | detach x =>
    simp only [perform, rtThreadDetach]
    split_ifs <;> simp
  | exit => simp [perform, threadExit]
  | setTaskAsNotPreemptable x => simp [perform, setTaskAsNotPreemptable, setPreemptableFlag]
  | setTaskAsPreemptable x arg => simp [perform, setTaskAsPreemptable, setPreemptableFlag]

theorem tickIncrease_tick {due : List T} :
    (k.perform (.tickIncrease due)).tick = k.tick + 1 := by
  have hfold : ∀ (due : List T) (k : Kernel T Q), (due.foldl rtThreadTimeout k).tick = k.tick := by
    intro due
    induction due with
    | nil => exact fun _ => rfl
    | cons x due ih => exact fun k => (ih (k.rtThreadTimeout x)).trans rtThreadTimeout_tick
  refine (hfold due k.rtTickCharge).trans ?_
  simp only [rtTickCharge]
  split
  · exact rtSchedule_tick
  · rfl

theorem performOp_tick (k : Kernel T Q) (op : ScheduleOp T) :
    (k.performOp op).tick = k.tick + if op.effect = .tick then 1 else 0 := by
  have hzero : k.tick + (0 : BitVec 32) = k.tick := BitVec.add_zero _
  cases op with
  | kernel op =>
    cases op with
    | tickIncrease due => exact tickIncrease_tick
    | _ => exact (perform_tick (fun _ h => by cases h)).trans hzero.symm
  | _ => exact hzero.symm

/-! ### The kernel as a metered machine -/

/-- The operations with no effect on the counts. -/
theorem getTickCount_performOp {op : ScheduleOp T} (h : op.effect = .quiet) :
    (k.performOp op).getTickCount = k.getTickCount := by
  funext t
  cases op with
  | kernel op =>
    refine getTickCount_perform fun due hdue => ?_
    rw [hdue] at h
    cases h
  | contextSwitch x => rfl
  | setTaskStarted x duration => cases h
  | setTaskEnded x => exact getTickCount_setTaskEnded

/-- The tick counts of the threads are the meters of the kernel. -/
def schedules (T Q : Type) [DecidableEq T] [DecidableEq Q] :
    Metered (Kernel T Q) (ScheduleOp T) T where
  step := performOp
  running k := k.currentThread
  meter := getTickCount
  effect := ScheduleOp.effect
  quiet := getTickCount_performOp
  tick {k op} h := by
    cases op with
    | kernel op =>
      cases op with
      | tickIncrease due => exact getTickCount_tickIncrease
      | _ => cases h
    | _ => cases h
  set {k op t d} h := by
    cases op with
    | setTaskStarted x duration =>
      simp only [ScheduleOp.effect, MeterEffect.set.injEq] at h
      obtain ⟨rfl, rfl⟩ := h
      exact getTickCount_setTaskStarted
    | kernel op => cases op <;> cases h
    | _ => cases h

/-- The clock counts the ticks, modulo `2 ^ 32`. -/
theorem run_tick (k : Kernel T Q) (ops : List (ScheduleOp T)) :
    ((schedules T Q).run k ops).tick =
      k.tick + BitVec.ofNat 32 ((schedules T Q).elapsed ops) := by
  induction ops generalizing k with
  | nil => exact (BitVec.add_zero _).symm
  | cons op ops ih =>
    have hstep : ((schedules T Q).run k (op :: ops)).tick =
        (k.performOp op).tick + BitVec.ofNat 32 ((schedules T Q).elapsed ops) := ih (k.performOp op)
    rw [hstep, performOp_tick, Metered.elapsed, Metered.elapsed, List.countP_cons]
    by_cases htick : op.effect = .tick
    · simp only [htick, schedules, if_true, decide_true]
      rw [BitVec.add_assoc, BitVec.add_comm 1, BitVec.ofNat_add]
      rfl
    · simp [htick, schedules]

/-- **The accounting of a job is exact under preemption.** After `set_task_started(t, d)` the tick
count of `t` is `d` less the ticks that arrived while `t` ran, whatever the schedule; a tick that
arrives while another thread runs leaves it unchanged; the busy-waiting loop of the job can only
end when `t` was charged `d` ticks; and the ticks that elapse are the sum of those charged. -/
theorem tickCount_exact (k : Kernel T Q) (t : T) (d : ℕ) (hd : d < 2 ^ 16)
    (ops : List (ScheduleOp T)) (hops : ∀ op ∈ ops, ∀ d', op ≠ .setTaskStarted t d') :
    ((schedules T Q).run (k.setTaskStarted t d) ops).getTickCount t =
        d - (schedules T Q).charged (k.setTaskStarted t d) ops t ∧
      (∀ (k' : Kernel T Q) (due : List T), k'.currentThread ≠ t →
        (k'.perform (.tickIncrease due)).getTickCount t = k'.getTickCount t) ∧
      (((schedules T Q).run (k.setTaskStarted t d) ops).getTickCount t = 0 →
        d ≤ (schedules T Q).charged (k.setTaskStarted t d) ops t) ∧
      ∀ (k' : Kernel T Q) (ops' : List (ScheduleOp T)) (threads : Finset T),
        (∀ x ∈ (schedules T Q).charges k' ops', x ∈ threads) →
        ∑ x ∈ threads, (schedules T Q).charged k' ops' x = (schedules T Q).elapsed ops' ∧
          ((schedules T Q).run k' ops').tick =
            k'.tick + BitVec.ofNat 32 ((schedules T Q).elapsed ops') := by
  have hset : ∀ op ∈ ops, ∀ d', (schedules T Q).effect op ≠ .set t d' := by
    intro op hop d' h
    cases op with
    | setTaskStarted x duration =>
      simp only [schedules, ScheduleOp.effect, MeterEffect.set.injEq] at h
      exact hops _ hop duration (by rw [h.1])
    | kernel op => cases op <;> cases h
    | _ => cases h
  have hstart : (k.setTaskStarted t d).getTickCount t = d := by
    rw [getTickCount_setTaskStarted, Function.update_self]
    exact Nat.mod_eq_of_lt hd
  have hrun : ((schedules T Q).run (k.setTaskStarted t d) ops).getTickCount t =
      (k.setTaskStarted t d).getTickCount t -
        (schedules T Q).charged (k.setTaskStarted t d) ops t :=
    (schedules T Q).meter_run hset
  rw [hstart] at hrun
  refine ⟨hrun, fun k' due ht => ?_, fun hzero => ?_, fun k' ops' threads hthreads => ?_⟩
  · rw [getTickCount_tickIncrease, Function.update_of_ne (Ne.symm ht)]
  · rw [hrun] at hzero
    omega
  · exact ⟨(schedules T Q).sum_charges hthreads, run_tick k' ops'⟩

/-- Two threads and a time slice of one tick. The job of the first one is interrupted by the first
tick, which gives the processor away for the second one; the third one is charged to it again. -/
theorem tickCount_exact_preempted :
    let k : Kernel (Fin 2) Unit := boot 0 (fun _ => 10) 1
    let ops : List (ScheduleOp (Fin 2)) :=
      [.kernel (.tickIncrease []), .contextSwitch 1, .kernel (.tickIncrease []), .contextSwitch 0,
        .kernel (.tickIncrease [])]
    ((schedules (Fin 2) Unit).run (k.setTaskStarted 0 3) ops).getTickCount 0 =
        3 - (schedules (Fin 2) Unit).charged (k.setTaskStarted 0 3) ops 0 ∧
      (∀ (k' : Kernel (Fin 2) Unit) (due : List (Fin 2)), k'.currentThread ≠ 0 →
        (k'.perform (.tickIncrease due)).getTickCount 0 = k'.getTickCount 0) ∧
      (((schedules (Fin 2) Unit).run (k.setTaskStarted 0 3) ops).getTickCount 0 = 0 →
        3 ≤ (schedules (Fin 2) Unit).charged (k.setTaskStarted 0 3) ops 0) ∧
      ∀ (k' : Kernel (Fin 2) Unit) (ops' : List (ScheduleOp (Fin 2))) (threads : Finset (Fin 2)),
        (∀ x ∈ (schedules (Fin 2) Unit).charges k' ops', x ∈ threads) →
        ∑ x ∈ threads, (schedules (Fin 2) Unit).charged k' ops' x = (schedules (Fin 2) Unit).elapsed ops' ∧
          ((schedules (Fin 2) Unit).run k' ops').tick =
            k'.tick + BitVec.ofNat 32 ((schedules (Fin 2) Unit).elapsed ops') :=
  tickCount_exact _ 0 3 (by decide) _ (by simp)

end Kernel

end RobotVacuum
