import RobotVacuum.Machine.Machine

/-!
# What the kernel keeps of signals

Only the signal code writes the signal bits of a thread, its masks and its queued signals: queueing,
scheduling, waiting and priority inheritance leave them alone (`Kernel.signals`), and so do the
statements and the calls that are not about signals.
-/

set_option linter.unusedSectionVars false

namespace RobotVacuum

/-- What is known of the signals of a thread. -/
structure SignalState where
  signal : Bool
  signalPending : Bool
  signalWait : Bool
  sigPending : Signo → Bool
  sigMask : Signo → Bool
  siList : List Signo

/-- The signals in a control block. -/
def Thread.signals (th : Thread) : SignalState :=
  ⟨th.stat.signal, th.stat.signalPending, th.stat.signalWait, th.sigPending, th.sigMask, th.siList⟩

/-! ### The kernel -/

namespace Kernel

variable {T Q : Type} [DecidableEq T] [DecidableEq Q]
variable {k k' : Kernel T Q} {t x : T} {q : Q} {f : Thread → Thread} {flag : IpcFlag}

/-- The signals of all threads. -/
def signals (k : Kernel T Q) : T → SignalState := fun t => (k.thread t).signals

theorem signals_of_frame (h : ∀ t, (k'.thread t).frame = (k.thread t).frame) :
    k'.signals = k.signals :=
  funext fun t => Thread.of_frame Thread.signals (fun _ => rfl) (h t)

theorem modify_signals (h : (f (k.thread t)).signals = (k.thread t).signals) :
    (k.modify t f).signals = k.signals := by
  funext x
  simp only [signals, modify_thread]
  split
  · next hx => rw [h, hx]
  · rfl

@[simp] theorem raise_signals {e : Fault} : (k.raise e).signals = k.signals := rfl

@[simp] theorem setError_signals {e : RtErr} : (k.setError t e).signals = k.signals :=
  modify_signals rfl

@[simp] theorem setPreemptableFlag_signals {b : Bool} :
    (k.setPreemptableFlag t b).signals = k.signals := modify_signals rfl

@[simp] theorem setTaskStarted_signals {duration : ℕ} :
    (k.setTaskStarted t duration).signals = k.signals := modify_signals rfl

@[simp] theorem setTaskEnded_signals : (k.setTaskEnded t).signals = k.signals := modify_signals rfl

@[simp] theorem rtSchedule_signals : k.rtSchedule.signals = k.signals :=
  signals_of_frame fun _ => rtSchedule_frame

@[simp] theorem rtThreadResume_signals : (k.rtThreadResume t).signals = k.signals :=
  signals_of_frame fun _ => rtThreadResume_frame

@[simp] theorem rtThreadSuspend_signals : (k.rtThreadSuspend t).signals = k.signals :=
  signals_of_frame fun _ => rtThreadSuspend_frame

@[simp] theorem rtListInsertWait_signals : (k.rtListInsertWait q t flag).signals = k.signals :=
  signals_of_frame fun _ => by rw [rtListInsertWait_thread]

@[simp] theorem ipcListSuspend_signals : (k.ipcListSuspend q t flag).signals = k.signals :=
  signals_of_frame fun _ => ipcListSuspend_frame

@[simp] theorem rtThreadControl_signals {arg : BitVec 32} :
    (k.rtThreadControl t arg).signals = k.signals := by
  cases h : k.isThread t with
  | false => simp [rtThreadControl, h]
  | true =>
    funext x
    rw [signals, Thread.of_frame Thread.signals (fun _ => rfl) (rtThreadControl_frame h _ _)]
    split
    · next hx =>
      rw [hx]
      rfl
    · rfl

@[simp] theorem changeOwnerPriority_signals {m : Mutex T} {addr : T → BitVec 32} :
    (k.changeOwnerPriority m addr t).signals = k.signals := by
  unfold changeOwnerPriority
  split
  · rfl
  · split
    · exact rtThreadControl_signals
    · rfl

@[simp] theorem rtMutexTake_signals {m : Mutex T} {addr : T → BitVec 32} :
    (k.rtMutexTake m q addr (-1)).1.signals = k.signals := by
  unfold rtMutexTake rtMutexWait
  dsimp only
  split
  · simp
  · split
    · simp
    · rw [if_neg (by decide), if_neg (by decide)]
      simp

@[simp] theorem handOver_signals {m : Mutex T} : (k.handOver m q).1.signals = k.signals := by
  unfold handOver
  split
  · dsimp only
    split <;> simp
  · split <;> rfl

@[simp] theorem rtMutexRelease_signals {m : Mutex T} {a : BitVec 32} :
    (k.rtMutexRelease m q a).1.signals = k.signals := by
  unfold rtMutexRelease restorePriority
  dsimp only
  split_ifs <;> simp

@[simp] theorem eventSendWalk_signals {set : BitVec 32} {l : List T} :
    (k.eventSendWalk set l).1.signals = k.signals :=
  eventSendWalk_induct (P := fun k' => k'.signals = k.signals) rfl fun _ _ _ _ h => by
    rw [eventResume, rtThreadResume_signals, modify_signals rfl, h]

end Kernel

/-! ### The machine -/

namespace Machine

variable {T E M B D V : Type} [DecidableEq T] [DecidableEq E] [DecidableEq M] [DecidableEq B]
  [DecidableEq D]

variable {s : Machine T E M B D V} {p : Platform T E M D}

/-- The statement is about signals, or a thread begins or ends by it. -/
def Act.writesSignals : Act T E M B D V → Bool
  | .mask _ | .unmask _ | .startup _ | .detach _ | .exit => true
  | _ => false

/-- Other statements leave the signals of all threads alone. -/
theorem perform_signals {a : Act T E M B D V} (ha : a.writesSignals = false) :
    (s.perform p a).kernel.signals = s.kernel.signals := by
  cases a with
  | «local» | take m | mbRecv b wait | kill t n => rfl
  | recv e set option =>
    simp only [perform]
    split <;> rfl
  | send e set =>
    simp only [perform]
    split
    · rfl
    · split <;> exact Kernel.eventSendWalk_signals
  | release m =>
    simp only [perform]
    split <;> exact Kernel.rtMutexRelease_signals
  | mbSend b v =>
    simp only [perform]
    split
    · exact Kernel.rtThreadResume_signals
    · rfl
  | control t arg => exact Kernel.rtThreadControl_signals
  | timerStart d | timerStop d | timerDetach d =>
    simp only [perform, setTimer]
    split <;> rfl
  | setPreemptableFlag t b => exact Kernel.setPreemptableFlag_signals
  | setTaskStarted duration => exact Kernel.setTaskStarted_signals
  | setTaskEnded => exact Kernel.setTaskEnded_signals
  | mask | unmask | startup | detach | exit => cases ha

/-- A step inside a call other than `rt_thread_kill` leaves the signals of all threads alone. -/
theorem stepCall_signals {c : Call T E M B} (hc : ∀ t n stage, c ≠ .kill t n stage) :
    (s.stepCall p c).kernel.signals = s.kernel.signals := by
  cases c with
  | recv e set option stage =>
    simp only [stepCall]
    cases stage with
    | reset => exact Kernel.setError_signals
    | enter =>
      simp only [stepRecv]
      split
      · rfl
      · exact Kernel.modify_signals (f := fun th => { th with
          eventSet := s.event e &&& set, eventInfo := option }) rfl
      · exact Eq.trans Kernel.ipcListSuspend_signals (Kernel.modify_signals rfl)
    | check =>
      simp only [stepRecv]
      split <;> rfl
    | ret => rfl
  | take m stage =>
    simp only [stepCall]
    cases stage with
    | enter =>
      simp only [stepTake]
      split <;> exact Kernel.rtMutexTake_signals
    | check =>
      simp only [stepTake]
      split <;> rfl
    | test =>
      simp only [stepTake]
      split <;> rfl
    | decrement | setOwner | setOriginal | addHold => rfl
    | boost => exact Kernel.changeOwnerPriority_signals
    | suspend =>
      simp only [stepTake]
      split
      · rfl
      · exact Kernel.rtThreadSuspend_signals
    | link =>
      simp only [stepTake]
      split
      · rfl
      · have hlink : (s.kernel.rtListInsertWait (.mutex m) s.current .prio).signals =
            s.kernel.signals := Kernel.rtListInsertWait_signals
        exact hlink
  | mbRecv b wait stage =>
    simp only [stepCall]
    cases stage with
    | enter =>
      simp only [stepMbRecv]
      split
      · split
        · rfl
        · exact Eq.trans Kernel.ipcListSuspend_signals Kernel.setError_signals
      · split
        · rfl
        · exact Kernel.rtThreadResume_signals
    | check =>
      simp only [stepMbRecv]
      split <;> rfl
  | kill t n stage => exact absurd rfl (hc t n stage)

end Machine

end RobotVacuum
