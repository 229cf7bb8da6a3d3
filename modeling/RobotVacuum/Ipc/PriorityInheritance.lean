import RobotVacuum.Ipc.Mutex
import Mathlib.Tactic.FinCases

/-!
# Priority inheritance

Runs of any threads over one mutex: the running thread takes the mutex, releases it, gives up
its time slice or sleeps, and interrupts charge ticks, wake sleeping threads and let waiting
times expire. All threads were started, and their priorities are below the maximum.

`rt_thread_control` takes the new priority by value in this kernel, but the mutex code still
passes the address of a priority. `AddressesFit` says when this goes unnoticed: when a thread
waits for a less urgent owner, the low byte of the address of its priority is no greater than
the priority, and when an owner whose priority was changed drops its last hold, the low byte of
the address of the stored priority is the stored priority. In runs whose steps all satisfy it,
priorities stay in range and inheritance works; a step that does not satisfy it breaks
inheritance at once.
-/

set_option linter.unusedSectionVars false

namespace RobotVacuum

open Kernel

variable {T Q : Type} [DecidableEq T] [DecidableEq Q]

/-- The threads, the mutex, and the priority its owner had when it took it. -/
structure MutexState (T Q : Type) where
  kernel : Kernel T Q
  mutex : Mutex T
  /-- History variable: the priority of the owner at the moment it became the owner. -/
  priorityAtTake : ℕ

/-- What happens next. -/
inductive MutexLabel (T : Type)
  | take (time : ℤ)
  | release
  | sleep
  | yield
  | wake (t : T)
  | tick
  | timeout (t : T)

/-- The mutex under consideration: its wait list, the addresses of the priorities of the
threads, and the address of its stored priority. -/
structure MutexSite (T Q : Type) where
  waiters : Q
  addr : T → BitVec 32
  originalAddr : BitVec 32

namespace MutexState

/-- The thread on the processor. -/
abbrev current (s : MutexState T Q) : T := s.kernel.currentThread

/-- Keep the history variable when the owner of the mutex is the same, and otherwise record the
priority of the new owner. -/
def recordOwner (s : MutexState T Q) (m : Mutex T) : ℕ :=
  if m.owner = s.mutex.owner then s.priorityAtTake
  else match m.owner with
    | some o => s.kernel.prio o
    | none => s.priorityAtTake

/-- `rt_mutex_take`, with the scheduling that follows if the caller has to wait. -/
def take (s : MutexState T Q) (site : MutexSite T Q) (time : ℤ) : MutexState T Q :=
  let r := s.kernel.rtMutexTake s.mutex site.waiters site.addr time
  { kernel := if r.2.2 = none then r.1.rtSchedule else r.1
    mutex := r.2.1
    priorityAtTake := s.recordOwner r.2.1 }

/-- `rt_mutex_release`, with the scheduling that follows if a thread was resumed. -/
def release (s : MutexState T Q) (site : MutexSite T Q) : MutexState T Q :=
  let r := s.kernel.rtMutexRelease s.mutex site.waiters site.originalAddr
  { kernel := if r.2.2.2 then r.1.rtSchedule else r.1
    mutex := r.2.1
    priorityAtTake := s.recordOwner r.2.1 }

/-- Replace the kernel. -/
def withKernel (s : MutexState T Q) (k : Kernel T Q) : MutexState T Q := { s with kernel := k }

/-- The calling thread must be running; only threads outside the wait list are woken, and only
active timers expire. -/
def Enabled (s : MutexState T Q) (site : MutexSite T Q) : MutexLabel T → Prop
  | .take _ | .release | .sleep | .yield => s.kernel.state s.current = .running
  | .wake t => t ∉ s.kernel.queue (.wait site.waiters)
  | .tick => True
  | .timeout t => (s.kernel.thread t).threadTimer.activated = true ∧ s.kernel.state t = .suspend

instance (s : MutexState T Q) (site : MutexSite T Q) (i : MutexLabel T) :
    Decidable (s.Enabled site i) := by
  cases i <;> unfold Enabled <;> infer_instance

/-- The state after a label. -/
def perform (s : MutexState T Q) (site : MutexSite T Q) : MutexLabel T → MutexState T Q
  | .take time => s.take site time
  | .release => s.release site
  | .sleep => s.withKernel (s.kernel.rtThreadSuspend s.current).rtSchedule
  | .yield => s.withKernel s.kernel.rtThreadYield
  | .wake t => s.withKernel (s.kernel.rtThreadResume t).rtSchedule
  | .tick => s.withKernel s.kernel.rtTickCharge
  | .timeout t => s.withKernel ((s.kernel.modify t fun th =>
      { th with threadTimer := { th.threadTimer with activated := false } }).rtThreadTimeout t)

end MutexState

/-- All threads were started and the mutex is free. -/
structure MutexStart (site : MutexSite T Q) (s : MutexState T Q) : Prop where
  inv : ReadyQueueInv s.kernel
  bounded : PrioritiesBounded s.kernel
  fault : s.kernel.fault = none
  mask : ∀ t, MaskOk (s.kernel.thread t)
  attached : ∀ t, Attached s.kernel t
  free : s.mutex = {}
  nobody : s.kernel.queue (.wait site.waiters) = []

/-- All runs over one mutex, up to the first fault. -/
def mutexRuns (site : MutexSite T Q) : Automaton (MutexState T Q) (MutexLabel T) where
  init := MutexStart site
  step s i := if s.kernel.fault = none ∧ s.Enabled site i then some (s.perform site i) else none

/-! ### The property and its condition -/

/-- Every thread has a priority in range with its mask, and a ready thread is linked in the
list of its own priority. -/
def PrioritiesSound (k : Kernel T Q) : Prop :=
  ∀ t, k.prio t < rtThreadPriorityMax ∧ (k.thread t).numberMask = priorityMask 32 (k.prio t) ∧
    (k.state t = .ready → t ∈ k.queue (.ready (k.prio t)))

/-- The caller of `rt_mutex_take` has to wait for another thread. -/
def Waits (s : MutexState T Q) : MutexLabel T → Prop
  | .take time => s.mutex.owner ≠ some s.current ∧ s.mutex.value = 0 ∧ time ≠ 0
  | _ => False

/-- The running thread gives up its last hold. -/
def DropsLastHold (s : MutexState T Q) : MutexLabel T → Prop
  | .release => s.mutex.owner = some s.current ∧ s.mutex.hold = 1
  | _ => False

/-- A thread that waits leaves an owner that is at least as urgent. -/
def Inherits (s : MutexState T Q) (i : MutexLabel T) (s' : MutexState T Q) : Prop :=
  Waits s i → ∀ o, s.mutex.owner = some o → s'.kernel.prio o ≤ s'.kernel.prio s.current

/-- An owner that gives up its last hold has the priority it had when it took the mutex. -/
def Restores (s : MutexState T Q) (i : MutexLabel T) (s' : MutexState T Q) : Prop :=
  DropsLastHold s i → s'.kernel.prio s.current = s.priorityAtTake

/-- The low byte of an address. -/
def lowByte (a : BitVec 32) : ℕ := a.toNat % 256

/-- The low bytes of the addresses passed as priorities happen to fit. -/
structure AddressesFit (site : MutexSite T Q) (s : MutexState T Q) (i : MutexLabel T) : Prop where
  wait : Waits s i → ∀ o, s.mutex.owner = some o → s.kernel.prio s.current < s.kernel.prio o →
    lowByte (site.addr s.current) ≤ s.kernel.prio s.current
  drop : DropsLastHold s i → s.mutex.originalPriority ≠ s.kernel.prio s.current →
    lowByte site.originalAddr = s.mutex.originalPriority

/-! ### The threads -/

/-- What holds of the threads in every run whose steps satisfy `AddressesFit`. -/
structure ThreadsOk (k : Kernel T Q) : Prop where
  inv : ReadyQueueInv k
  contained : Contained k
  mask : ∀ t, MaskOk (k.thread t)
  attached : ∀ t, Attached k t

namespace ThreadsOk

variable {k k' : Kernel T Q} {t : T} {q : Q}

theorem sound (h : ThreadsOk k) : PrioritiesSound k := fun t =>
  ⟨(h.contained.bounded t).1, h.mask t, h.inv.mem_own⟩

theorem of_frame (h : ThreadsOk k) (hinv : ReadyQueueInv k') (hcon : Contained k')
    (hf : ∀ t, (k'.thread t).frame = (k.thread t).frame) : ThreadsOk k' where
  inv := hinv
  contained := hcon
  mask t := by
    have := h.mask t
    rwa [MaskOk, Thread.of_frame (·.numberMask) (fun _ => rfl) (hf t),
      Thread.of_frame (·.currentPriority) (fun _ => rfl) (hf t)]
  attached t := (h.attached t).of_frame (hf t)

/-- Writing a control block outside what the scheduler and the assertions read. -/
theorem modify {f : Thread → Thread} (h : ThreadsOk k)
    (hf : ∀ th, (f th).stat.state = th.stat.state ∧ (f th).currentPriority = th.currentPriority ∧
      (f th).numberMask = th.numberMask ∧ (f th).initPriority = th.initPriority ∧
      (f th).object = th.object ∧ (f th).threadTimer.attached = th.threadTimer.attached) :
    ThreadsOk (k.modify t f) where
  inv := h.inv.of_schedEq (.modify (hf _).1 (hf _).2.1 (hf _).2.2.1)
  contained :=
    h.contained.modify (by rw [(hf _).2.1]; exact (h.contained.bounded t).1) (hf _).2.2.2.1
  mask x := by
    rw [modify_thread]
    split
    · rw [MaskOk, (hf _).2.2.1, (hf _).2.1]
      exact h.mask t
    · exact h.mask x
  attached x := by
    constructor
    · rw [modify_thread]
      split
      · rw [(hf _).2.2.2.2.1]
        exact (h.attached t).object
      · exact (h.attached x).object
    · rw [modify_thread]
      split
      · rw [(hf _).2.2.2.2.2]
        exact (h.attached t).timer
      · exact (h.attached x).timer

theorem setError (h : ThreadsOk k) {e : RtErr} : ThreadsOk (k.setError t e) :=
  h.modify fun _ => by simp

theorem startThreadTimer (h : ThreadsOk k) : ThreadsOk (k.startThreadTimer t) := by
  rw [Kernel.startThreadTimer, if_neg (by simp [(h.attached t).timer])]
  exact h.modify fun _ => by simp

theorem rtSchedule (h : ThreadsOk k) : ThreadsOk k.rtSchedule :=
  h.of_frame h.inv.rtSchedule (h.contained.rtSchedule h.inv) fun _ => rtSchedule_frame

theorem rtThreadSuspend (h : ThreadsOk k) : ThreadsOk (k.rtThreadSuspend t) :=
  h.of_frame h.inv.rtThreadSuspend h.contained.rtThreadSuspend fun _ => rtThreadSuspend_frame

theorem rtThreadResume (h : ThreadsOk k) : ThreadsOk (k.rtThreadResume t) :=
  h.of_frame h.inv.rtThreadResume h.contained.rtThreadResume fun _ => rtThreadResume_frame

theorem ipcListSuspend (h : ThreadsOk k) (hr : k.state k.currentThread = .running)
    (flag : IpcFlag) : ThreadsOk (k.ipcListSuspend q k.currentThread flag) :=
  h.of_frame (h.inv.ipcListSuspend (h.attached _) hr rfl) (h.contained.ipcListSuspend hr)
    fun _ => ipcListSuspend_frame

theorem rtThreadControl (h : ThreadsOk k) {arg : BitVec 32}
    (ha : lowByte arg < rtThreadPriorityMax) : ThreadsOk (k.rtThreadControl t arg) where
  inv := h.inv.rtThreadControl
  contained := h.contained.rtThreadControl ha
  mask x := by
    have hf := rtThreadControl_frame (h.attached t).isThread x arg
    rw [MaskOk, Thread.of_frame (·.numberMask) (fun _ => rfl) hf,
      Thread.of_frame (·.currentPriority) (fun _ => rfl) hf]
    split
    · rfl
    · exact h.mask x
  attached x := by
    have hf := rtThreadControl_frame (h.attached t).isThread x arg
    constructor
    · rw [Thread.of_frame (·.object) (fun _ => rfl) hf]
      split
      · exact (h.attached t).object
      · exact (h.attached x).object
    · rw [Thread.of_frame (·.threadTimer.attached) (fun _ => rfl) hf]
      split
      · exact (h.attached t).timer
      · exact (h.attached x).timer

theorem rtThreadYield (h : ThreadsOk k) : ThreadsOk k.rtThreadYield :=
  (h.modify fun _ => by simp).rtSchedule

theorem rtTickCharge (h : ThreadsOk k) : ThreadsOk k.rtTickCharge := by
  have htick : ThreadsOk { k with tick := k.tick + 1 } :=
    h.of_frame (h.inv.of_schedEq ⟨rfl, rfl, rfl, rfl, fun _ => rfl, fun _ => rfl, fun _ => rfl⟩)
      ⟨h.contained.bounded, h.contained.fault⟩ fun _ => rfl
  have hcharge := htick.modify (t := k.currentThread) (f := fun th => { th with
    remainingTick := th.remainingTick - 1, tickCount := th.tickCount - 1 })
    fun _ => by simp
  unfold Kernel.rtTickCharge
  dsimp only
  split
  · exact (hcharge.modify fun _ => by simp).rtSchedule
  · exact hcharge

theorem rtThreadTimeout (h : ThreadsOk k) : ThreadsOk (k.rtThreadTimeout t) := by
  have hinv := h.inv.rtThreadTimeout (t := t)
  have hcon := h.contained.rtThreadTimeout h.inv (t := t)
  unfold Kernel.rtThreadTimeout at hinv hcon ⊢
  split at hinv
  · next hs =>
    rw [if_pos hs] at hcon ⊢
    exact h.of_frame hinv hcon fun _ => rfl
  · next hs =>
    rw [if_neg hs] at hcon ⊢
    have herr := h.modify (t := t) (f := fun th => { th with error := .etimeout })
      fun _ => by simp
    exact herr.of_frame hinv hcon fun _ => by simp

end ThreadsOk

/-! ### The mutex -/

/-- The fields of the mutex agree: it is free, or it is held, and then it stores the priority
its owner had when it took it. -/
def MutexOk (m : Mutex T) (priorityAtTake : ℕ) : Prop :=
  match m.owner with
  | none => m.value = 1 ∧ m.hold = 0
  | some _ => m.value = 0 ∧ 1 ≤ m.hold ∧ m.hold ≤ rtMutexHoldMax ∧
      m.originalPriority = priorityAtTake ∧ priorityAtTake < rtThreadPriorityMax

/-- What holds at every state of a run whose steps satisfy `AddressesFit`. -/
structure MutexRunInv (s : MutexState T Q) : Prop where
  threads : ThreadsOk s.kernel
  mutex : MutexOk s.mutex s.priorityAtTake

variable {s s' : MutexState T Q} {site : MutexSite T Q} {i : MutexLabel T} {m : Mutex T} {n : ℕ}

/-- A held mutex, with the facts about its fields. -/
theorem MutexOk.held {o : T} (h : MutexOk m n) (ho : m.owner = some o) :
    m.value = 0 ∧ 1 ≤ m.hold ∧ m.hold ≤ rtMutexHoldMax ∧ m.originalPriority = n ∧
      n < rtThreadPriorityMax := by
  rwa [MutexOk, ho] at h

/-- The owner is changed to the running thread, or raised, by a wait. -/
theorem changeOwnerPriority_prio {k : Kernel T Q} {addr : T → BitVec 32} {o t x : T}
    (ha : ∀ t, Attached k t) (ho : m.owner = some o) :
    (k.changeOwnerPriority m addr t).prio x =
      if x = o ∧ k.prio t < k.prio o then lowByte (addr t) else k.prio x := by
  simp only [changeOwnerPriority, ho]
  by_cases hlt : k.prio t < k.prio o
  · rw [if_pos hlt, rtThreadControl_prio (ha o).isThread]
    simp [hlt, lowByte]
  · simp [hlt]

@[simp] theorem startThreadTimer_frame {k : Kernel T Q} {t x : T} :
    ((k.startThreadTimer t).thread x).frame = (k.thread x).frame := by
  unfold startThreadTimer
  split
  · rfl
  · exact modify_frame rfl

/-- The priorities after a wait: only the owner's may change. -/
theorem rtMutexWait_prio {k : Kernel T Q} {addr : T → BitVec 32} {o t x : T} {q : Q} {time : ℤ}
    (ha : ∀ t, Attached k t) (ho : m.owner = some o) :
    (k.rtMutexWait m q addr t time).prio x =
      if x = o ∧ k.prio t < k.prio o then lowByte (addr t) else k.prio x := by
  rw [← changeOwnerPriority_prio ha ho, rtMutexWait]
  refine Thread.of_frame (·.currentPriority) (fun _ => rfl) ?_
  split <;> simp

/-! ### Taking -/

theorem recordOwner_same (h : m.owner = s.mutex.owner) : s.recordOwner m = s.priorityAtTake :=
  if_pos h

theorem recordOwner_none (h : m.owner = none) : s.recordOwner m = s.priorityAtTake := by
  rw [MutexState.recordOwner, h]
  split <;> rfl

theorem recordOwner_new {o : T} (h : m.owner = some o) (hne : s.mutex.owner ≠ some o) :
    s.recordOwner m = s.kernel.prio o := by
  have hdiff : m.owner ≠ s.mutex.owner := fun he => hne (he.symm.trans h)
  rw [MutexState.recordOwner, if_neg hdiff, h]

/-- A wait keeps the threads sound if the byte written to the owner is in range. -/
theorem ThreadsOk.rtMutexWait {k : Kernel T Q} {addr : T → BitVec 32} {o : T} {q : Q} {time : ℤ}
    (h : ThreadsOk k) (hrun : k.state k.currentThread = .running) (ho : m.owner = some o)
    (hne : o ≠ k.currentThread) (hlow : k.prio k.currentThread < k.prio o →
      lowByte (addr k.currentThread) < rtThreadPriorityMax) :
    ThreadsOk (k.rtMutexWait m q addr k.currentThread time) := by
  have hcontrol : ThreadsOk (k.changeOwnerPriority m addr k.currentThread) ∧
      (k.changeOwnerPriority m addr k.currentThread).state k.currentThread = .running ∧
      (k.changeOwnerPriority m addr k.currentThread).currentThread = k.currentThread := by
    simp only [changeOwnerPriority, ho]
    split
    · next hlt =>
      refine ⟨h.rtThreadControl (hlow hlt), ?_, rtThreadControl_currentThread⟩
      rw [rtThreadControl_state (h.attached o).isThread hne, hrun]
    · exact ⟨h, hrun, rfl⟩
  obtain ⟨hok, hrun', hcur⟩ := hcontrol
  have hsusp := hok.ipcListSuspend (q := q) (hcur.symm ▸ hrun') .prio
  rw [hcur] at hsusp
  rw [Kernel.rtMutexWait]
  split
  · exact hsusp.startThreadTimer
  · exact hsusp

theorem addHold_ok (h : MutexOk m n) {o : T} (ho : m.owner = some o) : MutexOk m.addHold.1 n := by
  obtain ⟨hv, hpos, hmax, horig, hlt⟩ := h.held ho
  rw [Mutex.addHold]
  split
  · simp only [MutexOk, ho]
    exact ⟨hv, by omega, by omega, horig, hlt⟩
  · exact h

/-- Taking an available mutex makes the thread its owner. -/
theorem takeAvailable_ok (h : MutexOk m n) (hv : 0 < m.value) {t : T} {p : ℕ}
    (hp : p < rtThreadPriorityMax) :
    (m.takeAvailable t p).1.owner = some t ∧ MutexOk (m.takeAvailable t p).1 p := by
  have hfree : m.owner = none ∧ m.value = 1 ∧ m.hold = 0 := by
    cases ho : m.owner with
    | none => simpa [MutexOk, ho] using h
    | some o => exact absurd (h.held ho).1 (by omega)
  obtain ⟨ho, hv1, hh⟩ := hfree
  have hpos : 0 < rtMutexHoldMax := by decide
  simp only [Mutex.takeAvailable, Mutex.addHold, Mutex.decrement, Mutex.setOwner,
    Mutex.setOriginalPriority, MutexOk, hv1, hh, hpos, if_true]
  exact ⟨trivial, by decide, by decide, by decide, trivial, hp⟩

theorem MutexRunInv.take (h : MutexRunInv s) {time : ℤ}
    (hrun : s.kernel.state s.current = .running) (hfit : AddressesFit site s (.take time)) :
    MutexRunInv (s.take site time) := by
  have herr : ThreadsOk (s.kernel.setError s.current .eok) := h.threads.setError
  have hrun' : (s.kernel.setError s.current .eok).state s.current = .running := by
    rw [setError_state, hrun]
  simp only [MutexState.take, rtMutexTake]
  by_cases hself : s.mutex.owner = some s.current
  · rw [if_pos hself]
    have hown : s.mutex.addHold.1.owner = s.mutex.owner := by
      rw [Mutex.addHold]
      split <;> rfl
    refine ⟨by simpa using herr, ?_⟩
    rw [recordOwner_same hown]
    exact addHold_ok h.mutex hself
  · rw [if_neg hself]
    by_cases hv : 0 < s.mutex.value
    · rw [if_pos hv]
      have hok :=
        takeAvailable_ok h.mutex hv (t := s.current) (h.threads.contained.bounded s.current).1
      refine ⟨by simpa using herr, ?_⟩
      dsimp only
      rw [setError_prio, recordOwner_new hok.1 hself]
      exact hok.2
    · rw [if_neg hv]
      by_cases htime : time = 0
      · rw [if_pos htime]
        refine ⟨by simpa using herr.setError, ?_⟩
        rw [recordOwner_same rfl]
        exact h.mutex
      · rw [if_neg htime]
        refine ⟨?_, ?_⟩
        · cases ho : s.mutex.owner with
          | none =>
            have hfree := h.mutex
            rw [MutexOk, ho] at hfree
            exact absurd (hfree.1 ▸ Nat.one_pos) hv
          | some o =>
            have hne : o ≠ s.current := fun he => hself (he ▸ ho)
            have hwaits : Waits s (.take time) :=
              ⟨hself, Nat.eq_zero_of_not_pos hv, htime⟩
            refine ThreadsOk.rtSchedule (herr.rtMutexWait hrun' ho hne fun hlt => ?_)
            rw [setError_prio, setError_prio] at hlt
            exact Nat.lt_of_le_of_lt (hfit.wait hwaits o ho hlt)
              (h.threads.contained.bounded _).1
        · rw [recordOwner_same rfl]
          exact h.mutex

/-! ### Releasing -/

theorem dropHold_hold (h : MutexOk m n) {o : T} (ho : m.owner = some o) :
    m.dropHold.hold = m.hold - 1 := by
  obtain ⟨-, hpos, hmax, -, -⟩ := h.held ho
  simp only [Mutex.dropHold, rtMutexHoldMax] at hmax ⊢
  omega

/-- The kernel after the owner's priority was restored. -/
abbrev restored (s : MutexState T Q) (site : MutexSite T Q) : Kernel T Q :=
  s.kernel.restorePriority s.mutex s.current site.originalAddr

theorem restored_prio {x : T} (ha : ∀ t, Attached s.kernel t) : (restored s site).prio x =
    if x = s.current ∧ s.mutex.originalPriority ≠ s.kernel.prio s.current then
      lowByte site.originalAddr else s.kernel.prio x := by
  rw [restored, restorePriority]
  by_cases hne : s.mutex.originalPriority ≠ s.kernel.prio s.current
  · rw [if_pos hne, rtThreadControl_prio (ha _).isThread]
    simp [hne, lowByte]
  · simp [hne]

/-- Changing the priority of the running thread does not touch the lists. -/
theorem restored_queue (ha : ∀ t, Attached s.kernel t)
    (hrun : s.kernel.state s.current = .running) : (restored s site).queue = s.kernel.queue := by
  rw [restored, restorePriority]
  split
  · rw [rtThreadControl, if_neg (by simp [(ha _).isThread]), if_neg (by simp [hrun])]
    rfl
  · rfl

theorem threadsOk_restored (h : MutexRunInv s) (hown : s.mutex.owner = some s.current)
    (hlow : s.mutex.originalPriority ≠ s.kernel.prio s.current →
      lowByte site.originalAddr = s.mutex.originalPriority) : ThreadsOk (restored s site) := by
  obtain ⟨-, -, -, horig, hlt⟩ := h.mutex.held hown
  rw [restored, restorePriority]
  split
  · next hne => exact h.threads.rtThreadControl (by rw [hlow hne, horig]; exact hlt)
  · exact h.threads

/-- The mutex right after a thread of priority `p` became its owner. -/
def Mutex.heldBy (t : T) (p : ℕ) : Mutex T :=
  { value := 0, hold := 1, owner := some t, originalPriority := p }

theorem heldBy_ok {t : T} {p : ℕ} (hp : p < rtThreadPriorityMax) :
    MutexOk (.heldBy t p) p :=
  ⟨rfl, Nat.le_refl 1, Nat.succ_le_succ (Nat.zero_le _), rfl, hp⟩

/-- The three ways a release by the owner can go: it keeps a hold, it hands the mutex to the
first waiting thread, or it frees the mutex. -/
theorem release_cases (site : MutexSite T Q) (h : MutexRunInv s)
    (hown : s.mutex.owner = some s.current) :
    (s.mutex.hold ≠ 1 ∧ s.release site =
      { kernel := s.kernel, mutex := s.mutex.dropHold, priorityAtTake := s.priorityAtTake }) ∨
    (s.mutex.hold = 1 ∧ ∃ w rest, (restored s site).queue (.wait site.waiters) = w :: rest ∧
      s.release site =
        { kernel := ((restored s site).rtThreadResume w).rtSchedule
          mutex := .heldBy w ((restored s site).prio w)
          priorityAtTake := s.recordOwner { owner := some w } }) ∨
    (s.mutex.hold = 1 ∧ (restored s site).queue (.wait site.waiters) = [] ∧ s.release site =
        { kernel := restored s site, mutex := {}, priorityAtTake := s.priorityAtTake }) := by
  obtain ⟨hv, hpos, -, -, -⟩ := h.mutex.held hown
  have hdrop := dropHold_hold h.mutex hown
  have hnot : ¬ s.mutex.owner ≠ some s.current := not_not.mpr hown
  have hrel : s.kernel.rtMutexRelease s.mutex site.waiters site.originalAddr =
      if s.mutex.dropHold.hold = 0 then (restored s site).handOver s.mutex.dropHold site.waiters
      else (s.kernel, s.mutex.dropHold, .eok, false) := if_neg hnot
  by_cases hone : s.mutex.hold = 1
  · have hzero : s.mutex.dropHold.hold = 0 := by omega
    rw [if_pos hzero] at hrel
    have hvalue : s.mutex.dropHold.value = 0 := hv
    refine .inr ?_
    cases hq : (restored s site).queue (.wait site.waiters) with
    | cons w rest =>
      refine .inl ⟨hone, w, rest, rfl, ?_⟩
      have hhand : (restored s site).handOver s.mutex.dropHold site.waiters =
          ((restored s site).rtThreadResume w, .heldBy w ((restored s site).prio w), .eok,
            true) := by
        simp [handOver, hq, Mutex.addHold, Mutex.setOwner, Mutex.setOriginalPriority, hzero, hvalue,
          Mutex.heldBy]
      rw [MutexState.release, hrel, hhand]
      rfl
    | nil =>
      refine .inr ⟨hone, rfl, ?_⟩
      have hhand : (restored s site).handOver s.mutex.dropHold site.waiters =
          (restored s site, {}, .eok, false) := by
        simp [handOver, hq, hzero, hvalue]
      rw [MutexState.release, hrel, hhand]
      simp only [Bool.false_eq_true, if_false, recordOwner_none (m := ({} : Mutex T)) rfl]
  · refine .inl ⟨hone, ?_⟩
    rw [if_neg (by omega)] at hrel
    rw [MutexState.release, hrel]
    simp only [Bool.false_eq_true, if_false, recordOwner_same (m := s.mutex.dropHold) rfl]

theorem MutexRunInv.release (h : MutexRunInv s) (hrun : s.kernel.state s.current = .running)
    (hfit : AddressesFit site s .release) : MutexRunInv (s.release site) := by
  by_cases hown : s.mutex.owner = some s.current
  · have hthreads (hone : s.mutex.hold = 1) : ThreadsOk (restored s site) :=
      threadsOk_restored h hown (hfit.drop ⟨hown, hone⟩)
    rcases release_cases site h hown with
      ⟨hone, heq⟩ | ⟨hone, w, rest, hq, heq⟩ | ⟨hone, -, heq⟩
    · rw [heq]
      refine ⟨h.threads, ?_⟩
      have hdrop := dropHold_hold h.mutex hown
      obtain ⟨hv, hpos, hmax, horig, hlt⟩ := h.mutex.held hown
      have ho : s.mutex.dropHold.owner = some s.current := hown
      simp only [MutexOk, ho]
      exact ⟨hv, by omega, by omega, horig, hlt⟩
    · -- the first waiting thread is suspended, so it is not the one that releases
      have hmem : w ∈ s.kernel.queue (.wait site.waiters) := by
        rw [← restored_queue h.threads.attached hrun, hq]
        exact List.mem_cons_self
      have hw : w ≠ s.current := by
        rintro rfl
        rw [h.threads.inv.wait hmem] at hrun
        cases hrun
      have hprio : (restored s site).prio w = s.kernel.prio w := by
        rw [restored_prio h.threads.attached, if_neg (fun hc => hw hc.1)]
      rw [heq]
      refine ⟨(hthreads hone).rtThreadResume.rtSchedule, ?_⟩
      rw [recordOwner_new (o := w) rfl (hown ▸ fun he => hw (Option.some.inj he).symm), hprio]
      exact heldBy_ok (h.threads.contained.bounded w).1
    · rw [heq]
      exact ⟨hthreads hone, rfl, rfl⟩
  · have heq : s.release site =
        { s with kernel := s.kernel.setError s.current .error } := by
      simp [MutexState.release, rtMutexRelease, hown, recordOwner_same]
    rw [heq]
    exact ⟨h.threads.setError, h.mutex⟩

/-! ### Runs -/

theorem MutexStart.runInv (h : MutexStart site s) : MutexRunInv s where
  threads := ⟨h.inv, ⟨h.bounded, .inl h.fault⟩, h.mask, h.attached⟩
  mutex := by
    rw [h.free]
    exact ⟨rfl, rfl⟩

theorem MutexRunInv.perform (h : MutexRunInv s) (he : s.Enabled site i)
    (hfit : AddressesFit site s i) : MutexRunInv (s.perform site i) := by
  cases i with
  | take time => exact h.take he hfit
  | release => exact h.release he hfit
  | sleep => exact ⟨h.threads.rtThreadSuspend.rtSchedule, h.mutex⟩
  | yield => exact ⟨h.threads.rtThreadYield, h.mutex⟩
  | wake t => exact ⟨h.threads.rtThreadResume.rtSchedule, h.mutex⟩
  | tick => exact ⟨h.threads.rtTickCharge, h.mutex⟩
  | timeout t => exact ⟨(h.threads.modify fun _ => by simp).rtThreadTimeout, h.mutex⟩

theorem runInv_of_reaches (h : (mutexRuns site).Reaches (AddressesFit site) s) :
    MutexRunInv s := by
  refine h.invariant (fun s (hs : MutexStart site s) => hs.runInv) fun s i s' hinv hfit hstep => ?_
  simp only [mutexRuns] at hstep
  split at hstep
  · next hen =>
    cases hstep
    exact hinv.perform hen.2 hfit
  · cases hstep

/-- A wait gives the owner the low byte of the address of the caller's priority. -/
theorem take_prio {time : ℤ} {o x : T} (h : MutexRunInv s) (hw : Waits s (.take time))
    (ho : s.mutex.owner = some o) : (s.take site time).kernel.prio x =
      if x = o ∧ s.kernel.prio s.current < s.kernel.prio o then
        lowByte (site.addr s.current) else s.kernel.prio x := by
  obtain ⟨hself, hv, htime⟩ := hw
  have hkernel : (s.take site time).kernel = ((s.kernel.setError s.current .eok).rtMutexWait
      s.mutex site.waiters site.addr s.current time).rtSchedule := by
    simp [MutexState.take, rtMutexTake, hself, hv, htime]
  have hatt : ∀ t, Attached (s.kernel.setError s.current .eok) t := h.threads.setError.attached
  rw [hkernel, prio, Thread.of_frame (·.currentPriority) (fun _ => rfl) rtSchedule_frame]
  refine (rtMutexWait_prio hatt ho).trans ?_
  simp only [setError_prio]

/-- Dropping the last hold gives the running thread the low byte of the address of its stored
priority, unless its priority did not change. -/
theorem release_prio (h : MutexRunInv s) (hd : DropsLastHold s .release) :
    (s.release site).kernel.prio s.current =
      if s.mutex.originalPriority ≠ s.kernel.prio s.current then lowByte site.originalAddr
      else s.kernel.prio s.current := by
  have hrestored : (restored s site).prio s.current =
      if s.mutex.originalPriority ≠ s.kernel.prio s.current then lowByte site.originalAddr
      else s.kernel.prio s.current := by
    rw [restored_prio h.threads.attached]
    simp
  rcases release_cases site h hd.1 with
    ⟨hone, -⟩ | ⟨-, w, rest, -, heq⟩ | ⟨-, -, heq⟩
  · exact absurd hd.2 hone
  · rw [heq, ← hrestored]
    exact Thread.of_frame (·.currentPriority) (fun _ => rfl)
      (rtSchedule_frame.trans rtThreadResume_frame)
  · rw [heq, ← hrestored]

/-! ### Three threads and one mutex -/

/-- The owner of priority 10 runs, a contender of priority 5 sleeps, and thread 2 is idle. -/
def threeThreads : MutexState (Fin 3) Unit where
  kernel := [KernelOp.startup 2, .startup 1, .suspend 1, .schedule].foldl Kernel.perform
    (boot 0 (fun t => if t = 0 then 10 else if t = 1 then 5 else 31) 5)
  mutex := {}
  priorityAtTake := 0

/-- The mutex of three threads with the given address of the contender's priority. -/
def threeThreadsSite (addr originalAddr : BitVec 32) : MutexSite (Fin 3) Unit where
  waiters := ()
  addr _ := addr
  originalAddr := originalAddr

theorem mutexStart_threeThreads (addr originalAddr : BitVec 32) :
    MutexStart (threeThreadsSite addr originalAddr) threeThreads := by
  have hboot : Booted (boot 0 (fun t => if t = 0 then 10 else if t = 1 then 5 else 31) 5 :
      Kernel (Fin 3) Unit) := booted_boot (by decide)
  have hrun : (kernelOps (Fin 3) Unit).runList (boot 0
      (fun t => if t = 0 then 10 else if t = 1 then 5 else 31) 5)
      [.startup 2, .startup 1, .suspend 1, .schedule] = some threeThreads.kernel := rfl
  have hinv := kernelOps_inv (.of_runList (.init hboot) hrun)
  have hthreads : ∀ t, (threeThreads.kernel.thread t).numberMask =
      priorityMask 32 (threeThreads.kernel.prio t) ∧
      (threeThreads.kernel.thread t).object ≠ .detached ∧
      (threeThreads.kernel.thread t).threadTimer.attached = true := by decide +kernel
  exact ⟨hinv.1, hinv.2.bounded, rfl, fun t => (hthreads t).1,
    fun t => ⟨(hthreads t).2.1, (hthreads t).2.2⟩, rfl, rfl⟩

/-- The contender waits for the owner, and the low byte of the address of its priority, 0x64,
becomes the owner's priority: beyond the maximum, and less urgent than the contender. -/
theorem priorityInheritance_fails : ∃ s s' : MutexState (Fin 3) Unit,
    (mutexRuns (threeThreadsSite 0x20001264 0x200012f0)).Reachable s ∧
    (mutexRuns (threeThreadsSite 0x20001264 0x200012f0)).step s (.take (-1)) = some s' ∧
    s'.kernel.prio 0 = 100 ∧ ¬ PrioritiesSound s'.kernel ∧ ¬ Inherits s (.take (-1)) s' := by
  have hstart : (mutexRuns (threeThreadsSite 0x20001264 0x200012f0)).Reachable threeThreads :=
    .init (mutexStart_threeThreads _ _)
  obtain ⟨s, hs, hcheck⟩ := hstart.exists_of_runList [.take (-1), .wake 1]
    (fun s => decide (s.kernel.fault = none ∧ s.kernel.state s.current = .running ∧
      s.mutex.owner = some 0 ∧ s.current = 1 ∧ s.mutex.value = 0 ∧
      (s.take (threeThreadsSite 0x20001264 0x200012f0) (-1)).kernel.prio 0 = 100 ∧
      (s.take (threeThreadsSite 0x20001264 0x200012f0) (-1)).kernel.prio 1 = 5))
    (by decide +kernel)
  obtain ⟨hfault, hrun, hown, hcur, hv, h0, h1⟩ := of_decide_eq_true hcheck
  refine ⟨s, _, hs, if_pos ⟨hfault, hrun⟩, h0, fun h => ?_, fun h => ?_⟩
  · have := (h 0).1
    rw [MutexState.perform, h0] at this
    exact absurd this (by decide)
  · have := h ⟨by rw [hown, hcur]; decide, hv, by decide⟩ 0 hown
    rw [MutexState.perform, h0, hcur, h1] at this
    exact absurd this (by decide)

/-- **Priority inheritance works as long as the addresses fit, and not beyond.** In every run
whose steps satisfy `AddressesFit`, the priorities, masks and ready lists are sound at every
state; and a step from such a state lets the owner inherit the priority of a thread that waits,
and restores the priority of an owner that drops its last hold, if and only if it satisfies
`AddressesFit`. -/
theorem priorityInheritance_iff_addressesFit
    (h : (mutexRuns site).Reaches (AddressesFit site) s) :
    PrioritiesSound s.kernel ∧ ∀ i s', (mutexRuns site).step s i = some s' →
      (Inherits s i s' ∧ Restores s i s' ↔ AddressesFit site s i) := by
  have hinv := runInv_of_reaches h
  refine ⟨hinv.threads.sound, fun i s' hstep => ?_⟩
  simp only [mutexRuns] at hstep
  split at hstep
  · cases hstep
    cases i with
    | take time =>
      have hne : ∀ o, Waits s (.take time) → s.mutex.owner = some o → s.current ≠ o :=
        fun o hw ho he => hw.1 (he ▸ ho)
      constructor
      · rintro ⟨hinh, -⟩
        refine ⟨fun hw o ho hlt => ?_, fun hd => absurd hd id⟩
        have := hinh hw o ho
        rwa [MutexState.perform, take_prio hinv hw ho, take_prio hinv hw ho, if_pos ⟨rfl, hlt⟩,
          if_neg fun hc => hne o hw ho hc.1] at this
      · rintro ⟨hwait, -⟩
        refine ⟨fun hw o ho => ?_, fun hd => absurd hd id⟩
        rw [MutexState.perform, take_prio hinv hw ho, take_prio hinv hw ho,
          if_neg (fun hc => hne o hw ho hc.1 : ¬ (s.current = o ∧ _))]
        split
        · next hc => exact hwait hw o ho hc.2
        · next hc => exact Nat.le_of_not_lt fun hlt => hc ⟨rfl, hlt⟩
    | release =>
      constructor
      · rintro ⟨-, hres⟩
        refine ⟨fun hw => absurd hw id, fun hd hne => ?_⟩
        have := hres hd
        rw [MutexState.perform, release_prio hinv hd, if_pos hne] at this
        rw [this, (hinv.mutex.held hd.1).2.2.2.1]
      · rintro ⟨-, hdrop⟩
        refine ⟨fun hw => absurd hw id, fun hd => ?_⟩
        have horig := (hinv.mutex.held hd.1).2.2.2.1
        rw [MutexState.perform, release_prio hinv hd]
        split
        · next hne => rw [hdrop hd hne, horig]
        · next heq => rw [← not_not.mp heq, horig]
    | sleep | yield | wake t | tick | timeout t =>
      exact ⟨fun _ => ⟨fun hw => absurd hw id, fun hd => absurd hd id⟩,
        fun _ => ⟨fun hw => absurd hw id, fun hd => absurd hd id⟩⟩
  · cases hstep

/-- Whether the addresses fit in a step of the three threads that takes the mutex. -/
private def fits (site : MutexSite (Fin 3) Unit) (s : MutexState (Fin 3) Unit) :
    MutexLabel (Fin 3) → Bool
  | .take _ => s.mutex.value = 1 || lowByte (site.addr s.current) ≤ s.kernel.prio s.current
  | .wake _ => true
  | _ => false

private theorem addressesFit_of_fits {site : MutexSite (Fin 3) Unit}
    {s : MutexState (Fin 3) Unit} {i : MutexLabel (Fin 3)} (h : fits site s i = true) :
    AddressesFit site s i := by
  cases i with
  | take time =>
    refine ⟨fun hw _ _ _ => ?_, fun hd => absurd hd id⟩
    simp only [fits, Bool.or_eq_true, decide_eq_true_eq] at h
    exact h.resolve_left fun hv => absurd (hv.symm.trans hw.2.1) (by decide)
  | wake t => exact ⟨fun hw => absurd hw id, fun hd => absurd hd id⟩
  | release | sleep | yield | tick | timeout t => cases h

/-- With addresses whose low bytes fit, the owner inherits the contender's priority. -/
theorem priorityInheritance_of_threeThreads : ∃ s : MutexState (Fin 3) Unit,
    s.kernel.prio 0 = 3 ∧ s.kernel.prio 1 = 5 ∧ PrioritiesSound s.kernel := by
  have hstart : ((mutexRuns (threeThreadsSite 0x20001203 0x2000120a)).restrict
      (fits (threeThreadsSite 0x20001203 0x2000120a))).Reachable threeThreads :=
    .init (mutexStart_threeThreads _ _)
  obtain ⟨s, hs, hcheck⟩ := hstart.exists_of_runList [.take (-1), .wake 1, .take (-1)]
    (fun s => decide (s.kernel.prio 0 = 3 ∧ s.kernel.prio 1 = 5)) (by decide +kernel)
  have hreach := hs.of_restrict fun s i => addressesFit_of_fits
  obtain ⟨h0, h1⟩ := of_decide_eq_true hcheck
  exact ⟨s, h0, h1, (priorityInheritance_iff_addressesFit hreach).1⟩

end RobotVacuum
