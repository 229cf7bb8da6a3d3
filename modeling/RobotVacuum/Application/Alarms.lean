import RobotVacuum.Application.Tasks
import RobotVacuum.Ipc.Activation
import RobotVacuum.Foundation.History

/-!
# The resource alarms

Task3 checks the battery and the garbage bag and raises a flag of `event_resources` for each of
them; Task4 waits for any flag, with `RT_EVENT_FLAG_OR | RT_EVENT_FLAG_CLEAR`, and compares the
flags it received with each flag alone. Task4 is the less urgent of the two, so Task3 can raise
flags at any point of a job of Task4.

A raised flag is pending or on its way to Task4 until a job of Task4 receives it
(`AlarmsKept.kept`). If the job received one flag it sounds the alarm before it ends; if it
received both it sounds none (`alarms_lost`).
-/

set_option linter.unusedSectionVars false

namespace RobotVacuum

open Kernel (ReadyQueueInv Attached)
open History (snoc_eq)

/-- The flag Task3 raises for an alarm. -/
def Alarm.flag : Alarm → BitVec 32
  | .lowBattery => eventFlag1
  | .garbageBagFull => eventFlag2

/-- The flags a job received include that of an alarm. -/
def Has (e : BitVec 32) (x : Alarm) : Prop := e &&& x.flag ≠ 0

instance (e : BitVec 32) (x : Alarm) : Decidable (Has e x) := by
  unfold Has
  infer_instance

/-- The alarms Task4 sounds for the flags it received. -/
def spoken (e : BitVec 32) : List Alarm :=
  if e = 0x2 then [.lowBattery] else if e = 0x4 then [.garbageBagFull] else []

theorem App.speak_log (s : App) (e : BitVec 32) :
    (s.speak e).log = s.log ++ (spoken e).map .alarm := by
  unfold App.speak spoken
  split_ifs <;> simp [App.record]

/-- What happens to the alarms. -/
inductive AlarmEvent
  /-- Task3 raises a flag. -/
  | raised (x : Alarm)
  /-- A job of Task4 begins with these flags. -/
  | received (e : BitVec 32)
  | sounded (x : Alarm)
  /-- The job ends. -/
  | ended
  deriving DecidableEq, Repr

/-! ### Logs -/

/-- The alarms of a log, where `pending` are the flags that are still to be received and `job` is
the job of Task4, with the flags it received and whether it has spoken. -/
structure Logged (log : List AlarmEvent) (pending : Alarm → Prop) (job : Option (BitVec 32 × Bool)) :
    Prop where
  kept : ∀ l₁ x l₂, log = l₁ ++ .raised x :: l₂ → (∀ e, .received e ∈ l₂ → ¬Has e x) → pending x
  job : ∀ l₁ e l₂, log = l₁ ++ .received e :: l₂ → .ended ∉ l₂ →
    ∃ b, job = some (e, b) ∧ (b = true → ∀ x, Has e x → .sounded x ∈ l₂)
  sounded : ∀ l₁ e l₂ l₃ x, log = l₁ ++ .received e :: (l₂ ++ .ended :: l₃) → .ended ∉ l₂ →
    Has e x → .sounded x ∈ l₂

namespace Logged

variable {log l₁ l₂ : List AlarmEvent} {p p' : Alarm → Prop} {job : Option (BitVec 32 × Bool)}
  {e : BitVec 32} {x : Alarm} {a b : AlarmEvent}

theorem nil : Logged [] p none :=
  ⟨fun _ _ _ h => by simp at h, fun _ _ _ h => by simp at h, fun _ _ _ _ _ h => by simp at h⟩

/-- What holds of ended jobs stays so if no job ends. -/
theorem sounded_snoc (h : Logged log p job) (ha : a ≠ .ended) : ∀ l₁ e l₂ l₃ x,
    log ++ [a] = l₁ ++ .received e :: (l₂ ++ .ended :: l₃) → .ended ∉ l₂ →
      Has e x → .sounded x ∈ l₂ := by
  intro l₁ e l₂ l₃ x hlog hended hx
  have hlog' : log ++ [a] = (l₁ ++ .received e :: l₂) ++ .ended :: l₃ := by simpa using hlog
  rcases snoc_eq hlog' with ⟨heq, -, -⟩ | ⟨l, rfl, heq⟩
  · exact absurd heq.symm ha
  · exact h.sounded l₁ e l₂ l x (by simpa using heq) hended hx

theorem mono (h : Logged log p job) (hp : ∀ x, p x → p' x) : Logged log p' job :=
  ⟨fun l₁ x l₂ hlog hx => hp x (h.kept l₁ x l₂ hlog hx), h.job, h.sounded⟩

theorem raise (h : Logged log p job) (hx : p x) : Logged (log ++ [.raised x]) p job := by
  refine ⟨fun l₁ y l₂ hlog hy => ?_, fun l₁ e l₂ hlog hended => ?_, h.sounded_snoc (by simp)⟩
  · rcases snoc_eq hlog with ⟨heq, -, -⟩ | ⟨l, rfl, heq⟩
    · cases heq
      exact hx
    · exact h.kept l₁ y l heq fun e he => hy e (List.mem_append_left _ he)
  · rcases snoc_eq hlog with ⟨heq, -, -⟩ | ⟨l, rfl, heq⟩
    · cases heq
    · obtain ⟨b, hb, hs⟩ := h.job l₁ e l heq fun hm => hended (List.mem_append_left _ hm)
      exact ⟨b, hb, fun ht y hy => List.mem_append_left _ (hs ht y hy)⟩

/-- A job begins and receives what it is handed. -/
theorem receive (h : Logged log p none) (hp : ∀ x, p x → ¬Has e x → p' x) :
    Logged (log ++ [.received e]) p' (some (e, false)) := by
  refine ⟨fun l₁ x l₂ hlog hx => ?_, fun l₁ e' l₂ hlog hended => ?_, h.sounded_snoc (by simp)⟩
  · rcases snoc_eq hlog with ⟨heq, -, -⟩ | ⟨l, rfl, heq⟩
    · cases heq
    · exact hp x (h.kept l₁ x l heq fun e' he => hx e' (List.mem_append_left _ he))
        (hx e (List.mem_append_right _ List.mem_cons_self))
  · rcases snoc_eq hlog with ⟨heq, -, -⟩ | ⟨l, rfl, heq⟩
    · cases heq
      exact ⟨false, rfl, fun hb => by cases hb⟩
    · obtain ⟨b, hb, -⟩ := h.job l₁ e' l heq fun hm => hended (List.mem_append_left _ hm)
      cases hb

/-- A job sounds the only alarm it received the flag of. -/
theorem speak (h : Logged log p (some (e, false))) (hx : ∀ y, Has e y → y = x) :
    Logged (log ++ [.sounded x]) p (some (e, true)) := by
  refine ⟨fun l₁ y l₂ hlog hy => ?_, fun l₁ e' l₂ hlog hended => ?_, h.sounded_snoc (by simp)⟩
  · rcases snoc_eq hlog with ⟨heq, -, -⟩ | ⟨l, rfl, heq⟩
    · cases heq
    · exact h.kept l₁ y l heq fun e' he => hy e' (List.mem_append_left _ he)
  · rcases snoc_eq hlog with ⟨heq, -, -⟩ | ⟨l, rfl, heq⟩
    · cases heq
    · obtain ⟨b, hb, -⟩ := h.job l₁ e' l heq fun hm => hended (List.mem_append_left _ hm)
      obtain ⟨rfl, -⟩ := Prod.mk.inj (Option.some.inj hb)
      refine ⟨true, rfl, fun _ y hy => List.mem_append_right _ ?_⟩
      rw [hx y hy]
      exact List.mem_cons_self

theorem finish (h : Logged log p (some (e, true))) : Logged (log ++ [.ended]) p none := by
  refine ⟨fun l₁ y l₂ hlog hy => ?_, fun l₁ e' l₂ hlog hended => ?_,
    fun l₁ e' l₂ l₃ x hlog hn hx => ?_⟩
  · rcases snoc_eq hlog with ⟨heq, -, -⟩ | ⟨l, rfl, heq⟩
    · cases heq
    · exact h.kept l₁ y l heq fun e' he => hy e' (List.mem_append_left _ he)
  · rcases snoc_eq hlog with ⟨heq, -, -⟩ | ⟨l, rfl, -⟩
    · cases heq
    · exact absurd (List.mem_append_right _ List.mem_cons_self) hended
  · have hlog' : log ++ [.ended] = (l₁ ++ .received e' :: l₂) ++ .ended :: l₃ := by
      simpa using hlog
    rcases snoc_eq hlog' with ⟨-, heq, -⟩ | ⟨l, rfl, heq⟩
    · obtain ⟨b, hb, hs⟩ := h.job l₁ e' l₂ heq.symm hn
      obtain ⟨-, rfl⟩ := Prod.mk.inj (Option.some.inj hb)
      exact hs rfl x hx
    · exact h.sounded l₁ e' l₂ l x (by simpa using heq) hn hx

end Logged

/-! ### Task3 and Task4 -/

/-- Where Task3 stands: outside a check, or about to check the battery or the garbage bag. -/
inductive CheckPc
  | idle | battery | bag
  deriving DecidableEq, Repr

/-- Where Task4 stands in its loop; `waiting` is inside `rt_event_recv`, after it suspended
itself. -/
inductive SignalPc
  | recv | waiting | started | speak | busy | ended
  deriving DecidableEq, Repr

/-- The kernel, the flags of `event_resources` and the two tasks. -/
structure Alarms where
  kernel : Kernel Task Unit
  flags : BitVec 32 := 0
  checkPc : CheckPc := .idle
  signalPc : SignalPc := .recv
  /-- The local variable `e` of Task4. -/
  recved : BitVec 32 := 0
  /-- History variable: what happened to the alarms, oldest first. -/
  log : List AlarmEvent := []

/-- What can happen: the statements of a check of Task3, with what it reads, the statements of
Task4, and what other threads and Task3 between its checks do to the kernel: the running thread
waits elsewhere, a thread is resumed, a scheduling, a tick. -/
inductive AlarmOp
  | check
  | battery (level : BitVec 32)
  | bag (value : ℕ)
  | recv | returned | started | speak | busy | ended
  | suspend
  | resume (t : Task)
  | schedule
  | tick

namespace Alarms

/-- `RT_EVENT_FLAG_OR | RT_EVENT_FLAG_CLEAR`, and the flags Task4 waits for. -/
abbrev wanted : BitVec 32 := eventFlag1 ||| eventFlag2

/-- Task4 waits for a flag. -/
def Waits (s : Alarms) : Prop := .acousticSignals ∈ s.kernel.queue (.wait ())

instance (s : Alarms) : Decidable s.Waits := by
  unfold Waits
  infer_instance

/-- The control block of Task4. -/
abbrev listener (s : Alarms) : Thread := s.kernel.thread .acousticSignals

/-- Task3 raises a flag. -/
def raise (s : Alarms) (x : Alarm) : Alarms :=
  let r := s.kernel.rtEventSend s.flags () x.flag
  { s with kernel := r.1, flags := r.2, log := s.log ++ [.raised x] }

/-- The two cases in which Task3 finds the battery low. -/
def lowBattery (level : BitVec 32) : Bool :=
  ¬level ≤ totallyDischarge ∧ (level ≤ discharge ∧ totallyDischarge < level ∨
    level ≤ dischargeThreshold ∧ discharge < level)

/-- `rt_event_recv` of Task4, up to where it returns or has suspended the task. -/
def rtEventRecv (s : Alarms) : Alarms :=
  let k := s.kernel.setError .acousticSignals .eok
  match Kernel.eventStatus orClear wanted s.flags with
  | some true =>
    let e := s.flags &&& wanted
    { s with
      kernel := k.modify .acousticSignals fun th => { th with eventSet := e, eventInfo := orClear }
      flags := s.flags &&& ~~~wanted
      signalPc := .started
      recved := e
      log := s.log ++ [.received e] }
  | _ => { s with
      kernel := (k.modify .acousticSignals fun th =>
        { th with eventSet := wanted, eventInfo := orClear }).ipcListSuspend () .acousticSignals .fifo
      signalPc := .waiting }

/-- A task is running, so it executes its next statement. -/
def Runs (s : Alarms) (t : Task) : Prop :=
  s.kernel.currentThread = t ∧ s.kernel.state t = .running

instance (s : Alarms) (t : Task) : Decidable (s.Runs t) := by
  unfold Runs
  infer_instance

/-- A statement of Task3 at a position of its check. -/
def checking (s : Alarms) (pc : CheckPc) (s' : Alarms) : Option Alarms :=
  if s.Runs .checkResources ∧ s.checkPc = pc then some s' else none

/-- A statement of Task4 at a position of its loop. -/
def signalling (s : Alarms) (pc : SignalPc) (s' : Alarms) : Option Alarms :=
  if s.Runs .acousticSignals ∧ s.signalPc = pc then some s' else none

/-- One step. -/
def step (s : Alarms) : AlarmOp → Option Alarms
  | .check => s.checking .idle { s with checkPc := .battery }
  | .battery level => s.checking .battery
      { (if lowBattery level then s.raise .lowBattery else s) with checkPc := .bag }
  | .bag value => s.checking .bag
      { (if value = full then s.raise .garbageBagFull else s) with checkPc := .idle }
  | .recv => s.signalling .recv s.rtEventRecv
  | .returned => s.signalling .waiting <|
      if s.listener.error = .eok then { s with
        signalPc := .started
        recved := s.listener.eventSet
        log := s.log ++ [.received s.listener.eventSet] }
      else { s with signalPc := .recv }
  | .started => s.signalling .started
      { s with kernel := s.kernel.setTaskStarted .acousticSignals 2, signalPc := .speak }
  | .speak => s.signalling .speak
      { s with log := s.log ++ (spoken s.recved).map .sounded, signalPc := .busy }
  | .busy => s.signalling .busy
      { s with signalPc := if s.listener.tickCount ≠ 0 then .busy else .ended }
  | .ended => s.signalling .ended { s with
      kernel := s.kernel.setTaskEnded .acousticSignals
      signalPc := .recv
      log := s.log ++ [.ended] }
  | .suspend =>
    let t := s.kernel.currentThread
    if t ≠ .acousticSignals ∧ s.kernel.state t = .running then
      some { s with kernel := s.kernel.rtThreadSuspend t }
    else none
  | .resume t =>
    if t ≠ .acousticSignals then some { s with kernel := s.kernel.rtThreadResume t } else none
  | .schedule => some { s with kernel := s.kernel.rtSchedule }
  | .tick => some { s with kernel := s.kernel.rtTickCharge }

/-- All runs: at the start no flag is pending and no thread waits for one. -/
def runs : Automaton Alarms AlarmOp where
  init s := ReadyQueueInv s.kernel ∧ (∀ t, Attached s.kernel t) ∧
    s.kernel.queue (.wait ()) = [] ∧ s.flags = 0 ∧ s.signalPc = .recv ∧ s.log = []
  step := step

/-- Task4 does not call `rt_event_recv` while both flags are pending. -/
def OneAtATime (s : Alarms) : AlarmOp → Prop
  | .recv => ¬(Has s.flags .lowBattery ∧ Has s.flags .garbageBagFull)
  | _ => True

/-- No alarm is lost: a raised flag is pending, or handed to the waiting Task4, until a job
receives it, and the first job that receives it sounds the alarm before it ends. -/
structure AlarmsKept (s : Alarms) : Prop where
  kept : ∀ l₁ x l₂, s.log = l₁ ++ .raised x :: l₂ → (∀ e, .received e ∈ l₂ → ¬Has e x) →
    Has s.flags x ∨ s.signalPc = .waiting ∧ ¬s.Waits ∧ Has s.listener.eventSet x
  sounded : ∀ l₁ x l₂ e l₃ l₄,
    s.log = l₁ ++ .raised x :: (l₂ ++ .received e :: (l₃ ++ .ended :: l₄)) →
    (∀ e, .received e ∈ l₂ → ¬Has e x) → Has e x → .ended ∉ l₃ → .sounded x ∈ l₃

/-! ### The invariant -/

/-- The job of Task4, with the flags it received and whether it has spoken. -/
def job (s : Alarms) : Option (BitVec 32 × Bool) :=
  match s.signalPc with
  | .recv | .waiting => none
  | .started | .speak => some (s.recved, false)
  | .busy | .ended => some (s.recved, true)

/-- The flag was raised and no job has received it yet. -/
def Pending (s : Alarms) (x : Alarm) : Prop :=
  Has s.flags x ∨ s.signalPc = .waiting ∧ ¬s.Waits ∧ Has s.listener.eventSet x

/-- The invariant of the runs in which Task4 receives one flag at a time. -/
structure Inv (s : Alarms) : Prop where
  ready : ReadyQueueInv s.kernel
  attached : ∀ t, Attached s.kernel t
  only : ∀ t ∈ s.kernel.queue (.wait ()), t = .acousticSignals
  flags : s.flags ∈ [0, eventFlag1, eventFlag2, wanted]
  waits : s.Waits → s.signalPc = .waiting ∧ s.flags = 0 ∧ s.listener.eventSet = wanted ∧
    s.listener.eventInfo = orClear
  woken : s.signalPc = .waiting → s.listener.error = .eok ∧
    (¬s.Waits → ∃ x : Alarm, s.listener.eventSet = x.flag)
  recved : s.job ≠ none → ∃ x : Alarm, s.recved = x.flag
  logged : Logged s.log s.Pending s.job

variable {s s' : Alarms} {x y : Alarm} {pc : SignalPc} {k : Kernel Task Unit}

theorem has_flag : Has y.flag x ↔ x = y := by
  cases x <;> cases y <;> decide

theorem has_or_flag {e : BitVec 32} : Has (e ||| y.flag) x ↔ Has e x ∨ x = y := by
  have hbit : (e ||| y.flag) &&& x.flag = e &&& x.flag ||| y.flag &&& x.flag := by
    ext i hi
    simp only [BitVec.getElem_and, BitVec.getElem_or]
    cases e[i] <;> cases x.flag[i] <;> simp
  unfold Has
  rw [hbit, ← has_flag (x := x) (y := y), Has]
  constructor
  · intro hne
    by_contra hno
    rw [not_or, not_not, not_not] at hno
    exact hne (by rw [hno.1, hno.2]; rfl)
  · rintro (hne | hne) h0
    · exact hne (BitVec.or_eq_zero_iff.mp h0).1
    · exact hne (BitVec.or_eq_zero_iff.mp h0).2

/-- What changes neither Task4 nor who waits keeps the invariant. -/
theorem Inv.withKernel (h : Inv s) (hready : ReadyQueueInv k) (hatt : ∀ t, Attached k t)
    (hview : k.view .acousticSignals = s.kernel.view .acousticSignals)
    (honly : ∀ t ∈ k.queue (.wait ()), t = .acousticSignals) : Inv { s with kernel := k } := by
  obtain ⟨hset, hinfo, herr, -⟩ := Kernel.view_fields hview
  have hwaits : Waits { s with kernel := k } ↔ s.Waits :=
    iff_of_eq (congrFun (congrArg Kernel.View.waits hview) ())
  refine ⟨hready, hatt, honly, h.flags, fun hw => ?_, fun hpc => ⟨?_, fun hw => ?_⟩, h.recved, ?_⟩
  · obtain ⟨h1, h2, h3, h4⟩ := h.waits (hwaits.mp hw)
    exact ⟨h1, h2, hset.trans h3, hinfo.trans h4⟩
  · exact herr.trans (h.woken hpc).1
  · obtain ⟨x, hx⟩ := (h.woken hpc).2 fun hw' => hw (hwaits.mpr hw')
    exact ⟨x, hset.trans hx⟩
  · refine h.logged.mono fun x hx => ?_
    rcases hx with hx | ⟨hpc, hw, hx⟩
    · exact .inl hx
    · refine .inr ⟨hpc, fun hw' => hw (hwaits.mp hw'), ?_⟩
      show Has (k.thread .acousticSignals).eventSet x
      rwa [hset]

/-- A position changes inside a job. -/
theorem Inv.goOn (h : Inv s) (hpc : s.signalPc ≠ .waiting) (hpc' : pc ≠ .waiting)
    (hjob : job { s with signalPc := pc } = s.job) : Inv { s with signalPc := pc } := by
  refine ⟨h.ready, h.attached, h.only, h.flags, fun hw => absurd (h.waits hw).1 hpc,
    fun hw => absurd hw hpc', fun hj => h.recved (hjob ▸ hj), ?_⟩
  rw [hjob]
  refine h.logged.mono fun x hx => ?_
  rcases hx with hx | ⟨hw, -⟩
  · exact .inl hx
  · exact absurd hw hpc

theorem Inv.withCheckPc (h : Inv s) (pc : CheckPc) : Inv { s with checkPc := pc } :=
  ⟨h.ready, h.attached, h.only, h.flags, h.waits, h.woken, h.recved, h.logged⟩

/-- No thread but Task4 is in the list, and it is there at most once. -/
theorem Inv.queue_eq (h : Inv s) (hw : s.Waits) :
    s.kernel.queue (.wait ()) = [.acousticSignals] := by
  have hnodup : (s.kernel.queue (.wait ())).Nodup := h.ready.table.proper.nodup _
  cases hq : s.kernel.queue (.wait ()) with
  | nil =>
    rw [Waits, hq] at hw
    cases hw
  | cons a l =>
    have ha := h.only a (hq ▸ List.mem_cons_self)
    cases l with
    | nil => rw [ha]
    | cons b l =>
      have hb := h.only b (hq ▸ List.mem_cons_of_mem _ List.mem_cons_self)
      rw [hq, ha, hb] at hnodup
      simp at hnodup

/-- With nobody in the list a send only sets the flag. -/
theorem Inv.raise_pending (h : Inv s) (hw : ¬s.Waits) :
    s.raise x = { s with flags := s.flags ||| x.flag, log := s.log ++ [.raised x] } := by
  have hnil : s.kernel.queue (.wait ()) = [] := by
    cases hq : s.kernel.queue (.wait ()) with
    | nil => rfl
    | cons a l =>
      have ha := h.only a (hq ▸ List.mem_cons_self)
      exact absurd (show s.Waits by rw [Waits, hq, ha]; exact List.mem_cons_self) hw
  have hflag : x.flag ≠ 0 := by cases x <;> decide
  unfold Alarms.raise
  rw [Kernel.rtEventSend, if_neg hflag, hnil]
  rfl

/-- A send hands the flag to Task4 if it waits. -/
theorem Inv.raise_woken (h : Inv s) (hw : s.Waits) : s.raise x = { s with
    kernel := (s.kernel.eventResume .acousticSignals x.flag).rtSchedule
    log := s.log ++ [.raised x] } := by
  obtain ⟨-, hflags, hset, hinfo⟩ := h.waits hw
  have hflag : x.flag ≠ 0 := by cases x <;> decide
  have hstatus : Kernel.eventStatus orClear wanted (0 ||| x.flag) = some true := by
    cases x <;> decide
  have hreceived : Kernel.eventReceived s.listener (0 ||| x.flag) = x.flag := by
    rw [Kernel.eventReceived, hinfo, hset]
    cases x <;> decide
  have hclear : (0 ||| x.flag) &&& ~~~x.flag = 0 := by cases x <;> decide
  unfold Alarms.raise
  rw [Kernel.rtEventSend, if_neg hflag, h.queue_eq hw]
  dsimp only
  rw [Kernel.eventSendWalk, hflags, hset, hinfo]
  dsimp only
  rw [hstatus]
  simp only [hreceived, Kernel.eventSendWalk, if_true, hclear, List.isEmpty_cons, Bool.not_false,
    Bool.and_self]

theorem Inv.raise (h : Inv s) : Inv (s.raise x) := by
  by_cases hw : s.Waits
  · rw [h.raise_woken hw]
    obtain ⟨hpc, hflags, -, -⟩ := h.waits hw
    have hsusp : s.kernel.state .acousticSignals = .suspend := h.ready.wait hw
    have hthread : s.kernel.isThread .acousticSignals = true := (h.attached _).isThread
    set k := (s.kernel.eventResume .acousticSignals x.flag).rtSchedule with hk
    have hresume : ReadyQueueInv (s.kernel.eventResume .acousticSignals x.flag) :=
      h.ready.eventResume
    have hview : k.view .acousticSignals = (s.kernel.view .acousticSignals).receive x.flag := by
      rw [hk, hresume.rtSchedule_view, Kernel.eventResume_view h.ready hthread hsusp, if_pos rfl]
    have hcore : (k.thread .acousticSignals).core = _ := congrArg Kernel.View.thread hview
    have hset : (k.thread .acousticSignals).eventSet = x.flag := congrArg (·.eventSet) hcore
    have herror : (k.thread .acousticSignals).error = s.listener.error :=
      congrArg (·.error) hcore
    have hqueue : k.queue (.wait ()) = [] := by
      rw [hk, hresume.rtSchedule_wait, Kernel.eventResume_wait hthread hsusp, h.queue_eq hw]
      simp
    have hnot : ¬Waits { s with kernel := k, log := s.log ++ [.raised x] } := by
      unfold Waits
      rw [hqueue]
      exact List.not_mem_nil
    refine ⟨hresume.rtSchedule, fun t => ?_, fun t ht => ?_, h.flags, fun hw' => absurd hw' hnot,
      fun _ => ⟨herror.trans (h.woken hpc).1, fun _ => ⟨x, hset⟩⟩, h.recved, ?_⟩
    · exact ((h.attached t).eventResume (x := .acousticSignals)).of_frame Kernel.rtSchedule_frame
    · rw [hqueue] at ht
      cases ht
    · refine (h.logged.mono fun y hy => ?_).raise (.inr ⟨hpc, hnot, ?_⟩)
      · rcases hy with hy | ⟨-, hn, -⟩
        · exact .inl hy
        · exact absurd hw hn
      · show Has (k.thread .acousticSignals).eventSet x
        rw [hset]
        exact has_flag.mpr rfl
  · rw [h.raise_pending hw]
    have hnot : ¬Waits { s with flags := s.flags ||| x.flag, log := s.log ++ [.raised x] } := hw
    refine ⟨h.ready, h.attached, h.only, ?_, fun hw' => absurd hw' hw, h.woken, h.recved, ?_⟩
    · have hflags := h.flags
      simp only [List.mem_cons, List.not_mem_nil, or_false] at hflags
      show s.flags ||| x.flag ∈ [0, eventFlag1, eventFlag2, wanted]
      rcases hflags with hf | hf | hf | hf <;> rw [hf] <;> cases x <;> decide
    · refine (h.logged.mono fun y hy => ?_).raise (.inl (has_or_flag.mpr (.inr rfl)))
      rcases hy with hy | hy
      · exact .inl (has_or_flag.mpr (.inl hy))
      · exact .inr hy

/-! ### Receiving -/

/-- The kernel in which Task4 takes flags, or is about to wait for them. -/
def prepared (k : Kernel Task Unit) (e : BitVec 32) : Kernel Task Unit :=
  (k.setError .acousticSignals .eok).modify .acousticSignals fun th =>
    { th with eventSet := e, eventInfo := orClear }

theorem prepared_self (k : Kernel Task Unit) (e : BitVec 32) :
    (prepared k e).thread .acousticSignals = { k.thread .acousticSignals with
      error := .eok, eventSet := e, eventInfo := orClear } := by
  simp [prepared, Kernel.setError]

theorem prepared_of_ne {e : BitVec 32} {t : Task} (ht : t ≠ .acousticSignals) :
    (prepared k e).thread t = k.thread t := by
  rw [prepared, Kernel.modify_thread_of_ne ht, Kernel.setError, Kernel.modify_thread_of_ne ht]

theorem prepared_schedEq (k : Kernel Task Unit) (e : BitVec 32) : Kernel.SchedEq k (prepared k e) :=
  (Kernel.SchedEq.modify rfl rfl rfl).trans (.modify rfl rfl rfl)

theorem prepared_attached {e : BitVec 32} {t : Task} (h : Attached k t) :
    Attached (prepared k e) t := by
  by_cases ht : t = .acousticSignals
  · subst ht
    exact ⟨by rw [prepared_self]; exact h.object, by rw [prepared_self]; exact h.timer⟩
  · exact ⟨by rw [prepared_of_ne ht]; exact h.object, by rw [prepared_of_ne ht]; exact h.timer⟩

theorem eventStatus_wanted : Kernel.eventStatus orClear wanted s.flags =
    some (decide (wanted &&& s.flags ≠ 0)) := rfl

/-- `rt_event_recv` hands over a pending flag, if it is the only one. -/
theorem Inv.rtEventRecv_pending (h : Inv s) (hpc : s.signalPc = .recv) (hf : s.flags ≠ 0)
    (hone : OneAtATime s .recv) : Inv s.rtEventRecv := by
  have hnot : ¬s.Waits := fun hw => by simpa [hpc] using (h.waits hw).1
  obtain ⟨x, hx⟩ : ∃ x : Alarm, s.flags = x.flag := by
    have hflags := h.flags
    simp only [List.mem_cons, List.not_mem_nil, or_false] at hflags
    rcases hflags with hf' | hf' | hf' | hf'
    · exact absurd hf' hf
    · exact ⟨.lowBattery, hf'⟩
    · exact ⟨.garbageBagFull, hf'⟩
    · refine absurd ?_ hone
      rw [hf']
      decide
  have heq : s.rtEventRecv = { s with
      kernel := prepared s.kernel x.flag
      flags := 0
      signalPc := .started
      recved := x.flag
      log := s.log ++ [.received x.flag] } := by
    have hstatus : decide (wanted &&& s.flags ≠ 0) = true := by
      rw [hx]
      cases x <;> decide
    have hand : s.flags &&& wanted = x.flag := by
      rw [hx]
      cases x <;> decide
    have hclear : s.flags &&& ~~~wanted = 0 := by
      rw [hx]
      cases x <;> decide
    unfold rtEventRecv
    dsimp only
    rw [eventStatus_wanted, hstatus, hand, hclear]
    rfl
  rw [heq]
  refine ⟨h.ready.of_schedEq (prepared_schedEq _ _), fun t => prepared_attached (h.attached t),
    h.only, List.mem_cons_self, fun hw => absurd hw hnot, fun hw => (by cases hw),
    fun _ => ⟨x, rfl⟩, ?_⟩
  have hjob : s.job = none := by
    unfold Alarms.job
    rw [hpc]
  refine (hjob ▸ h.logged).receive fun y hy hno => ?_
  rcases hy with hy | ⟨hw, -⟩
  · exact absurd (hx ▸ hy) hno
  · rw [hpc] at hw
    cases hw

/-- ... and otherwise Task4 waits. -/
theorem Inv.rtEventRecv_wait (h : Inv s) (hrun : s.Runs .acousticSignals)
    (hpc : s.signalPc = .recv) (hf : s.flags = 0) : Inv s.rtEventRecv := by
  obtain ⟨hcur, hstate⟩ := hrun
  set k := prepared s.kernel wanted with hk
  have heq : s.rtEventRecv = { s with
      kernel := k.ipcListSuspend () .acousticSignals .fifo
      signalPc := .waiting } := by
    unfold rtEventRecv
    dsimp only
    rw [eventStatus_wanted, hf]
    rfl
  rw [heq]
  have hready : ReadyQueueInv k := h.ready.of_schedEq (prepared_schedEq _ _)
  have hatt : ∀ t, Attached k t := fun t => prepared_attached (h.attached t)
  have hrunning : k.state .acousticSignals = .running := by
    rw [hk, (prepared_schedEq s.kernel wanted).state, hstate]
  have hview := Kernel.ipcListSuspend_view () .fifo hready (hatt _) hrunning hcur.symm
  have hw : Waits { s with
      kernel := k.ipcListSuspend () .acousticSignals .fifo
      signalPc := .waiting } := (congrFun (congrArg Kernel.View.waits hview) ()).mpr rfl
  have hframe : ∀ t, ((k.ipcListSuspend () .acousticSignals .fifo).thread t).frame =
      (k.thread t).frame := fun _ => Kernel.ipcListSuspend_frame
  have hset : ((k.ipcListSuspend () .acousticSignals .fifo).thread .acousticSignals).eventSet =
      wanted := by
    rw [Thread.of_frame (·.eventSet) (fun _ => rfl) (hframe _), hk, prepared_self]
  have hinfo : ((k.ipcListSuspend () .acousticSignals .fifo).thread .acousticSignals).eventInfo =
      orClear := by
    rw [Thread.of_frame (·.eventInfo) (fun _ => rfl) (hframe _), hk, prepared_self]
  have herror : ((k.ipcListSuspend () .acousticSignals .fifo).thread .acousticSignals).error =
      .eok := by
    rw [Thread.of_frame (·.error) (fun _ => rfl) (hframe _), hk, prepared_self]
  have hjob : s.job = none := by
    unfold Alarms.job
    rw [hpc]
  refine ⟨hready.ipcListSuspend (hatt _) hrunning hcur.symm,
    fun t => (hatt t).of_frame (hframe t), fun t ht => ?_, h.flags,
    fun _ => ⟨rfl, hf, hset, hinfo⟩, fun _ => ⟨herror, fun hn => absurd hw hn⟩,
    fun hj => absurd rfl hj, ?_⟩
  · by_contra hne
    have hother := Kernel.ipcListSuspend_view_of_ne () .fifo hready hne
    exact hne (h.only t ((congrFun (congrArg Kernel.View.waits hother) ()).mp ht))
  · refine (hjob ▸ h.logged).mono fun y hy => ?_
    rcases hy with hy | ⟨hwaiting, -⟩
    · exact .inl hy
    · rw [hpc] at hwaiting
      cases hwaiting

/-! ### Runs -/

theorem Inv.returned (h : Inv s) (hrun : s.Runs .acousticSignals) (hpc : s.signalPc = .waiting) :
    Inv { s with
      signalPc := .started
      recved := s.listener.eventSet
      log := s.log ++ [.received s.listener.eventSet] } := by
  have hnot : ¬s.Waits := h.ready.not_mem_wait (by simp [hrun.2])
  have hjob : s.job = none := by
    unfold Alarms.job
    rw [hpc]
  refine ⟨h.ready, h.attached, h.only, h.flags, fun hw => absurd hw hnot, fun hw => (by cases hw),
    fun _ => (h.woken hpc).2 hnot, ?_⟩
  refine (hjob ▸ h.logged).receive fun y hy hno => ?_
  rcases hy with hy | ⟨-, -, hy⟩
  · exact .inl hy
  · exact absurd hy hno

/-- The job sounds the alarm of the flag it received. -/
theorem Inv.speak (h : Inv s) (hpc : s.signalPc = .speak) :
    Inv { s with log := s.log ++ (spoken s.recved).map .sounded, signalPc := .busy } := by
  have hjob : s.job = some (s.recved, false) := by
    unfold Alarms.job
    rw [hpc]
  obtain ⟨x, hx⟩ := h.recved (by simp [hjob])
  have hspoken : (spoken s.recved).map AlarmEvent.sounded = [.sounded x] := by
    rw [hx]
    cases x <;> rfl
  rw [hspoken]
  have hnot : ¬s.Waits := fun hw => by simpa [hpc] using (h.waits hw).1
  refine ⟨h.ready, h.attached, h.only, h.flags, fun hw => absurd hw hnot, fun hw => (by cases hw),
    fun _ => ⟨x, hx⟩, ?_⟩
  refine ((hjob ▸ h.logged).speak fun y hy => ?_).mono fun y hy => ?_
  · exact has_flag.mp (hx ▸ hy)
  · rcases hy with hy | ⟨hw, -⟩
    · exact .inl hy
    · rw [hpc] at hw
      cases hw

theorem Inv.ended (h : Inv s) (hpc : s.signalPc = .ended) :
    Inv { s with signalPc := .recv, log := s.log ++ [.ended] } := by
  have hjob : s.job = some (s.recved, true) := by
    unfold Alarms.job
    rw [hpc]
  have hnot : ¬s.Waits := fun hw => by simpa [hpc] using (h.waits hw).1
  refine ⟨h.ready, h.attached, h.only, h.flags, fun hw => absurd hw hnot, fun hw => (by cases hw),
    fun hj => absurd rfl hj, ?_⟩
  refine (hjob ▸ h.logged).finish.mono fun y hy => ?_
  rcases hy with hy | ⟨hw, -⟩
  · exact .inl hy
  · rw [hpc] at hw
    cases hw

/-- A thread that waits elsewhere or is resumed does not come between Task4 and its flags. -/
theorem Inv.rtThreadSuspend (h : Inv s) (hne : s.kernel.currentThread ≠ .acousticSignals)
    (hrun : s.kernel.state s.kernel.currentThread = .running) :
    Inv { s with kernel := s.kernel.rtThreadSuspend s.kernel.currentThread } := by
  refine h.withKernel h.ready.rtThreadSuspend
    (fun t => (h.attached t).of_frame Kernel.rtThreadSuspend_frame)
    (Kernel.rtThreadSuspend_view_of_ne h.ready (Ne.symm hne)) fun t ht => ?_
  rw [Kernel.rtThreadSuspend_queue (h.attached _) hrun rfl] at ht
  exact h.only t (h.ready.table.proper.mem_remove.mp ht).2

theorem Inv.rtThreadResume (h : Inv s) {t : Task} (ht : t ≠ .acousticSignals) :
    Inv { s with kernel := s.kernel.rtThreadResume t } := by
  refine h.withKernel h.ready.rtThreadResume
    (fun u => (h.attached u).of_frame Kernel.rtThreadResume_frame) ?_ fun u hu => ?_
  · rw [Kernel.rtThreadResume_view h.ready, if_neg fun hc => ht hc.1.symm]
  · have hview := Kernel.rtThreadResume_view (t := u) (x := t) h.ready
    have hwaits := congrFun (congrArg Kernel.View.waits hview) ()
    split at hwaits
    · exact (hwaits.mp hu).elim
    · exact h.only u (hwaits.mp hu)

theorem Inv.step (h : Inv s) {op : AlarmOp} (hone : OneAtATime s op) (hs : s.step op = some s') :
    Inv s' := by
  have checked : ∀ {pc s₁}, s.checking pc s₁ = some s' → s₁ = s' := fun hs => by
    unfold checking at hs
    split at hs
    · exact Option.some.inj hs
    · cases hs
  have signalled : ∀ {pc s₁}, s.signalling pc s₁ = some s' →
      s.Runs .acousticSignals ∧ s.signalPc = pc ∧ s₁ = s' := fun hs => by
    unfold signalling at hs
    split at hs
    · next hat => exact ⟨hat.1, hat.2, Option.some.inj hs⟩
    · cases hs
  cases op with
  | check =>
    cases checked hs
    exact h.withCheckPc _
  | battery level =>
    cases checked hs
    refine Inv.withCheckPc ?_ _
    split
    · exact h.raise
    · exact h
  | bag value =>
    cases checked hs
    refine Inv.withCheckPc ?_ _
    split
    · exact h.raise
    · exact h
  | recv =>
    obtain ⟨hrun, hpc, rfl⟩ := signalled hs
    by_cases hf : s.flags = 0
    · exact h.rtEventRecv_wait hrun hpc hf
    · exact h.rtEventRecv_pending hpc hf hone
  | returned =>
    obtain ⟨hrun, hpc, rfl⟩ := signalled hs
    rw [if_pos (h.woken hpc).1]
    exact h.returned hrun hpc
  | started =>
    obtain ⟨-, hpc, rfl⟩ := signalled hs
    have hgo : Inv { s with signalPc := .speak } :=
      h.goOn (by simp [hpc]) (by simp) (by simp [job, hpc])
    exact hgo.withKernel (hgo.ready.of_schedEq (.modify rfl rfl rfl))
      (fun t => (Kernel.view_fields (Kernel.modify_view_of_core rfl)).2.2.2 (hgo.attached t))
      (Kernel.modify_view_of_core rfl) hgo.only
  | speak =>
    obtain ⟨-, hpc, rfl⟩ := signalled hs
    exact h.speak hpc
  | busy =>
    obtain ⟨-, hpc, rfl⟩ := signalled hs
    refine h.goOn (by simp [hpc]) ?_ ?_
    · split <;> simp
    · split <;> simp [job, hpc]
  | ended =>
    obtain ⟨-, hpc, rfl⟩ := signalled hs
    have hend := h.ended hpc
    exact hend.withKernel (hend.ready.of_schedEq (.modify rfl rfl rfl))
      (fun t => (Kernel.view_fields (Kernel.modify_view_of_core rfl)).2.2.2 (hend.attached t))
      (Kernel.modify_view_of_core rfl) hend.only
  | suspend =>
    simp only [Alarms.step] at hs
    split at hs
    · next hat =>
      cases hs
      exact h.rtThreadSuspend hat.1 hat.2
    · cases hs
  | resume t =>
    simp only [Alarms.step] at hs
    split at hs
    · next ht =>
      cases hs
      exact h.rtThreadResume ht
    · cases hs
  | schedule =>
    cases hs
    exact h.withKernel h.ready.rtSchedule
      (fun t => (h.attached t).of_frame Kernel.rtSchedule_frame) h.ready.rtSchedule_view
      fun t ht => h.only t (h.ready.rtSchedule_wait ▸ ht)
  | tick =>
    cases hs
    exact h.withKernel h.ready.rtTickCharge
      (fun t => (Kernel.view_fields (Kernel.rtTickCharge_view h.ready)).2.2.2 (h.attached t))
      (Kernel.rtTickCharge_view h.ready)
      fun t ht => h.only t (Kernel.rtTickCharge_wait h.ready ▸ ht)

theorem inv_of_reaches (h : runs.Reaches OneAtATime s) : Inv s := by
  refine h.invariant ?_ fun _ _ _ hi hok hs => hi.step hok hs
  rintro s ⟨hready, hatt, hqueue, hflags, hpc, hlog⟩
  have hnot : ¬s.Waits := by
    unfold Waits
    rw [hqueue]
    exact List.not_mem_nil
  have hjob : s.job = none := by
    unfold Alarms.job
    rw [hpc]
  refine ⟨hready, hatt, fun t ht => ?_, hflags ▸ List.mem_cons_self, fun hw => absurd hw hnot,
    fun hw => ?_, fun hj => absurd hjob hj, ?_⟩
  · rw [hqueue] at ht
    cases ht
  · rw [hpc] at hw
    cases hw
  · rw [hlog, hjob]
    exact Logged.nil

/-- **No resource alarm is lost** in any interleaving of the checks of Task3 and the jobs of
Task4, if Task4 never calls `rt_event_recv` while both flags are pending. -/
theorem alarmsKept_of_reaches (h : runs.Reaches OneAtATime s) : AlarmsKept s := by
  have hi := inv_of_reaches h
  refine ⟨hi.logged.kept, fun l₁ x l₂ e l₃ l₄ hlog _ hx hended => ?_⟩
  exact hi.logged.sounded (l₁ ++ .raised x :: l₂) e l₃ l₄ x (by simpa using hlog) hended hx

/-- Task3 and Task4 were started, and Task3, the more urgent one, runs. -/
def start : Alarms where
  kernel := [Task.checkResources, .acousticSignals].foldl Kernel.rtThreadStartup
    (Kernel.boot .idle Task.priority 5)

theorem init_start : runs.init start := by
  have hboot : ReadyQueueInv (Kernel.boot .idle Task.priority 5 : Kernel Task Unit) :=
    (Kernel.booted_boot fun t => by cases t <;> decide).readyQueueInv
  refine ⟨?_, fun t => ⟨?_, ?_⟩, rfl, rfl, rfl, rfl⟩
  · simp only [start, List.foldl_cons, List.foldl_nil]
    exact hboot.rtThreadStartup.rtThreadStartup
  · cases t <;> decide
  · cases t <;> decide

/-- Task3 raises the flag of the battery, and a job of Task4 begins. -/
def firstAlarm : List AlarmOp :=
  [.check, .battery 15, .bag 0, .suspend, .schedule, .recv]

instance (s : Alarms) (op : AlarmOp) : Decidable (OneAtATime s op) := by
  cases op <;> unfold OneAtATime <;> infer_instance

/-- One check finds the battery low, and the job that receives the flag sounds the alarm. -/
theorem alarmsKept_of_run : ∃ s, AlarmsKept s ∧
    s.log = [.raised .lowBattery, .received 2, .sounded .lowBattery, .ended] := by
  have hinit : (runs.restrict fun s op => decide (OneAtATime s op)).Reachable start :=
    .init init_start
  obtain ⟨s, hs, hp⟩ := hinit.exists_of_runList
    (firstAlarm ++ [.started, .speak, .tick, .tick, .busy, .ended])
    (fun s => s.log = [.raised .lowBattery, .received 2, .sounded .lowBattery, .ended])
    (by decide +kernel)
  have hreach := Automaton.Reachable.of_restrict (fun _ _ => of_decide_eq_true) hs
  exact ⟨s, alarmsKept_of_reaches hreach, by simpa using hp⟩

/-- Task3 finds both resources used up while Task4 is in a job, so the next job receives both
flags, and sounds nothing. -/
theorem alarms_lost : ¬∀ s, runs.Reachable s → AlarmsKept s := by
  intro h
  have hinit : runs.Reachable start := .init init_start
  obtain ⟨s, hs, hp⟩ := hinit.exists_of_runList
    (firstAlarm ++ [.resume .checkResources, .schedule, .check, .battery 13, .bag 30, .suspend,
      .schedule, .started, .speak, .tick, .tick, .busy, .ended] ++
      [.recv, .started, .speak, .tick, .tick, .busy, .ended])
    (fun s => s.log = [.raised .lowBattery, .received 2, .raised .lowBattery,
      .raised .garbageBagFull, .sounded .lowBattery, .ended, .received 6, .ended])
    (by decide +kernel)
  have hlost := (h s hs).sounded [.raised .lowBattery, .received 2, .raised .lowBattery]
    .garbageBagFull [.sounded .lowBattery, .ended] 6 [] [] (by simpa using hp) (by simp)
    (by decide) (by simp)
  cases hlost

end Alarms

end RobotVacuum
