import RobotVacuum.Foundation.Automaton
import RobotVacuum.Ipc.NonPreemptable

/-!
# Activations

Tasks that wait on one event, each for a single flag of its own, with `RT_EVENT_FLAG_AND` and
`RT_EVENT_FLAG_CLEAR`. A timeout function sends the flag of one task. The walk over the waiting
threads passes by all others, since their flags are not there, so it wakes that task or none
(`eventSendWalk_flag`), and the activations of the tasks do not affect each other.

`Activations.Inv` is the invariant of all runs; its `balance` says what became of the releases
of a task.
-/

set_option linter.unusedSectionVars false

namespace RobotVacuum

/-- The tasks that wait for a flag of their own on one event, and the list they wait in. -/
structure ActivationEvent (T Q : Type) where
  tasks : T → Bool
  bit : T → Fin 32
  waitList : Q
  injective : ∀ t u, tasks t = true → tasks u = true → bit t = bit u → t = u

/-- Where a task stands in its loop: before `rt_event_recv`, inside it after suspending itself,
or past it. -/
inductive LoopPc
  | recv | waiting | body
  deriving DecidableEq, Repr

/-- The kernel, the flags of the event and the tasks. -/
structure Activations (T Q : Type) where
  kernel : Kernel T Q
  flags : BitVec 32
  pc : T → LoopPc
  /-- History variables: how often the flag of a task was sent, how often it was pending already
  then, and how often `rt_event_recv` returned `RT_EOK` to the task. -/
  releases : T → ℕ
  merged : T → ℕ
  bodies : T → ℕ

/-- What can happen: the timeout function of a task, a step of the running task, a scheduling and
a tick. -/
inductive ActivationOp (T : Type)
  | timeout (t : T)
  | recv
  | returned
  | ended
  | schedule
  | tick

namespace ActivationEvent

variable {T Q : Type}

/-- The flag of a task. -/
def flag (c : ActivationEvent T Q) (t : T) : BitVec 32 := BitVec.twoPow 32 (c.bit t)

/-- `RT_EVENT_FLAG_AND | RT_EVENT_FLAG_CLEAR`. -/
def option : EventOption := { and := true, clear := true }

end ActivationEvent

namespace Activations

variable {T Q : Type} [DecidableEq T] [DecidableEq Q]

/-- The tasks that wait, in the order of the list. -/
def waiters (c : ActivationEvent T Q) (s : Activations T Q) : List T :=
  s.kernel.queue (.wait c.waitList)

/-- The flag of a task is pending. -/
def Pending (c : ActivationEvent T Q) (s : Activations T Q) (t : T) : Prop :=
  s.flags.getLsbD (c.bit t) = true

/-- The task was woken, and its `rt_event_recv` is about to return. -/
def Woken (c : ActivationEvent T Q) (s : Activations T Q) (t : T) : Prop :=
  s.pc t = .waiting ∧ t ∉ s.waiters c

instance (c : ActivationEvent T Q) (s : Activations T Q) (t : T) : Decidable (s.Pending c t) := by
  unfold Pending
  infer_instance

instance (c : ActivationEvent T Q) (s : Activations T Q) (t : T) : Decidable (s.Woken c t) := by
  unfold Woken
  infer_instance

/-- The timeout function of a task. -/
def timeout (c : ActivationEvent T Q) (s : Activations T Q) (t : T) : Activations T Q :=
  let r := s.kernel.rtEventSend s.flags c.waitList (c.flag t)
  { s with
    kernel := r.1
    flags := r.2
    releases := Function.update s.releases t (s.releases t + 1)
    merged := if s.Pending c t then Function.update s.merged t (s.merged t + 1) else s.merged }

/-- `rt_event_recv` up to where it returns or has suspended the running task. -/
def rtEventRecv (c : ActivationEvent T Q) (s : Activations T Q) : Activations T Q :=
  let t := s.kernel.currentThread
  let k := s.kernel.setError t .eok
  match Kernel.eventStatus ActivationEvent.option (c.flag t) s.flags with
  | some true => { s with
      kernel := k.modify t fun th =>
        { th with eventSet := s.flags &&& c.flag t, eventInfo := ActivationEvent.option }
      flags := s.flags &&& ~~~c.flag t
      pc := Function.update s.pc t .body
      bodies := Function.update s.bodies t (s.bodies t + 1) }
  | _ => { s with
      kernel := (k.modify t fun th =>
        { th with eventSet := c.flag t, eventInfo := ActivationEvent.option }).ipcListSuspend
          c.waitList t .fifo
      pc := Function.update s.pc t .waiting }

/-- The running task is at a position of its loop. -/
def At (c : ActivationEvent T Q) (s : Activations T Q) (p : LoopPc) : Prop :=
  c.tasks s.kernel.currentThread = true ∧ s.pc s.kernel.currentThread = p ∧
    s.kernel.state s.kernel.currentThread = .running

instance (c : ActivationEvent T Q) (s : Activations T Q) (p : LoopPc) : Decidable (s.At c p) := by
  unfold At
  infer_instance

/-- One step. -/
def step (c : ActivationEvent T Q) (s : Activations T Q) :
    ActivationOp T → Option (Activations T Q)
  | .timeout t => if c.tasks t = true then some (s.timeout c t) else none
  | .recv => if s.At c .recv then some (s.rtEventRecv c) else none
  | .returned =>
    let t := s.kernel.currentThread
    if s.At c .waiting then
      if (s.kernel.thread t).error = .eok then
        some { s with
          pc := Function.update s.pc t .body
          bodies := Function.update s.bodies t (s.bodies t + 1) }
      else some { s with pc := Function.update s.pc t .recv }
    else none
  | .ended =>
    if s.At c .body then
      some { s with pc := Function.update s.pc s.kernel.currentThread .recv }
    else none
  | .schedule => some { s with kernel := s.kernel.rtSchedule }
  | .tick => some { s with kernel := s.kernel.rtTickCharge }

open Kernel (ReadyQueueInv Attached)

/-- Every release of a task was merged with a pending one or has led to a body, but for the one
that is pending and the one the task was woken by. -/
def Balanced (c : ActivationEvent T Q) (s : Activations T Q) (t : T) : Prop :=
  s.releases t = s.merged t + s.bodies t +
    (if s.Pending c t then 1 else 0) + if s.Woken c t then 1 else 0

/-- The invariant of the activations. -/
structure Inv (c : ActivationEvent T Q) (s : Activations T Q) : Prop where
  ready : ReadyQueueInv s.kernel
  attached : ∀ t, c.tasks t = true → Attached s.kernel t
  waiters : ∀ t ∈ s.waiters c, c.tasks t = true ∧ s.pc t = .waiting ∧ ¬s.Pending c t ∧
    (s.kernel.thread t).eventSet = c.flag t ∧
    (s.kernel.thread t).eventInfo = ActivationEvent.option
  error : ∀ t, c.tasks t = true → s.pc t = .waiting → (s.kernel.thread t).error = .eok
  balance : ∀ t, c.tasks t = true → s.Balanced c t

/-- All runs: at the start any set of tasks waits in any order, any other flags are pending, and
only these were released. -/
def runs (c : ActivationEvent T Q) : Automaton (Activations T Q) (ActivationOp T) where
  init s := s.Inv c ∧ ∀ t, s.merged t = 0 ∧ s.bodies t = 0
  step := step c

variable {c : ActivationEvent T Q} {s s' : Activations T Q} {t x : T} {k : Kernel T Q}
  {set : BitVec 32} {l : List T}

/-! ### Flags -/

theorem eventStatus_flag : Kernel.eventStatus ActivationEvent.option (c.flag t) set =
    some (set.getLsbD (c.bit t)) := by
  have hbit : (c.bit t : ℕ) < 32 := (c.bit t).isLt
  have hne : BitVec.twoPow 32 (c.bit t) ≠ 0#32 := fun h => by
    have hlsb := congrArg (·.getLsbD (c.bit t)) h
    simp at hlsb
  simp only [Kernel.eventStatus, ActivationEvent.option, ActivationEvent.flag, if_true,
    BitVec.twoPow_and, Option.some.injEq]
  cases set.getLsbD (c.bit t) with
  | false => simpa using hne.symm
  | true => simp

theorem getLsbD_or_flag : (set ||| c.flag t).getLsbD (c.bit x) =
    (set.getLsbD (c.bit x) || decide (c.bit t = c.bit x)) := by
  rw [BitVec.getLsbD_or, ActivationEvent.flag, BitVec.getLsbD_twoPow]
  simp [Fin.ext_iff]

theorem getLsbD_and_not_flag : (set &&& ~~~c.flag t).getLsbD (c.bit x) =
    (set.getLsbD (c.bit x) && !decide (c.bit t = c.bit x)) := by
  rw [BitVec.getLsbD_and, BitVec.getLsbD_not, ActivationEvent.flag, BitVec.getLsbD_twoPow]
  simp [Fin.ext_iff]

/-- Setting a flag that is not pending and clearing it again changes nothing. -/
theorem or_and_not_flag (h : set.getLsbD (c.bit t) = false) :
    (set ||| c.flag t) &&& ~~~c.flag t = set := by
  refine BitVec.eq_of_getLsbD_eq fun i hi => ?_
  simp only [ActivationEvent.flag, BitVec.getLsbD_and, BitVec.getLsbD_or, BitVec.getLsbD_not,
    BitVec.getLsbD_twoPow]
  by_cases hbit : (c.bit t : ℕ) = i
  · rw [← hbit, h]
    simp [(c.bit t).isLt]
  · simp [hbit, hi]

/-! ### Sending a flag -/

/-- A list of threads that wait for flags of their own. -/
def WaitOwn (c : ActivationEvent T Q) (k : Kernel T Q) (l : List T) : Prop :=
  ∀ x ∈ l, c.tasks x = true ∧ (k.thread x).eventSet = c.flag x ∧
    (k.thread x).eventInfo = ActivationEvent.option

/-- The walk passes by the threads whose flags are not there. -/
theorem eventSendWalk_none (hw : WaitOwn c k l) (hset : ∀ x ∈ l, set.getLsbD (c.bit x) = false) :
    k.eventSendWalk set l = (k, set, [], true) := by
  induction l with
  | nil => rfl
  | cons x l ih =>
    obtain ⟨-, hx, hi⟩ := hw x List.mem_cons_self
    rw [Kernel.eventSendWalk]
    dsimp only
    rw [hx, hi, eventStatus_flag, hset x List.mem_cons_self]
    exact ih (fun y hy => hw y (List.mem_cons_of_mem _ hy))
      fun y hy => hset y (List.mem_cons_of_mem _ hy)

/-- **The walk** wakes the thread whose flag is there and no other, and clears that flag. -/
theorem eventSendWalk_flag (hl : l.Nodup) (hw : WaitOwn c k l)
    (hset : ∀ x ∈ l, set.getLsbD (c.bit x) = true ↔ x = t) (ht : t ∈ l) :
    k.eventSendWalk set l =
      (k.eventResume t (c.flag t), set &&& ~~~c.flag t, [t], true) := by
  induction l with
  | nil => cases ht
  | cons x l ih =>
    obtain ⟨hxl, hl⟩ := List.nodup_cons.mp hl
    obtain ⟨-, hx, hi⟩ := hw x List.mem_cons_self
    have hw' : WaitOwn c k l := fun y hy => hw y (List.mem_cons_of_mem _ hy)
    rw [Kernel.eventSendWalk]
    dsimp only
    rw [hx, hi, eventStatus_flag]
    by_cases hxt : x = t
    · subst hxt
      rw [(hset x List.mem_cons_self).mpr rfl]
      have hreceived : Kernel.eventReceived (k.thread x) set = c.flag x := by
        rw [Kernel.eventReceived, hi, hx]
        rfl
      -- the rest of the walk finds none of the other flags
      have hrest : (k.eventResume x (c.flag x)).eventSendWalk (set &&& ~~~c.flag x) l =
          (k.eventResume x (c.flag x), set &&& ~~~c.flag x, [], true) := by
        refine eventSendWalk_none (c := c) (fun y hy => ?_) fun y hy => ?_
        · have hne : y ≠ x := fun hyx => hxl (hyx ▸ hy)
          have hframe : ((k.eventResume x (c.flag x)).thread y).frame = (k.thread y).frame := by
            rw [Kernel.eventResume, Kernel.rtThreadResume_frame, Kernel.modify_thread_of_ne hne]
          rw [Thread.of_frame (·.eventSet) (fun _ => rfl) hframe,
            Thread.of_frame (·.eventInfo) (fun _ => rfl) hframe]
          exact hw' y hy
        · rw [getLsbD_and_not_flag]
          have hne : y ≠ x := fun hyx => hxl (hyx ▸ hy)
          have hfalse : set.getLsbD (c.bit y) = false := by
            rw [← Bool.not_eq_true]
            exact fun h => hne ((hset y (List.mem_cons_of_mem _ hy)).mp h)
          rw [hfalse, Bool.false_and]
      simp only [hreceived, ActivationEvent.option, if_true, hrest]
    · have hfalse : set.getLsbD (c.bit x) = false := by
        rw [← Bool.not_eq_true]
        exact fun h => hxt ((hset x List.mem_cons_self).mp h)
      rw [hfalse]
      exact ih hl hw' (fun y hy => hset y (List.mem_cons_of_mem _ hy))
        ((List.mem_cons.mp ht).resolve_left (Ne.symm hxt))

/-- What the timeout function of a task does: the task is woken if it waits, and its flag becomes
pending otherwise. All other threads, the order of the others in the list and all other flags are
as they were. -/
structure Releases (c : ActivationEvent T Q) (s s' : Activations T Q) (t : T) : Prop where
  woken : t ∈ s.waiters c → s'.waiters c = (s.waiters c).erase t ∧ s'.flags = s.flags ∧
    ¬s'.Pending c t ∧ s'.kernel.state t ≠ .suspend
  pending : t ∉ s.waiters c → s'.waiters c = s.waiters c ∧ s'.flags = s.flags ||| c.flag t
  others : ∀ x, x ≠ t → s'.kernel.view x = s.kernel.view x
  ready : ReadyQueueInv s'.kernel
  view : t ∈ s.waiters c → s'.kernel.view t = (s.kernel.view t).receive (c.flag t)
  same : t ∉ s.waiters c → s'.kernel.view t = s.kernel.view t

theorem Inv.waitOwn (h : Inv c s) : WaitOwn c s.kernel (s.waiters c) := fun x hx => by
  obtain ⟨ht, -, -, hset, hinfo⟩ := h.waiters x hx
  exact ⟨ht, hset, hinfo⟩

theorem flag_ne_zero : c.flag t ≠ 0 := fun h => by
  have hlsb := congrArg (·.getLsbD (c.bit t)) h
  simp [ActivationEvent.flag] at hlsb

theorem Inv.releases_timeout (h : Inv c s) (ht : c.tasks t = true) :
    Releases c s (s.timeout c t) t := by
  have hbit : ∀ x ∈ s.waiters c, (s.flags ||| c.flag t).getLsbD (c.bit x) = true ↔ x = t := by
    intro x hx
    obtain ⟨hx, -, hpend, -, -⟩ := h.waiters x hx
    rw [getLsbD_or_flag]
    unfold Pending at hpend
    rw [Bool.not_eq_true] at hpend
    rw [hpend, Bool.false_or, decide_eq_true_eq]
    constructor
    · exact fun heq => (c.injective t x ht hx heq).symm
    · exact fun heq => heq ▸ rfl
  have hnodup : (s.waiters c).Nodup := h.ready.table.proper.nodup _
  by_cases hmem : t ∈ s.waiters c
  · have hpend : s.flags.getLsbD (c.bit t) = false := by
      rw [← Bool.not_eq_true]
      exact (h.waiters t hmem).2.2.1
    have hsusp : s.kernel.state t = .suspend := h.ready.wait hmem
    have hthread : s.kernel.isThread t = true := (h.attached t ht).isThread
    have hwalk : s.kernel.rtEventSend s.flags c.waitList (c.flag t) =
        ((s.kernel.eventResume t (c.flag t)).rtSchedule, s.flags) := by
      rw [Kernel.rtEventSend, if_neg flag_ne_zero]
      dsimp only
      rw [show s.kernel.queue (.wait c.waitList) = s.waiters c from rfl,
        eventSendWalk_flag hnodup h.waitOwn hbit hmem, or_and_not_flag hpend]
      rfl
    have hinv : ReadyQueueInv (s.kernel.eventResume t (c.flag t)) := h.ready.eventResume
    have hview : ∀ x, (s.kernel.eventResume t (c.flag t)).rtSchedule.view x =
        if x = t then (s.kernel.view x).receive (c.flag t) else s.kernel.view x := fun x => by
      rw [hinv.rtSchedule_view, Kernel.eventResume_view h.ready hthread hsusp]
    unfold timeout
    rw [hwalk]
    refine ⟨fun _ => ⟨?_, rfl, ?_, ?_⟩, fun hn => absurd hmem hn, fun x hx => ?_,
      hinv.rtSchedule, fun _ => ?_, fun hn => absurd hmem hn⟩
    · show (s.kernel.eventResume t (c.flag t)).rtSchedule.queue (.wait c.waitList) = _
      rw [hinv.rtSchedule_wait, Kernel.eventResume_wait hthread hsusp]
      rfl
    · show ¬s.flags.getLsbD (c.bit t) = true
      rw [hpend]
      simp
    · have hphase := congrArg (·.thread.stat.state) (hview t)
      simp only [if_true, Kernel.View.receive, Kernel.View.resumed, Thread.withState] at hphase
      intro hs
      have hs' : (s.kernel.eventResume t (c.flag t)).rtSchedule.state t = .suspend := hs
      have hcore : ((s.kernel.eventResume t (c.flag t)).rtSchedule.state t).phase = .ready := hphase
      rw [hs'] at hcore
      cases hcore
    · have hx' := hview x
      rwa [if_neg hx] at hx'
    · have ht' := hview t
      rwa [if_pos rfl] at ht'
  · have hwalk : s.kernel.rtEventSend s.flags c.waitList (c.flag t) =
        (s.kernel, s.flags ||| c.flag t) := by
      rw [Kernel.rtEventSend, if_neg flag_ne_zero]
      dsimp only
      rw [show s.kernel.queue (.wait c.waitList) = s.waiters c from rfl,
        eventSendWalk_none h.waitOwn fun x hx => by
          rw [← Bool.not_eq_true]
          exact fun hb => hmem ((hbit x hx).mp hb ▸ hx)]
      rfl
    unfold timeout
    rw [hwalk]
    exact ⟨fun hm => absurd hm hmem, fun _ => ⟨rfl, rfl⟩, fun _ _ => rfl, h.ready,
      fun hm => absurd hm hmem, fun _ => rfl⟩

/-! ### Steps -/

theorem Balanced.congr (h : s.Balanced c t) (hr : s'.releases t = s.releases t)
    (hm : s'.merged t = s.merged t) (hb : s'.bodies t = s.bodies t)
    (hp : s'.Pending c t ↔ s.Pending c t) (hw : s'.Woken c t ↔ s.Woken c t) :
    s'.Balanced c t := by
  unfold Balanced at h ⊢
  rw [hr, hm, hb, if_congr hp rfl rfl, if_congr hw rfl rfl]
  exact h

/-- What changes no view and no wait list keeps the invariant. -/
theorem Inv.withKernel (h : Inv c s) (hinv : ReadyQueueInv k)
    (hv : ∀ x, k.view x = s.kernel.view x)
    (hq : k.queue (.wait c.waitList) = s.kernel.queue (.wait c.waitList)) :
    Inv c { s with kernel := k } := by
  have hwaiters : Activations.waiters c { s with kernel := k } = s.waiters c := hq
  refine ⟨hinv, fun t ht => (Kernel.view_fields (hv t)).2.2.2 (h.attached t ht), fun t ht => ?_,
    fun t ht hpc => ?_, fun t ht => ?_⟩
  · obtain ⟨h1, h2, h3, h4, h5⟩ := h.waiters t (hwaiters ▸ ht)
    obtain ⟨hset, hinfo, -, -⟩ := Kernel.view_fields (hv t)
    exact ⟨h1, h2, h3, hset.trans h4, hinfo.trans h5⟩
  · exact (Kernel.view_fields (hv t)).2.2.1.trans (h.error t ht hpc)
  · have hwoken : Woken c { s with kernel := k } t ↔ s.Woken c t := by
      unfold Woken
      rw [hwaiters]
    exact (h.balance t ht).congr rfl rfl rfl Iff.rfl hwoken

theorem Inv.timeout (h : Inv c s) (ht : c.tasks t = true) : Inv c (s.timeout c t) := by
  have hr := h.releases_timeout ht
  have hview : ∀ x, (s.timeout c t).kernel.view x = s.kernel.view x ∨
      x = t ∧ t ∈ s.waiters c ∧
        (s.timeout c t).kernel.view x = (s.kernel.view x).receive (c.flag t) := fun x => by
    by_cases hx : x = t
    · subst hx
      by_cases hm : x ∈ s.waiters c
      · exact .inr ⟨rfl, hm, hr.view hm⟩
      · exact .inl (hr.same hm)
    · exact .inl (hr.others x hx)
  have hmem : ∀ {x}, x ∈ (s.timeout c t).waiters c ↔ x ∈ s.waiters c ∧ x ≠ t := by
    intro x
    by_cases hm : t ∈ s.waiters c
    · have hnodup : (s.waiters c).Nodup := h.ready.table.proper.nodup _
      rw [(hr.woken hm).1, hnodup.mem_erase_iff]
      exact and_comm
    · rw [(hr.pending hm).1]
      exact ⟨fun hx => ⟨hx, fun hxt => hm (hxt ▸ hx)⟩, And.left⟩
  have hpend : ∀ {x}, c.tasks x = true →
      ((s.timeout c t).Pending c x ↔ s.Pending c x ∨ x = t ∧ t ∉ s.waiters c) := by
    intro x hx
    by_cases hm : t ∈ s.waiters c
    · unfold Pending
      rw [(hr.woken hm).2.1]
      simp [hm]
    · unfold Pending
      rw [(hr.pending hm).2, getLsbD_or_flag, Bool.or_eq_true, decide_eq_true_eq]
      constructor
      · rintro (hp | heq)
        · exact .inl hp
        · exact .inr ⟨(c.injective t x ht hx heq).symm, hm⟩
      · rintro (hp | ⟨rfl, -⟩)
        · exact .inl hp
        · exact .inr rfl
  refine ⟨hr.ready, fun x hx => ?_, fun x hx => ?_, fun x hx hpc => ?_, fun x hx => ?_⟩
  · rcases hview x with heq | ⟨-, -, heq⟩
    · exact (Kernel.view_fields heq).2.2.2 (h.attached x hx)
    · have hcore := congrArg Kernel.View.thread heq
      have ha := h.attached x hx
      exact ⟨(congrArg (·.object) hcore : _ = (s.kernel.thread x).object) ▸ ha.object,
        (congrArg (·.threadTimer.attached) hcore :
          _ = (s.kernel.thread x).threadTimer.attached) ▸ ha.timer⟩
  · obtain ⟨hxm, hxt⟩ := hmem.mp hx
    obtain ⟨h1, h2, h3, h4, h5⟩ := h.waiters x hxm
    obtain ⟨hset, hinfo, -, -⟩ := Kernel.view_fields (hr.others x hxt)
    refine ⟨h1, h2, fun hp => ?_, hset.trans h4, hinfo.trans h5⟩
    rcases (hpend h1).mp hp with hp | ⟨heq, -⟩
    · exact h3 hp
    · exact hxt heq
  · rcases hview x with heq | ⟨-, -, heq⟩
    · exact (Kernel.view_fields heq).2.2.1.trans (h.error x hx hpc)
    · have hcore := congrArg Kernel.View.thread heq
      exact (congrArg (·.error) hcore : _ = (s.kernel.thread x).error).trans (h.error x hx hpc)
  · have hbal := h.balance x hx
    unfold Balanced at hbal ⊢
    have hwoken : (s.timeout c t).Woken c x ↔ s.Woken c x ∨ x = t ∧ t ∈ s.waiters c := by
      unfold Woken
      rw [hmem, show (s.timeout c t).pc = s.pc from rfl]
      constructor
      · rintro ⟨hpc, hnot⟩
        by_cases hm : x ∈ s.waiters c
        · have hxt : x = t := by
            by_contra hxt
            exact hnot ⟨hm, hxt⟩
          exact .inr ⟨hxt, hxt ▸ hm⟩
        · exact .inl ⟨hpc, hm⟩
      · rintro (⟨hpc, hm⟩ | ⟨rfl, hm⟩)
        · exact ⟨hpc, fun hx => hm hx.1⟩
        · exact ⟨(h.waiters x hm).2.1, fun hx => hx.2 rfl⟩
    by_cases hxt : x = t
    · subst hxt
      have hrel : (s.timeout c x).releases x = s.releases x + 1 := by simp [Activations.timeout]
      have hbodies : (s.timeout c x).bodies x = s.bodies x := rfl
      have hmerged : (s.timeout c x).merged x =
          s.merged x + if s.Pending c x then 1 else 0 := by
        unfold Activations.timeout
        dsimp only
        split <;> simp
      rw [hrel, hbodies, hmerged, if_congr (hpend hx) rfl rfl, if_congr hwoken rfl rfl]
      by_cases hm : x ∈ s.waiters c
      · have hnp : ¬s.Pending c x := (h.waiters x hm).2.2.1
        have hnw : ¬s.Woken c x := fun hw => hw.2 hm
        simp only [hnp, hnw, hm, if_false, not_true_eq_false, and_false, or_false, and_true,
          or_true, if_true] at hbal ⊢
        omega
      · by_cases hp : s.Pending c x
        · simp only [hp, hm, if_true, true_or, and_false, or_false] at hbal ⊢
          omega
        · simp only [hp, hm, if_false, not_false_eq_true, and_true, or_true, if_true, and_false,
            or_false] at hbal ⊢
          omega
    · have hrel : (s.timeout c t).releases x = s.releases x := by
        simp [Activations.timeout, hxt]
      have hbodies : (s.timeout c t).bodies x = s.bodies x := rfl
      have hmerged : (s.timeout c t).merged x = s.merged x := by
        unfold Activations.timeout
        dsimp only
        split <;> simp [hxt]
      rw [hrel, hbodies, hmerged, if_congr (hpend hx) rfl rfl, if_congr hwoken rfl rfl]
      simpa [hxt] using hbal

/-- The kernel in which a task takes its flag, or is about to wait for it. -/
def prepared (k : Kernel T Q) (t : T) (wanted : BitVec 32) : Kernel T Q :=
  (k.setError t .eok).modify t fun th =>
    { th with eventSet := wanted, eventInfo := ActivationEvent.option }

theorem prepared_thread {wanted : BitVec 32} (hx : x ≠ t) :
    (prepared k t wanted).thread x = k.thread x := by
  rw [prepared, Kernel.modify_thread_of_ne hx, Kernel.setError, Kernel.modify_thread_of_ne hx]

theorem prepared_self {wanted : BitVec 32} : (prepared k t wanted).thread t =
    { k.thread t with
      error := .eok, eventSet := wanted, eventInfo := ActivationEvent.option } := by
  simp [prepared, Kernel.setError]

theorem prepared_schedEq (k : Kernel T Q) (t : T) (wanted : BitVec 32) :
    Kernel.SchedEq k (prepared k t wanted) :=
  (Kernel.SchedEq.modify rfl rfl rfl).trans (.modify rfl rfl rfl)

theorem prepared_attached {wanted : BitVec 32} (h : Attached k x) :
    Attached (prepared k t wanted) x := by
  by_cases hx : x = t
  · subst hx
    exact ⟨by rw [prepared_self]; exact h.object, by rw [prepared_self]; exact h.timer⟩
  · exact ⟨by rw [prepared_thread hx]; exact h.object, by rw [prepared_thread hx]; exact h.timer⟩

theorem rtEventRecv_eq (ht : s.kernel.currentThread = t) : s.rtEventRecv c =
    if s.Pending c t then { s with
      kernel := prepared s.kernel t (s.flags &&& c.flag t)
      flags := s.flags &&& ~~~c.flag t
      pc := Function.update s.pc t .body
      bodies := Function.update s.bodies t (s.bodies t + 1) }
    else { s with
      kernel := (prepared s.kernel t (c.flag t)).ipcListSuspend c.waitList t .fifo
      pc := Function.update s.pc t .waiting } := by
  subst ht
  unfold rtEventRecv
  dsimp only
  rw [eventStatus_flag]
  split
  · next hb =>
    rw [if_pos (show s.Pending c s.kernel.currentThread from Option.some.inj hb)]
    rfl
  · next hb =>
    have hnp : ¬s.Pending c s.kernel.currentThread := fun hp => hb (congrArg some hp)
    rw [if_neg hnp]
    rfl

/-- A task that calls `rt_event_recv` waits for nothing yet. -/
theorem Inv.not_waiter (h : Inv c s) {p : LoopPc} (hp : p ≠ .waiting)
    (hat : s.pc t = p) : t ∉ s.waiters c := fun hm => hp (hat ▸ (h.waiters t hm).2.1)

/-- `rt_event_recv` of a task whose flag is pending takes the flag and returns at once. -/
theorem Inv.rtEventRecv_pending (h : Inv c s) (hat : s.At c .recv)
    (hp : s.Pending c s.kernel.currentThread) : Inv c (s.rtEventRecv c) := by
  obtain ⟨ht, hpc, -⟩ := hat
  generalize hcur : s.kernel.currentThread = t at ht hpc hp
  rw [rtEventRecv_eq hcur, if_pos hp]
  have hnot : t ∉ s.waiters c := h.not_waiter (by simp) hpc
  have hne : ∀ {x}, x ∈ s.waiters c → x ≠ t := fun hx hxt => hnot (hxt ▸ hx)
  refine ⟨h.ready.of_schedEq (prepared_schedEq _ _ _),
    fun x hx => prepared_attached (h.attached x hx),
    fun x hx => ?_, fun x hx hpcx => ?_, fun x hx => ?_⟩
  · have hx' : x ∈ s.waiters c := hx
    obtain ⟨h1, h2, h3, h4, h5⟩ := h.waiters x hx'
    refine ⟨h1, ?_, ?_, ?_, ?_⟩
    · simpa [hne hx'] using h2
    · unfold Pending at h3 ⊢
      rw [Bool.not_eq_true] at h3
      rw [getLsbD_and_not_flag, h3]
      simp
    · rw [prepared_thread (hne hx')]
      exact h4
    · rw [prepared_thread (hne hx')]
      exact h5
  · by_cases hxt : x = t
    · subst hxt
      simp at hpcx
    · rw [prepared_thread hxt]
      refine h.error x hx ?_
      simpa [hxt] using hpcx
  · by_cases hxt : x = t
    · subst hxt
      have hbal := h.balance x hx
      unfold Balanced at hbal ⊢
      have hnw : ¬s.Woken c x := fun hw => by simp [hw.1] at hpc
      rw [if_pos hp, if_neg hnw] at hbal
      rw [if_neg, if_neg]
      · simp only [Function.update_self]
        omega
      · rintro ⟨hw, -⟩
        simp at hw
      · unfold Pending
        rw [getLsbD_and_not_flag]
        simp
    · have hpend : (s.flags &&& ~~~c.flag t).getLsbD (c.bit x) = s.flags.getLsbD (c.bit x) := by
        have hbit : c.bit t ≠ c.bit x := fun heq => hxt (c.injective t x ht hx heq).symm
        rw [getLsbD_and_not_flag]
        simp [hbit]
      refine (h.balance x hx).congr rfl rfl (Function.update_of_ne hxt _ _) ?_ ?_
      · unfold Pending
        rw [hpend]
      · unfold Woken
        dsimp only
        rw [Function.update_of_ne hxt]
        exact Iff.rfl

/-- A task that suspends itself joins the list, in which nothing else changes. -/
theorem Inv.mem_suspend (h : Inv c s) (hcur : s.kernel.currentThread = t) (ht : c.tasks t = true)
    (hrun : s.kernel.state t = .running) :
    x ∈ ((prepared s.kernel t (c.flag t)).ipcListSuspend c.waitList t .fifo).queue
      (.wait c.waitList) ↔ x = t ∨ x ∈ s.waiters c := by
  have hprep : ReadyQueueInv (prepared s.kernel t (c.flag t)) :=
    h.ready.of_schedEq (prepared_schedEq _ _ _)
  by_cases hxt : x = t
  · subst hxt
    have hstate : (prepared s.kernel x (c.flag x)).state x = .running := by
      rw [(prepared_schedEq s.kernel x (c.flag x)).state, hrun]
    have hview := Kernel.ipcListSuspend_view c.waitList .fifo hprep
      (prepared_attached (h.attached x ht)) hstate hcur.symm
    have hwaits := congrFun (congrArg Kernel.View.waits hview) c.waitList
    exact ⟨fun _ => .inl rfl, fun _ => hwaits.mpr rfl⟩
  · have hview := Kernel.ipcListSuspend_view_of_ne c.waitList .fifo hprep hxt
    have hwaits := congrFun (congrArg Kernel.View.waits hview) c.waitList
    constructor
    · exact fun hx => .inr (hwaits.mp hx)
    · exact fun hx => hwaits.mpr (hx.resolve_left hxt)

/-- ... and otherwise the task joins the end of the list. -/
theorem Inv.rtEventRecv_wait (h : Inv c s) (hat : s.At c .recv)
    (hp : ¬s.Pending c s.kernel.currentThread) : Inv c (s.rtEventRecv c) := by
  obtain ⟨ht, hpc, hrun⟩ := hat
  generalize hcur : s.kernel.currentThread = t at ht hpc hp hrun
  rw [rtEventRecv_eq hcur, if_neg hp]
  have hnot : t ∉ s.waiters c := h.not_waiter (by simp) hpc
  have hne : ∀ {x}, x ∈ s.waiters c → x ≠ t := fun hx hxt => hnot (hxt ▸ hx)
  have hprep : ReadyQueueInv (prepared s.kernel t (c.flag t)) :=
    h.ready.of_schedEq (prepared_schedEq _ _ _)
  have hatt : Attached (prepared s.kernel t (c.flag t)) t := prepared_attached (h.attached t ht)
  have hstate : (prepared s.kernel t (c.flag t)).state t = .running := by
    rw [(prepared_schedEq s.kernel t (c.flag t)).state, hrun]
  have hframe : ∀ x, (((prepared s.kernel t (c.flag t)).ipcListSuspend c.waitList t
      .fifo).thread x).frame = ((prepared s.kernel t (c.flag t)).thread x).frame :=
    fun _ => Kernel.ipcListSuspend_frame
  refine ⟨hprep.ipcListSuspend hatt hstate hcur.symm,
    fun x hx => (prepared_attached (h.attached x hx)).of_frame (hframe x), fun x hx => ?_,
    fun x hx hpcx => ?_, fun x hx => ?_⟩
  · rcases (h.mem_suspend hcur ht hrun).mp hx with rfl | hx'
    · refine ⟨ht, by simp, hp, ?_, ?_⟩
      · rw [Thread.of_frame (·.eventSet) (fun _ => rfl) (hframe x), prepared_self]
      · rw [Thread.of_frame (·.eventInfo) (fun _ => rfl) (hframe x), prepared_self]
    · have hxt := hne hx'
      obtain ⟨h1, h2, h3, h4, h5⟩ := h.waiters x hx'
      refine ⟨h1, by simpa [hxt] using h2, h3, ?_, ?_⟩
      · rw [Thread.of_frame (·.eventSet) (fun _ => rfl) (hframe x), prepared_thread hxt, h4]
      · rw [Thread.of_frame (·.eventInfo) (fun _ => rfl) (hframe x), prepared_thread hxt, h5]
  · rw [Thread.of_frame (·.error) (fun _ => rfl) (hframe x)]
    by_cases hxt : x = t
    · subst hxt
      rw [prepared_self]
    · rw [prepared_thread hxt]
      refine h.error x hx ?_
      simpa [hxt] using hpcx
  · have hwoken : Woken c { s with
        kernel := (prepared s.kernel t (c.flag t)).ipcListSuspend c.waitList t .fifo
        pc := Function.update s.pc t .waiting } x ↔ s.Woken c x := by
      unfold Woken Activations.waiters
      dsimp only
      rw [h.mem_suspend hcur ht hrun]
      by_cases hxt : x = t
      · subst hxt
        simp [hpc]
      · rw [Function.update_of_ne hxt]
        simp only [hxt, false_or]
        exact Iff.rfl
    exact (h.balance x hx).congr rfl rfl rfl Iff.rfl hwoken

theorem Inv.returned (h : Inv c s) (hat : s.At c .waiting) :
    Inv c { s with
      pc := Function.update s.pc s.kernel.currentThread .body
      bodies := Function.update s.bodies s.kernel.currentThread
        (s.bodies s.kernel.currentThread + 1) } := by
  obtain ⟨ht, hpc, hrun⟩ := hat
  generalize s.kernel.currentThread = t at ht hpc hrun
  have hnot : t ∉ s.waiters c := h.ready.not_mem_wait (by simp [hrun])
  refine ⟨h.ready, h.attached, fun x hx => ?_, fun x hx hpcx => ?_, fun x hx => ?_⟩
  · have hxt : x ≠ t := fun hxt => hnot (hxt ▸ hx)
    obtain ⟨h1, h2, h3, h4, h5⟩ := h.waiters x hx
    exact ⟨h1, by simpa [hxt] using h2, h3, h4, h5⟩
  · by_cases hxt : x = t
    · subst hxt
      simp at hpcx
    · exact h.error x hx (by simpa [hxt] using hpcx)
  · by_cases hxt : x = t
    · subst hxt
      have hbal := h.balance x hx
      unfold Balanced at hbal ⊢
      have hw : s.Woken c x := ⟨hpc, hnot⟩
      rw [if_pos hw] at hbal
      have hbody : Function.update s.bodies x (s.bodies x + 1) x = s.bodies x + 1 := by simp
      have hnw : ¬(Function.update s.pc x LoopPc.body x = .waiting ∧ x ∉ s.waiters c) := by simp
      change s.releases x = s.merged x + Function.update s.bodies x (s.bodies x + 1) x +
        (if s.Pending c x then 1 else 0) +
        if Function.update s.pc x LoopPc.body x = .waiting ∧ x ∉ s.waiters c then 1 else 0
      rw [hbody, if_neg hnw]
      omega
    · refine (h.balance x hx).congr rfl rfl (Function.update_of_ne hxt _ _) Iff.rfl ?_
      unfold Woken
      dsimp only
      rw [Function.update_of_ne hxt]
      exact Iff.rfl

theorem Inv.ended (h : Inv c s) (hat : s.At c .body) :
    Inv c { s with pc := Function.update s.pc s.kernel.currentThread .recv } := by
  obtain ⟨ht, hpc, -⟩ := hat
  generalize s.kernel.currentThread = t at ht hpc
  have hnot : t ∉ s.waiters c := h.not_waiter (by simp) hpc
  refine ⟨h.ready, h.attached, fun x hx => ?_, fun x hx hpcx => ?_, fun x hx => ?_⟩
  · have hxt : x ≠ t := fun hxt => hnot (hxt ▸ hx)
    obtain ⟨h1, h2, h3, h4, h5⟩ := h.waiters x hx
    exact ⟨h1, by simpa [hxt] using h2, h3, h4, h5⟩
  · by_cases hxt : x = t
    · subst hxt
      simp at hpcx
    · exact h.error x hx (by simpa [hxt] using hpcx)
  · refine (h.balance x hx).congr rfl rfl rfl Iff.rfl ?_
    unfold Woken
    by_cases hxt : x = t
    · subst hxt
      simp [hpc]
    · dsimp only
      rw [Function.update_of_ne hxt]
      exact Iff.rfl

theorem Inv.step (h : Inv c s) {op : ActivationOp T} (hs : s.step c op = some s') : Inv c s' := by
  cases op with
  | timeout t =>
    simp only [Activations.step] at hs
    split at hs
    · next ht =>
      cases hs
      exact h.timeout ht
    · cases hs
  | recv =>
    simp only [Activations.step] at hs
    split at hs
    · next hat =>
      cases hs
      by_cases hp : s.Pending c s.kernel.currentThread
      · exact h.rtEventRecv_pending hat hp
      · exact h.rtEventRecv_wait hat hp
    · cases hs
  | returned =>
    simp only [Activations.step] at hs
    split at hs
    · next hat =>
      rw [if_pos (h.error _ hat.1 hat.2.1)] at hs
      cases hs
      exact h.returned hat
    · cases hs
  | ended =>
    simp only [Activations.step] at hs
    split at hs
    · next hat =>
      cases hs
      exact h.ended hat
    · cases hs
  | schedule =>
    cases hs
    exact h.withKernel h.ready.rtSchedule (fun _ => h.ready.rtSchedule_view)
      h.ready.rtSchedule_wait
  | tick =>
    cases hs
    exact h.withKernel h.ready.rtTickCharge (fun _ => Kernel.rtTickCharge_view h.ready)
      (Kernel.rtTickCharge_wait h.ready)

theorem inv_of_reachable (h : (runs c).Reachable s) : Inv c s :=
  h.invariant (fun s (hs : Inv c s ∧ _) => hs.1) fun _ _ _ hi _ hs => hi.step hs

/-! ### Isolation -/

/-- What `rt_event_recv` of a task does when its flag is pending: it returns `RT_EOK` at once and
clears the flag. All other flags, the list and all other threads are as they were. -/
structure Receives (c : ActivationEvent T Q) (s s' : Activations T Q) (t : T) : Prop where
  pc : s'.pc t = .body
  bodies : s'.bodies t = s.bodies t + 1
  flags : s'.flags = s.flags &&& ~~~c.flag t
  waiters : s'.waiters c = s.waiters c
  others : ∀ x, x ≠ t → s'.pc x = s.pc x ∧ s'.kernel.thread x = s.kernel.thread x

theorem receives_rtEventRecv (ht : s.kernel.currentThread = t) (hp : s.Pending c t) :
    Receives c s (s.rtEventRecv c) t := by
  rw [rtEventRecv_eq ht, if_pos hp]
  refine ⟨by simp, by simp, rfl, rfl, fun x hx => ⟨by simp [hx], ?_⟩⟩
  exact prepared_thread hx

/-- A task leaves the list only when its own flag is sent. -/
theorem Inv.woken_by (h : Inv c s) {op : ActivationOp T} (hs : s.step c op = some s')
    (hx : x ∈ s.waiters c) (hx' : x ∉ s'.waiters c) : op = .timeout x := by
  cases op with
  | timeout t =>
    simp only [Activations.step] at hs
    split at hs
    · next ht =>
      cases hs
      have hr := h.releases_timeout ht
      by_cases hm : t ∈ s.waiters c
      · rw [(hr.woken hm).1] at hx'
        by_cases hxt : x = t
        · rw [hxt]
        · exact absurd ((List.mem_erase_of_ne hxt).mpr hx) hx'
      · exact absurd ((hr.pending hm).1 ▸ hx) hx'
    · cases hs
  | recv =>
    simp only [Activations.step] at hs
    split at hs
    · next hat =>
      cases hs
      rw [rtEventRecv_eq rfl] at hx'
      split at hx'
      · exact absurd hx hx'
      · exact absurd ((h.mem_suspend rfl hat.1 hat.2.2).mpr (.inr hx)) hx'
    · cases hs
  | returned =>
    simp only [Activations.step] at hs
    split_ifs at hs <;> cases hs <;> exact absurd hx hx'
  | ended =>
    simp only [Activations.step] at hs
    split_ifs at hs
    cases hs
    exact absurd hx hx'
  | schedule =>
    cases hs
    refine absurd ?_ hx'
    show x ∈ s.kernel.rtSchedule.queue _
    rwa [h.ready.rtSchedule_wait]
  | tick =>
    cases hs
    refine absurd ?_ hx'
    show x ∈ s.kernel.rtTickCharge.queue _
    rwa [Kernel.rtTickCharge_wait h.ready]

/-- The activations of a task do not depend on the other tasks: what sending its flag does, what
a receive of the pending flag does, what wakes it, and how its bodies are counted. -/
structure Isolated (c : ActivationEvent T Q) (s : Activations T Q) (t : T) : Prop where
  release : Releases c s (s.timeout c t) t
  receive : s.At c .recv → s.kernel.currentThread = t → s.Pending c t →
    Receives c s (s.rtEventRecv c) t
  woken : ∀ op s', s.step c op = some s' → t ∈ s.waiters c → t ∉ s'.waiters c → op = .timeout t
  balance : s.bodies t + (if s.Pending c t then 1 else 0) + (if s.Woken c t then 1 else 0) +
    s.merged t = s.releases t

/-- **Activations are isolated**, for any tasks with flags of their own, in any order of timeouts
and receives. -/
theorem isolated_of_reachable (h : (runs c).Reachable s) (ht : c.tasks t = true) :
    Isolated c s t := by
  have hi := inv_of_reachable h
  refine ⟨hi.releases_timeout ht, fun _ hcur hp => receives_rtEventRecv hcur hp,
    fun op s' hs hm hm' => hi.woken_by hs hm hm', ?_⟩
  have hbal := hi.balance t ht
  unfold Balanced at hbal
  rw [hbal]
  omega

end Activations

end RobotVacuum
