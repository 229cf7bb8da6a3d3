import RobotVacuum.Machine.Owning

/-!
# Threads that wait for one event

A thread that handles no signal and waits for flags of one event again and again goes through the
stages of `LoopStage`. Other threads move it on only by starting it and by sending the event
(`InLoop.others`); in the kernel it waits if the flags are not there, takes them if they are, and
returns with `RT_EOK` (`InLoop.kern`).
-/

set_option linter.unusedSectionVars false

namespace RobotVacuum

open Kernel (ReadyQueueInv KernelOk Ranked Competing)

/-- Where a thread stands that waits for one event again and again. -/
inductive LoopStage
  | new | user | entering | waiting | woken | returned
  deriving DecidableEq, Repr

/-- The thread was granted the event and has not gone on yet. -/
def LoopStage.served : LoopStage → ℕ
  | .woken | .returned => 1
  | _ => 0

section Views

variable {T E M B V : Type} [DecidableEq T] [DecidableEq E] [DecidableEq M] [DecidableEq B]
  {t : T} {e : E} {set : BitVec 32} {option : EventOption}
  {v v' : ThreadView T E M B V} {st : LoopStage} {owns : M → Prop}

/-- The thread stands at a stage. In its own code it may also send a signal to another thread. -/
def AtStage (t : T) (e : E) (set : BitVec 32) (option : EventOption)
    (v : ThreadView T E M B V) : LoopStage → Prop
  | .new => v.state = .init ∧ v.ctx.call = none
  | .user => v.state = .ready ∧
      (v.ctx.call = none ∨ ∃ x n stage, x ≠ t ∧ v.ctx.call = some (.kill x n stage))
  | .entering => v.state = .ready ∧ (v.ctx.call = some (.recv e set option .reset) ∨
      v.ctx.call = some (.recv e set option .enter) ∧ v.thread.error = .eok)
  | .waiting => v.state = .suspend ∧ v.waits (.event e) ∧ (∀ q, v.waits q → q = .event e) ∧
      v.ctx.call = some (.recv e set option .check) ∧ v.ctx.sched ≠ .none ∧
      v.thread.eventSet = set ∧ v.thread.eventInfo = option ∧ v.thread.error = .eok
  | .woken => v.state = .ready ∧ (v.ctx.call = some (.recv e set option .check) ∨
      v.ctx.call = some (.recv e set option .ret)) ∧ v.thread.error = .eok
  | .returned => v.state = .ready ∧ v.ctx.call = none ∧ v.ctx.ret = .eok

/-- The thread stands at a stage, and all its signals are blocked. -/
structure InLoop (t : T) (e : E) (set : BitVec 32) (option : EventOption) (st : LoopStage)
    (v : ThreadView T E M B V) : Prop where
  mask : ∀ n, v.thread.sigMask n = false
  pending : v.thread.stat.signalPending = false
  sig : v.ctx.sig = .none
  stage : AtStage t e set option v st

theorem InLoop.not_deliverable (h : InLoop t e set option st v) : v.thread.deliverable = false := by
  simp [Thread.deliverable, h.mask]

theorem AtStage.suspend (h : AtStage t e set option v st) (hs : v.state = .suspend) :
    st = .waiting := by
  cases st <;> simp_all [AtStage]

theorem AtStage.init (h : AtStage t e set option v st) (hs : v.state = .init) : st = .new := by
  cases st <;> simp_all [AtStage]

theorem AtStage.not_close (h : AtStage t e set option v st) : v.state ≠ .close := by
  intro hc
  cases st <;> simp only [AtStage, hc, reduceCtorEq, false_and] at h

/-- How others move a thread on. -/
inductive Pushed (t : T) (e : E) (set : BitVec 32) (option : EventOption)
    (v v' : ThreadView T E M B V) : LoopStage → Prop
  | stays {st : LoopStage} : InLoop t e set option st v' → v'.grants = v.grants →
    Pushed t e set option v v' st
  | granted : InLoop t e set option .woken v' → v'.grants = v.grants + 1 →
    Pushed t e set option v v' .waiting
  | started : InLoop t e set option .user v' → v'.grants = v.grants →
    Pushed t e set option v v' .new

/-- The thread itself moves on. -/
theorem InLoop.moves {st' : LoopStage} (h : InLoop t e set option st v)
    (hmask : v'.thread.sigMask = v.thread.sigMask)
    (hpending : v'.thread.stat.signalPending = v.thread.stat.signalPending)
    (hsig : v'.ctx.sig = v.ctx.sig) (hstage : AtStage t e set option v' st') :
    InLoop t e set option st' v' :=
  ⟨fun n => by rw [hmask, h.mask], hpending.trans h.pending, hsig.trans h.sig, hstage⟩

/-- A disturbance that only touches what the loop does not look at. -/
theorem InLoop.congr (h : InLoop t e set option st v) (hmask : v'.thread.sigMask = v.thread.sigMask)
    (hstat : v'.thread.stat = v.thread.stat) (hctx : v'.ctx = v.ctx) (hwaits : v'.waits = v.waits)
    (hevent : (v'.thread.eventSet, v'.thread.eventInfo, v'.thread.error) =
      (v.thread.eventSet, v.thread.eventInfo, v.thread.error)) : InLoop t e set option st v' := by
  obtain ⟨hset, hinfo, herr⟩ : v'.thread.eventSet = v.thread.eventSet ∧
      v'.thread.eventInfo = v.thread.eventInfo ∧ v'.thread.error = v.thread.error := by
    simpa using hevent
  refine ⟨fun n => by rw [hmask]; exact h.mask n, by rw [hstat]; exact h.pending,
    by rw [hctx]; exact h.sig, ?_⟩
  have hstage := h.stage
  cases st <;> simp only [AtStage, ThreadView.state] at hstage ⊢ <;>
    simpa only [hstat, hctx, hwaits, hset, hinfo, herr] using hstage

theorem InLoop.disturbed (h : InLoop t e set option st v) (hd : ThreadView.Disturbed owns v v')
    (hopen : v'.state ≠ .close) : Pushed t e set option v v' st := by
  cases hd with
  | granted received hs hw =>
    obtain rfl := h.stage.suspend hs
    obtain ⟨-, -, -, hcall, -, -, -, herr⟩ := h.stage
    exact .granted ⟨h.mask, h.pending, h.sig, rfl, .inl hcall, herr⟩ rfl
  | woken hs hw hne =>
    obtain rfl := h.stage.suspend hs
    exact absurd (h.stage.2.2.1 _ hw) (hne e)
  | enqueued n => exact .stays (h.congr rfl rfl rfl rfl rfl) rfl
  | signalled _ hd | framed _ hd =>
    rw [h.not_deliverable] at hd
    cases hd
  | started hs =>
    obtain rfl := h.stage.init hs
    exact .started ⟨h.mask, rfl, h.sig, rfl, .inl h.stage.2⟩ rfl
  | flagged b => exact .stays (h.congr rfl rfl rfl rfl rfl) rfl
  | detached _ hc => exact absurd hc hopen

/-- What others do to a thread in its loop. -/
theorem InLoop.others (h : InLoop t e set option st v)
    (hd : Relation.ReflTransGen (ThreadView.Disturbed owns) v v') (hopen : v'.state ≠ .close) :
    Pushed t e set option v v' st := by
  induction hd with
  | refl => exact .stays h rfl
  | tail hd hlast ih =>
    have hmid := fun hc => hopen (Machine.close_of_disturbances (.single hlast) hc)
    cases ih hmid with
    | stays h' hg =>
      cases h'.disturbed hlast hopen with
      | stays h'' hg' => exact .stays h'' (hg'.trans hg)
      | granted h'' hg' => exact .granted h'' (hg'.trans (by rw [hg]))
      | started h'' hg' => exact .started h'' (hg'.trans hg)
    | granted h' hg =>
      cases h'.disturbed hlast hopen with
      | stays h'' hg' => exact .granted h'' (hg'.trans hg)
    | started h' hg =>
      cases h'.disturbed hlast hopen with
      | stays h'' hg' => exact .started h'' (hg'.trans hg)

end Views

namespace Kernel

variable {T Q : Type} [DecidableEq T] [DecidableEq Q] {k : Kernel T Q} {t : T} {q : Q}

/-- The thread on the processor waits, whether it is marked as running or as ready. -/
theorem ipcListSuspend_view_of_competing {flag : IpcFlag} (h : ReadyQueueInv k)
    (ha : Attached k t) (hc : Competing k t) (ht : t = k.currentThread) :
    (k.ipcListSuspend q t flag).view t = (k.view t).suspendedIn q := by
  have hne : k.state t ≠ .suspend := by
    intro hs
    rcases hc with hc | hc <;> rw [hs] at hc <;> cases hc
  have hsuspend : k.rtThreadSuspend t =
      ((k.rtScheduleRemoveThread t).setState t .suspend).stopThreadTimer t := by
    unfold Kernel.rtThreadSuspend
    rw [if_neg (by simp [ha.isThread]), if_neg, if_neg fun hr => hr.2 ht]
    rintro ⟨hready, hrun⟩
    exact hc.elim hready hrun
  have hview : (((k.rtScheduleRemoveThread t).setState t .suspend).stopThreadTimer t).view t =
      { thread := (k.view t).thread.withState .suspend, waits := (k.view t).waits } := by
    rw [stopThreadTimer_view, setState, modify_view_of_comm (by intro; rfl),
      rtScheduleRemoveThread_view h hne]
  rw [ipcListSuspend, if_neg hne, hsuspend]
  refine View.mk.injEq .. ▸ ⟨?_, funext fun q' => propext ?_⟩
  · rw [rtListInsertWait_thread]
    exact congrArg View.thread hview
  · rw [mem_rtListInsertWait]
    have hwait : t ∈ (((k.rtScheduleRemoveThread t).setState t .suspend).stopThreadTimer t).queue
        (.wait q') ↔ (k.view t).waits q' := iff_of_eq (congrFun (congrArg View.waits hview) q')
    have hnot : ¬(k.view t).waits q' := h.not_mem_wait hne
    rw [hwait]
    simp [hnot]

/-- A thread that was started has left its initial state. -/
theorem rtThreadStartupQueue_not_init (h : KernelOk k) :
    (k.rtThreadStartupQueue t).state t ≠ .init := by
  by_cases hs : k.state t = .init
  · have hview := rtThreadStartupQueue_view h.ready hs (h.attached t (by simp [hs])).isThread
    intro hinit
    have hstate : ((k.rtThreadStartupQueue t).view t).thread.stat.state = .init :=
      ThreadState.phase_eq_init.mpr hinit
    rw [hview] at hstate
    cases hstate
  · rw [rtThreadStartupQueue, if_pos hs]
    exact hs

end Kernel

section Machines

open Machine

variable {T E M B D V : Type} [DecidableEq T] [DecidableEq E] [DecidableEq M] [DecidableEq B]
  [DecidableEq D]

variable {s s' : Machine T E M B D V} {p : Platform T E M D} {t x : T} {e : E}
  {set : BitVec 32} {option : EventOption} {st : LoopStage} {i : Label T E M B D V}
  {a : Act T E M B D V}

/-- What the loop does not look at in the context of a thread. -/
theorem InLoop.of_ctx (h : InLoop t e set option st (s.view t))
    (hview : s'.kernel.view t = s.kernel.view t) (hsig : (s'.ctx t).sig = (s.ctx t).sig)
    (hcall : (s'.ctx t).call = (s.ctx t).call) (hret : (s'.ctx t).ret = (s.ctx t).ret)
    (hsched : st = .waiting → (s'.ctx t).sched ≠ .none) :
    InLoop t e set option st (s'.view t) := by
  have hview' : (s'.view t).toView = (s.view t).toView := hview
  have hthread : (s'.view t).thread = (s.view t).thread := congrArg (·.thread) hview'
  have hwaits : (s'.view t).waits = (s.view t).waits := congrArg (·.waits) hview'
  refine ⟨fun n => by rw [hthread]; exact h.mask n, by rw [hthread]; exact h.pending,
    hsig.trans h.sig, ?_⟩
  have hstage := h.stage
  unfold AtStage at hstage ⊢
  simp only [ThreadView.state, view_ctx, hthread, hwaits, hcall, hret] at hstage ⊢
  cases st
  case waiting =>
    obtain ⟨h₁, h₂, h₃, h₄, -, h₆⟩ := hstage
    exact ⟨h₁, h₂, h₃, h₄, hsched rfl, h₆⟩
  all_goals exact hstage

theorem InLoop.callSchedule (h : InLoop s.current e set option st (s.view s.current))
    (hk : KernelOk s.kernel) (hleave : s.kernel.state s.current = .suspend →
      s.kernel.rtSchedule.currentThread ≠ s.current) :
    InLoop s.current e set option st (s.callSchedule.view s.current) := by
  refine InLoop.of_ctx h hk.ready.rtSchedule_view ?_ ?_ ?_ fun hst => ?_
  · simp [Machine.callSchedule]
  · simp [Machine.callSchedule]
  · simp [Machine.callSchedule]
  · subst hst
    have hs : s.kernel.state s.current = .suspend := ThreadState.phase_eq_suspend.mp h.stage.1
    simp [Machine.callSchedule, hleave hs]

theorem InLoop.afterSwitch (h : InLoop s.current e set option st (s.view s.current))
    (hst : st ≠ .waiting) : InLoop s.current e set option st (s.afterSwitch.view s.current) := by
  have hp : (s.kernel.thread s.current).stat.signalPending = false := h.pending
  have heq : s.afterSwitch = s.setCtx s.current fun x => { x with sched := .none } := by
    unfold Machine.afterSwitch
    rw [hp]
    rfl
  rw [heq]
  exact InLoop.of_ctx h rfl (by simp) (by simp) (by simp) fun hw => absurd hw hst

/-- A thread in its loop waits, or competes for the processor. -/
theorem InLoop.competing (h : InLoop t e set option st (s.view t)) :
    st = .new ∨ st = .waiting ∨ Competing s.kernel t := by
  have hstage := h.stage
  cases st with
  | new => exact .inl rfl
  | waiting => exact .inr (.inl rfl)
  | user | entering | woken | returned =>
    exact .inr (.inr (ThreadState.phase_eq_ready.mp hstage.1))

/-- A thread in its own code goes on there. -/
theorem InLoop.in_code (h : InLoop t e set option .user (s.view t))
    (hview : s'.kernel.view t = s.kernel.view t) (hsig : (s'.ctx t).sig = (s.ctx t).sig)
    (hcall : (s'.ctx t).call = none ∨ ∃ x n stage, x ≠ t ∧
      (s'.ctx t).call = some (.kill x n stage)) :
    InLoop t e set option .user (s'.view t) := by
  have hview' : (s'.view t).toView = (s.view t).toView := hview
  have hthread : (s'.view t).thread = (s.view t).thread := congrArg (·.thread) hview'
  refine ⟨fun n => by rw [hthread]; exact h.mask n, by rw [hthread]; exact h.pending,
    hsig.trans h.sig, ?_, hcall⟩
  rw [ThreadView.state, hthread]
  exact h.stage.1

/-- A thread in its own code goes on sending a signal to another thread. -/
theorem InLoop.stepKill (h : InLoop s.current e set option .user (s.view s.current))
    (hk : KernelOk s.kernel) (hx : x ≠ s.current) {n : Signo} {stage : KillStage} :
    InLoop s.current e set option .user ((s.stepKill x n stage).view s.current) := by
  have hother : ∀ {k : Kernel T (WaitQueue E M B)} {th : Thread},
      k.thread = Function.update s.kernel.thread x th → k.queue = s.kernel.queue →
      k.view s.current = s.kernel.view s.current := fun hthread hqueue =>
    Kernel.view_congr (by rw [hthread, Function.update_of_ne hx.symm]) fun _ => by rw [hqueue]
  cases stage with
  | check =>
    simp only [Machine.stepKill]
    split
    · exact h.in_code rfl (by simp [finish]) (.inl (by simp [finish]))
    · exact h.in_code rfl (by simp [setCall]) (.inr ⟨x, n, .alloc, hx, by simp [setCall]⟩)
  | alloc =>
    simp only [Machine.stepKill]
    split
    · exact h.in_code rfl (by simp [setCall]) (.inr ⟨x, n, .deliver, hx, by simp [setCall]⟩)
    · exact h.in_code rfl (by simp [setCall]) (.inr ⟨x, n, .enqueue, hx, by simp [setCall]⟩)
  | enqueue =>
    refine h.in_code ?_ (by simp [Machine.stepKill, setCall])
      (.inr ⟨x, n, .deliver, hx, by simp [Machine.stepKill, setCall]⟩)
    exact hother rfl rfl
  | deliver =>
    simp only [Machine.stepKill, signalDeliver]
    split
    · exact h.in_code rfl (by simp [finish]) (.inl (by simp [finish]))
    · split
      · refine h.in_code ?_ (by simp [reschedule, finish]) (.inl (by simp [reschedule, finish]))
        simp only [reschedule_kernel, finish_kernel, withKernel_kernel]
        rw [Kernel.modify_view_of_ne hx.symm, Kernel.rtThreadResume_view hk.ready,
          if_neg fun hc => hx hc.1.symm]
      · split
        · refine h.in_code (hother rfl rfl) ?_ (.inl ?_)
          · simp [reschedule, finish, setCtx_ctx_of_ne hx.symm]
          · simp [reschedule, finish, setCtx_ctx_of_ne hx.symm]
        · exact h.in_code rfl (by simp [finish]) (.inl (by simp [finish]))

/-- How a thread in its loop moves on, other than by a statement of its own. -/
inductive Advance (s s' : Machine T E M B D V) (t : T) (e : E) (set : BitVec 32)
    (option : EventOption) : LoopStage → LoopStage → Prop
  | stays {st : LoopStage} : s'.grants t = s.grants t → Advance s s' t e set option st st
  | started : s'.grants t = s.grants t → Advance s s' t e set option .new .user
  | waits : s'.grants t = s.grants t → Kernel.eventStatus option set (s.event e) = some false →
    Advance s s' t e set option .entering .waiting
  | takes : s'.grants t = s.grants t + 1 → Kernel.eventStatus option set (s.event e) = some true →
    Advance s s' t e set option .entering .woken
  | granted : s'.grants t = s.grants t + 1 → Advance s s' t e set option .waiting .woken
  | returns : s'.grants t = s.grants t → Advance s s' t e set option .woken .returned

/-- No grant is lost on the way. -/
theorem Advance.grants {st' : LoopStage} (h : Advance s s' t e set option st st') :
    s'.grants t + st.served = s.grants t + st'.served := by
  cases h <;> simp only [LoopStage.served] <;> omega

/-- The flags are not there, and the thread waits for them. -/
theorem InLoop.suspends (h : InLoop s.current e set option .entering (s.view s.current))
    (hk : KernelOk s.kernel) (hcomp : Competing s.kernel s.current)
    (herr : (s.view s.current).thread.error = .eok)
    (hfalse : Kernel.eventStatus option set (s.event e) = some false) :
    let k := s.kernel.modify s.current fun th => { th with eventSet := set, eventInfo := option }
    let s' := ((s.withKernel (k.ipcListSuspend (.event e) s.current .fifo)).setCall
      (.recv e set option .check)).reschedule
    ∃ st', InLoop s.current e set option st' (s'.view s.current) ∧
      Advance s s' s.current e set option .entering st' ∧ (s'.ctx s.current).sched ≠ .switched := by
  intro k s'
  have hset : k.view s.current = { thread := { (s.view s.current).thread with
      eventSet := set, eventInfo := option }, waits := (s.view s.current).waits } :=
    Kernel.modify_view_of_comm fun _ => rfl
  have hopen : s.kernel.state s.current ≠ .close := by
    intro hclose
    rcases hcomp with hc | hc <;> rw [hclose] at hc <;> cases hc
  have hready : ReadyQueueInv k := hk.ready.of_schedEq (.modify rfl rfl rfl)
  have hthread : k.thread s.current = { s.kernel.thread s.current with
      eventSet := set, eventInfo := option } := Function.update_self s.current _ _
  have hattached : Kernel.Attached k s.current := by
    have ha := hk.attached s.current hopen
    exact ⟨by rw [hthread]; exact ha.object, by rw [hthread]; exact ha.timer⟩
  have hcomp' : Competing k s.current := by
    unfold Competing Kernel.state
    rw [hthread]
    exact hcomp
  have hview : (s'.view s.current).toView = (k.view s.current).suspendedIn (.event e) :=
    Kernel.ipcListSuspend_view_of_competing hready hattached hcomp' rfl
  have hcur : (k.ipcListSuspend (.event e) s.current .fifo).currentThread = s.current := by
    simp [k]
  have hctx : s'.ctx s.current = { s.ctx s.current with
      call := some (.recv e set option .check), sched := .calling } := by
    simp only [s', reschedule, setCall, withKernel_current, setCtx_current, hcur, setCtx_ctx_self,
      withKernel_ctx]
  rw [hset] at hview
  have hth := congrArg (·.thread) hview
  have hwaits := congrArg (·.waits) hview
  refine ⟨.waiting, h.moves ?_ ?_ ?_ ⟨?_, ?_, ?_, ?_, ?_, ?_, ?_, ?_⟩, .waits rfl hfalse, ?_⟩
  · rw [hth]
    rfl
  · rw [hth]
    rfl
  · rw [view_ctx, hctx]
    rfl
  · rw [ThreadView.state, hth]
    rfl
  · rw [hwaits]
    rfl
  · rw [hwaits]
    exact fun _ => id
  · rw [view_ctx, hctx]
  · rw [view_ctx, hctx]
    exact fun h => by cases h
  · rw [hth]
    rfl
  · rw [hth]
    rfl
  · rw [hth]
    exact herr
  · rw [hctx]
    exact fun h => by cases h

/-- A step of `rt_event_recv`. -/
theorem InLoop.stepRecv (h : InLoop s.current e set option st (s.view s.current))
    (hk : KernelOk s.kernel) (hvalid : option.and = true ∨ option.or = true)
    {stage : RecvStage} (hc : (s.ctx s.current).call = some (.recv e set option stage))
    (hsched : (s.ctx s.current).sched = .none) :
    ∃ st', InLoop s.current e set option st' ((s.stepRecv e set option stage).view s.current) ∧
      Advance s (s.stepRecv e set option stage) s.current e set option st st' ∧
      ((s.stepRecv e set option stage).ctx s.current).sched ≠ .switched := by
  have hstage := h.stage
  have hc' : (s.view s.current).ctx.call = some (.recv e set option stage) := hc
  have hwrite : ∀ f : Thread → Thread, (∀ th, (f th).core = f th.core) →
      (s.kernel.modify s.current f).view s.current =
        { thread := f (s.view s.current).thread, waits := (s.view s.current).waits } := fun f hf =>
    Kernel.modify_view_of_comm hf
  cases st <;> simp only [AtStage, hc', reduceCtorEq, Option.some.injEq, Call.recv.injEq,
    true_and, or_false, and_false, exists_false, false_and] at hstage
  case entering =>
    obtain ⟨hready, hreset | ⟨henter, herr⟩⟩ := hstage
    · subst hreset
      have hv := hwrite (fun th => { th with error := .eok }) fun _ => rfl
      have hview : ((s.stepRecv e set option .reset).view s.current).toView = _ := hv
      have hthread := congrArg (·.thread) hview
      have hctx : (s.stepRecv e set option .reset).ctx s.current =
          { s.ctx s.current with call := some (.recv e set option .enter) } :=
        Function.update_self s.current _ s.ctx
      refine ⟨.entering, h.moves ?_ ?_ ?_ ?_, .stays rfl, ?_⟩
      · rw [hthread]
      · rw [hthread]
      · rw [view_ctx, hctx]
        rfl
      · refine ⟨?_, .inr ⟨?_, ?_⟩⟩
        · rw [ThreadView.state, hthread]
          exact hready
        · rw [view_ctx, hctx]
        · rw [hthread]
      · rw [hctx]
        simp [hsched]
    · subst henter
      have hset := hwrite (fun th => { th with eventSet := set, eventInfo := option }) fun _ => rfl
      simp only [Machine.stepRecv]
      split
      · next hnone =>
        unfold Kernel.eventStatus at hnone
        rcases hvalid with ha | ho
        · simp [ha] at hnone
        · cases ha : option.and <;> simp [ha, ho] at hnone
      · next htrue =>
        -- the flags are there
        have hv := hwrite (fun th =>
          { th with eventSet := s.event e &&& set, eventInfo := option }) fun _ => rfl
        have hview : ((s.takeFlags e set option).view s.current).toView = _ := hv
        have hthread := congrArg (·.thread) hview
        refine ⟨.woken, h.moves ?_ ?_ ?_ ⟨?_, .inr ?_, ?_⟩, .takes ?_ htrue, ?_⟩
        · rw [hthread]
        · rw [hthread]
        · simp [takeFlags]
        · rw [ThreadView.state, hthread]
          exact hready
        · simp [takeFlags]
        · rw [hthread]
          exact herr
        · exact Function.update_self ..
        · simp [takeFlags, hsched]
      · next hfalse =>
        have hcomp : Competing s.kernel s.current := ThreadState.phase_eq_ready.mp hready
        exact h.suspends hk hcomp herr hfalse
  case woken =>
    obtain ⟨hready, hcheck | hret, herr⟩ := hstage
    · subst hcheck
      have herr' : (s.kernel.thread s.current).error = .eok := herr
      have heq : s.stepRecv e set option .check = (s.setCtx s.current fun x =>
          { x with recved := (s.kernel.thread s.current).eventSet }).setCall
            (.recv e set option .ret) := by
        simp [Machine.stepRecv, herr']
      rw [heq]
      refine ⟨.woken, h.moves rfl rfl ?_ ⟨hready, .inr ?_, herr⟩, .stays rfl, ?_⟩
      · simp [setCall, ThreadView.setCtx]
      · simp [setCall, ThreadView.setCtx]
      · simp [setCall, hsched]
    · subst hret
      have herr' : (s.kernel.thread s.current).error = .eok := herr
      refine ⟨.returned, h.moves rfl rfl ?_ ⟨hready, ?_, ?_⟩, .returns rfl, ?_⟩
      · simp [Machine.stepRecv, finish, ThreadView.setCtx]
      · simp [Machine.stepRecv, finish, ThreadView.setCtx]
      · simp [Machine.stepRecv, finish, ThreadView.setCtx, herr']
      · simp [Machine.stepRecv, finish, hsched]
  case waiting =>
    exact absurd hsched hstage.2.2.2.2.1

/-- The thread goes through its loop, and once it was switched out it waits away from the
processor. -/
structure Looping (t : T) (e : E) (set : BitVec 32) (option : EventOption) (st : LoopStage)
    (s : Machine T E M B D V) : Prop where
  loop : InLoop t e set option st (s.view t)
  away : st = .waiting → (s.ctx t).sched = .switched → s.current ≠ t

theorem stepKill_grants {n : Signo} {stage : KillStage} :
    (s.stepKill x n stage).grants = s.grants := by
  cases stage <;> simp only [Machine.stepKill, signalDeliver] <;> (try split) <;> (try split) <;>
    (try split) <;> (try split) <;> rfl

theorem Pushed.advance {st : LoopStage} (h : Pushed t e set option (s.view t) (s'.view t) st) :
    ∃ st', InLoop t e set option st' (s'.view t) ∧ Advance s s' t e set option st st' ∧
      (st' = .waiting → st = .waiting) := by
  cases h with
  | stays h hg => exact ⟨st, h, .stays hg, id⟩
  | granted h hg => exact ⟨.woken, h, .granted hg, fun h => by cases h⟩
  | started h hg => exact ⟨.user, h, .started hg, fun h => by cases h⟩

/-- A step of the thread in the kernel. -/
theorem Looping.kern (h : Looping s.current e set option st s) (hk : KernelOk s.kernel)
    (hvalid : option.and = true ∨ option.or = true)
    (hleave : s.kernel.state s.current = .suspend →
      s.kernel.rtSchedule.currentThread ≠ s.current) (hstep : s.stepKern p = some s') :
    ∃ st', Looping s.current e set option st' s' ∧
      Advance s s' s.current e set option st st' := by
  have hsig : (s.ctx s.current).sig = .none := h.loop.sig
  unfold stepKern at hstep
  split at hstep <;> cases hstep
  · next hentry =>
    rw [hsig] at hentry
    cases hentry
  · refine ⟨st, ⟨h.loop.callSchedule hk hleave, fun _ hsw hcur => ?_⟩, .stays rfl⟩
    have hcur : s.kernel.rtSchedule.currentThread = s.current := hcur
    simp [callSchedule, hcur] at hsw
  · next _ hsw =>
    have hst : st ≠ .waiting := fun hst => h.away hst hsw rfl
    refine ⟨st, ⟨h.loop.afterSwitch hst, fun hw => absurd hw hst⟩, .stays ?_⟩
    unfold afterSwitch
    split <;> rfl
  · next c _ hsched hc =>
    have hstage := h.loop.stage
    have hrecv : ∀ {stage}, c = .recv e set option stage → ∃ st',
        Looping s.current e set option st' (s.stepCall p c) ∧
          Advance s (s.stepCall p c) s.current e set option st st' := fun {stage} heq => by
      subst heq
      obtain ⟨st', hloop, hadv, hne⟩ := h.loop.stepRecv hk hvalid hc hsched
      exact ⟨st', ⟨hloop, fun _ hsw => absurd hsw hne⟩, hadv⟩
    have hcall : (s.view s.current).ctx.call = some c := hc
    cases st
    case new =>
      have hinit : s.kernel.state s.current = .init := ThreadState.phase_eq_init.mp hstage.1
      exact absurd hinit hk.current
    case user =>
      rcases hstage.2 with hnone | ⟨x, n, stage, hx, hkill⟩
      · rw [hcall] at hnone
        cases hnone
      · obtain rfl := Option.some.inj (hcall.symm.trans hkill)
        refine ⟨.user, ⟨h.loop.stepKill hk hx, fun hw => by cases hw⟩, .stays ?_⟩
        exact congrFun stepKill_grants s.current
    case entering =>
      rcases hstage.2 with hreset | ⟨henter, -⟩
      · exact hrecv (Option.some.inj (hcall.symm.trans hreset))
      · exact hrecv (Option.some.inj (hcall.symm.trans henter))
    case waiting => exact absurd hsched hstage.2.2.2.2.1
    case woken =>
      rcases hstage.2.1 with hcheck | hret
      · exact hrecv (Option.some.inj (hcall.symm.trans hcheck))
      · exact hrecv (Option.some.inj (hcall.symm.trans hret))
    case returned =>
      rw [hstage.2.1] at hcall
      cases hcall

/-- **A step other than a statement of the thread itself** moves it on in its loop at most. -/
theorem Looping.step (h : Looping t e set option st s) (hs : SchedOk s)
    (hvalid : option.and = true ∨ option.or = true)
    (hleave : s.kernel.state s.current = .suspend →
      s.kernel.rtSchedule.currentThread ≠ s.current)
    (hstep : s.step p i = some s') (hown : t = s.current → ∀ a, i ≠ .act a)
    (hopen : t ≠ s.current ∨ (∃ due, i = .tick due) → s'.kernel.state t ≠ .close) :
    ∃ st', Looping t e set option st' s' ∧ Advance s s' t e set option st st' := by
  have hk := hs.kernel
  have hopen' : t ≠ s.current ∨ (∃ due, i = .tick due) → (s'.view t).state ≠ .close :=
    fun hi hc => hopen hi (ThreadState.phase_eq_close.mp hc)
  by_cases ht : t = s.current
  · subst ht
    cases i with
    | act a => exact absurd rfl (hown rfl a)
    | hret =>
      simp only [Machine.step] at hstep
      split at hstep
      · unfold stepHret at hstep
        have hsig : (s.ctx s.current).sig = .none := h.loop.sig
        rw [hsig] at hstep
        cases hstep
      · cases hstep
    | kern =>
      simp only [Machine.step] at hstep
      split at hstep
      · exact h.kern hk hvalid hleave hstep
      · cases hstep
    | tick due =>
      have hopen' := hopen' (.inr ⟨due, rfl⟩)
      simp only [Machine.step] at hstep
      split at hstep
      · cases hstep
        have hd : Relation.ReflTransGen (ThreadView.Disturbed fun _ : M => True)
            (s.view s.current) ((s.rtTickIncrease p due).view s.current) :=
          rtTickIncrease_view hk.ready hk.attached due
        obtain ⟨st', hloop, hadv, hw⟩ := (h.loop.others hd hopen').advance
        refine ⟨st', ⟨hloop, fun hst hsw hcur => ?_⟩, hadv⟩
        have hsched : ((s.rtTickIncrease p due).ctx s.current).sched = (s.ctx s.current).sched :=
          sched_of_disturbances hd
        exact h.away (hw hst) (hsched ▸ hsw) rfl
      · cases hstep
  · have hd := step_disturbed hstep hk.ready hk.attached ht
    obtain ⟨st', hloop, hadv, -⟩ := (h.loop.others hd (hopen' (.inl ht))).advance
    refine ⟨st', ⟨hloop, fun hst hsw hcur => ?_⟩, hadv⟩
    subst hst
    have hsuspend : s'.kernel.state t = .suspend := ThreadState.phase_eq_suspend.mp hloop.stage.1
    rcases step_switches hs hstep with heq | hne
    · exact ht (hcur.symm.trans heq)
    · exact hne (hcur ▸ hsuspend)

/-! ### The statements of the thread -/

/-- The statements a thread in its loop executes beside waiting for the event. -/
inductive BodyAct (t : T) : Act T E M B D V → Prop
  | «local» : BodyAct t .local
  | send (e : E) (set : BitVec 32) : BodyAct t (.send e set)
  | kill {x : T} (n : Signo) : x ≠ t → BodyAct t (.kill x n)
  | setTaskStarted (n : ℕ) : BodyAct t (.setTaskStarted n)
  | setTaskEnded : BodyAct t .setTaskEnded

/-- A thread that executes a statement is in its own code. -/
theorem InLoop.at_user (h : InLoop s.current e set option st (s.view s.current))
    (hk : KernelOk s.kernel) (hat : s.AtUser) :
    InLoop s.current e set option .user (s.view s.current) ∧ (st = .user ∨ st = .returned) := by
  have hcall : (s.view s.current).ctx.call = none := hat.2.2
  have hstage := h.stage
  cases st
  case new =>
    have hinit : s.kernel.state s.current = .init := ThreadState.phase_eq_init.mp hstage.1
    exact absurd hinit hk.current
  case user => exact ⟨h, .inl rfl⟩
  case returned => exact ⟨h.moves rfl rfl rfl ⟨hstage.1, .inl hcall⟩, .inr rfl⟩
  case entering =>
    rcases hstage.2 with hc | ⟨hc, -⟩ <;> rw [hcall] at hc <;> cases hc
  case waiting =>
    have hc := hstage.2.2.2.1
    rw [hcall] at hc
    cases hc
  case woken =>
    rcases hstage.2.1 with hc | hc <;> rw [hcall] at hc <;> cases hc

/-- The thread calls `rt_event_recv`. -/
theorem InLoop.recv (h : InLoop s.current e set option .user (s.view s.current)) (hset : set ≠ 0) :
    InLoop s.current e set option .entering
      ((s.perform p (.recv e set option)).view s.current) := by
  have heq : s.perform p (.recv e set option) = s.beginCall (.recv e set option .reset) :=
    if_neg hset
  rw [heq]
  refine h.moves rfl rfl ?_ ⟨h.stage.1, .inl ?_⟩
  · simp [beginCall, ThreadView.setCtx]
  · simp [beginCall, ThreadView.setCtx]

/-- Sending an event does nothing to a thread that waits for nothing. -/
theorem rtEventSend_view_of_ready (hk : KernelOk s.kernel) (ht : Competing s.kernel t) :
    (s.rtEventSend e set).1.view t = s.view t := by
  have hnot : t ∉ (s.kernel.eventSendWalk (s.event e ||| set)
      (s.kernel.queue (.wait (.event e)))).2.2.1 := fun hmem => by
    have hs := hk.ready.wait (Kernel.eventSendWalk_subset hmem)
    rcases ht with hr | hr <;> rw [hs] at hr <;> cases hr
  have hwalk := Kernel.eventSendWalk_view (t := t) (k := s.kernel) (s.event e ||| set)
    (s.kernel.queue (.wait (.event e))) hk.ready (fun x hx => (waiting hk.ready hk.attached hx).1)
    (fun x hx => (waiting hk.ready hk.attached hx).2) (hk.ready.table.proper.nodup _)
  refine view_eq (hwalk.1 hnot) ?_ ?_
  · simp only [rtEventSend, grant, if_neg hnot]
  · simp only [rtEventSend, grant, if_neg hnot]

/-- The thread executes another statement. -/
theorem InLoop.body (h : InLoop s.current e set option .user (s.view s.current))
    (hk : KernelOk s.kernel) (hat : s.AtUser) (ha : BodyAct s.current a) :
    InLoop s.current e set option .user ((s.perform p a).view s.current) := by
  have hnone : (s.ctx s.current).call = none := hat.2.2
  cases ha with
  | «local» => exact h
  | send e' set' =>
    have hsend : InLoop s.current e set option .user
        ((s.rtEventSend e' set').1.view s.current) := by
      rw [rtEventSend_view_of_ready hk]
      · exact h
      · exact ThreadState.phase_eq_ready.mp h.stage.1
    have hcall : ((s.rtEventSend e' set').1.ctx s.current).call = none :=
      rtEventSend_ctx.2.2.trans hnone
    have hset : ∀ {r : Machine T E M B D V}, r.kernel = (s.rtEventSend e' set').1.kernel →
        (r.ctx s.current).sig = ((s.rtEventSend e' set').1.ctx s.current).sig →
        (r.ctx s.current).call = ((s.rtEventSend e' set').1.ctx s.current).call →
        InLoop s.current e set option .user (r.view s.current) := fun {r} hkernel hsig hc =>
      hsend.in_code (by rw [hkernel]) hsig (.inl (hc.trans hcall))
    simp only [perform]
    split
    · exact h.in_code rfl (by simp [setRet]) (.inl (by simp [setRet, hnone]))
    · split
      · exact hset rfl (by simp [setRet, reschedule]) (by simp [setRet, reschedule])
      · exact hset rfl (by simp [setRet]) (by simp [setRet])
  | @kill x n hx =>
    exact h.in_code rfl (by simp [perform, setCall]) (.inr ⟨x, n, .check, hx, by
      simp [perform, setCall]⟩)
  | setTaskStarted n =>
    have hview : (s.kernel.setTaskStarted s.current n).view s.current =
      s.kernel.view s.current := Kernel.modify_view_of_core rfl
    exact h.in_code hview rfl (.inl hnone)
  | setTaskEnded =>
    have hview : (s.kernel.setTaskEnded s.current).view s.current =
      s.kernel.view s.current := Kernel.modify_view_of_core rfl
    exact h.in_code hview rfl (.inl hnone)

end Machines

end RobotVacuum
