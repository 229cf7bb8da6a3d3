import RobotVacuum.Machine.Scheduling
import RobotVacuum.Machine.Signals

/-!
# A handler is not disturbed

A thread that executes a signal handler can be preempted, but no other thread ends or restarts the
handler: while the thread is in the signal layer it is not suspended and its signal bit is set, so
`_signal_deliver` leaves it alone (`HandlingOk.step`). The thread goes on in its handler until the
handler returns.
-/

set_option linter.unusedSectionVars false

namespace RobotVacuum

/-! ### The signal bits in the kernel -/

namespace Kernel

variable {T Q : Type} [DecidableEq T] [DecidableEq Q]
variable {k k' : Kernel T Q} {t x : T} {q : Q} {f : Thread → Thread} {flag : IpcFlag}

/-- The signal bit and the pending bit of all threads. -/
def bits (k : Kernel T Q) : T → Bool × Bool :=
  fun t => ((k.thread t).stat.signal, (k.thread t).stat.signalPending)

theorem modify_bits (h : (f (k.thread t)).stat = (k.thread t).stat) :
    (k.modify t f).bits = k.bits := by
  funext x
  simp only [bits, modify_thread]
  split
  · next hx => rw [h, hx]
  · rfl

theorem bits_of_signals (h : k'.signals = k.signals) : k'.bits = k.bits :=
  congrArg (fun (σ : T → SignalState) t => ((σ t).signal, (σ t).signalPending)) h

@[simp] theorem raise_bits {e : Fault} : (k.raise e).bits = k.bits := rfl

@[simp] theorem setError_bits {e : RtErr} : (k.setError t e).bits = k.bits :=
  bits_of_signals setError_signals

@[simp] theorem rtSchedule_bits : k.rtSchedule.bits = k.bits := bits_of_signals rtSchedule_signals

@[simp] theorem rtThreadResume_bits : (k.rtThreadResume t).bits = k.bits :=
  bits_of_signals rtThreadResume_signals

@[simp] theorem rtThreadSuspend_bits : (k.rtThreadSuspend t).bits = k.bits :=
  bits_of_signals rtThreadSuspend_signals

@[simp] theorem rtListInsertWait_bits : (k.rtListInsertWait q t flag).bits = k.bits :=
  bits_of_signals rtListInsertWait_signals

@[simp] theorem ipcListSuspend_bits : (k.ipcListSuspend q t flag).bits = k.bits :=
  bits_of_signals ipcListSuspend_signals

@[simp] theorem rtThreadControl_bits {arg : BitVec 32} :
    (k.rtThreadControl t arg).bits = k.bits := bits_of_signals rtThreadControl_signals

@[simp] theorem changeOwnerPriority_bits {m : Mutex T} {addr : T → BitVec 32} :
    (k.changeOwnerPriority m addr t).bits = k.bits := bits_of_signals changeOwnerPriority_signals

@[simp] theorem rtMutexTake_bits {m : Mutex T} {addr : T → BitVec 32} :
    (k.rtMutexTake m q addr (-1)).1.bits = k.bits := bits_of_signals rtMutexTake_signals

@[simp] theorem rtMutexRelease_bits {m : Mutex T} {a : BitVec 32} :
    (k.rtMutexRelease m q a).1.bits = k.bits := bits_of_signals rtMutexRelease_signals

@[simp] theorem eventSendWalk_bits {set : BitVec 32} {l : List T} :
    (k.eventSendWalk set l).1.bits = k.bits := bits_of_signals eventSendWalk_signals

end Kernel

/-! ### A thread in its handler -/

namespace Machine

open Kernel (ReadyQueueInv Attached KernelOk)

variable {T E M B D V : Type} [DecidableEq T] [DecidableEq E] [DecidableEq M] [DecidableEq B]
  [DecidableEq D]

variable {s s' : Machine T E M B D V} {p : Platform T E M D} {t x : T} {owns : M → Prop}
  {i : Label T E M B D V} {v v' v'' : ThreadView T E M B V}

/-- The signals of a thread are in order. -/
structure SignalsOk (t : T) (v : ThreadView T E M B V) : Prop where
  layer : v.ctx.sig ≠ .none → v.state ≠ .suspend ∧ v.thread.stat.signal = true ∧
    v.thread.stat.signalPending = false
  pending : v.thread.stat.signalPending = true → v.thread.stat.signal = true
  /-- A thread that signals itself has nothing pending. -/
  self : ∀ n stage, v.ctx.call = some (.kill t n stage) →
    v.state ≠ .suspend ∧ v.thread.stat.signalPending = false
  new : v.state = .init →
    (∀ n, v.thread.sigMask n = false) ∧ v.ctx.sig = .none ∧ v.ctx.call = none

/-- The thread is closed, or its signals are in order and it is where it was in its handler. -/
def Undisturbed (t : T) (v v' : ThreadView T E M B V) : Prop :=
  v'.state = .close ∨ SignalsOk t v' ∧ (v.ctx.sig ≠ .none → v'.ctx.sig = v.ctx.sig)

/-- A disturbance leaves the handler alone. -/
theorem undisturbed_of_disturbed (h : ThreadView.Disturbed owns v' v'')
    (hv : Undisturbed t v v') : Undisturbed t v v'' := by
  rcases hv with hc | ⟨hok, hsig⟩
  · refine .inl ?_
    cases h with
    | granted received hs | woken hs | signalled hs | started hs =>
      exact absurd (hc.symm.trans hs) (by simp)
    | enqueued | framed | flagged => exact hc
    | detached hne => exact absurd hc hne
  · have hnone : v'.state = .suspend → v'.ctx.sig = .none := fun hs => by
      by_contra hne
      exact (hok.layer hne).1 hs
    have hself : v'.state = .suspend → ∀ n stage, v'.ctx.call ≠ some (.kill t n stage) :=
      fun hs n stage hc => (hok.self n stage hc).1 hs
    cases h with
    | granted received hs | woken hs =>
      exact .inr ⟨⟨fun hne => absurd (hnone hs) hne, hok.pending,
        fun n stage hc => absurd hc (hself hs n stage), fun hi => by cases hi⟩, hsig⟩
    | signalled hs =>
      exact .inr ⟨⟨fun hne => absurd (hnone hs) hne, fun _ => rfl,
        fun n stage hc => absurd hc (hself hs n stage), fun hi => by cases hi⟩, hsig⟩
    | enqueued | flagged => exact .inr ⟨⟨hok.layer, hok.pending, hok.self, hok.new⟩, hsig⟩
    | framed hs hd hbit =>
      have hout : v'.ctx.sig = .none := by
        by_contra hne
        rw [(hok.layer hne).2.1] at hbit
        cases hbit
      refine .inr ⟨⟨fun _ => ⟨hs, rfl, rfl⟩, fun hp => (by cases hp), fun n stage hc => ⟨hs, rfl⟩,
        fun hi => ?_⟩, fun hne => absurd (hout ▸ hsig hne).symm hne⟩
      have hmask := (hok.new hi).1
      simp [Thread.deliverable, hmask] at hd
    | started hs =>
      obtain ⟨-, hout, hcall⟩ := hok.new hs
      refine .inr ⟨⟨fun hne => absurd hout hne, fun hp => (by cases hp), fun n stage hc => ?_,
        fun hi => by cases hi⟩, hsig⟩
      rw [hcall] at hc
      cases hc
    | detached hne hc => exact .inl hc

theorem undisturbed_of_disturbances (h : Relation.ReflTransGen (ThreadView.Disturbed owns) v v')
    (hv : v.state = .close ∨ SignalsOk t v) : Undisturbed t v v' := by
  induction h with
  | refl => exact hv.imp id fun h => ⟨h, fun _ => rfl⟩
  | tail _ hd ih => exact undisturbed_of_disturbed hd ih

/-! ### Steps of the thread itself -/

/-- What most operations of the running thread leave alone. -/
structure Plain (t : T) (s s' : Machine T E M B D V) : Prop where
  sig : (s'.ctx t).sig = (s.ctx t).sig
  sched : (s'.ctx t).sched = (s.ctx t).sched ∨ (s'.ctx t).sched = .calling
  call : (s'.ctx t).call = (s.ctx t).call ∨ ∀ n stage, (s'.ctx t).call ≠ some (.kill t n stage)
  bits : s'.kernel.bits t = s.kernel.bits t
  current : s'.current = s.current

namespace Plain

variable {s₁ : Machine T E M B D V} {k : Kernel T (WaitQueue E M B)} {c : Call T E M B}

theorem refl : Plain t s s := ⟨rfl, .inl rfl, .inl rfl, rfl, rfl⟩

theorem trans (h : Plain t s s₁) (h' : Plain t s₁ s') : Plain t s s' where
  sig := h'.sig.trans h.sig
  sched := by
    rcases h'.sched with heq | hc
    · rw [heq]
      exact h.sched
    · exact .inr hc
  call := by
    rcases h'.call with heq | hc
    · rw [heq]
      exact h.call
    · exact .inr hc
  bits := h'.bits.trans h.bits
  current := h'.current.trans h.current

theorem withKernel (h : Plain t s s₁) (hb : k.bits t = s₁.kernel.bits t)
    (hc : k.currentThread = s₁.kernel.currentThread) : Plain t s (s₁.withKernel k) :=
  h.trans ⟨rfl, .inl rfl, .inl rfl, hb, hc⟩

theorem setMutex (h : Plain t s s₁) {m : M} {y : Mutex T} : Plain t s (s₁.setMutex m y) :=
  h.trans ⟨rfl, .inl rfl, .inl rfl, rfl, rfl⟩

theorem setCtx (h : Plain t s s₁) {f : Ctx T E M B V → Ctx T E M B V}
    (hf : ∀ c, (f c).sig = c.sig ∧ ((f c).sched = c.sched ∨ (f c).sched = .calling) ∧
      ((f c).call = c.call ∨ ∀ n stage, (f c).call ≠ some (.kill t n stage))) :
    Plain t s (s₁.setCtx x f) := by
  refine h.trans ?_
  by_cases hx : t = x
  · subst hx
    obtain ⟨hsig, hsched, hcall⟩ := hf (s₁.ctx t)
    refine ⟨?_, ?_, ?_, rfl, rfl⟩ <;> rw [setCtx_ctx_self] <;> assumption
  · refine ⟨?_, .inl ?_, .inl ?_, rfl, rfl⟩ <;> rw [setCtx_ctx_of_ne hx]

theorem setRet (h : Plain t s s₁) {r : RtErr} : Plain t s (s₁.setRet r) :=
  h.setCtx fun _ => ⟨rfl, .inl rfl, .inl rfl⟩

theorem finish (h : Plain t s s₁) {r : RtErr} : Plain t s (s₁.finish r) :=
  h.setCtx fun _ => ⟨rfl, .inl rfl, .inr (by simp)⟩

theorem reschedule (h : Plain t s s₁) : Plain t s s₁.reschedule :=
  h.setCtx fun _ => ⟨rfl, .inr rfl, .inl rfl⟩

theorem setCall (h : Plain t s s₁) (hc : ∀ n stage, c ≠ .kill t n stage) :
    Plain t s (s₁.setCall c) :=
  h.setCtx fun _ => ⟨rfl, .inl rfl, .inr fun n stage heq => hc n stage (Option.some.inj heq)⟩

theorem beginCall (h : Plain t s s₁) (hc : ∀ n stage, c ≠ .kill t n stage) :
    Plain t s (s₁.beginCall c) :=
  h.setCtx fun _ => ⟨rfl, .inl rfl, .inr fun n stage heq => hc n stage (Option.some.inj heq)⟩

end Plain

theorem bits_of_view {k k' : Kernel T (WaitQueue E M B)} (h : k'.view t = k.view t) :
    k'.bits t = k.bits t :=
  congrArg (fun v : Kernel.View (WaitQueue E M B) =>
    (v.thread.stat.signal, v.thread.stat.signalPending)) h

theorem rtEventSend_plain {e : E} {set : BitVec 32} : Plain t s (s.rtEventSend e set).1 where
  sig := by
    simp only [rtEventSend, grant]
    split <;> rfl
  sched := .inl (by simp only [rtEventSend, grant]; split <;> rfl)
  call := .inl (congrArg Prod.fst rtEventSend_calls)
  bits := congrFun Kernel.eventSendWalk_bits t
  current := rtEventSend_current

theorem perform_plain (hk : KernelOk s.kernel) {a : Act T E M B D V}
    (hexit : a ≠ .exit) (hdetach : a ≠ .detach s.current) (hunmask : ∀ n, a ≠ .unmask n)
    (hkill : ∀ n, a ≠ .kill s.current n) : Plain s.current s (s.perform p a) := by
  have htimer : ∀ d y, Plain s.current s (s.setTimer d y) := fun d y => by
    unfold setTimer
    split
    · exact Plain.refl.withKernel rfl rfl
    · exact ⟨rfl, .inl rfl, .inl rfl, rfl, rfl⟩
  have hmodify : ∀ x g, (∀ th : Thread, (g th).stat = th.stat) →
      Plain s.current s (s.withKernel (s.kernel.modify x g)) := fun x g hg =>
    Plain.refl.withKernel (congrFun (Kernel.modify_bits (hg _)) _) rfl
  cases a with
  | «local» => exact .refl
  | take m | mbRecv b wait => exact Plain.refl.beginCall (by simp)
  | kill tid signo =>
    refine Plain.refl.setCall fun n stage heq => ?_
    cases heq
    exact hkill _ rfl
  | recv e set option =>
    simp only [perform]
    split
    · exact Plain.refl.setRet
    · exact Plain.refl.beginCall (by simp)
  | send e set =>
    simp only [perform]
    split
    · exact Plain.refl.setRet
    · split
      · exact rtEventSend_plain.setRet.reschedule
      · exact rtEventSend_plain.setRet
  | release m =>
    have hrelease : Plain s.current s (s.withKernel
        (s.kernel.rtMutexRelease (s.mutex m) (.mutex m) (p.originalAddr m)).1) :=
      Plain.refl.withKernel (congrFun Kernel.rtMutexRelease_bits _)
        Kernel.rtMutexRelease_currentThread
    simp only [perform]
    split
    · exact hrelease.setMutex.setRet.reschedule
    · exact hrelease.setMutex.setRet
  | mbSend b v =>
    have hmail : Plain s.current s ({ s with
        mailbox := Function.update s.mailbox b ((s.mailbox b).rtMbSend v).1 } :
          Machine T E M B D V) := ⟨rfl, .inl rfl, .inl rfl, rfl, rfl⟩
    simp only [perform]
    split
    · exact (hmail.setRet.withKernel (congrFun Kernel.rtThreadResume_bits _)
        Kernel.rtThreadResume_currentThread).reschedule
    · exact hmail.setRet
  | mask signo =>
    simp only [perform, modifyCurrent]
    exact hmodify _ _ (by exact fun _ => rfl)
  | unmask signo => exact absurd rfl (hunmask signo)
  | control x arg =>
    exact Plain.refl.withKernel (congrFun Kernel.rtThreadControl_bits _)
      Kernel.rtThreadControl_currentThread
  | setPreemptableFlag x b => exact hmodify _ _ fun _ => rfl
  | startup x =>
    refine (Plain.refl.withKernel ?_ Kernel.rtThreadStartupQueue_currentThread).reschedule
    by_cases hx : s.current = x
    · subst hx
      unfold Kernel.rtThreadStartupQueue
      rw [if_pos hk.current]
      rfl
    · exact bits_of_view (Kernel.rtThreadStartupQueue_view_of_ne hk.ready hx)
  | detach x =>
    have hx : s.current ≠ x := fun hx => hdetach (hx ▸ rfl)
    exact (Plain.refl.withKernel (bits_of_view (Kernel.rtThreadDetach_view_of_ne hk.ready hx))
      Kernel.rtThreadDetach_currentThread).setRet
  | exit => exact absurd rfl hexit
  | timerStart d | timerStop d | timerDetach d => exact htimer _ _
  | setTaskStarted duration => exact hmodify _ _ fun _ => rfl
  | setTaskEnded => exact hmodify _ _ fun _ => rfl

/-- A step inside a call by which the thread does not signal itself. -/
theorem stepCall_plain {c : Call T E M B} (hc : ∀ n stage, c ≠ .kill s.current n stage) :
    Plain s.current s (s.stepCall p c) := by
  have hwrite : ∀ g x, (∀ th : Thread, (g th).stat = th.stat) →
      (s.kernel.modify x g).bits s.current = s.kernel.bits s.current := fun g x hg =>
    congrFun (Kernel.modify_bits (hg _)) _
  cases c with
  | recv e set option stage =>
    simp only [stepCall]
    cases stage with
    | reset =>
      refine Plain.setCall (Plain.withKernel .refl ?_ rfl) (by simp)
      exact congrFun Kernel.setError_bits _
    | enter =>
      simp only [stepRecv]
      split
      · exact Plain.refl.withKernel rfl rfl
      · refine ⟨?_, .inl ?_, .inr fun n stage => ?_, ?_, rfl⟩
        · simp [takeFlags]
        · simp [takeFlags]
        · simp [takeFlags]
        · simp only [takeFlags]
          refine hwrite _ _ ?_
          exact fun _ => rfl
      · refine Plain.reschedule (Plain.setCall (Plain.withKernel .refl ?_ ?_) (by simp))
        · rw [Kernel.ipcListSuspend_bits]
          refine hwrite _ _ ?_
          exact fun _ => rfl
        · exact Kernel.ipcListSuspend_currentThread
    | check =>
      simp only [stepRecv]
      split
      · exact Plain.refl.finish
      · refine Plain.setCall (Plain.refl.setCtx ?_) (by simp)
        exact fun _ => ⟨rfl, .inl rfl, .inl rfl⟩
    | ret => exact Plain.refl.finish
  | take m stage =>
    simp only [stepCall]
    cases stage with
    | enter =>
      have htake : Plain s.current s
          (s.withKernel (s.kernel.rtMutexTake (s.mutex m) (.mutex m) p.addr (-1)).1) :=
        Plain.refl.withKernel (congrFun Kernel.rtMutexTake_bits _) (rtMutexTake_currentThread ..)
      simp only [stepTake]
      split
      · exact htake.setMutex.finish
      · exact Plain.reschedule (Plain.setCall htake.setMutex (by simp))
    | check =>
      simp only [stepTake]
      split
      · exact Plain.refl.setCall (by simp)
      · exact Plain.refl.finish
    | test =>
      simp only [stepTake]
      split <;> exact Plain.refl.setCall (by simp)
    | decrement | setOwner | setOriginal => exact Plain.refl.setMutex.setCall (by simp)
    | addHold => exact Plain.refl.setMutex.finish
    | boost =>
      exact (Plain.refl.withKernel (congrFun Kernel.changeOwnerPriority_bits _)
        Kernel.changeOwnerPriority_currentThread).setCall (by simp)
    | suspend =>
      simp only [stepTake]
      split
      · exact Plain.refl.withKernel rfl rfl
      · exact (Plain.refl.withKernel (congrFun Kernel.rtThreadSuspend_bits _)
          Kernel.rtThreadSuspend_currentThread).setCall (by simp)
    | link =>
      simp only [stepTake]
      split
      · exact Plain.refl.withKernel rfl rfl
      · refine Plain.reschedule (Plain.setCall (Plain.withKernel .refl ?_ ?_) (by simp))
        · exact congrFun Kernel.rtListInsertWait_bits _
        · exact Kernel.rtListInsertWait_currentThread
  | mbRecv b wait stage =>
    simp only [stepCall]
    cases stage with
    | enter =>
      simp only [stepMbRecv]
      split
      · split
        · exact Plain.refl.finish
        · refine Plain.reschedule (Plain.setCall (Plain.withKernel .refl ?_ ?_) (by simp))
          · rw [Kernel.ipcListSuspend_bits, Kernel.setError_bits]
          · exact Kernel.ipcListSuspend_currentThread
      · have hmail : Plain s.current s ({ s with
            mailbox := Function.update s.mailbox b (s.mailbox b).take.1 } :
              Machine T E M B D V) := ⟨rfl, .inl rfl, .inl rfl, rfl, rfl⟩
        have htaken := (hmail.setCtx (x := s.current)
          (f := fun x => { x with mail := some (s.mailbox b).take.2, granted := true })
          (by exact fun _ => ⟨rfl, .inl rfl, .inl rfl⟩)).finish (r := .eok)
        split
        · exact htaken
        · exact (htaken.withKernel (congrFun Kernel.rtThreadResume_bits _)
            Kernel.rtThreadResume_currentThread).reschedule
    | check =>
      simp only [stepMbRecv]
      split
      · exact Plain.refl.finish
      · exact Plain.refl.setCall (by simp)
  | kill tid signo stage =>
    have htid : tid ≠ s.current := fun heq => hc signo stage (heq ▸ rfl)
    have hself : ∀ stage' n stage'', (.kill tid signo stage' : Call T E M B) ≠
        .kill s.current n stage'' := fun _ _ _ heq => htid (Call.kill.inj heq).1
    have hother : ∀ g, Plain s.current s (s.withKernel (s.kernel.modify tid g)) := fun g =>
      Plain.refl.withKernel (bits_of_view (Kernel.modify_view_of_ne htid.symm)) rfl
    simp only [stepCall]
    cases stage with
    | check =>
      simp only [stepKill]
      split
      · exact Plain.refl.finish
      · exact Plain.refl.setCall (hself _)
    | alloc =>
      simp only [stepKill]
      split
      · exact Plain.refl.setCall (hself _)
      · exact Plain.setCall (Plain.withKernel .refl rfl rfl) (hself _)
    | enqueue => exact (hother _).setCall (hself _)
    | deliver =>
      simp only [stepKill]
      unfold signalDeliver
      dsimp only
      split
      · exact Plain.refl.finish
      · split
        · refine Plain.reschedule (Plain.finish (Plain.withKernel .refl ?_ ?_))
          · rw [bits_of_view (Kernel.modify_view_of_ne htid.symm), Kernel.rtThreadResume_bits]
          · exact Kernel.rtThreadResume_currentThread
        · split
          · have hctx : ∀ g : Ctx T E M B V → Ctx T E M B V, ∀ r : Machine T E M B D V,
                Plain s.current r (r.setCtx tid g) := fun g r =>
              ⟨by rw [setCtx_ctx_of_ne htid.symm], .inl (by rw [setCtx_ctx_of_ne htid.symm]),
                .inl (by rw [setCtx_ctx_of_ne htid.symm]), rfl, rfl⟩
            exact Plain.reschedule (Plain.trans (Plain.finish (hother _)) (hctx _ _))
          · exact Plain.refl.finish

/-- After a plain step the signals are in order. -/
theorem SignalsOk.plain (h : SignalsOk s.current (s.view s.current)) (hp : Plain s.current s s')
    (hk : KernelOk s'.kernel) (hsig : (s.ctx s.current).sig = .none)
    (hcall : ∀ n stage, (s.ctx s.current).call ≠ some (.kill s.current n stage)) :
    SignalsOk s.current (s'.view s.current) := by
  have hbits : ∀ r : Machine T E M B D V, r.kernel.bits s.current =
      ((r.view s.current).thread.stat.signal, (r.view s.current).thread.stat.signalPending) :=
    fun _ => rfl
  obtain ⟨hsignal, hpending⟩ := Prod.mk.inj
    ((hbits s').symm.trans (hp.bits.trans (hbits s)))
  refine ⟨fun hne => absurd (hp.sig.trans hsig) hne, fun hb => ?_, fun n stage hc => ?_,
    fun hi => ?_⟩
  · rw [hsignal]
    exact h.pending (hpending ▸ hb)
  · rcases hp.call with heq | hne
    · exact absurd (heq.symm.trans hc) (hcall n stage)
    · exact absurd hc (hne n stage)
  · have hcur := hk.current
    rw [show s'.kernel.currentThread = s.current from hp.current] at hcur
    exact absurd (ThreadState.phase_eq_init.mp hi) hcur

/-- The signals of a thread that was started, by what its control block says. -/
theorem SignalsOk.of_thread (hnew : (s.kernel.thread t).stat.state ≠ .init)
    (hlayer : (s.ctx t).sig ≠ .none → (s.kernel.thread t).stat.state ≠ .suspend ∧
      (s.kernel.thread t).stat.signal = true ∧ (s.kernel.thread t).stat.signalPending = false)
    (hpending : (s.kernel.thread t).stat.signalPending = true →
      (s.kernel.thread t).stat.signal = true)
    (hself : ∀ n stage, (s.ctx t).call = some (.kill t n stage) →
      (s.kernel.thread t).stat.state ≠ .suspend ∧
        (s.kernel.thread t).stat.signalPending = false) : SignalsOk t (s.view t) where
  layer hne := by
    obtain ⟨hs, hbits⟩ := hlayer hne
    exact ⟨fun hc => hs (ThreadState.phase_eq_suspend.mp hc), hbits⟩
  pending := hpending
  self n stage hc := by
    obtain ⟨hs, hb⟩ := hself n stage hc
    exact ⟨fun hc => hs (ThreadState.phase_eq_suspend.mp hc), hb⟩
  new hi := absurd (ThreadState.phase_eq_init.mp hi) hnew

/-- The running thread can be in its signal layer. -/
structure InLayer (s : Machine T E M B D V) : Prop where
  new : (s.kernel.thread s.current).stat.state ≠ .init
  state : (s.kernel.thread s.current).stat.state ≠ .suspend
  signal : (s.kernel.thread s.current).stat.signal = true
  pending : (s.kernel.thread s.current).stat.signalPending = false

theorem SignalsOk.inLayer (h : SignalsOk s.current (s.view s.current)) (hk : KernelOk s.kernel)
    (hsig : (s.ctx s.current).sig ≠ .none) : InLayer s := by
  obtain ⟨hs, hsignal, hpending⟩ := h.layer hsig
  exact ⟨hk.current, fun hc => hs (ThreadState.phase_eq_suspend.mpr hc), hsignal, hpending⟩

theorem handleLoop_signals (h : InLayer s) {b : Bool} :
    SignalsOk s.current ((s.handleLoop b).view s.current) := by
  obtain ⟨hnew, hs, hsignal, hpending⟩ := h
  unfold handleLoop
  dsimp only
  split
  · split <;>
      (refine .of_thread ?_ ?_ ?_ ?_ <;> simp [hnew, hs, hsignal, hpending])
  · refine .of_thread ?_ ?_ ?_ ?_ <;> simp [hnew, hs, hpending]

theorem enterHandleSig_signals (h : InLayer s) {b : Bool} :
    SignalsOk s.current ((s.enterHandleSig b).view s.current) := by
  have hloop := handleLoop_signals h (b := b)
  obtain ⟨hnew, hs, hsignal, hpending⟩ := h
  unfold enterHandleSig
  dsimp only
  split
  · exact hloop
  · split <;>
      (refine .of_thread ?_ ?_ ?_ ?_ <;> simp [hnew, hs, hpending])

theorem returnHandler_signals (h : InLayer s) {b : Bool} :
    SignalsOk s.current ((s.returnHandler b).view s.current) := by
  obtain ⟨hnew, hs, hsignal, hpending⟩ := h
  have hlayer : InLayer (s.withKernel { s.kernel.setError s.current .eintr with
      siginfoPool := s.kernel.siginfoPool + 1 }) := by
    refine ⟨?_, ?_, ?_, ?_⟩ <;> simp [Kernel.setError, hnew, hs, hsignal, hpending]
  exact handleLoop_signals hlayer

theorem afterSwitch_signals (h : SignalsOk s.current (s.view s.current)) (hk : KernelOk s.kernel)
    (hs : (s.kernel.thread s.current).stat.state ≠ .suspend)
    (hsig : (s.ctx s.current).sig = .none) :
    SignalsOk s.current (s.afterSwitch.view s.current) := by
  have hnew : (s.kernel.thread s.current).stat.state ≠ .init := hk.current
  have hpending : (s.kernel.thread s.current).stat.signalPending = true →
      (s.kernel.thread s.current).stat.signal = true := h.pending
  unfold afterSwitch
  split
  · next hp =>
    refine .of_thread ?_ ?_ ?_ ?_ <;> simp [hnew, hs, hpending hp]
  · next hp =>
    refine .of_thread hnew ?_ hpending fun n stage hc => ⟨hs, by simpa using hp⟩
    simp [hsig]

/-- A step by which a thread signals itself. -/
theorem stepKill_signals (h : SignalsOk s.current (s.view s.current)) (hk : KernelOk s.kernel)
    (hsig : (s.ctx s.current).sig = .none) {signo : Signo} {stage : KillStage}
    (hcall : (s.ctx s.current).call = some (.kill s.current signo stage)) :
    SignalsOk s.current ((s.stepKill s.current signo stage).view s.current) := by
  obtain ⟨hsus, hpending⟩ := h.self signo stage hcall
  have hnew : (s.kernel.thread s.current).stat.state ≠ .init := hk.current
  have hs : (s.kernel.thread s.current).stat.state ≠ .suspend :=
    fun hc => hsus (ThreadState.phase_eq_suspend.mpr hc)
  have hp : (s.kernel.thread s.current).stat.signalPending = false := hpending
  have hfinish : ∀ r, SignalsOk s.current ((s.finish r).view s.current) := fun r => by
    refine .of_thread hnew ?_ ?_ ?_ <;> simp [finish, hsig, hp]
  cases stage with
  | check =>
    simp only [stepKill]
    split
    · exact hfinish _
    · refine .of_thread hnew ?_ ?_ ?_ <;> simp [setCall, hsig, hs, hp]
  | alloc =>
    simp only [stepKill]
    split
    · refine .of_thread hnew ?_ ?_ ?_ <;> simp [setCall, hsig, hs, hp]
    · refine .of_thread hnew ?_ ?_ ?_ <;> simp [setCall, hsig, hs, hp]
  | enqueue =>
    simp only [stepKill]
    refine .of_thread ?_ ?_ ?_ ?_ <;> simp [setCall, hsig, hnew, hs, hp]
  | deliver =>
    simp only [stepKill]
    unfold signalDeliver
    dsimp only
    split
    · exact hfinish _
    · rw [if_pos rfl]
      refine .of_thread ?_ ?_ ?_ ?_ <;> simp [finish, hnew, hs, hp]

/-! ### Which thread runs -/

/-- No disturbance suspends a thread. -/
theorem suspend_of_disturbances (h : Relation.ReflTransGen (ThreadView.Disturbed owns) v v')
    (hs : v'.state = .suspend) : v.state = .suspend := by
  induction h with
  | refl => exact hs
  | tail _ hd ih =>
    refine ih ?_
    cases hd with
    | granted | woken | signalled | started => cases hs
    | enqueued | framed | flagged => exact hs
    | detached _ hc => exact absurd (hc.symm.trans hs) (by simp)

/-- The running thread stays the same, or the new one is not suspended. -/
def Switches (s s' : Machine T E M B D V) : Prop :=
  s'.current = s.current ∨ s'.kernel.state s'.current ≠ .suspend

theorem switches_of_rtSchedule (h : KernelOk s.kernel) :
    Switches s (s.withKernel s.kernel.rtSchedule) := by
  rcases h.ready.rtSchedule_current with hc | hr
  · exact .inl hc
  · exact .inr fun hs => absurd (hr.symm.trans hs) (by simp)

theorem Switches.trans {s₁ : Machine T E M B D V} (h : Switches s s₁) (h' : Switches s₁ s')
    (hv : ∀ t, s'.kernel.state t = .suspend → s₁.kernel.state t = .suspend) : Switches s s' := by
  rcases h' with heq | hs
  · rcases h with heq' | hs'
    · exact .inl (heq.trans heq')
    · exact .inr fun hs => hs' (heq ▸ hv _ hs)
  · exact .inr hs

theorem suspend_of_rtTimerTimeout (h : KernelOk s.kernel) (d : D)
    (hs : (rtTimerTimeout p s d).kernel.state t = .suspend) : s.kernel.state t = .suspend := by
  have hview : Relation.ReflGen (ThreadView.Disturbed fun _ : M => True) (s.view t)
      ((rtTimerTimeout p s d).view t) := rtTimerTimeout_view h.ready h.attached d
  exact ThreadState.phase_eq_suspend.mp
    (suspend_of_disturbances hview.to_reflTransGen (ThreadState.phase_eq_suspend.mpr hs))

theorem rtTimerTimeout_switches (h : KernelOk s.kernel) (d : D) :
    Switches s (rtTimerTimeout p s d) := by
  unfold rtTimerTimeout
  dsimp only
  split
  · have hsched := switches_of_rtSchedule
      (s := (s.rtEventSend (p.timeout d).1 (p.timeout d).2).1) (rtEventSend_kernelOk h)
    rcases hsched with heq | hs
    · exact .inl (heq.trans rtEventSend_current)
    · exact .inr hs
  · exact .inl rtEventSend_current

theorem rtTickIncrease_switches (h : KernelOk s.kernel) (due : List D) :
    Switches s (s.rtTickIncrease p due) := by
  have hrun : ∀ r : Machine T E M B D V, KernelOk r.kernel → Switches s r →
      Switches s (due.foldl (rtTimerTimeout p) r) := by
    induction due with
    | nil => exact fun _ _ h => h
    | cons d due ih =>
      exact fun r hr hsw => ih _ (rtTimerTimeout_kernelOk hr d)
        (hsw.trans (rtTimerTimeout_switches hr d) fun _ => suspend_of_rtTimerTimeout hr d)
  refine hrun _ h.rtTickCharge ?_
  have hcharge : s.kernel.rtTickCharge.currentThread = s.kernel.currentThread ∨
      s.kernel.rtTickCharge.state s.kernel.rtTickCharge.currentThread = .running := by
    unfold Kernel.rtTickCharge
    dsimp only
    split
    · exact (h.ready.charged.of_schedEq (.modify rfl rfl rfl)).rtSchedule_current
    · exact .inl rfl
  rcases hcharge with hc | hr
  · exact .inl hc
  · exact .inr fun hs => absurd (hr.symm.trans hs) (by simp)

/-! ### Runs -/

/-- What holds of a thread in all runs in which it unblocks signals only while nothing is
pending: its signals are in order, and it is dispatched only when it is not suspended. -/
structure HandlingOk (t : T) (s : Machine T E M B D V) : Prop where
  signals : s.kernel.state t = .close ∨ SignalsOk t (s.view t)
  dispatched : (s.ctx t).sched = .switched → t = s.current → s.kernel.state t ≠ .suspend

/-- The statements by which a thread signals itself. -/
def SignalsSelf (t : T) (a : Act T E M B D V) : Prop := ∃ n, a = .unmask n ∨ a = .kill t n

/-- The thread goes on in its handler. -/
def StaysIn (t : T) (s s' : Machine T E M B D V) : Prop :=
  ∀ b n, (s.ctx t).sig = .running b n →
    (s'.ctx t).sig = .running b n ∨ s'.kernel.state t = .close

theorem HandlingOk.others (h : HandlingOk t s)
    (hd : Relation.ReflTransGen (ThreadView.Disturbed owns) (s.view t) (s'.view t)) :
    (s'.kernel.state t = .close ∨ SignalsOk t (s'.view t)) ∧ StaysIn t s s' := by
  have hclosed : ∀ r : Machine T E M B D V, (r.view t).state = .close ↔
      r.kernel.state t = .close := fun _ => ThreadState.phase_eq_close
  rcases undisturbed_of_disturbances hd (h.signals.imp (hclosed s).mpr id) with hc | ⟨hok, hsig⟩
  · exact ⟨.inl ((hclosed s').mp hc), fun b n _ => .inr ((hclosed s').mp hc)⟩
  · refine ⟨.inr hok, fun b n hrun => .inl ?_⟩
    have hsame := hsig (by rw [view_ctx, hrun]; simp)
    exact hsame.trans hrun

theorem perform_unmask {n : Signo} :
    s.perform p (.unmask n) = (s.withKernel (s.kernel.modify s.current fun th =>
      { th with sigMask := Function.update th.sigMask n true })).setCall
        (.kill s.current n .deliver) ∨
    s.perform p (.unmask n) = s.withKernel (s.kernel.modify s.current fun th =>
      { th with sigMask := Function.update th.sigMask n true }) := by
  simp only [perform, rtSignalUnmask, modifyCurrent]
  by_cases hd : ((s.withKernel (s.kernel.modify s.current fun th =>
      { th with sigMask := Function.update th.sigMask n true })).kernel.thread
        s.current).deliverable = true
  · exact .inl (if_pos hd)
  · exact .inr (if_neg hd)

/-- A statement of the thread's own code. -/
theorem perform_handling (hk : KernelOk s.kernel) (h : SignalsOk s.current (s.view s.current))
    (hat : s.AtUser) {a : Act T E M B D V} (hdetach : a ≠ .detach s.current)
    (hself : SignalsSelf s.current a → s.kernel.state s.current ≠ .suspend ∧
      (s.kernel.thread s.current).stat.signalPending = false) :
    ((s.perform p a).kernel.state s.current = .close ∨
      SignalsOk s.current ((s.perform p a).view s.current)) ∧
    ((s.perform p a).ctx s.current).sched ≠ .switched ∧ (a = .exit ∨ (s.perform p a).current =
      s.current) := by
  obtain ⟨hsig, hsched, hcall⟩ := hat
  by_cases hexit : a = .exit
  · subst hexit
    refine ⟨.inl (Kernel.threadExit_state_self hk.ready), ?_, .inl rfl⟩
    simp [perform, hsched]
  · by_cases hs : SignalsSelf s.current a
    · obtain ⟨hns, hp⟩ := hself hs
      have hns : (s.kernel.thread s.current).stat.state ≠ .suspend := hns
      have hnew : (s.kernel.thread s.current).stat.state ≠ .init := hk.current
      obtain ⟨n, rfl | rfl⟩ := hs
      · rcases perform_unmask (s := s) (p := p) (n := n) with heq | heq
        · rw [heq]
          refine ⟨.inr (.of_thread ?_ ?_ ?_ ?_), ?_, .inr rfl⟩ <;>
            simp [setCall, hnew, hsig, hns, hp, hsched]
        · rw [heq]
          refine ⟨.inr (.of_thread ?_ ?_ ?_ ?_), ?_, .inr rfl⟩ <;>
            simp [hnew, hsig, hns, hp, hsched, hcall]
      · simp only [perform]
        refine ⟨.inr (.of_thread ?_ ?_ ?_ ?_), ?_, .inr rfl⟩ <;>
          simp [setCall, hnew, hsig, hns, hp, hsched]
    · have hplain := perform_plain (p := p) hk hexit hdetach (fun n hn => hs ⟨n, .inl hn⟩)
        fun n hn => hs ⟨n, .inr hn⟩
      refine ⟨.inr (h.plain hplain (perform_kernelOk hk a) hsig fun n stage hc => ?_), ?_,
        .inr hplain.current⟩
      · rw [hcall] at hc
        cases hc
      · rcases hplain.sched with heq | heq <;> simp [heq, hsched]

/-- A statement of the handler. -/
theorem perform_inHandler (hk : KernelOk s.kernel) (h : SignalsOk s.current (s.view s.current))
    {a : Act T E M B D V} (ha : a.inHandler = true) :
    SignalsOk s.current ((s.perform p a).view s.current) ∧
      (s.perform p a).ctx = s.ctx ∧ (s.perform p a).current = s.current ∧
      ((s.perform p a).view s.current).state = (s.view s.current).state := by
  have hk' := perform_kernelOk (p := p) hk a
  have hstat : ((s.perform p a).view s.current).thread.stat = (s.view s.current).thread.stat ∧
      (s.perform p a).ctx = s.ctx ∧ (s.perform p a).current = s.current := by
    cases a with
    | «local» => exact ⟨rfl, rfl, rfl⟩
    | mask n => exact ⟨by simp [perform, modifyCurrent, Thread.core], rfl, rfl⟩
    | control x arg =>
      exact ⟨congrArg (fun v : Kernel.View (WaitQueue E M B) => v.thread.stat)
        (Kernel.rtThreadControl_view hk.ready), rfl, Kernel.rtThreadControl_currentThread⟩
    | setPreemptableFlag x b =>
      refine ⟨?_, rfl, rfl⟩
      simp only [perform, Kernel.setPreemptableFlag, view_thread, withKernel_kernel,
        Kernel.modify_thread]
      split
      · next hx =>
        rw [← hx]
        rfl
      · rfl
    | _ => simp [Act.inHandler] at ha
  obtain ⟨hstat, hctx, hcur⟩ := hstat
  have hview : ((s.perform p a).view s.current).ctx = (s.view s.current).ctx := by
    rw [view_ctx, view_ctx, hctx]
  refine ⟨⟨fun hne => ?_, fun hb => ?_, fun n stage hc => ?_, fun hi => ?_⟩, hctx, hcur,
    congrArg Stat.state hstat⟩
  · rw [ThreadView.state, hstat]
    exact h.layer (hview ▸ hne)
  · rw [hstat] at hb ⊢
    exact h.pending hb
  · rw [ThreadView.state, hstat]
    exact h.self n stage (hview ▸ hc)
  · have hnew := hk'.current
    rw [show (s.perform p a).kernel.currentThread = s.current from hcur] at hnew
    exact absurd (ThreadState.phase_eq_init.mp hi) hnew

theorem handleLoop_frame {b : Bool} : (s.handleLoop b).current = s.current ∧
    (s.handleLoop b).kernel.state s.current = s.kernel.state s.current := by
  unfold handleLoop
  dsimp only
  split
  · split <;> exact ⟨rfl, by simp [Kernel.state]⟩
  · exact ⟨rfl, by simp [Kernel.state]⟩

theorem enterHandleSig_frame {b : Bool} : (s.enterHandleSig b).current = s.current ∧
    (s.enterHandleSig b).kernel.state s.current = s.kernel.state s.current := by
  unfold enterHandleSig
  dsimp only
  split
  · exact handleLoop_frame
  · split <;> exact ⟨rfl, by simp [Kernel.state]⟩

theorem stepKill_frame {n : Signo} {r : KillStage} (h : (s.ctx s.current).sched = .none) :
    ((s.stepKill s.current n r).ctx s.current).sched ≠ .switched ∧
      (s.stepKill s.current n r).current = s.current := by
  cases r with
  | check =>
    simp only [stepKill]
    split <;> exact ⟨by simp [finish, setCall, h], rfl⟩
  | alloc =>
    simp only [stepKill]
    split <;> exact ⟨by simp [setCall, h], rfl⟩
  | enqueue =>
    simp only [stepKill]
    exact ⟨by simp [setCall, h], rfl⟩
  | deliver =>
    simp only [stepKill]
    unfold signalDeliver
    dsimp only
    split
    · exact ⟨by simp [finish, h], rfl⟩
    · rw [if_pos rfl]
      split
      · have hcur : (s.kernel.rtThreadResume s.current).currentThread = s.current :=
          Kernel.rtThreadResume_currentThread
        exact ⟨by simp [reschedule], hcur⟩
      · exact ⟨by simp [finish, h], rfl⟩

/-- A step inside the kernel by the running thread. -/
theorem HandlingOk.kern (hs : SchedOk s) (h : HandlingOk s.current s)
    (hclose : s.kernel.state s.current ≠ .close) (hstep : s.stepKern p = some s')
    (hk' : KernelOk s'.kernel) : HandlingOk s.current s' ∧ Switches s s' := by
  have hok := h.signals.resolve_left hclose
  have hsame : s'.current = s.current → Switches s s' := .inl
  unfold stepKern at hstep
  split at hstep
  · next _ _ b hsig =>
    cases hstep
    have hlayer := hok.inLayer hs.kernel (by rw [hsig]; simp)
    obtain ⟨hcur, hstate⟩ := enterHandleSig_frame (s := s) (b := b)
    refine ⟨⟨.inr (enterHandleSig_signals hlayer), fun _ _ => ?_⟩, .inl hcur⟩
    rw [hstate]
    exact hlayer.state
  · cases hstep
  · next hsig _ =>
    cases hstep
    have hview : s.callSchedule.kernel.view s.current = s.kernel.view s.current :=
      hs.kernel.ready.rtSchedule_view
    have hctx : (s.callSchedule.ctx s.current).sig = (s.ctx s.current).sig ∧
        (s.callSchedule.ctx s.current).call = (s.ctx s.current).call ∧
        (s.callSchedule.ctx s.current).sched =
          if s.kernel.rtSchedule.currentThread = s.current then .none else .switched := by
      simp [callSchedule]
    obtain ⟨hsame, hcall, hsched⟩ := hctx
    refine ⟨⟨.inr ⟨fun hne => absurd (hsame.trans hsig) hne, ?_, fun n stage hc => ?_,
      fun hi => ?_⟩, fun hsw hcur => ?_⟩, switches_of_rtSchedule hs.kernel⟩
    · rw [show (s.callSchedule.view s.current).toView = (s.view s.current).toView from hview]
      exact hok.pending
    · rw [ThreadView.state,
        show (s.callSchedule.view s.current).toView = (s.view s.current).toView from hview]
      exact hok.self n stage (hcall ▸ hc)
    · rw [ThreadView.state,
        show (s.callSchedule.view s.current).toView = (s.view s.current).toView from hview] at hi
      exact absurd (ThreadState.phase_eq_init.mp hi) hs.kernel.current
    · have hstay : s.kernel.rtSchedule.currentThread = s.current := hcur.symm
      rw [hsched, if_pos hstay] at hsw
      cases hsw
  · next hsig hsched =>
    cases hstep
    have hns := h.dispatched hsched rfl
    have hcur : s.afterSwitch.current = s.current := by
      unfold afterSwitch
      split <;> rfl
    have hout : (s.afterSwitch.ctx s.current).sched = .none := by
      unfold afterSwitch
      split <;> simp
    refine ⟨⟨.inr (afterSwitch_signals hok hs.kernel hns hsig), fun hsw _ => ?_⟩, .inl hcur⟩
    rw [hout] at hsw
    cases hsw
  · next c hsig hsched hc =>
    cases hstep
    by_cases hself : ∃ n stage, c = .kill s.current n stage
    · obtain ⟨n, stage, rfl⟩ := hself
      obtain ⟨hnot, hcur⟩ := stepKill_frame (n := n) (r := stage) hsched
      exact ⟨⟨.inr (stepKill_signals hok hs.kernel hsig hc), fun hsw _ => absurd hsw hnot⟩,
        .inl hcur⟩
    · have hplain := stepCall_plain (p := p) fun n stage heq => hself ⟨n, stage, heq⟩
      refine ⟨⟨.inr (hok.plain hplain hk' hsig fun n stage hkill => ?_), fun hsw _ => ?_⟩,
        .inl hplain.current⟩
      · exact hself ⟨n, stage, Option.some.inj (hc.symm.trans hkill)⟩
      · rcases hplain.sched with heq | heq <;> rw [heq] at hsw
        · rw [hsched] at hsw
          cases hsw
        · cases hsw
  · cases hstep

/-- A statement, of the thread's own code or of its handler. -/
theorem HandlingOk.act (hs : SchedOk s) (h : HandlingOk s.current s)
    (hclose : s.kernel.state s.current ≠ .close) {a : Act T E M B D V}
    (hstep : s.stepAct p a = some s')
    (hself : s.AtUser → SignalsSelf s.current a → s.kernel.state s.current ≠ .suspend ∧
      (s.kernel.thread s.current).stat.signalPending = false) :
    HandlingOk s.current s' ∧ StaysIn s.current s s' := by
  have hok := h.signals.resolve_left hclose
  unfold stepAct at hstep
  split at hstep
  · next hsig =>
    split at hstep
    · next ha =>
      cases hstep
      obtain ⟨hsignals, hctx, hcur, hstate⟩ := perform_inHandler (p := p) hs.kernel hok ha.1
      have hlayer := hok.inLayer hs.kernel (by rw [hsig]; simp)
      refine ⟨⟨.inr hsignals, fun _ _ hc => ?_⟩, fun b n hrun => .inl (by rw [hctx]; exact hrun)⟩
      exact hlayer.state (ThreadState.phase_eq_suspend.mp
        (hstate.symm.trans (ThreadState.phase_eq_suspend.mpr hc)))
    · cases hstep
  · split at hstep
    · next hat =>
      cases hstep
      have hdetach : a ≠ .detach s.current := by
        rintro rfl
        exact hat.2.2.1 rfl
      obtain ⟨hsignals, hnot, -⟩ := perform_handling (p := p) hs.kernel hok hat.1 hdetach
        (hself hat.1)
      refine ⟨⟨hsignals, fun hsw _ => absurd hsw hnot⟩, fun b n hrun => ?_⟩
      rw [hat.1.1] at hrun
      cases hrun
    · cases hstep

theorem sched_of_disturbances (h : Relation.ReflTransGen (ThreadView.Disturbed owns) v v') :
    v'.ctx.sched = v.ctx.sched := by
  induction h with
  | refl => rfl
  | tail _ hd ih =>
    refine Eq.trans ?_ ih
    cases hd with
    | detached _ _ hctx => rw [hctx]
    | _ => rfl

theorem step_switches (hs : SchedOk s) (hstep : s.step p i = some s') : Switches s s' := by
  have hk := hs.kernel
  cases i with
  | tick due =>
    simp only [Machine.step] at hstep
    split at hstep
    · cases hstep
      exact rtTickIncrease_switches hk due
    · cases hstep
  | act a =>
    simp only [Machine.step] at hstep
    split at hstep
    · have hs' : s' = s.perform p a ∧ a.Permitted p s.current := by
        unfold stepAct at hstep
        split at hstep <;> split at hstep <;> cases hstep
        · next ha => exact ⟨rfl, ha.2⟩
        · next ha => exact ⟨rfl, ha.2⟩
      obtain ⟨rfl, hperm⟩ := hs'
      by_cases hexit : a = .exit
      · subst hexit
        rcases hk.threadExit_current with hc | hr
        · exact .inl hc
        · exact .inr fun hsus => absurd (hr.symm.trans hsus) (by simp)
      · by_cases hself : SignalsSelf s.current a
        · obtain ⟨n, rfl | rfl⟩ := hself
          · rcases perform_unmask (s := s) (p := p) (n := n) with heq | heq <;>
              (rw [heq]; exact .inl rfl)
          · exact .inl rfl
        · refine .inl (perform_plain hk hexit ?_ (fun n hn => hself ⟨n, .inl hn⟩)
            fun n hn => hself ⟨n, .inr hn⟩).current
          rintro rfl
          exact hperm.2.1 rfl
    · cases hstep
  | hret =>
    simp only [Machine.step] at hstep
    split at hstep
    · unfold stepHret at hstep
      split at hstep
      · cases hstep
        exact .inl handleLoop_frame.1
      · cases hstep
    · cases hstep
  | kern =>
    simp only [Machine.step] at hstep
    split at hstep
    · unfold stepKern at hstep
      split at hstep <;> cases hstep
      · exact .inl enterHandleSig_frame.1
      · exact switches_of_rtSchedule hk
      · refine .inl ?_
        unfold afterSwitch
        split <;> rfl
      · next c hsig hsched hc =>
        by_cases hself : ∃ n stage, c = .kill s.current n stage
        · obtain ⟨n, stage, rfl⟩ := hself
          exact .inl (stepKill_frame hsched).2
        · exact .inl (stepCall_plain fun n stage heq => hself ⟨n, stage, heq⟩).current
    · cases hstep

/-- The statement by which a thread returns from its handler is the only one by which it leaves
the handler. -/
theorem HandlingOk.step (hs : SchedOk s) (h : HandlingOk t s) (hstep : s.step p i = some s')
    (hself : ∀ a, i = .act a → s.AtUser → t = s.current → SignalsSelf t a →
      s.kernel.state t ≠ .suspend ∧ (s.kernel.thread t).stat.signalPending = false) :
    HandlingOk t s' ∧ (t = s.current ∧ i = .hret ∨ StaysIn t s s') := by
  have hs' := hs.step hstep
  by_cases ht : t = s.current
  · subst ht
    cases i with
    | tick due =>
      simp only [Machine.step] at hstep
      split at hstep
      · cases hstep
        have hdist : Relation.ReflTransGen (ThreadView.Disturbed fun _ : M => True)
            (s.view s.current) ((s.rtTickIncrease p due).view s.current) :=
          rtTickIncrease_view hs.kernel.ready hs.kernel.attached due
        obtain ⟨hok, hstays⟩ := h.others hdist
        refine ⟨⟨hok, fun hsw _ hsus => ?_⟩, .inr hstays⟩
        refine h.dispatched ((sched_of_disturbances hdist).symm.trans hsw) rfl ?_
        exact ThreadState.phase_eq_suspend.mp
          (suspend_of_disturbances hdist (ThreadState.phase_eq_suspend.mpr hsus))
      · cases hstep
    | act a =>
      simp only [Machine.step] at hstep
      split at hstep
      · next hrun =>
        obtain ⟨hok, hstays⟩ := h.act hs hrun.2 hstep fun hat hsig => hself a rfl hat rfl hsig
        exact ⟨hok, .inr hstays⟩
      · cases hstep
    | hret =>
      simp only [Machine.step] at hstep
      split at hstep
      · next hrun =>
        have hok := h.signals.resolve_left hrun.2
        unfold stepHret at hstep
        split at hstep
        · next b _ hsig =>
          cases hstep
          have hlayer := hok.inLayer hs.kernel (by rw [hsig]; simp)
          refine ⟨⟨.inr (returnHandler_signals hlayer), fun _ _ hsus => ?_⟩, .inl ⟨rfl, rfl⟩⟩
          have hstate := (handleLoop_frame (b := b) (s := s.withKernel
            { s.kernel.setError s.current .eintr with
              siginfoPool := s.kernel.siginfoPool + 1 })).2
          have herr : (s.kernel.setError s.current .eintr).state s.current = .suspend :=
            hstate.symm.trans hsus
          rw [Kernel.setError_state] at herr
          exact hlayer.state herr
        · cases hstep
      · cases hstep
    | kern =>
      have hkern := hstep
      simp only [Machine.step] at hstep
      split at hstep
      · next hrun =>
        refine ⟨(h.kern hs hrun.2 hstep hs'.kernel).1, .inr fun b n hsig => ?_⟩
        unfold stepKern at hstep
        rw [hsig] at hstep
        cases hstep
      · cases hstep
  · have hdist := step_disturbed hstep hs.kernel.ready hs.kernel.attached ht
    obtain ⟨hok, hstays⟩ := h.others hdist
    refine ⟨⟨hok, fun _ hcur => ?_⟩, .inr hstays⟩
    rcases step_switches hs hstep with heq | hns
    · exact absurd (hcur.trans heq) ht
    · rw [hcur]
      exact hns

/-! ### Closed threads and new threads -/

theorem close_of_disturbances (h : Relation.ReflTransGen (ThreadView.Disturbed owns) v v')
    (hc : v.state = .close) : v'.state = .close := by
  induction h with
  | refl => exact hc
  | tail _ hd ih =>
    cases hd with
    | granted _ hs | woken hs | signalled hs | started hs =>
      exact absurd (ih.symm.trans hs) (by simp)
    | enqueued | framed | flagged => exact ih
    | detached hne => exact absurd ih hne

/-- No step opens a closed thread. -/
theorem close_of_step (hk : KernelOk s.kernel) (hstep : s.step p i = some s')
    (hc : s.kernel.state t = .close) : s'.kernel.state t = .close := by
  have hview : (s.view t).state = .close := ThreadState.phase_eq_close.mpr hc
  by_cases ht : t = s.current
  · subst ht
    cases i with
    | tick due =>
      simp only [Machine.step] at hstep
      split at hstep
      · cases hstep
        have hdist : Relation.ReflTransGen (ThreadView.Disturbed fun _ : M => True)
            (s.view s.current) ((s.rtTickIncrease p due).view s.current) :=
          rtTickIncrease_view hk.ready hk.attached due
        exact ThreadState.phase_eq_close.mp (close_of_disturbances hdist hview)
      · cases hstep
    | act a | hret | kern =>
      simp only [Machine.step] at hstep
      split at hstep
      · next hrun => exact absurd hc hrun.2
      · cases hstep
  · exact ThreadState.phase_eq_close.mp
      (close_of_disturbances (step_disturbed hstep hk.ready hk.attached ht) hview)

/-- The thread has made no call and unmasked no signal. -/
structure Fresh (v : ThreadView T E M B V) : Prop where
  mask : ∀ n, v.thread.sigMask n = false
  state : v.state ≠ .suspend
  pending : v.thread.stat.signalPending = false
  sig : v.ctx.sig = .none
  call : v.ctx.call = none

theorem fresh_of_disturbances (h : Relation.ReflTransGen (ThreadView.Disturbed owns) v v')
    (hv : v.state = .close ∨ Fresh v) : v'.state = .close ∨ Fresh v' := by
  rcases hv with hc | hf
  · exact .inl (close_of_disturbances h hc)
  induction h with
  | refl => exact .inr hf
  | tail hs hd ih =>
    rcases ih with hc | hf
    · exact .inl (close_of_disturbances (.single hd) hc)
    have hdeaf : ∀ th : Thread, (∀ n, th.sigMask n = false) → th.deliverable = false :=
      fun th hm => by simp [Thread.deliverable, hm]
    cases hd with
    | granted _ hs | woken hs | signalled hs => exact absurd hs hf.state
    | enqueued | flagged => exact .inr ⟨hf.mask, hf.state, hf.pending, hf.sig, hf.call⟩
    | framed _ hd =>
      rw [hdeaf _ hf.mask] at hd
      cases hd
    | started hs => exact .inr ⟨hf.mask, by simp [ThreadView.state], rfl, hf.sig, hf.call⟩
    | detached _ hc => exact .inl hc

/-- As long as it executes nothing but statements that concern the kernel in no way, a new thread
stays as it is. -/
theorem fresh_of_step (hk : KernelOk s.kernel) (hv : s.kernel.state t = .close ∨ Fresh (s.view t))
    (hstep : s.step p i = some s') (hact : t = s.current → ∀ a, i = .act a → a = .local) :
    s'.kernel.state t = .close ∨ Fresh (s'.view t) := by
  have hclosed : ∀ r : Machine T E M B D V, (r.view t).state = .close ↔
      r.kernel.state t = .close := fun _ => ThreadState.phase_eq_close
  by_cases ht : t = s.current
  · subst ht
    cases i with
    | tick due =>
      simp only [Machine.step] at hstep
      split at hstep
      · cases hstep
        have hdist : Relation.ReflTransGen (ThreadView.Disturbed fun _ : M => True)
            (s.view s.current) ((s.rtTickIncrease p due).view s.current) :=
          rtTickIncrease_view hk.ready hk.attached due
        exact (fresh_of_disturbances hdist (hv.imp (hclosed s).mpr id)).imp (hclosed _).mp id
      · cases hstep
    | act a =>
      obtain rfl := hact rfl a rfl
      have hsame : s' = s := by
        simp only [Machine.step] at hstep
        split at hstep
        · unfold stepAct at hstep
          split at hstep <;> split at hstep <;> cases hstep <;> rfl
        · cases hstep
      rw [hsame]
      exact hv
    | hret =>
      simp only [Machine.step] at hstep
      split at hstep
      · next hrun =>
        have hf := hv.resolve_left hrun.2
        unfold stepHret at hstep
        rw [show (s.ctx s.current).sig = .none from hf.sig] at hstep
        cases hstep
      · cases hstep
    | kern =>
      simp only [Machine.step] at hstep
      split at hstep
      · next hrun =>
        have hf := hv.resolve_left hrun.2
        refine .inr ?_
        unfold stepKern at hstep
        rw [show (s.ctx s.current).sig = .none from hf.sig,
          show (s.ctx s.current).call = none from hf.call] at hstep
        split at hstep <;> cases hstep
        · next heq => cases heq
        · have hview : (s.callSchedule.view s.current).toView = (s.view s.current).toView :=
            hk.ready.rtSchedule_view
          have hctx : (s.callSchedule.ctx s.current).sig = (s.ctx s.current).sig ∧
              (s.callSchedule.ctx s.current).call = (s.ctx s.current).call := by
            simp [callSchedule]
          refine ⟨?_, ?_, ?_, hctx.1.trans hf.sig, hctx.2.trans hf.call⟩
          · rw [hview]
            exact hf.mask
          · rw [ThreadView.state, hview]
            exact hf.state
          · rw [hview]
            exact hf.pending
        · have hpending : (s.kernel.thread s.current).stat.signalPending = false := hf.pending
          have hafter : s.afterSwitch.kernel = s.kernel ∧
              (s.afterSwitch.ctx s.current).sig = (s.ctx s.current).sig ∧
              (s.afterSwitch.ctx s.current).call = (s.ctx s.current).call := by
            unfold afterSwitch
            rw [hpending]
            simp
          obtain ⟨hkernel, hsig, hcall⟩ := hafter
          have hview : (s.afterSwitch.view s.current).toView = (s.view s.current).toView :=
            congrArg (Kernel.view · s.current) hkernel
          refine ⟨?_, ?_, ?_, hsig.trans hf.sig, hcall.trans hf.call⟩
          · rw [hview]
            exact hf.mask
          · rw [ThreadView.state, hview]
            exact hf.state
          · rw [hview]
            exact hf.pending
        · next hsome => cases hsome
      · cases hstep
  · exact (fresh_of_disturbances (step_disturbed hstep hk.ready hk.attached ht)
      (hv.imp (hclosed s).mpr id)).imp (hclosed _).mp id

end Machine

end RobotVacuum
