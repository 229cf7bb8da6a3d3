import RobotVacuum.Machine.View

/-!
# Calls and mailboxes

A call is the business of the thread that makes it: what it is inside of, the result of its last
call and the mail it received last (`Machine.calls`) are changed by its own steps only, and the
mails are only touched where a thread sends or receives one (`step_mailbox`).
-/

set_option linter.unusedSectionVars false

namespace RobotVacuum

namespace Machine

variable {T E M B D V : Type} [DecidableEq T] [DecidableEq E] [DecidableEq M] [DecidableEq B]
  [DecidableEq D]

/-- The call a thread is inside of, the result of its last call and the last mail. -/
def calls (s : Machine T E M B D V) (t : T) : Option (Call T E M B) × RtErr × Option V :=
  ((s.ctx t).call, (s.ctx t).ret, (s.ctx t).mail)

variable {p : Platform T E M D} {s s' : Machine T E M B D V} {t x : T}
  {k : Kernel T (WaitQueue E M B)} {f : Ctx T E M B V → Ctx T E M B V} {b : B} {w : Bool}

/-! ### The basic updates -/

theorem setCtx_calls (hf : ∀ c, ((f c).call, (f c).ret, (f c).mail) = (c.call, c.ret, c.mail)) :
    (s.setCtx x f).calls t = s.calls t := by
  unfold calls setCtx
  by_cases ht : t = x
  · subst ht
    simpa using hf (s.ctx t)
  · simp [ht]

theorem setCtx_calls_of_ne (ht : t ≠ x) : (s.setCtx x f).calls t = s.calls t := by
  unfold calls setCtx
  simp [ht]

@[simp] theorem withKernel_calls : (s.withKernel k).calls t = s.calls t := rfl
@[simp] theorem reschedule_calls : s.reschedule.calls t = s.calls t := setCtx_calls fun _ => rfl

@[simp] theorem setTimer_calls {d : D} {y : RtTimer} : (s.setTimer d y).calls t = s.calls t := by
  unfold setTimer
  split <;> rfl

@[simp] theorem grant_calls {l : List T} : (s.grant l).calls t = s.calls t := by
  unfold calls grant
  dsimp only
  split <;> rfl

@[simp] theorem rtEventSend_calls {e : E} {set : BitVec 32} :
    (s.rtEventSend e set).1.calls t = s.calls t := by
  unfold rtEventSend
  rw [grant_calls]
  rfl

/-! ### Steps of the kernel's own -/

/-- Signal handling, scheduling and ticks change no call. -/
theorem handleLoop_calls {c : Bool} : (s.handleLoop c).calls t = s.calls t := by
  unfold handleLoop
  dsimp only
  split
  · split <;> exact setCtx_calls (by exact fun _ => rfl)
  · exact setCtx_calls (by exact fun _ => rfl)

theorem handleLoop_mailbox {c : Bool} : (s.handleLoop c).mailbox = s.mailbox := by
  unfold handleLoop
  dsimp only
  split
  · split <;> rfl
  · rfl

theorem enterHandleSig_calls {c : Bool} : (s.enterHandleSig c).calls t = s.calls t := by
  unfold enterHandleSig
  dsimp only
  split
  · exact handleLoop_calls
  · split
    · exact setCtx_calls (by exact fun _ => rfl)
    · exact setCtx_calls (by exact fun _ => rfl)

theorem enterHandleSig_mailbox {c : Bool} : (s.enterHandleSig c).mailbox = s.mailbox := by
  unfold enterHandleSig
  dsimp only
  split
  · exact handleLoop_mailbox
  · split <;> rfl

theorem afterSwitch_calls : s.afterSwitch.calls t = s.calls t := by
  unfold afterSwitch
  split
  · exact setCtx_calls (by exact fun _ => rfl)
  · exact setCtx_calls (by exact fun _ => rfl)

theorem afterSwitch_mailbox : s.afterSwitch.mailbox = s.mailbox := by
  unfold afterSwitch
  split <;> rfl

theorem callSchedule_calls : s.callSchedule.calls t = s.calls t := by
  unfold callSchedule
  exact setCtx_calls (by exact fun _ => rfl)

theorem rtTickIncrease_calls {due : List D} : (s.rtTickIncrease p due).calls t = s.calls t ∧
    (s.rtTickIncrease p due).mailbox = s.mailbox := by
  have hfold : ∀ (l : List D) (s : Machine T E M B D V),
      (l.foldl (rtTimerTimeout p) s).calls t = s.calls t ∧
        (l.foldl (rtTimerTimeout p) s).mailbox = s.mailbox := fun l => by
    induction l with
    | nil => exact fun s => ⟨rfl, rfl⟩
    | cons d l ih =>
      intro s
      obtain ⟨hcalls, hmailbox⟩ := ih (rtTimerTimeout p s d)
      rw [List.foldl_cons, hcalls, hmailbox]
      unfold rtTimerTimeout
      dsimp only
      split
      · exact ⟨by rw [withKernel_calls, rtEventSend_calls], rfl⟩
      · exact ⟨rtEventSend_calls, rfl⟩
  exact hfold due _

/-! ### Calls -/

/-- A thread is inside `rt_mb_recv`. -/
def Receives (s : Machine T E M B D V) (t : T) (b : B) (w : Bool) (stage : MailStage) : Prop :=
  (s.ctx t).call = some (.mbRecv b w stage)

/-- A step of a thread inside another call changes no call of another thread and no mailbox, and
does not enter `rt_mb_recv`. -/
structure InCall (s s' : Machine T E M B D V) : Prop where
  others : ∀ t, t ≠ s.current → s'.calls t = s.calls t
  mailbox : s'.mailbox = s.mailbox
  receives : ∀ b w stage, s'.Receives s.current b w stage → s.Receives s.current b w stage

theorem InCall.withKernel : InCall s (s.withKernel k) := ⟨fun _ _ => rfl, rfl, fun _ _ _ => id⟩

theorem InCall.setMutex {m : M} {y : Mutex T} : InCall s (s.setMutex m y) :=
  ⟨fun _ _ => rfl, rfl, fun _ _ _ => id⟩

theorem InCall.setCtx (hf : ∀ b w stage, (f (s.ctx s.current)).call = some (.mbRecv b w stage) →
    s.Receives s.current b w stage) : InCall s (s.setCtx s.current f) :=
  ⟨fun _ ht => setCtx_calls_of_ne ht, rfl, fun b w stage h => hf b w stage (by
    simpa [Receives, Machine.setCtx] using h)⟩

theorem InCall.setCall {c : Call T E M B} (hc : ∀ b w stage, c ≠ .mbRecv b w stage) :
    InCall s (s.setCall c) :=
  .setCtx fun b w stage h => absurd (Option.some.inj h) (hc b w stage)

theorem InCall.finish {r : RtErr} : InCall s (s.finish r) := .setCtx fun _ _ _ h => by cases h

theorem InCall.reschedule : InCall s s.reschedule := .setCtx fun _ _ _ h => h

theorem InCall.trans {s'' : Machine T E M B D V} (h : InCall s s') (hcur : s'.current = s.current)
    (h' : InCall s' s'') : InCall s s'' :=
  ⟨fun t ht => (h'.others t (hcur ▸ ht)).trans (h.others t ht), h'.mailbox.trans h.mailbox,
    fun b w stage hr => h.receives b w stage (hcur ▸ h'.receives b w stage (hcur.symm ▸ hr))⟩

/-- A change of the kernel that leaves the running thread alone, before the rest of a step. -/
theorem InCall.after {s₁ : Machine T E M B D V} (hk : k.currentThread = s.current)
    (h : InCall (s.withKernel k) s₁) : InCall s s₁ := InCall.withKernel.trans hk h

/-- `rt_mb_recv` took the oldest mail out of a mailbox. -/
structure Took (s s' : Machine T E M B D V) (b : B) : Prop where
  entry : (s.mailbox b).entry ≠ 0
  others : ∀ t, t ≠ s.current → s'.calls t = s.calls t
  mailbox : s'.mailbox = Function.update s.mailbox b (s.mailbox b).take.1
  received : s'.calls s.current = (none, .eok, some (s.mailbox b).take.2)

theorem step_own {a : Act T E M B D V} (h : s.step p (.act a) = some s')
    (hsig : ∀ c n, (s.ctx s.current).sig ≠ .running c n) : s.AtUser ∧ s' = s.perform p a := by
  simp only [step] at h
  split at h
  · unfold stepAct at h
    split at h
    · next c n hrun => exact absurd hrun (hsig c n)
    · split at h
      · next hat => exact ⟨hat.1, (Option.some.inj h).symm⟩
      · cases h
  · cases h

/-- A statement of a handler. -/
theorem step_handler {a : Act T E M B D V} {c : Bool} {n : Signo}
    (h : s.step p (.act a) = some s') (hsig : (s.ctx s.current).sig = .running c n) :
    (∀ t, s'.calls t = s.calls t) ∧ s'.mailbox = s.mailbox := by
  simp only [step] at h
  split at h
  · unfold stepAct at h
    rw [hsig] at h
    dsimp only at h
    split at h
    · next ha =>
      cases h
      obtain ⟨ha, -⟩ := ha
      cases a <;> simp only [Act.inHandler, Bool.false_eq_true] at ha <;> exact ⟨fun _ => rfl, rfl⟩
    · cases h
  · cases h

theorem step_hret (h : s.step p .hret = some s') :
    (∀ t, s'.calls t = s.calls t) ∧ s'.mailbox = s.mailbox := by
  simp only [step] at h
  split at h
  · unfold stepHret at h
    split at h
    · cases h
      exact ⟨fun _ => handleLoop_calls, handleLoop_mailbox⟩
    · cases h
  · cases h

theorem step_tick {due : List D} (h : s.step p (.tick due) = some s') :
    (∀ t, s'.calls t = s.calls t) ∧ s'.mailbox = s.mailbox := by
  simp only [step] at h
  split at h
  · cases h
    exact ⟨fun _ => rtTickIncrease_calls.1, (rtTickIncrease_calls (t := s.current)).2⟩
  · cases h

/-- A step inside the kernel handles signals, schedules or is a step of the call. -/
theorem step_kern (h : s.step p .kern = some s') :
    ((∀ t, s'.calls t = s.calls t) ∧ s'.mailbox = s.mailbox) ∨
      ∃ c, (s.ctx s.current).call = some c ∧ s' = s.stepCall p c := by
  simp only [step] at h
  split at h
  · unfold stepKern at h
    split at h <;> cases h
    · exact .inl ⟨fun _ => enterHandleSig_calls, enterHandleSig_mailbox⟩
    · exact .inl ⟨fun _ => callSchedule_calls, rfl⟩
    · exact .inl ⟨fun _ => afterSwitch_calls, afterSwitch_mailbox⟩
    · next c _ _ hc => exact .inr ⟨c, hc, rfl⟩
  · cases h

/-- What a statement of a thread leaves alone: the calls of the others, the mailboxes unless it
sends, and the thread receives only if it says so. -/
structure Performed (s : Machine T E M B D V) (a : Act T E M B D V) (s' : Machine T E M B D V) :
    Prop where
  others : ∀ t, t ≠ s.current → s'.calls t = s.calls t
  mailbox : (∀ b v, a ≠ .mbSend b v) → s'.mailbox = s.mailbox
  receives : ∀ b w stage, s'.Receives s.current b w stage → a = .mbRecv b w ∧ stage = .enter

theorem Performed.of_calls {a : Act T E M B D V} (hnone : (s.ctx s.current).call = none)
    (hcalls : ∀ t, s'.calls t = s.calls t) (hmb : s'.mailbox = s.mailbox) : Performed s a s' := by
  refine ⟨fun t _ => hcalls t, fun _ => hmb, fun b w stage h => ?_⟩
  have hcall : (s'.ctx s.current).call = (s.ctx s.current).call :=
    congrArg Prod.fst (hcalls s.current)
  rw [Receives, hcall, hnone] at h
  cases h

theorem Performed.of_inCall {a : Act T E M B D V} (hnone : (s.ctx s.current).call = none)
    (h : InCall s s') : Performed s a s' := by
  refine ⟨h.others, fun _ => h.mailbox, fun b w stage hr => ?_⟩
  have hr' := h.receives b w stage hr
  rw [Receives, hnone] at hr'
  cases hr'

theorem inCall_setRet {r : RtErr} : InCall s (s.setRet r) :=
  .setCtx (by exact fun _ _ _ h => h)

theorem performed {a : Act T E M B D V} (hnone : (s.ctx s.current).call = none) :
    Performed s a (s.perform p a) := by
  have begins : ∀ c : Call T E M B, (∀ b w stage, c ≠ .mbRecv b w stage) →
      Performed s a (s.beginCall c) := fun c hc =>
    .of_inCall hnone (.setCtx fun b w stage h => absurd (Option.some.inj h) (hc b w stage))
  cases a with
  | «local» => exact .of_calls hnone (fun _ => rfl) rfl
  | recv e set option =>
    simp only [perform]
    split
    · exact .of_inCall hnone inCall_setRet
    · exact begins _ fun _ _ _ h => (by cases h)
  | send e set =>
    have hsend : InCall s (s.rtEventSend e set).1 :=
      ⟨fun _ _ => rtEventSend_calls, rfl, fun b w stage h => by
        have hcall : ((s.rtEventSend e set).1.ctx s.current).call = (s.ctx s.current).call :=
          congrArg Prod.fst (rtEventSend_calls (t := s.current))
        exact hcall.symm.trans h⟩
    simp only [perform]
    split
    · exact .of_inCall hnone inCall_setRet
    · split
      · exact .of_inCall hnone
          ((hsend.trans rtEventSend_current inCall_setRet).trans rtEventSend_current .reschedule)
      · exact .of_inCall hnone (hsend.trans rtEventSend_current inCall_setRet)
  | take m => exact begins _ fun _ _ _ h => (by cases h)
  | release m =>
    have hrelease : InCall s (((s.withKernel (s.kernel.rtMutexRelease (s.mutex m) (.mutex m)
        (p.originalAddr m)).1).setMutex m (s.kernel.rtMutexRelease (s.mutex m) (.mutex m)
        (p.originalAddr m)).2.1).setRet (s.kernel.rtMutexRelease (s.mutex m) (.mutex m)
        (p.originalAddr m)).2.2.1) :=
      .after (by simp) (InCall.setMutex.trans rfl inCall_setRet)
    simp only [perform]
    split
    · exact .of_inCall hnone (hrelease.trans (by simp) .reschedule)
    · exact .of_inCall hnone hrelease
  | mbSend b v =>
    have hsend : InCall ({ s with
        mailbox := Function.update s.mailbox b ((s.mailbox b).rtMbSend v).1 } :
          Machine T E M B D V) (s.perform p (.mbSend b v)) := by
      simp only [perform]
      split
      · exact (inCall_setRet.trans rfl .withKernel).trans (by simp) .reschedule
      · exact inCall_setRet
    refine ⟨hsend.others, fun h => absurd rfl (h b v), fun b' w stage h => ?_⟩
    exact absurd (hnone.symm.trans (hsend.receives b' w stage h)) (by simp)
  | mbRecv b w =>
    refine ⟨fun t ht => ?_, fun _ => rfl, fun b' w' stage h => ?_⟩
    · show (s.beginCall (.mbRecv b w .enter)).calls t = s.calls t
      exact setCtx_calls_of_ne ht
    simp only [perform, beginCall, Receives, setCtx, Function.update_self, Option.some.injEq,
      Call.mbRecv.injEq] at h
    obtain ⟨rfl, rfl, rfl⟩ := h
    exact ⟨rfl, rfl⟩
  | kill tid n => exact .of_inCall hnone (.setCall (by exact fun _ _ _ h => by cases h))
  | mask n => exact .of_calls hnone (fun _ => rfl) rfl
  | unmask n =>
    simp only [perform, rtSignalUnmask]
    split
    · exact .of_inCall hnone (.after (by rfl) (.setCall (by exact fun _ _ _ h => by cases h)))
    · exact .of_calls hnone (fun _ => rfl) rfl
  | control t arg => exact .of_calls hnone (fun _ => rfl) rfl
  | setPreemptableFlag t b => exact .of_calls hnone (fun _ => rfl) rfl
  | startup t => exact .of_calls hnone (fun _ => reschedule_calls) rfl
  | detach t => exact .of_inCall hnone (.after (by simp) inCall_setRet)
  | exit => exact .of_calls hnone (fun _ => rfl) rfl
  | timerStart d | timerStop d | timerDetach d =>
    refine .of_calls hnone (fun _ => setTimer_calls) ?_
    simp only [perform, setTimer]
    split <;> rfl
  | setTaskStarted n => exact .of_calls hnone (fun _ => rfl) rfl
  | setTaskEnded => exact .of_calls hnone (fun _ => rfl) rfl

/-- Sending a mail. -/
theorem perform_mbSend_mailbox {v : V} : (s.perform p (.mbSend b v)).mailbox =
    Function.update s.mailbox b ((s.mailbox b).rtMbSend v).1 := by
  simp only [perform]
  split <;> rfl

end Machine

end RobotVacuum
