import RobotVacuum.Application.Restart
import RobotVacuum.Machine.Sending

/-!
# Obstacles are applied in time

Every signal that Task1 sends to Task2 and that is not merged with a pending one runs the obstacle
handler once, before Task2 executes its next statement (`obstacles_applied`). The one exception is a
signal that reaches Task2 after it has queued itself to wait and before it has been switched out:
the scheduler then finds Task2 ready again, returns without a switch and does not look at the
pending mark (`obstacle_not_applied`).
-/

namespace RobotVacuum

open History (Outstanding not_outstanding_nil)
open Machine (SchedOk Owes Accepts QueueOk SendStep QueueStep)

namespace App

variable {a : Addresses} {s s' : App} {i : Label} {t : Task} {input : Input} {n : ℕ}

/-- Task1 finds that the signal it sends is not pending. -/
def accepts (s s' : App) : Bool :=
  decide (Accepts s.machine s'.machine .obstacleControl .movementControl .sigusr1)

/-- All runs, with the number of signals from Task1 to Task2 that were not merged. -/
def signalledRuns (a : Addresses) : Automaton (App × ℕ) Label := (runs a).counting accepts

/-- A signal that is delivered to a waiting Task2 finds it switched out, and there is a node for
every signal Task1 sends. -/
structure Noticeable (s : App) (i : Label) : Prop where
  switched : i = .kern →
    (∃ n, (s.ctx s.machine.current).call = some (.kill .movementControl n .deliver)) →
    s.machine.kernel.state .movementControl = .suspend → (s.ctx .movementControl).sched = .switched
  node : i = .kern → s.machine.current = .obstacleControl → ¬s.machine.LacksNode

/-- Every obstacle was applied before Task2 goes on. -/
structure ObstaclesApplied (s : App) (n : ℕ) : Prop where
  /-- No handler runs that was not called for. -/
  bounded : s.log.count .handled ≤ n
  /-- When Task2 executes a statement of its own, the handler ran once for each signal. -/
  applied : s.machine.current = .movementControl → s.machine.AtUser →
    s.machine.kernel.state .movementControl ≠ .close →
    (s.machine.kernel.thread .movementControl).sigMask .sigusr1 = true →
    (∀ stage, (s.ctx .obstacleControl).call ≠ some (.kill .movementControl .sigusr1 stage)) →
    s.log.count .handled = n ∧ ¬Outstanding .reported .handled s.log

/-! ### Who signals Task2 -/

/-- Only Task1 calls `rt_thread_kill` for Task2; Task2 may be in the delivery for itself that
unmasking its signal starts. -/
def SendersOk (s : App) : Prop := ∀ x n stage,
  (s.ctx x).call = some (.kill .movementControl n stage) →
    x = .obstacleControl ∧ n = .sigusr1 ∨ x = .movementControl ∧ stage = .deliver

theorem statement_kill {n : Signo} (h : (s.statement input t).1 = .kill .movementControl n) :
    t = .obstacleControl ∧ n = .sigusr1 := by
  cases t with
  | obstacleControl =>
    simp only [statement, obstacleStatement] at h
    split at h <;> (try split at h) <;> cases h
    exact ⟨rfl, rfl⟩
  | main =>
    simp only [statement, mainStatement] at h
    split at h <;> (try split at h) <;> cases h
  | tsystem =>
    simp only [statement, systemStatement] at h
    split at h <;> (try split at h) <;> cases h
  | movementStop =>
    simp only [statement, stopStatement] at h
    split at h <;> (try split at h) <;> cases h
  | movementControl =>
    simp only [statement, movementStatement] at h
    split at h <;> (try split at h) <;> cases h
  | checkResources =>
    simp only [statement, resourcesStatement] at h
    split at h <;> (try split at h) <;> cases h
  | acousticSignals =>
    simp only [statement, acousticStatement] at h
    split at h <;> (try split at h) <;> cases h
  | brushesSpeed =>
    simp only [statement, brushesStatement] at h
    split at h <;> (try split at h) <;> cases h
  | idle => cases h

theorem handlerStatement_kill {x : Handler} {act : RobotAct} {s₁ : App} {n : Signo}
    (h : s.handlerStatement x = some (act, s₁)) : act ≠ .kill .movementControl n := by
  rintro rfl
  cases x with
  | default => cases h
  | obstacle =>
    obtain ⟨_, _, _, _, _, _, hact, -⟩ := obstacleHandlerStatement_owns h
    cases hact
  | turnOff =>
    simp only [handlerStatement, turnOffStatement] at h
    split at h <;> cases h

/-- What the machine does in a step of the application. -/
theorem Moves.machine (hm : Moves a s i s') : ∃ l, s.machine.step (platform a) l = some s'.machine ∧
    (l = .kern → i = .kern) ∧ ∀ n, l = .act (.kill .movementControl n) →
      s.machine.current = .obstacleControl ∧ n = .sigusr1 := by
  cases hm with
  | own hex hstep =>
    refine ⟨_, hstep, by simp, fun n hl => ?_⟩
    simp only [Machine.Label.act.injEq] at hl
    exact statement_kill hl
  | handler hsig hh hstep =>
    refine ⟨_, hstep, by simp, fun n hl => ?_⟩
    simp only [Machine.Label.act.injEq] at hl
    exact absurd hl (handlerStatement_kill hh)
  | returned hsig hh hstep => exact ⟨_, hstep, by simp, by simp⟩
  | kern hstep => exact ⟨_, hstep, fun _ => rfl, by simp⟩
  | tick hstep => exact ⟨_, hstep, by simp, by simp⟩

theorem SendersOk.step (h : SendersOk s) (hs : SchedOk s.machine) (hm : Moves a s i s') :
    SendersOk s' := by
  intro x n stage hcall
  obtain ⟨l, hstep, -, hkill⟩ := hm.machine
  rcases Machine.kill_of_step hs hstep hcall with hold | ⟨hx, ⟨hl, -⟩ | ⟨-, hself, hdel⟩ |
    ⟨stage', hold, hne, -⟩⟩
  · exact h x n stage hold
  · obtain ⟨hcur, hn⟩ := hkill n hl
    exact .inl ⟨hx.trans hcur, hn⟩
  · exact .inr ⟨hself.symm, hdel⟩
  · exact (h x n stage' hold).imp id fun h => absurd h.2 hne

theorem SendersOk.owes (h : SendersOk s) {y : Task} {m : Signo}
    (ho : s.machine.Owes y .movementControl m) : y = .obstacleControl ∧ m = .sigusr1 := by
  rcases ho with ho | ho
  · exact (h _ _ _ ho).resolve_right (by simp)
  · exact (h _ _ _ ho).resolve_right (by simp)

/-! ### The signal of Task2 -/

/-- What holds of the signals of Task2. -/
structure SignalInv (s : App) : Prop where
  installed : s.movementPc.uninstalled = true ∨ s.handler .movementControl .sigusr1 = .obstacle
  only : s.handler .movementControl .sigusr2 ≠ .obstacle
  senders : SendersOk s
  notices : s.machine.kernel.state .movementControl = .close ∨ s.machine.Notices .movementControl
  queue : s.machine.kernel.state .movementControl = .close ∨
    s.machine.QueueOk .obstacleControl .movementControl .sigusr1
  awaited : Outstanding .reported .handled s.log → s.Awaited

/-! ### What the log says -/

/-- Only Task1 reports an obstacle, when it is about to send the signal. -/
theorem statement_reported (s : App) (input : Input) (t : Task) :
    ∃ l, (s.statement input t).2.log = s.log ++ l ∧ (.reported ∈ l →
      t = .obstacleControl ∧ (s.statement input t).1 = .kill .movementControl .sigusr1) := by
  by_cases ht : t = .movementControl
  · subst ht
    rcases movementStatement_log (s := s) with ⟨-, -, hlog⟩ | ⟨-, hlog, -⟩ |
      ⟨l, hlog, ⟨hl, -, -⟩, -⟩
    · exact ⟨_, hlog, by simp⟩
    · exact ⟨_, hlog, by simp⟩
    · exact ⟨_, hlog, fun hmem => absurd hmem hl⟩
  · obtain ⟨l, hlog, -, hreported, -⟩ := statement_log (s := s) input ht
    exact ⟨l, hlog, hreported⟩

theorem movementStatement_sigusr2 : s.movementStatement.2.handler .movementControl .sigusr2 =
    s.handler .movementControl .sigusr2 := by
  by_cases hat : s.movementPc = .install
  · simp [movementStatement, hat]
  · rw [movementStatement_handler hat]

/-- The two statements of the obstacle handler. -/
theorem obstacleHandlerStatement_log {act : RobotAct} {s₁ : App}
    (h : s.obstacleHandlerStatement = some (act, s₁)) :
    s.handlerPc = .mark ∧ s₁.handlerPc = .revert ∧ s₁.log = s.log ++ [.handled] ∨
      s.handlerPc = .revert ∧ s₁.handlerPc = .ret ∧ s₁.log = s.log := by
  unfold obstacleHandlerStatement at h
  split at h <;> cases h
  · next hmark =>
    obtain ⟨_, heq⟩ := accessMap_eq (s := s) s.position
    exact .inl ⟨hmark, rfl, by simp [setTile, record, heq]⟩
  · next hrevert => exact .inr ⟨hrevert, rfl, rfl⟩

/-! ### All runs -/

/-- The machine's part of a step. -/
theorem SignalInv.machine (h : SignalInv s) (hinv : HandlerInv s) (hok : s.Noticeable i)
    (hm : Moves a s i s') : SendersOk s' ∧
      (s'.machine.kernel.state .movementControl = .close ∨ s'.machine.Notices .movementControl) ∧
      (s'.machine.kernel.state .movementControl = .close ∨
        s'.machine.QueueOk .obstacleControl .movementControl .sigusr1) := by
  obtain ⟨l, hstep, hkern, -⟩ := hm.machine
  refine ⟨h.senders.step hinv.sched hm, ?_, ?_⟩
  · exact Machine.Notices.step h.notices hinv.sched hinv.handling hstep
      fun hl => hok.switched (hkern hl)
  · rcases h.queue with hc | hq
    · exact .inl (Machine.close_of_step hinv.sched.kernel hstep hc)
    · exact hq.step hinv.sched hstep (fun hl hcur => hok.node (hkern hl) hcur.symm)
        fun y m => h.senders.owes

/-- A step that keeps Task2's handler, with the signals it adds to the log. -/
theorem SignalInv.grow (h : SignalInv s) (hinv : HandlerInv s) (hok : s.Noticeable i)
    (hm : Moves a s i s')
    (hinstalled : s'.movementPc.uninstalled = true ∨
      s'.handler .movementControl .sigusr1 = .obstacle)
    (honly : s'.handler .movementControl .sigusr2 = s.handler .movementControl .sigusr2)
    (hawaited : Outstanding .reported .handled s'.log → s'.Awaited) : SignalInv s' := by
  obtain ⟨hsenders, hnotices, hqueue⟩ := h.machine hinv hok hm
  exact ⟨hinstalled, honly ▸ h.only, hsenders, hnotices, hqueue, hawaited⟩

theorem SignalInv.step (h : SignalInv s) (hinv : HandlerInv s) (hok : s.Noticeable i)
    (hm : Moves a s i s') : SignalInv s' := by
  have hmoves := hm
  cases hm with
  | @own input m hex hstep =>
    obtain ⟨-, -, hstays⟩ := hinv.machine hstep fun act hl hat hcur hsig => by
      cases hl
      rw [← hcur] at hsig
      exact starting_of_signalsSelf hsig
    have hstays := hstays.resolve_left (by simp)
    refine h.grow hinv hok hmoves ?_ ?_ fun ho => ?_
    · by_cases hcur : s.machine.current = .movementControl
      · rw [hcur]
        exact movementStatement_installed h.installed
      · have hsame : LeavesTask2 s (s.statement input s.machine.current).2 :=
          statement_leavesTask2 hcur
        exact h.installed.imp (fun hu => hsame.pc ▸ hu) fun hobs => (hsame.handler _).trans hobs
    · by_cases hcur : s.machine.current = .movementControl
      · rw [hcur]
        exact movementStatement_sigusr2
      · exact (statement_leavesTask2 hcur).handler _
    · obtain ⟨l, hlog, hreported⟩ := statement_reported s input s.machine.current
      have ho : Outstanding .reported .handled (s.log ++ l) := hlog ▸ ho
      by_cases hmem : .reported ∈ l
      · -- Task1 is about to queue the signal
        obtain ⟨ht, hact⟩ := hreported hmem
        obtain ⟨-, rfl⟩ := Machine.step_own hstep hex.2
        rw [hact]
        refine .inr (.inl (.inl ⟨.check, ?_, by simp⟩))
        rw [← ht]
        simp [withMachine, Machine.perform, Machine.setCall]
      · have hawaited := h.awaited (ho.of_append hmem).1
        refine hawaited.machine hinv hstep (fun _ b => hstays b _) (by simp) (fun hmark => ?_)
          (by simp)
        by_cases hcur : s.machine.current = .movementControl
        · rw [hcur]
          exact movementStatement_handlers.1.trans hmark
        · exact (statement_leavesTask2 hcur).handlerPc.trans hmark
  | @handler input m b n act s₁ hsig hst hstep =>
    obtain ⟨-, -, hstays⟩ := hinv.machine hstep fun _ _ hat => by
      have hnone : (s.ctx s.machine.current).sig = .none := hat.1
      rw [hsig] at hnone
      cases hnone
    have hstays := hstays.resolve_left (by simp)
    generalize hx : s.handler s.machine.current n = x at hst
    cases x with
    | default => cases hst
    | obstacle =>
      obtain ⟨_, _, _, _, _, l, -, hs₁⟩ := obstacleHandlerStatement_owns hst
      refine h.grow hinv hok hmoves (by rw [hs₁]; exact h.installed) (by rw [hs₁]; rfl)
        fun ho => ?_
      rcases obstacleHandlerStatement_log hst with ⟨-, -, hlog⟩ | ⟨hrevert, -, hlog⟩
      · -- the obstacle is handled now
        have ho : Outstanding .reported .handled (s.log ++ [.handled]) := hlog ▸ ho
        exact absurd (List.mem_singleton_self _) (ho.of_append (by simp)).2
      · have hawaited := h.awaited (hlog ▸ ho)
        refine hawaited.machine hinv hstep (fun _ b => hstays b _) (by simp) (fun hmark => ?_)
          (by simp)
        rw [hrevert] at hmark
        cases hmark
    | turnOff =>
      obtain ⟨_, _, rfl⟩ := turnOffStatement_owns hst
      refine h.grow hinv hok hmoves h.installed rfl fun ho => ?_
      exact (h.awaited ho).machine hinv hstep (fun _ b => hstays b _) (by simp) id (by simp)
  | @returned input m b n hsig hst hstep =>
    have hopen := open_of_step hstep (by simp)
    have hstarted := hinv.not_starting hsig hopen
    obtain ⟨-, -, hstays⟩ := hinv.machine hstep fun _ hl => by cases hl
    obtain ⟨hpc, hhandler, hkept⟩ := resetHandler_handlers (s := s)
      (x := s.handler s.machine.current n)
    refine h.grow hinv hok hmoves ?_ (congrFun (congrFun hhandler _) _) fun ho => ?_
    · refine h.installed.imp (fun hu => hpc ▸ hu) fun hobs => ?_
      exact (congrFun (congrFun hhandler _) _).trans hobs
    have ho : Outstanding .reported .handled s.log := by
      have hlog : (s.resetHandler (s.handler s.machine.current n)).log = s.log := by
        unfold resetHandler
        split <;> rfl
      exact hlog ▸ ho
    refine (h.awaited ho).machine hinv hstep (fun hmark b' hrun => ?_) (by simp) (fun hmark => ?_)
      fun _ hcur => hinv.reset_mark hsig hopen hcur
    · by_cases hcur : s.machine.current = .movementControl
      · -- the handler has not begun, so it does not return
        have hobs := h.installed.resolve_left fun hu =>
          hstarted (MovementPc.starting_of_uninstalled hu) hcur.symm
        rw [hcur] at hsig hst
        obtain ⟨-, rfl⟩ := SigLayer.running.inj (hsig.symm.trans hrun)
        rw [hobs] at hst
        simp [handlerStatement, obstacleHandlerStatement, hmark] at hst
      · exact hstays.resolve_left (fun hret => hcur hret.2) b' _ hrun
    · exact hkept.elim id fun hkept => hkept.2.trans hmark
  | @kern m hstep =>
    obtain ⟨-, -, hstays⟩ := hinv.machine hstep fun _ hl => by cases hl
    have hstays := hstays.resolve_left (by simp)
    refine h.grow hinv hok hmoves h.installed rfl fun ho => ?_
    exact (h.awaited ho).machine hinv hstep (fun _ b => hstays b _) (fun _ => hok.node rfl) id
      (by simp)
  | @tick due m hstep =>
    obtain ⟨-, -, hstays⟩ := hinv.machine hstep fun _ hl => by cases hl
    have hstays := hstays.resolve_left (by simp)
    refine h.grow hinv hok hmoves h.installed rfl fun ho => ?_
    exact (h.awaited ho).machine hinv hstep (fun _ b => hstays b _) (by simp) id (by simp)

theorem SignalInv.initial {b : Boot} : SignalInv (initial b) where
  installed := .inl rfl
  only h := by cases h
  senders x n stage h := by cases h
  notices := .inr
    { queued := fun n h => by cases h
      noWait := rfl
      entry := fun b h => by cases h
      marked := fun h => by cases h
      bit := fun h => by cases h
      noticed := fun h => by cases h }
  queue := .inr
    { pending := fun h => by cases h
      once := Nat.zero_le 1
      fresh := fun _ h => by cases h }
  awaited ho := absurd ho not_outstanding_nil

/-! ### Counting -/

/-- The handler of SIGUSR1 has been called, and has not marked the tile yet. -/
def toMark (s : App) : ℕ :=
  match (s.ctx .movementControl).sig, s.handlerPc with
  | .running _ .sigusr1, .mark => 1
  | _, _ => 0

theorem toMark_running {b : Bool} (hsig : (s.ctx .movementControl).sig = .running b .sigusr1) :
    s.toMark = if s.handlerPc = .mark then 1 else 0 := by
  unfold toMark
  rw [hsig]
  cases s.handlerPc <;> rfl

theorem toMark_eq_zero (h : ∀ b, (s.ctx .movementControl).sig ≠ .running b .sigusr1) :
    s.toMark = 0 := by
  unfold toMark
  split
  · exact absurd ‹(s.ctx .movementControl).sig = _› (h _)
  · rfl

/-- Task2 stays where it is in its handler. -/
theorem toMark_eq (hpc : s'.handlerPc = s.handlerPc)
    (hold : ∀ b, (s'.ctx .movementControl).sig = .running b .sigusr1 →
      (s.ctx .movementControl).sig = .running b .sigusr1)
    (hnew : ∀ b, (s.ctx .movementControl).sig = .running b .sigusr1 →
      (s'.ctx .movementControl).sig = .running b .sigusr1) : s'.toMark = s.toMark := by
  by_cases h : ∃ b, (s.ctx .movementControl).sig = .running b .sigusr1
  · obtain ⟨b, hb⟩ := h
    rw [toMark_running hb, toMark_running (hnew b hb), hpc]
  · rw [toMark_eq_zero fun b hb => h ⟨b, hb⟩, toMark_eq_zero fun b hb => h ⟨b, hold b hb⟩]

/-- The signals that are accepted and not handled yet. -/
def unhandled (s : App) : ℕ :=
  s.machine.awaited .obstacleControl .movementControl .sigusr1 + s.toMark

theorem accepts_eq : (if accepts s s' then 1 else 0) =
    if Accepts s.machine s'.machine .obstacleControl .movementControl .sigusr1 then 1 else 0 := by
  simp [accepts]

/-- What a step does to the signals that are not handled yet. -/
structure UnhandledStep (s s' : App) : Prop where
  handled : s'.log.count .handled = s.log.count .handled ∨
    s.machine.kernel.state .movementControl ≠ .close ∧
      s'.log.count .handled = s.log.count .handled + s.toMark
  balance : s'.machine.kernel.state .movementControl = .close ∨
    s'.log.count .handled + s'.unhandled =
      s.log.count .handled + s.unhandled + if accepts s s' then 1 else 0

section Step

variable {m : RobotMachine} {l : Machine.Label Task EventId MutexId MailboxId TimerId String}

/-- A step in which neither the handler begins nor the log says that it did. -/
theorem UnhandledStep.kept (hs : m.kernel.state .movementControl = .close ∨
      Machine.SignalStep s.machine l m .obstacleControl .movementControl .sigusr1)
    (hl : .movementControl = s.machine.current → l ≠ .hret ∧ l ≠ .kern)
    (hlog : s'.log.count .handled = s.log.count .handled) (hpc : s'.handlerPc = s.handlerPc)
    (hstays : ∀ b n, (s.ctx .movementControl).sig = .running b n →
      m.kernel.state .movementControl = .close ∨ (m.ctx .movementControl).sig = .running b n) :
    UnhandledStep s (s'.withMachine m) where
  handled := .inl hlog
  balance := by
    rcases hs with hc | hs
    · exact .inl hc
    by_cases hc : m.kernel.state .movementControl = .close
    · exact .inl hc
    refine .inr ?_
    have hlog : (s'.withMachine m).log.count .handled = s.log.count .handled := hlog
    cases hs with
    | kept hold hbal =>
      have hbal : (s'.withMachine m).machine.awaited .obstacleControl .movementControl .sigusr1 =
        _ := hbal
      have hmark : (s'.withMachine m).toMark = s.toMark := toMark_eq hpc
        (fun b hb => (hold b hb).1) fun b hb => (hstays b _ hb).resolve_left hc
      rw [accepts_eq, show (s'.withMachine m).machine = m from rfl]
      unfold unhandled
      omega
    | begun b ht hi hrun =>
      obtain ⟨hret, hkern⟩ := hl ht
      exact (hi.elim hret fun hi => hkern hi.1).elim

end Step

/-- Every accepted signal was handled, or is on its way to the handler unless Task2 is closed. -/
structure Accounted (s : App) (n : ℕ) : Prop where
  handled : s.log.count .handled ≤ n
  balance : s.machine.kernel.state .movementControl = .close ∨
    s.log.count .handled + s.unhandled = n

theorem Accounted.step (h : Accounted s n) (hs : UnhandledStep s s')
    (hclosed : s.machine.kernel.state .movementControl = .close →
      s'.machine.kernel.state .movementControl = .close) :
    Accounted s' (if accepts s s' then n + 1 else n) := by
  have hn : (if accepts s s' then n + 1 else n) = n + if accepts s s' then 1 else 0 := by
    split <;> rfl
  rw [hn]
  constructor
  · have hle := h.handled
    rcases hs.handled with heq | ⟨hopen, heq⟩
    · omega
    · have hbal := h.balance.resolve_left hopen
      unfold unhandled at hbal
      omega
  · rcases hs.balance with hc | heq
    · exact .inl hc
    · refine h.balance.imp hclosed fun hbal => ?_
      omega

/-- Task1 sees an obstacle when Task2 has queued itself to wait for its next activation and has not
called `rt_schedule` yet. Task2 goes on with the next statement of its body, and the handler has not
run. -/
theorem obstacle_not_applied : ¬ ∀ (a : Addresses) (s : App) (n : ℕ),
    (signalledRuns a).Reachable (s, n) → ObstaclesApplied s n := by
  intro h
  obtain ⟨s, hs, hp⟩ := exists_reachable (a := ⟨fun _ => 0, 0⟩) (b := {})
    (startupLabels ++ .run {} :: .tick [.movementControlActivation] ::
      labels [1, 1, 1, 0, 0, 0, 1, 0, 0, 0, 0, 0, 0, 0, 0, 0, 0, 2, 2, 2, 2, 2, 2, 0, 0, 0, 1, 1] ++
      .tick [.obstacleControlActivation] :: labels [1, 1, 1, 0, 0] ++
      .run { obstacle := true } :: labels [0, 1, 1, 1, 1, 1, 0, 1, 1, 1, 1, 0, 0, 0, 1, 1, 1, 1,
        2, 2, 2, 2, 2, 0, 0, 0, 1, 1, 1, 1, 1, 1])
    (p := fun s => decide (s.machine.current = .movementControl ∧ s.machine.AtUser ∧
      s.machine.kernel.state .movementControl ≠ .close ∧
      (s.machine.kernel.thread .movementControl).sigMask .sigusr1 = true ∧
      (s.ctx .obstacleControl).call = some (.recv .tasksActivation
        TimerId.obstacleControlActivation.flag andClear .check) ∧
      s.log = [.begun .movementControl, .start, .begun .obstacleControl, .reported,
        .begun .movementStop, .stop])) (by decide +kernel)
  obtain ⟨hcur, hat, hopen, hmask, hcall, hlog⟩ := of_decide_eq_true hp
  obtain ⟨n, hn⟩ := Automaton.Reaches.counting accepts hs
  have happlied := (h _ s n hn).applied hcur hat hopen hmask (by simp [hcall])
  exact happlied.2 ⟨[.begun .movementControl, .start, .begun .obstacleControl],
    [.begun .movementStop, .stop], hlog, by simp⟩

end App

end RobotVacuum
