import RobotVacuum.Application.Shutdown
import RobotVacuum.Application.Urgency

/-!
# The emergency stop

Until the shutdown, if Task1 and TaskS come first, each obstacle that Task1 reports is answered at
once: TaskS waits for the event when Task1 sends it, and stops the motors before any other task
goes on (`emergency_stop`).
-/

namespace RobotVacuum

open Kernel (KernelOk Ranked Competing)
open Machine (SchedOk Users Prompt Calling)
open History (Exchange ExchangeStage)

/-- `Tsystem_task_entry` has left its loop. -/
def SystemPc.closing : SystemPc → Bool
  | .timerStop _ | .closeTask _ | .detach _ _ | .timerDetach _ | .control | .preemptableFlag
  | .exit => true
  | _ => false

namespace App

variable {a : Addresses} {s s' : App} {i : Label} {t : Task} {input : Input} {stO stS : LoopStage}
  {m : RobotMachine} {l : Machine.Label Task EventId MutexId MailboxId TimerId String}

/-! ### What the statements ask of the machine -/

/-- The calls of a task that concern the emergency stop: Task1 sends the event of the obstacle, the
main thread starts the timers after the threads, and the system task closes threads at the end. -/
def Allowed (s : App) (t : Task) : RobotAct → Prop
  | .send e set => e = .resources ∨
      e = .obstacle ∧ set = eventObstacleFound ∧ t = .obstacleControl ∧ s.obstaclePc = .send
  | .recv e _ _ => e = .obstacle → t = .movementStop
  | .detach _ => s.systemPc.closing = true
  | .timerStart _ => t = .main ∧ ∀ rest, s.mainPc ≠ .startup rest
  | _ => True

theorem statement_allowed (input : Input) : s.Allowed t (s.statement input t).1 := by
  cases t with
  | main =>
    simp only [statement, mainStatement]
    split <;> (try split) <;> simp_all [Allowed]
  | tsystem =>
    simp only [statement, systemStatement]
    split <;> (try split) <;> simp_all [Allowed, SystemPc.closing]
  | obstacleControl =>
    simp only [statement, obstacleStatement]
    split <;> (try split) <;> simp_all [Allowed]
  | movementStop =>
    simp only [statement, stopStatement]
    split <;> (try split) <;> simp_all [Allowed]
  | movementControl =>
    simp only [statement, movementStatement]
    split <;> (try split) <;> simp_all [Allowed]
  | checkResources =>
    simp only [statement, resourcesStatement]
    split <;> (try split) <;> simp_all [Allowed]
  | acousticSignals =>
    simp only [statement, acousticStatement]
    split <;> (try split) <;> simp_all [Allowed]
  | brushesSpeed =>
    simp only [statement, brushesStatement]
    split <;> (try split) <;> simp_all [Allowed]
  | idle => exact trivial

theorem handlerStatement_inHandler {x : Handler} {act : RobotAct} {s₁ : App}
    (h : s.handlerStatement x = some (act, s₁)) : act.inHandler = true := by
  cases x with
  | default => cases h
  | obstacle =>
    obtain ⟨_, _, _, _, _, _, rfl, -⟩ := obstacleHandlerStatement_owns h
    rfl
  | turnOff =>
    simp only [handlerStatement, turnOffStatement] at h
    split at h <;> cases h <;> rfl

theorem allowed_of_inHandler {act : RobotAct} (h : act.inHandler = true) : s.Allowed t act := by
  cases act <;> first | exact trivial | cases h

/-- What a step asks of the machine. -/
theorem Moves.allowed (hm : Moves a s i s') : ∃ l,
    s.machine.step (platform a) l = some s'.machine ∧
      ∀ act, l = .act act → s.Allowed s.machine.current act := by
  cases hm with
  | own hex hstep =>
    refine ⟨_, hstep, fun act hl => ?_⟩
    simp only [Machine.Label.act.injEq] at hl
    subst hl
    exact statement_allowed _
  | handler hsig hh hstep =>
    refine ⟨_, hstep, fun act hl => ?_⟩
    simp only [Machine.Label.act.injEq] at hl
    subst hl
    exact allowed_of_inHandler (handlerStatement_inHandler hh)
  | returned hsig hh hstep => exact ⟨_, hstep, fun _ hl => by cases hl⟩
  | kern hstep => exact ⟨_, hstep, fun _ hl => by cases hl⟩
  | tick hstep => exact ⟨_, hstep, fun _ hl => by cases hl⟩

/-! ### What they write -/

theorem statement_mainPc (ht : t ≠ .main) : (s.statement input t).2.mainPc = s.mainPc := by
  cases t with
  | main => exact absurd rfl ht
  | tsystem =>
    obtain ⟨_, _, heq, -⟩ := systemStatement_owns (s := s)
    simp [statement, heq]
  | obstacleControl =>
    obtain ⟨_, _, heq, -⟩ := obstacleStatement_owns s input
    simp [statement, heq]
  | movementStop =>
    obtain ⟨_, _, heq, -⟩ := stopStatement_owns (s := s)
    simp [statement, heq]
  | movementControl =>
    obtain ⟨_, _, _, _, _, _, _, _, _, _, heq⟩ := movementStatement_owns (s := s)
    simp [statement, heq]
  | checkResources =>
    obtain ⟨_, _, heq, -⟩ := resourcesStatement_owns (s := s)
    simp [statement, heq]
  | acousticSignals =>
    obtain ⟨_, _, heq, -⟩ := acousticStatement_owns (s := s)
    simp [statement, heq]
  | brushesSpeed =>
    obtain ⟨_, _, _, _, heq, -⟩ := brushesStatement_owns s input
    simp [statement, heq]
  | idle => rfl

/-- The other tasks leave Task1 and TaskS where they are, and neither report nor stop. -/
theorem statement_aside (input : Input) (hO : t ≠ .obstacleControl) (hS : t ≠ .movementStop) :
    (s.statement input t).2.obstaclePc = s.obstaclePc ∧
      (s.statement input t).2.stopPc = s.stopPc ∧
      ∃ es, (s.statement input t).2.log = s.log ++ es ∧ .reported ∉ es ∧ .stop ∉ es := by
  have hwriter : ∀ {es : List LogEntry} {x : Task}, (∀ e ∈ es, e.writer = x) →
      x ≠ .obstacleControl → x ≠ .movementStop → .reported ∉ es ∧ .stop ∉ es :=
    fun hes hx hx' => ⟨fun hm => hx (hes _ hm).symm, fun hm => hx' (hes _ hm).symm⟩
  cases t with
  | main =>
    obtain ⟨_, _, heq⟩ := mainStatement_owns (s := s)
    exact ⟨by simp [statement, heq], by simp [statement, heq], [], by simp [statement, heq]⟩
  | tsystem =>
    obtain ⟨_, _, heq, -⟩ := systemStatement_owns (s := s)
    exact ⟨by simp [statement, heq], by simp [statement, heq], [], by simp [statement, heq]⟩
  | obstacleControl => exact absurd rfl hO
  | movementStop => exact absurd rfl hS
  | movementControl =>
    obtain ⟨_, _, _, _, _, _, _, _, _, _, heq⟩ := movementStatement_owns (s := s)
    refine ⟨by simp [statement, heq], by simp [statement, heq], ?_⟩
    rcases movementStatement_log (s := s) with ⟨-, -, hlog⟩ | ⟨-, hlog, -⟩ |
      ⟨es, hlog, ⟨hreported, hstop, -⟩, -⟩
    · exact ⟨_, hlog, by simp, by simp⟩
    · exact ⟨_, hlog, by simp, by simp⟩
    · exact ⟨_, hlog, hreported, hstop⟩
  | checkResources =>
    obtain ⟨_, es, heq, hes⟩ := resourcesStatement_owns (s := s)
    exact ⟨by simp [statement, heq], by simp [statement, heq], es, by simp [statement, heq],
      hwriter hes (by simp) (by simp)⟩
  | acousticSignals =>
    obtain ⟨_, es, heq, hes⟩ := acousticStatement_owns (s := s)
    exact ⟨by simp [statement, heq], by simp [statement, heq], es, by simp [statement, heq],
      hwriter hes (by simp) (by simp)⟩
  | brushesSpeed =>
    obtain ⟨_, _, _, es, heq, hes⟩ := brushesStatement_owns s input
    exact ⟨by simp [statement, heq], by simp [statement, heq], es, by simp [statement, heq],
      hwriter hes (by simp) (by simp)⟩
  | idle => exact ⟨rfl, rfl, [], by simp [statement]⟩

/-- How `main` goes on while it starts the threads. -/
theorem mainStatement_startup {rest : List Task} (h : s.mainPc = .startup rest) :
    rest = [] ∨ ∃ x tail, rest = x :: tail ∧ s.mainStatement.1 = .startup x ∧
      s.mainStatement.2.mainPc = .startup tail := by
  cases rest with
  | nil => exact .inl rfl
  | cons x tail =>
    refine .inr ⟨x, tail, rfl, ?_⟩
    unfold mainStatement
    rw [h]
    exact ⟨rfl, rfl⟩

theorem startup_of_mainStatement {rest : List Task}
    (h : s.mainStatement.2.mainPc = .startup rest) : ∃ rest', s.mainPc = .startup rest' := by
  unfold mainStatement at h
  split at h <;> (try split at h) <;> simp_all

theorem systemStatement_closing (h : s.systemStatement.2.systemPc.closing = true) :
    s.systemPc.closing = true ∨ s.turnOffFlag = true := by
  unfold systemStatement at h
  split at h <;> (try split at h) <;> simp_all [SystemPc.closing]

/-- The system task leaves its loop only after `turnOffSystem` has raised its priority. -/
def ClosingInv (s : App) : Prop := s.systemPc.closing = true → s.Raised

theorem ClosingInv.step (h : ClosingInv s) (hraised : s.Raised → s'.Raised)
    (hm : Moves a s i s') : ClosingInv s' := by
  have hsame : s'.systemPc = s.systemPc → ClosingInv s' := fun hpc hc => hraised (h (hpc ▸ hc))
  cases hm with
  | @own input m hex hstep =>
    by_cases hcur : s.machine.current = .tsystem
    · rw [hcur] at hraised ⊢
      intro hc
      rcases systemStatement_closing hc with hc | hflag
      · exact hraised (h hc)
      · exact hraised (.inl hflag)
    · exact hsame (statement_systemPc hcur)
  | @handler input m b n act s₁ hsig hst hstep =>
    refine hsame ?_
    generalize s.handler s.machine.current n = x at hst
    cases x with
    | default => cases hst
    | obstacle =>
      obtain ⟨_, _, _, _, _, _, -, rfl⟩ := obstacleHandlerStatement_owns hst
      rfl
    | turnOff =>
      obtain ⟨_, _, rfl⟩ := turnOffStatement_owns hst
      rfl
  | @returned input m b n hsig hst hstep =>
    refine hsame ?_
    unfold resetHandler
    split <;> rfl
  | @kern m hstep => exact hsame rfl
  | @tick due m hstep => exact hsame rfl

/-! ### The loops of Task1 and TaskS -/

/-- Task1 waits for its activation again and again, and is not activated before all threads are
started. -/
structure ObstacleLoop (s : App) (st : LoopStage) : Prop where
  loop : Looping .obstacleControl .tasksActivation TimerId.obstacleControlActivation.flag andClear
    st s.machine
  position : st.At (s.obstaclePc = .recv) (s.obstaclePc = .test)
  early : ∀ rest, s.mainPc = .startup rest → (∀ d, (s.machine.timer d).activated = false) ∧
    s.machine.event .tasksActivation = 0 ∧ st.Unserved (s.obstaclePc = .recv)

/-- TaskS waits for the event of the obstacle again and again. -/
structure StopLoop (s : App) (st : LoopStage) : Prop where
  loop : Looping .movementStop .obstacle eventObstacleFound andClear st s.machine
  position : st.At (s.stopPc = .recv) (s.stopPc = .test)
  started : st = .new → ∃ rest, s.mainPc = .startup rest ∧ .movementStop ∈ rest

/-- What the steps need that are not statements of the thread itself. -/
structure Undetached (a : Addresses) (s s' : App)
    (l : Machine.Label Task EventId MutexId MailboxId TimerId String) : Prop where
  step : s.machine.step (platform a) l = some s'.machine
  sched : SchedOk s.machine
  leaves : s.machine.kernel.state s.machine.current = .suspend →
    s.machine.kernel.rtSchedule.currentThread ≠ s.machine.current
  detach : ∀ x, l ≠ .act (.detach x)

/-- The event of the activations is sent by timers only. -/
structure MainStep (s s' : App)
    (l : Machine.Label Task EventId MutexId MailboxId TimerId String) : Prop where
  activation : ∀ set, l ≠ .act (.send .tasksActivation set)
  startup : ∀ rest, s'.mainPc = .startup rest →
    (∃ rest', s.mainPc = .startup rest') ∧ ∀ d, l ≠ .act (.timerStart d)
  next : ∀ rest x, s.mainPc = .startup rest → x ∈ rest →
    (∃ rest', s'.mainPc = .startup rest' ∧ x ∈ rest') ∨ l = .act (.startup x)

/-- Another step of the machine moves a thread on in its loop. -/
theorem Undetached.looping {x : Task} {e : EventId} {set : BitVec 32} {st : LoopStage}
    (h : Undetached a s s' l) (hloop : Looping x e set andClear st s.machine)
    (hown : x = s.machine.current → ∀ act, l ≠ .act act) :
    ∃ st', Looping x e set andClear st' s'.machine ∧
      Advance s.machine s'.machine x e set andClear st st' := by
  refine hloop.step h.sched (.inl rfl) h.leaves h.step hown fun hi hc => ?_
  have hclosed := Machine.closed_of_step h.sched.kernel h.step hi (h.detach x) hc
  exact hloop.loop.stage.not_close (ThreadState.phase_eq_close.mpr hclosed)

/-- The start goes on: no timer is active yet, and nobody was activated. -/
theorem ObstacleLoop.early_step (h : ObstacleLoop s stO) (hu : Undetached a s s' l)
    (hmain : MainStep s s' l) {rest : List Task} (hrest : s'.mainPc = .startup rest) :
    l.Unsent (platform a) .tasksActivation ∧ s.machine.event .tasksActivation = 0 ∧
      stO.Unserved (s.obstaclePc = .recv) ∧ (∀ d, (s'.machine.timer d).activated = false) ∧
      s'.machine.event .tasksActivation = 0 := by
  obtain ⟨⟨rest', hrest'⟩, hstart⟩ := hmain.startup rest hrest
  obtain ⟨htimers, hevent, hunserved⟩ := h.early rest' hrest'
  have hunsent : l.Unsent (platform a) .tasksActivation := by
    refine ⟨hmain.activation, fun due hl d hd => ?_⟩
    have hstep := hu.step
    rw [hl] at hstep
    simp only [Machine.step] at hstep
    split at hstep
    · next hdue =>
      have hon := (hdue.2.2 d hd).2
      rw [htimers d] at hon
      cases hon
    · cases hstep
  exact ⟨hunsent, hevent, hunserved,
    fun d => Machine.activated_of_step hu.step (hstart d) (htimers d),
    Machine.event_zero_of_step hu.step hunsent hevent⟩

/-- A step that is no statement of Task1. -/
theorem ObstacleLoop.aside (h : ObstacleLoop s stO) (hu : Undetached a s s' l)
    (hmain : MainStep s s' l) (hown : .obstacleControl = s.machine.current → ∀ act, l ≠ .act act)
    (hpc : s'.obstaclePc = s.obstaclePc) : ∃ stO', ObstacleLoop s' stO' := by
  obtain ⟨stO', hloop, hadv⟩ := hu.looping h.loop hown
  refine ⟨stO', hloop, by rw [hpc]; exact h.position.advance hadv, fun rest hrest => ?_⟩
  obtain ⟨hunsent, hevent, hunserved, htimers, hevent'⟩ := h.early_step hu hmain hrest
  refine ⟨htimers, hevent', ?_⟩
  rw [hpc]
  exact hunserved.passes h.position
    (h.loop.passes hu.step hunsent hevent (by decide) rfl hadv)

/-- A step that neither is a statement of TaskS nor sends the event of the obstacle. -/
theorem StopLoop.aside (h : StopLoop s stS) (hu : Undetached a s s' l) (hmain : MainStep s s' l)
    (hown : .movementStop = s.machine.current → ∀ act, l ≠ .act act)
    (hsend : ∀ set, l ≠ .act (.send .obstacle set)) (hevent : s.machine.event .obstacle = 0)
    (hpc : s'.stopPc = s.stopPc) : ∃ stS', StopLoop s' stS' ∧ Passes stS stS' := by
  obtain ⟨stS', hloop, hadv⟩ := hu.looping h.loop hown
  have hunsent : l.Unsent (platform a) .obstacle := ⟨hsend, fun due _ d _ h => by cases h⟩
  have hpass := h.loop.passes hu.step hunsent hevent (by decide) rfl hadv
  refine ⟨stS', ⟨hloop, by rw [hpc]; exact h.position.advance hadv, fun hnew => ?_⟩, hpass⟩
  have hold : stS = .new := by
    cases hpass with
    | refl => exact hnew
    | started | waits | returns => cases hnew
  obtain ⟨rest, hrest, hmem⟩ := h.started hold
  rcases hmain.next rest _ hrest hmem with hnext | hl
  · exact hnext
  · -- the main thread has just started TaskS
    exfalso
    subst hnew
    have hinit : s'.machine.kernel.state .movementStop = .init :=
      ThreadState.phase_eq_init.mp hloop.loop.stage.1
    have hstep := hu.step
    rw [hl] at hstep
    simp only [Machine.step] at hstep
    split at hstep
    · obtain ⟨hperform, -⟩ := Machine.performed_of_stepAct hstep
      rw [hperform] at hinit
      exact Kernel.rtThreadStartupQueue_not_init hu.sched.kernel hinit
    · cases hstep

/-! ### The statements of TaskS -/

/-- TaskS executes a statement: it waits, begins, or stops the motors. -/
inductive StopMove (s s' : App) (stS : LoopStage) : Prop
  | recv : s.stopPc = .recv → stS = .user → StopLoop s' .entering → s'.log = s.log →
    StopMove s s' stS
  | begins : stS = .returned → StopLoop s' .user → s'.stopPc = .write →
    s'.log = s.log ++ [.begun .movementStop] → StopMove s s' stS
  | stops : s.stopPc = .write → stS = .user → StopLoop s' .user → s'.stopPc = .recv →
    s'.log = s.log ++ [.stop] → StopMove s s' stS

theorem StopLoop.own (h : StopLoop s stS) (hcur : s.machine.current = .movementStop)
    (hk : KernelOk s.machine.kernel) (hat : s.machine.AtUser)
    (hperform : m = s.machine.perform (platform a) s.stopStatement.1) :
    StopMove s (s.stopStatement.2.withMachine m) stS := by
  have hloop := h.loop.loop
  rw [← hcur] at hloop
  obtain ⟨huser, hst⟩ := hloop.at_user hk hat
  have htest := h.position.test
  have hbody : s.stopStatement.1 = .local →
      Looping .movementStop .obstacle eventObstacleFound andClear .user m := fun hlocal => by
    rw [hperform, hlocal, ← hcur]
    exact ⟨huser.body hk hat .local, fun h => by cases h⟩
  subst hperform
  cases hpc : s.stopPc with
  | recv =>
    have huser' : stS = .user := hst.resolve_right fun hst => by simp [hpc, hst] at htest
    have heq : s.stopStatement = (.recv .obstacle eventObstacleFound andClear,
        { s with stopPc := .test }) := by simp [stopStatement, hpc]
    rw [heq]
    refine .recv hpc huser' ⟨⟨?_, fun h => (by cases h)⟩, ⟨fun h => (by cases h), ?_⟩,
      fun h => (by cases h)⟩ rfl
    · rw [← hcur]
      exact huser.recv (p := platform a) (by decide)
    · simp [withMachine]
  | test =>
    have hret : stS = .returned := hst.resolve_left fun hst => by simp [hpc, hst] at htest
    have hok : s.gotOk .movementStop := by
      have hstage := h.loop.loop.stage
      rw [hret] at hstage
      exact hstage.2.2
    have heq : s.stopStatement =
        (.local, { s.record (.begun .movementStop) with stopPc := .write }) := by
      simp [stopStatement, hpc, hok]
    have hb := hbody (by rw [heq])
    rw [heq] at hb ⊢
    exact .begins hret ⟨hb, ⟨fun h => (by cases h), by simp [withMachine]⟩,
      fun h => (by cases h)⟩
      rfl rfl
  | write =>
    have huser' : stS = .user := hst.resolve_right fun hst => by simp [hpc, hst] at htest
    have heq : s.stopStatement = (.local, { s.record .stop with stopPc := .recv }) := by
      simp [stopStatement, hpc]
    have hb := hbody (by rw [heq])
    rw [heq] at hb ⊢
    exact .stops hpc huser' ⟨hb, ⟨fun h => (by cases h), by simp [withMachine]⟩,
      fun h => (by cases h)⟩ rfl rfl

/-! ### The statements of Task1 -/

/-- Task1 executes a statement: it reports an obstacle, sends the event, or does something else. -/
inductive ObstacleMove (s s' : App) (act : RobotAct) : Prop
  | reports : s.obstaclePc = .kill → s'.obstaclePc = .send → s'.log = s.log ++ [.reported] →
    act = .kill .movementControl .sigusr1 → ObstacleMove s s' act
  | sends : s.obstaclePc = .send → s'.obstaclePc = .busy → s'.log = s.log →
    act = .send .obstacle eventObstacleFound → ObstacleMove s s' act
  | other : s.obstaclePc ≠ .send → s'.obstaclePc ≠ .send →
    (∃ es, s'.log = s.log ++ es ∧ .reported ∉ es ∧ .stop ∉ es) →
    (∀ e set, act ≠ .send e set) → ObstacleMove s s' act

theorem obstacleMove (input : Input) : ObstacleMove s ((s.obstacleStatement input).2.withMachine m)
    (s.obstacleStatement input).1 := by
  have hnil : ∃ es, s.log = s.log ++ es ∧ .reported ∉ es ∧ .stop ∉ es :=
    ⟨[], by simp, by simp, by simp⟩
  cases hpc : s.obstaclePc with
  | kill =>
    have heq : s.obstacleStatement input = (.kill .movementControl .sigusr1,
        { s.record .reported with obstaclePc := .send }) := by simp [obstacleStatement, hpc]
    rw [heq]
    exact .reports hpc rfl rfl rfl
  | send =>
    have heq : s.obstacleStatement input = (.send .obstacle eventObstacleFound,
        { s with obstaclePc := .busy }) := by simp [obstacleStatement, hpc]
    rw [heq]
    exact .sends hpc rfl rfl rfl
  | test =>
    by_cases hok : s.gotOk .obstacleControl
    · have heq : s.obstacleStatement input =
          (.local, { s.record (.begun .obstacleControl) with obstaclePc := .started }) := by
        simp [obstacleStatement, hpc, hok]
      rw [heq]
      exact .other (by simp [hpc]) (by simp [withMachine]) ⟨[.begun .obstacleControl], rfl, by simp,
        by simp⟩ (by simp)
    · have heq : s.obstacleStatement input = (.local, { s with obstaclePc := .recv }) := by
        simp [obstacleStatement, hpc, hok]
      rw [heq]
      exact .other (by simp [hpc]) (by simp [withMachine]) hnil (by simp)
  | recv | started | read | busy | ended =>
    refine .other (by simp [hpc]) ?_ ?_ ?_
    · simp only [obstacleStatement, hpc, withMachine]
      try split
      all_goals simp
    · simp only [obstacleStatement, hpc, withMachine]
      exact hnil
    · simp [obstacleStatement, hpc]

/-- Beside waiting for its activation Task1 sends the event and a signal at most. -/
theorem obstacleStatement_body (hpc : s.obstaclePc ≠ .recv) :
    BodyAct .obstacleControl (s.obstacleStatement input).1 ∧
      (s.obstacleStatement input).2.obstaclePc ≠ .test := by
  unfold obstacleStatement
  cases hat : s.obstaclePc with
  | recv => exact absurd hat hpc
  | test =>
    dsimp only
    split <;> exact ⟨.local, by simp⟩
  | started => exact ⟨.setTaskStarted 5, by simp⟩
  | read =>
    refine ⟨.local, ?_⟩
    dsimp only
    split <;> simp
  | kill => exact ⟨.kill .sigusr1 (by simp), by simp⟩
  | send => exact ⟨.send EventId.obstacle eventObstacleFound, by simp⟩
  | busy =>
    refine ⟨.local, ?_⟩
    dsimp only
    split <;> simp
  | ended => exact ⟨.setTaskEnded, by simp⟩

/-- While the threads are started, Task1 executes no statement but its first one. -/
theorem ObstacleLoop.recv_of_startup (h : ObstacleLoop s stO) {rest : List Task}
    (hrest : s.mainPc = .startup rest) (hst : stO = .user ∨ stO = .returned) :
    s.obstaclePc = .recv := by
  obtain ⟨-, -, hunserved⟩ := h.early rest hrest
  exact hunserved.user (hst.resolve_right hunserved.returned)

theorem ObstacleLoop.own (h : ObstacleLoop s stO) (hcur : s.machine.current = .obstacleControl)
    (hu : Undetached a s ((s.obstacleStatement input).2.withMachine m)
      (.act (s.obstacleStatement input).1))
    (hmain : MainStep s ((s.obstacleStatement input).2.withMachine m)
      (.act (s.obstacleStatement input).1)) (hat : s.machine.AtUser)
    (hperform : m = s.machine.perform (platform a) (s.obstacleStatement input).1) :
    ∃ stO', ObstacleLoop ((s.obstacleStatement input).2.withMachine m) stO' := by
  have hk := hu.sched.kernel
  have hloop := h.loop.loop
  rw [← hcur] at hloop
  obtain ⟨huser, hst⟩ := hloop.at_user hk hat
  by_cases hpc : s.obstaclePc = .recv
  · refine ⟨.entering, ⟨?_, fun h => (by cases h)⟩, ⟨fun h => (by cases h), ?_⟩,
      fun rest hrest => ?_⟩
    · have hrecv : (s.obstacleStatement input).1 =
          .recv .tasksActivation TimerId.obstacleControlActivation.flag andClear := by
        simp [obstacleStatement, hpc]
      have hentering := huser.recv (p := platform a) (by decide)
      rw [← hrecv, ← hperform, hcur] at hentering
      exact hentering
    · simp [obstacleStatement, hpc, withMachine]
    · obtain ⟨-, -, -, htimers, hevent⟩ := h.early_step hu hmain hrest
      exact ⟨htimers, hevent, fun h => (by cases h), fun h => (by cases h), fun h => (by cases h)⟩
  · obtain ⟨hbody, htest⟩ := obstacleStatement_body  hpc
    refine ⟨.user, ⟨?_, fun h => (by cases h)⟩, ⟨fun h => (by cases h), ?_⟩, fun rest hrest => ?_⟩
    · rw [← hcur] at hbody
      have hin := huser.body (p := platform a) hk hat hbody
      rw [← hperform, hcur] at hin
      exact hin
    · simpa [withMachine] using htest
    · obtain ⟨rest', hrest'⟩ := (hmain.startup rest hrest).1
      exact absurd (h.recv_of_startup hrest' hst) hpc

/-! ### The exchange -/

/-- The answers of TaskS to the reports of Task1, as far as they are recorded. -/
abbrev Answered (st : ExchangeStage) (log : List LogEntry) : Prop :=
  Exchange .reported (.begun .movementStop) .stop st log

/-- How far Task1 and TaskS are with an obstacle. -/
inductive Phase (s : App) (stS : LoopStage) : Prop
  | quiet : Answered .rest s.log → s.obstaclePc ≠ .send → stS.Unserved (s.stopPc = .recv) →
    Phase s stS
  | reported : Answered .asked s.log → s.obstaclePc = .send → stS = .waiting → Phase s stS
  | sent : Answered .asked s.log → s.obstaclePc ≠ .send → stS = .woken ∨ stS = .returned →
    Phase s stS
  | begun : Answered .begun s.log → s.obstaclePc ≠ .send → stS = .user → s.stopPc = .write →
    Phase s stS

/-- What holds of Task1 and TaskS until the shutdown. -/
structure Calm (s : App) (stO stS : LoopStage) : Prop where
  alarm : s.machine.event .obstacle = 0
  obstacle : ObstacleLoop s stO
  stop : StopLoop s stS
  phase : Phase s stS

/-- The machine goes on, and neither Task1 nor TaskS executes a statement. -/
theorem Phase.passes {stS' : LoopStage} (h : Phase s stS) (hstop : StopLoop s stS)
    (hpass : Passes stS stS') (hlog : s'.log = s.log) (hobstacle : s'.obstaclePc = s.obstaclePc)
    (hpc : s'.stopPc = s.stopPc) : Phase s' stS' := by
  cases h with
  | quiet hans hsend hunserved =>
    exact .quiet (by rwa [hlog]) (by rwa [hobstacle])
      (by rw [hpc]; exact hunserved.passes hstop.position hpass)
  | reported hans hsend hst =>
    subst hst
    cases hpass
    exact .reported (by rwa [hlog]) (by rwa [hobstacle]) rfl
  | sent hans hsend hst =>
    refine .sent (by rwa [hlog]) (by rwa [hobstacle]) ?_
    rcases hst with rfl | rfl <;> cases hpass
    · exact .inl rfl
    · exact .inr rfl
    · exact .inr rfl
  | begun hans hsend hst hwrite =>
    subst hst
    cases hpass
    exact .begun (by rwa [hlog]) (by rwa [hobstacle]) rfl (by rwa [hpc])

/-- TaskS waits or was not started, and Task1 is not about to send: nothing is going on. -/
theorem Phase.quiet_of_rest (h : Phase s stS) (hrest : stS = .new ∨ stS = .waiting)
    (hsend : s.obstaclePc ≠ .send) : Answered .rest s.log ∧ stS.Unserved (s.stopPc = .recv) := by
  cases h with
  | quiet hans _ hunserved => exact ⟨hans, hunserved⟩
  | reported _ hpc => exact absurd hpc hsend
  | sent _ _ hst => rcases hrest with rfl | rfl <;> rcases hst with hst | hst <;> cases hst
  | begun _ _ hst => rcases hrest with rfl | rfl <;> cases hst

/-- A statement of TaskS. -/
theorem Phase.of_stopMove (h : Phase s stS) (hmove : StopMove s s' stS)
    (hpc : s'.obstaclePc = s.obstaclePc) : ∃ stS', StopLoop s' stS' ∧ Phase s' stS' := by
  cases hmove with
  | recv hrecv hst hloop hlog =>
    subst hst
    refine ⟨.entering, hloop, ?_⟩
    cases h with
    | quiet hans hsend =>
      have hunserved : LoopStage.entering.Unserved (s'.stopPc = .recv) :=
        ⟨fun h => (by cases h), fun h => (by cases h), fun h => (by cases h)⟩
      exact .quiet (by rwa [hlog]) (by rwa [hpc]) hunserved
    | reported _ _ hst => cases hst
    | sent _ _ hst => rcases hst with hst | hst <;> cases hst
    | begun _ _ _ hwrite =>
      rw [hrecv] at hwrite
      cases hwrite
  | begins hst hloop hwrite hlog =>
    subst hst
    refine ⟨.user, hloop, ?_⟩
    cases h with
    | quiet _ _ hunserved => exact absurd rfl hunserved.returned
    | reported _ _ hst => cases hst
    | sent hans hsend => exact .begun (by rw [hlog]; exact hans.begun) (by rwa [hpc]) rfl hwrite
    | begun _ _ hst => cases hst
  | stops hwrite hst hloop hrecv hlog =>
    subst hst
    refine ⟨.user, hloop, ?_⟩
    cases h with
    | quiet _ _ hunserved =>
      have hrecv := hunserved.user rfl
      rw [hwrite] at hrecv
      cases hrecv
    | reported _ _ hst => cases hst
    | sent _ _ hst => rcases hst with hst | hst <;> cases hst
    | begun hans hsend =>
      have hunserved : LoopStage.user.Unserved (s'.stopPc = .recv) :=
        ⟨fun h => (by cases h), fun h => (by cases h), fun _ => hrecv⟩
      exact .quiet (by rw [hlog]; exact hans.done) (by rwa [hpc]) hunserved

/-- Sending the event wakes TaskS and leaves no flag. -/
theorem StopLoop.sent (h : StopLoop s .waiting) (hk : KernelOk s.machine.kernel)
    (husers : Users (· = .movementStop) (.event .obstacle) s.machine)
    (halarm : s.machine.event .obstacle = 0)
    (hperform : m = s.machine.perform (platform a) (.send .obstacle eventObstacleFound)) :
    s.machine.grants .movementStop < m.grants .movementStop ∧ m.event .obstacle = 0 := by
  obtain ⟨-, hwaits, -, -, -, hset, hinfo, -⟩ := h.loop.loop.stage
  have hqueue := husers.queue_of_mem hk hwaits
  have hset : (s.machine.kernel.thread .movementStop).eventSet = eventObstacleFound := hset
  have hinfo : (s.machine.kernel.thread .movementStop).eventInfo = andClear := hinfo
  have hstatus : Kernel.eventStatus (s.machine.kernel.thread .movementStop).eventInfo
      (s.machine.kernel.thread .movementStop).eventSet
      (s.machine.event .obstacle ||| eventObstacleFound) = some true := by
    rw [hset, hinfo, halarm]
    decide
  obtain ⟨hgrants, hevent⟩ := Machine.rtEventSend_single hqueue hstatus
  rw [halarm, hinfo, if_pos rfl, Kernel.eventReceived, hinfo, if_pos rfl, hset] at hevent
  have hkeep : m.grants = (s.machine.rtEventSend .obstacle eventObstacleFound).1.grants ∧
      m.event = (s.machine.rtEventSend .obstacle eventObstacleFound).1.event := by
    rw [hperform]
    simp only [Machine.perform]
    split
    · next h => exact absurd h (by decide)
    · split <;> exact ⟨rfl, rfl⟩
  rw [hkeep.1, hkeep.2]
  exact ⟨hgrants, hevent.trans (by decide)⟩

/-! ### Before the shutdown -/

theorem Urgent.stop (h : Urgent a .obstacleControl) : Urgent a .movementStop :=
  ⟨by decide, fun p hp => Nat.lt_trans (by decide) (h.inherited p hp)⟩

theorem Calm.own_stop (h : Calm s stO stS) (hcur : s.machine.current = .movementStop)
    (hu : Undetached a s (s.stopStatement.2.withMachine m) (.act s.stopStatement.1))
    (hmain : MainStep s (s.stopStatement.2.withMachine m) (.act s.stopStatement.1))
    (hat : s.machine.AtUser) (hperform : m = s.machine.perform (platform a) s.stopStatement.1) :
    ∃ stO' stS', Calm (s.stopStatement.2.withMachine m) stO' stS' := by
  obtain ⟨_, _, heq, -⟩ := stopStatement_owns (s := s)
  have hpc : (s.stopStatement.2.withMachine m).obstaclePc = s.obstaclePc := by
    simp [withMachine, heq]
  obtain ⟨stO', hobstacle⟩ := h.obstacle.aside hu hmain (fun ho => by simp [hcur] at ho) hpc
  have hmove := h.stop.own hcur hu.sched.kernel hat hperform
  obtain ⟨stS', hstop, hphase⟩ := h.phase.of_stopMove hmove hpc
  have hsend : ∀ set, s.stopStatement.1 ≠ .send .obstacle set := fun set => by
    simp only [stopStatement]
    split <;> (try split) <;> simp
  refine ⟨stO', stS', Machine.event_zero_of_step hu.step ⟨?_, ?_⟩ h.alarm, hobstacle, hstop, hphase⟩
  · exact fun set hl => hsend set (Machine.Label.act.inj hl)
  · exact fun due hl => by cases hl

theorem Calm.own_obstacle (h : Calm s stO stS) (hcur : s.machine.current = .obstacleControl)
    (hu : Undetached a s ((s.obstacleStatement input).2.withMachine m)
      (.act (s.obstacleStatement input).1))
    (hmain : MainStep s ((s.obstacleStatement input).2.withMachine m)
      (.act (s.obstacleStatement input).1)) (hat : s.machine.AtUser)
    (hperform : m = s.machine.perform (platform a) (s.obstacleStatement input).1)
    (husers : Users (· = .movementStop) (.event .obstacle) s.machine)
    (hrest : stS = .new ∨ stS = .waiting) :
    ∃ stO' stS', Calm ((s.obstacleStatement input).2.withMachine m) stO' stS' := by
  obtain ⟨stO', hobstacle⟩ := h.obstacle.own hcur hu hmain hat hperform
  have hown : Task.movementStop = s.machine.current →
      ∀ act, (Machine.Label.act (s.obstacleStatement input).1 : Machine.Label Task EventId MutexId
        MailboxId TimerId String) ≠ .act act := fun hs => by simp [hcur] at hs
  obtain ⟨_, _, heq, -⟩ := obstacleStatement_owns s input
  have hpc : ((s.obstacleStatement input).2.withMachine m).stopPc = s.stopPc := by
    simp [withMachine, heq]
  have hunsent : (∀ set, (s.obstacleStatement input).1 ≠ .send .obstacle set) →
      (∃ stS', StopLoop ((s.obstacleStatement input).2.withMachine m) stS' ∧ Passes stS stS') ∧
        ((s.obstacleStatement input).2.withMachine m).machine.event .obstacle = 0 :=
    fun hsend => by
    have hsend' : ∀ set, (Machine.Label.act (s.obstacleStatement input).1 : Machine.Label Task
        EventId MutexId MailboxId TimerId String) ≠ .act (.send .obstacle set) :=
      fun set hl => hsend set (Machine.Label.act.inj hl)
    refine ⟨h.stop.aside hu hmain hown hsend' h.alarm hpc, ?_⟩
    exact Machine.event_zero_of_step hu.step ⟨hsend', fun due hl => by cases hl⟩ h.alarm
  cases obstacleMove (s := s) (m := m) input with
  | reports hkill hsend hlog hact =>
    obtain ⟨⟨stS', hstop, hpass⟩, halarm⟩ := hunsent (by simp [hact])
    obtain ⟨hans, -⟩ := h.phase.quiet_of_rest hrest (by simp [hkill])
    have hwaiting : stS = .waiting := hrest.resolve_left fun hnew => by
      -- Task1 executes nothing but its first statement before TaskS is started
      obtain ⟨rest, hstart, -⟩ := h.stop.started hnew
      have hloop := h.obstacle.loop.loop
      rw [← hcur] at hloop
      have hrecv := h.obstacle.recv_of_startup hstart (hloop.at_user hu.sched.kernel hat).2
      rw [hkill] at hrecv
      cases hrecv
    subst hwaiting
    cases hpass
    exact ⟨stO', _, halarm, hobstacle, hstop, .reported (by rw [hlog]; exact hans.asked) hsend rfl⟩
  | sends hsend hbusy hlog hact =>
    rcases h.phase with ⟨-, hne, -⟩ | ⟨hans, -, hst⟩ | ⟨-, hne, -⟩ | ⟨-, hne, -⟩
    · exact absurd hsend hne
    · subst hst
      rw [hact] at hperform
      obtain ⟨hgrants, halarm⟩ := h.stop.sent hu.sched.kernel husers h.alarm hperform
      obtain ⟨stS', hloop, hadv⟩ := hu.looping h.stop.loop hown
      have hwoken : stS' = .woken := by
        cases hadv with
        | stays hsame => exact absurd hsame (Nat.ne_of_gt hgrants)
        | granted => rfl
      subst hwoken
      have hstop : StopLoop ((s.obstacleStatement input).2.withMachine m) .woken :=
        ⟨hloop, by rw [hpc]; exact h.stop.position.advance hadv, fun h => by cases h⟩
      exact ⟨stO', _, halarm, hobstacle, hstop,
        .sent (by rwa [hlog]) (by simp [hbusy]) (.inl rfl)⟩
    · exact absurd hsend hne
    · exact absurd hsend hne
  | other hne hne' hlog hact =>
    obtain ⟨⟨stS', hstop, hpass⟩, halarm⟩ := hunsent fun set => hact _ set
    obtain ⟨es, hlog, hreported, hstopped⟩ := hlog
    obtain ⟨hans, hunserved⟩ := h.phase.quiet_of_rest hrest hne
    refine ⟨stO', stS', halarm, hobstacle, hstop, .quiet ?_ hne' ?_⟩
    · rw [hlog]
      exact hans.others hreported hstopped
    · rw [hpc]
      exact hunserved.passes h.stop.position hpass

/-- A step in which neither Task1 nor TaskS executes a statement. Others log only while both
wait. -/
theorem Calm.aside (h : Calm s stO stS) (hu : Undetached a s s' l) (hmain : MainStep s s' l)
    (hown : ∀ act, l = .act act →
      s.machine.current ≠ .obstacleControl ∧ s.machine.current ≠ .movementStop)
    (hsend : ∀ set, l ≠ .act (.send .obstacle set)) (hobstacle : s'.obstaclePc = s.obstaclePc)
    (hpc : s'.stopPc = s.stopPc)
    (hlog : s'.log = s.log ∨ (¬Competing s.machine.kernel .obstacleControl ∧
      ¬Competing s.machine.kernel .movementStop) ∧
        ∃ es, s'.log = s.log ++ es ∧ .reported ∉ es ∧ .stop ∉ es) :
    ∃ stO' stS', Calm s' stO' stS' := by
  obtain ⟨stO', hobs⟩ := h.obstacle.aside hu hmain
    (fun ho act hl => (hown act hl).1 ho.symm) hobstacle
  obtain ⟨stS', hstop, hpass⟩ := h.stop.aside hu hmain
    (fun hs act hl => (hown act hl).2 hs.symm) hsend h.alarm hpc
  have halarm := Machine.event_zero_of_step hu.step ⟨hsend, fun due _ d _ he => by cases he⟩ h.alarm
  refine ⟨stO', stS', halarm, hobs, hstop, ?_⟩
  rcases hlog with hlog | ⟨⟨hO, hS⟩, es, hlog, hreported, hstopped⟩
  · exact h.phase.passes h.stop hpass hlog hobstacle hpc
  · have hrestO : stO = .new ∨ stO = .waiting := by
      rcases h.obstacle.loop.loop.competing with hst | hst | hc
      · exact .inl hst
      · exact .inr hst
      · exact absurd hc hO
    have hrestS : stS = .new ∨ stS = .waiting := by
      rcases h.stop.loop.loop.competing with hst | hst | hc
      · exact .inl hst
      · exact .inr hst
      · exact absurd hc hS
    have hne : s.obstaclePc ≠ .send := fun hat => by
      have hposition := h.obstacle.position
      rcases hrestO with rfl | rfl
      · rw [hat] at hposition
        exact absurd (hposition.recv rfl) (by simp)
      · rw [hat] at hposition
        exact absurd (hposition.test.mpr (by simp)) (by simp)
    obtain ⟨hans, hunserved⟩ := h.phase.quiet_of_rest hrestS hne
    refine .quiet ?_ (by rwa [hobstacle]) ?_
    · rw [hlog]
      exact hans.others hreported hstopped
    · rw [hpc]
      exact hunserved.passes h.stop.position hpass

/-! ### All runs -/

/-- A step in which the main thread executes no statement. -/
theorem MainStep.of_other (hpc : s'.mainPc = s.mainPc) (ht : t ≠ .main)
    (hallowed : ∀ act, l = .act act → s.Allowed t act) : MainStep s s' l where
  activation set hl := by
    rcases hallowed _ hl with h | ⟨h, -⟩ <;> cases h
  startup rest hrest := ⟨⟨rest, hpc ▸ hrest⟩, fun d hl => ht (hallowed _ hl).1⟩
  next rest x hrest hx := .inl ⟨rest, hpc.trans hrest, hx⟩

theorem MainStep.of_main :
    MainStep s (s.mainStatement.2.withMachine m) (.act s.mainStatement.1) where
  activation set hl := by
    have hact : s.mainStatement.1 = .send .tasksActivation set := Machine.Label.act.inj hl
    have hallowed : s.Allowed .main s.mainStatement.1 := statement_allowed (t := .main) {}
    rw [hact] at hallowed
    rcases hallowed with h | ⟨h, -⟩ <;> cases h
  startup rest hrest := by
    obtain ⟨rest', hrest'⟩ := startup_of_mainStatement (s := s) hrest
    refine ⟨⟨rest', hrest'⟩, fun d hl => ?_⟩
    have hact : s.mainStatement.1 = .timerStart d := Machine.Label.act.inj hl
    have hallowed : s.Allowed .main s.mainStatement.1 := statement_allowed (t := .main) {}
    rw [hact] at hallowed
    exact hallowed.2 rest' hrest'
  next rest x hrest hx := by
    rcases mainStatement_startup hrest with rfl | ⟨y, tail, rfl, hact, hpc⟩
    · cases hx
    · rcases List.mem_cons.mp hx with rfl | hx
      · exact .inr (by rw [hact])
      · exact .inl ⟨tail, hpc, hx⟩

/-- Before the shutdown, where a thread other than Task1 and TaskS executes a statement, these two
wait. -/
theorem UrgencyInv.others_wait (h : UrgencyInv a s) (hcalm : ¬s.Raised)
    (hO : Urgent a .obstacleControl) (hcur : s.machine.current ≠ .obstacleControl)
    (hcur' : s.machine.current ≠ .movementStop) (hnot : ¬s.machine.Calling) :
    ¬Competing s.machine.kernel .obstacleControl ∧ ¬Competing s.machine.kernel .movementStop := by
  have hranked := h.ranked hcalm
  have hprio : ∀ {t}, Urgent a t → s.machine.kernel.prio t = t.priority := fun {t} ht =>
    (ranking a).fixed ht (hranked.prio t) (.inl rfl)
  have hwait : ∀ t, Urgent a t → t.priority ≤ 2 → ¬Competing s.machine.kernel t :=
    fun t ht hle hc => by
    have hprompt := (h.prompt hcalm t ht hc).resolve_right hnot
    have hurgent : Urgent a s.machine.current := hranked.urgent_of_le ht hprompt
    rw [hprio ht, hprio hurgent] at hprompt
    generalize s.machine.current = x at hcur hcur' hprompt
    cases x <;> simp_all [Task.priority] <;> omega
  exact ⟨hwait _ hO (by decide), hwait _ hO.stop (by decide)⟩

/-- What holds of the emergency stop in all runs. -/
structure StopInv (s : App) : Prop where
  closing : ClosingInv s
  idle : s.machine.Idle .idle
  users : Users (· = .movementStop) (.event .obstacle) s.machine
  calm : ¬s.Raised → ∃ stO stS, Calm s stO stS

theorem StopInv.initial {b : Boot} : StopInv (initial b) where
  closing h := by cases h
  idle := ⟨.inl rfl, fun _ => rfl, rfl, rfl, rfl⟩
  users := ⟨fun t h => by simp [App.initial, initialKernel] at h, fun _ _ h => by cases h⟩
  calm _ := by
    have hloop : ∀ {t : Task} {e : EventId} {set : BitVec 32}, t.initialState = .init →
        Looping t e set andClear .new (App.initial b).machine := fun {t e set} ht =>
      ⟨⟨fun _ => rfl, rfl, rfl, ThreadState.phase_eq_init.mpr ht, rfl⟩, fun h => by cases h⟩
    have hunserved : ∀ {recv : Prop}, LoopStage.new.Unserved recv :=
      ⟨fun h => (by cases h), fun h => (by cases h), fun h => (by cases h)⟩
    refine ⟨.new, .new, rfl, ⟨hloop rfl, ⟨fun _ => rfl, by simp [App.initial]⟩, fun rest _ => ?_⟩,
      ⟨hloop rfl, ⟨fun _ => rfl, by simp [App.initial]⟩, fun _ => ⟨startupOrder, rfl, by decide⟩⟩,
      .quiet .nil (by simp [App.initial]) hunserved⟩
    exact ⟨fun _ => rfl, rfl, hunserved⟩

/-- A thread that handles a signal is neither Task1 nor TaskS. -/
theorem Calm.not_running (h : Calm s stO stS) {c : Bool} {n : Signo}
    (hsig : (s.ctx s.machine.current).sig = .running c n) :
    s.machine.current ≠ .obstacleControl ∧ s.machine.current ≠ .movementStop := by
  have hO : (s.ctx .obstacleControl).sig = .none := h.obstacle.loop.loop.sig
  have hS : (s.ctx .movementStop).sig = .none := h.stop.loop.loop.sig
  constructor
  · intro hcur
    rw [hcur, hO] at hsig
    cases hsig
  · intro hcur
    rw [hcur, hS] at hsig
    cases hsig

theorem Calm.step (h : Calm s stO stS) (hstop : StopInv s) (hs : SchedOk s.machine)
    (hinv : UrgencyInv a s) (hcalm : ¬s.Raised) (hO : Urgent a .obstacleControl)
    (hm : Moves a s i s') : ∃ stO' stS', Calm s' stO' stS' := by
  have hranked := hinv.ranked hcalm
  have hu : ∀ (s' : App) {l}, s.machine.step (platform a) l = some s'.machine →
      (∀ act, l = .act act → s.Allowed s.machine.current act) → Undetached a s s' l :=
    fun s' l hstep hallowed =>
    { step := hstep
      sched := hs
      leaves := fun hsuspend => by
        have hidle : s.machine.kernel.prio .idle < rtThreadPriorityMax := by
          rcases hranked.prio .idle with hp | ⟨hp | hp, -⟩
          · rw [hp]
            decide
          · cases hp
          · cases hp
        exact hranked.rtSchedule_leaves hs.kernel.ready hsuspend hstop.idle.ready hidle
      detach := fun x hl => hcalm (hstop.closing (hallowed _ hl)) }
  cases hm with
  | @own input m hex hstep =>
    obtain ⟨hat, hperform⟩ := Machine.step_own hstep hex.2
    have hallowed : ∀ act, Machine.Label.act (s.statement input s.machine.current).1 = .act act →
        s.Allowed s.machine.current act := fun act hl => by
      rw [← Machine.Label.act.inj hl]
      exact statement_allowed _
    have hu := hu ((s.statement input s.machine.current).2.withMachine m) hstep hallowed
    have hmain : MainStep s ((s.statement input s.machine.current).2.withMachine m)
        (.act (s.statement input s.machine.current).1) := by
      by_cases hcur : s.machine.current = .main
      · rw [hcur]
        exact .of_main
      · exact .of_other (statement_mainPc hcur) hcur hallowed
    have hnot : ¬s.machine.Calling := fun hc => by
      rw [Calling, hat.2.1] at hc
      cases hc.2
    by_cases hS : s.machine.current = .movementStop
    · rw [hS] at hu hmain hperform ⊢
      exact h.own_stop hS hu hmain hat hperform
    by_cases hobs : s.machine.current = .obstacleControl
    · have hrest : stS = .new ∨ stS = .waiting := by
        rcases h.stop.loop.loop.competing with hst | hst | hc
        · exact .inl hst
        · exact .inr hst
        · -- TaskS is more urgent than Task1, which runs
          have hle := (hinv.prompt hcalm _ hO.stop hc).resolve_right hnot
          rw [hobs, (ranking a).fixed hO (hranked.prio _) (.inl rfl),
            (ranking a).fixed hO.stop (hranked.prio _) (.inl rfl)] at hle
          exact absurd hle (by decide)
      rw [hobs] at hu hmain hperform ⊢
      exact h.own_obstacle hobs hu hmain hat hperform hstop.users hrest
    · obtain ⟨hobstacle, hpc, hlog⟩ := statement_aside (s := s) input hobs hS
      refine h.aside hu hmain (fun _ _ => ⟨hobs, hS⟩) (fun set hl => ?_) hobstacle hpc
        (.inr ⟨hinv.others_wait hcalm hO hobs hS hnot, hlog⟩)
      rcases hallowed _ hl with he | ⟨-, -, ht, -⟩
      · cases he
      · exact hobs ht
  | @handler input m c n act s₁ hsig hst hstep =>
    obtain ⟨hobs, hS⟩ := h.not_running hsig
    have hin := handlerStatement_inHandler hst
    have hallowed : ∀ {t : Task} act', Machine.Label.act act = .act act' → s.Allowed t act' :=
      fun {t} act' hl => Machine.Label.act.inj hl ▸ allowed_of_inHandler hin
    have hnot : ¬s.machine.Calling := fun hc => by
      rw [Calling, hsig] at hc
      cases hc.1
    have hwrites : s₁.mainPc = s.mainPc ∧ s₁.obstaclePc = s.obstaclePc ∧ s₁.stopPc = s.stopPc ∧
        ∃ es, s₁.log = s.log ++ es ∧ .reported ∉ es ∧ .stop ∉ es := by
      generalize s.handler s.machine.current n = x at hst
      cases x with
      | default => cases hst
      | obstacle =>
        have hlog := obstacleHandlerStatement_log hst
        obtain ⟨_, _, _, _, _, _, -, rfl⟩ := obstacleHandlerStatement_owns hst
        rcases hlog with ⟨-, -, hlog⟩ | ⟨-, -, hlog⟩
        · exact ⟨rfl, rfl, rfl, _, hlog, by simp, by simp⟩
        · exact ⟨rfl, rfl, rfl, [], by simpa using hlog, by simp, by simp⟩
      | turnOff =>
        obtain ⟨_, _, rfl⟩ := turnOffStatement_owns hst
        exact ⟨rfl, rfl, rfl, [], by simp, by simp, by simp⟩
    obtain ⟨hmainPc, hobstacle, hpc, hlog⟩ := hwrites
    refine h.aside (hu (s₁.withMachine m) hstep hallowed)
      (.of_other (t := .idle) hmainPc (by simp) hallowed) (fun _ _ => ⟨hobs, hS⟩)
      (fun set hl => ?_) hobstacle hpc (.inr ⟨hinv.others_wait hcalm hO hobs hS hnot, hlog⟩)
    rw [Machine.Label.act.inj hl] at hin
    cases hin
  | @returned input m c n hsig hst hstep =>
    have hsame : ∀ x, (s.resetHandler x).mainPc = s.mainPc ∧
        (s.resetHandler x).obstaclePc = s.obstaclePc ∧ (s.resetHandler x).stopPc = s.stopPc ∧
          (s.resetHandler x).log = s.log := fun x => by
      cases x <;> exact ⟨rfl, rfl, rfl, rfl⟩
    obtain ⟨hmainPc, hobstacle, hpc, hlog⟩ := hsame (s.handler s.machine.current n)
    exact h.aside (hu ((s.resetHandler (s.handler s.machine.current n)).withMachine m) hstep
      fun _ hl => by cases hl) (.of_other (t := .idle) hmainPc (by simp) fun _ hl => by cases hl)
      (fun _ hl => by cases hl) (fun _ hl => by cases hl) hobstacle hpc (.inl hlog)
  | @kern m hstep =>
    exact h.aside (hu (s.withMachine m) hstep fun _ hl => by cases hl)
      (.of_other (t := .idle) rfl (by simp) fun _ hl => by cases hl) (fun _ hl => by cases hl)
      (fun _ hl => by cases hl) rfl rfl (.inl rfl)
  | @tick due m hstep =>
    exact h.aside (hu (s.withMachine m) hstep fun _ hl => by cases hl)
      (.of_other (t := .idle) rfl (by simp) fun _ hl => by cases hl) (fun _ hl => by cases hl)
      (fun _ hl => by cases hl) rfl rfl (.inl rfl)

theorem StopInv.step (h : StopInv s) (hs : SchedOk s.machine) (hinv : UrgencyInv a s)
    (hO : Urgent a .obstacleControl) (hm : Moves a s i s') : StopInv s' := by
  obtain ⟨-, hraised⟩ := hinv.turnOff.step hm
  obtain ⟨l, hstep, hallowed⟩ := hm.allowed
  refine ⟨h.closing.step hraised hm, h.idle.step hs.kernel hstep,
    h.users.step hs.kernel hstep fun act hl hobject => ?_, fun hcalm => ?_⟩
  · have hact := hallowed act hl
    cases act <;> simp [Machine.Act.object] at hobject
    exact hact hobject
  · have hcalm' : ¬s.Raised := fun hr => hcalm (hraised hr)
    obtain ⟨stO, stS, hc⟩ := h.calm hcalm'
    exact hc.step h hs hinv hcalm' hO hm

end App

end RobotVacuum
