import RobotVacuum.Application.Handler
import RobotVacuum.Machine.Queued
import RobotVacuum.Foundation.History

/-!
# STOP and START

TaskS stops the engine when Task1 has seen an obstacle, and Task2 starts it again in its next
activation. The two tasks have no common lock: if TaskS preempts Task2 in an activation, the
activation goes on and starts the engine behind the obstacle (`engine_restarted`). There is no other
way, but for activations that begin while the signal is pending (`no_restart`).
-/

namespace RobotVacuum

open History (Outstanding split_append snoc_eq mem_of_not_outstanding not_outstanding_nil)

/-! ### What the log says -/

section Log

variable {log l : List LogEntry}

/-- After an obstacle was reported and STOP was written, Task2 began a new activation, and the
handler had begun for the obstacle before. -/
def Resumes (log : List LogEntry) : Prop :=
  ∀ l₀ l₁ l₂, log = l₀ ++ .reported :: (l₁ ++ .stop :: l₂) →
    ∃ m₁ m₂, l₂ = m₁ ++ .begun .movementControl :: m₂ ∧ .handled ∈ l₁ ++ m₁

/-- START is only written after a new activation of Task2 that began after the handler did. -/
def NoRestart (log : List LogEntry) : Prop := ∀ l l', log = l ++ .start :: l' → Resumes l

theorem Resumes.append (h : Resumes log) (hl : .stop ∉ l) : Resumes (log ++ l) := by
  intro l₀ l₁ l₂ heq
  have heq : log ++ l = (l₀ ++ .reported :: l₁) ++ .stop :: l₂ := by simpa using heq
  obtain ⟨l', rfl, hlog⟩ := split_append heq hl
  obtain ⟨m₁, m₂, rfl, hm⟩ := h l₀ l₁ l' (by simpa using hlog)
  exact ⟨m₁, m₂ ++ l, by simp, hm⟩

/-- An activation that begins when all obstacles are handled. -/
theorem resumes_begun (h : ¬Outstanding .reported .handled log) :
    Resumes (log ++ [.begun .movementControl]) := by
  intro l₀ l₁ l₂ heq
  have heq : log ++ [.begun .movementControl] = (l₀ ++ .reported :: l₁) ++ .stop :: l₂ := by
    simpa using heq
  obtain ⟨l', rfl, hlog⟩ := split_append heq (by simp)
  have hlog : log = l₀ ++ .reported :: (l₁ ++ .stop :: l') := by simpa using hlog
  have hm := mem_of_not_outstanding (hlog ▸ h)
  exact ⟨l', [], rfl, by simpa using hm⟩

theorem NoRestart.append (h : NoRestart log) (hl : .start ∉ l) : NoRestart (log ++ l) := by
  intro l₁ l₂ heq
  obtain ⟨l', rfl, hlog⟩ := split_append heq hl
  exact h l₁ l' hlog

theorem NoRestart.start (h : NoRestart log) (hr : Resumes log) : NoRestart (log ++ [.start]) := by
  intro l₁ l₂ heq
  rcases snoc_eq heq with ⟨-, rfl, -⟩ | ⟨l', rfl, hlog⟩
  · exact hr
  · exact h l₁ l' hlog

theorem noRestart_nil : NoRestart [] := fun _ _ h => by simp at h

end Log

/-! ### Where Task2 is -/

namespace MovementPc

/-- The handler is not installed. -/
def uninstalled : MovementPc → Bool
  | .row0 | .col0 | .setDown | .clearMap | .install => true
  | _ => false

/-- Task2 has begun an activation and will write START in it, unless the thread ends. -/
def activating : MovementPc → Bool
  | .row0 | .col0 | .setDown | .clearMap | .install | .unmask | .recv | .test | .kill | .busy
  | .ended | .exit => false
  | _ => true

theorem starting_of_uninstalled {pc : MovementPc} (h : pc.uninstalled = true) :
    pc.starting = true := by
  cases pc <;> first | rfl | cases h

end MovementPc

open MovementPc (starting_of_uninstalled)

namespace App

variable {a : Addresses} {s s' : App} {i : Label} {t : Task} {input : Input}

/-- SIGUSR1 is pending for Task2, or Task1 is about to queue it. -/
def SignalPending (s : App) : Prop :=
  s.machine.Sends .obstacleControl .movementControl .sigusr1 ∨
    s.machine.Queued .movementControl .sigusr1

/-- TaskS does not write STOP while Task2 is on its way to START, no activation of Task2 begins
while its signal is pending, and there is a node for every signal Task1 sends. -/
structure Restrained (s : App) (i : Label) : Prop where
  stop : (∃ input, i = .run input) → s.Executes .movementStop → s.stopPc = .write →
    s.movementPc.activating = false
  begin : (∃ input, i = .run input) → s.Executes .movementControl → s.movementPc = .test →
    s.gotOk .movementControl → ¬s.SignalPending
  node : i = .kern → s.machine.current = .obstacleControl → ¬s.machine.LacksNode

/-- The handler of SIGUSR1 has still to begin. -/
def Awaited (s : App) : Prop :=
  s.machine.kernel.state .movementControl = .close ∨ s.SignalPending ∨
    (∃ b, (s.ctx .movementControl).sig = .running b .sigusr1) ∧ s.handlerPc = .mark

/-- The invariant of these runs. -/
structure RestartInv (s : App) : Prop where
  installed : s.movementPc.uninstalled = true ∨
    s.handler .movementControl .sigusr1 = .obstacle
  resumes : s.movementPc.activating = true → Resumes s.log
  safe : NoRestart s.log
  awaited : Outstanding .reported .handled s.log → s.Awaited

/-! ### The signal -/

/-- While the handler is awaited it stays so, as far as the machine is concerned. -/
theorem Awaited.machine (h : s.Awaited) (hinv : HandlerInv s) {m : RobotMachine}
    {l : Machine.Label Task EventId MutexId MailboxId TimerId String}
    (hstep : s.machine.step (platform a) l = some m)
    (hstays : s.handlerPc = .mark → ∀ b, (s.ctx .movementControl).sig = .running b .sigusr1 →
      m.kernel.state .movementControl = .close ∨
        (m.ctx .movementControl).sig = .running b .sigusr1)
    (hnode : l = .kern → s.machine.current = .obstacleControl → ¬s.machine.LacksNode)
    (hmark : s.handlerPc = .mark → s'.handlerPc = .mark)
    (hret : l = .hret → s.machine.current = .movementControl → s'.handlerPc = .mark) :
    (s'.withMachine m).Awaited := by
  rcases h with hc | (hsends | hqueued) | ⟨⟨b, hsig⟩, hpc⟩
  · exact .inl (Machine.close_of_step hinv.sched.kernel hstep hc)
  · exact .inr (.inl (Machine.sends_of_step hinv.sched hstep hsends
      fun hl hcur => hnode hl hcur.symm))
  · rcases Machine.queued_of_step hinv.sched hstep hqueued with hc | hq | ⟨hcur, hrun, hl⟩
    · exact .inl hc
    · exact .inr (.inl (.inr hq))
    · refine .inr (.inr ⟨hrun, ?_⟩)
      rcases hl with hl | ⟨rfl, b, hentry⟩
      · exact hret hl hcur.symm
      · refine hmark ?_
        by_contra hne
        rcases hinv.inside hne with hc | ⟨b', n, hrun', -⟩
        · exact open_of_step hstep (by simp) (hcur ▸ hc)
        · exact absurd (hentry.symm.trans hrun') (by simp)
  · exact (hstays hpc b hsig).imp id fun hsig' => .inr ⟨⟨b, hsig'⟩, hmark hpc⟩

/-! ### Statements -/

/-- What the statements of Task2 write: the beginning of an activation, START, or nothing that
matters here. -/
theorem movementStatement_log :
    (s.movementPc = .test ∧ s.gotOk .movementControl ∧
      s.movementStatement.2.log = s.log ++ [.begun .movementControl]) ∨
    (s.movementPc = .engine ∧ s.movementStatement.2.log = s.log ++ [.start] ∧
      s.movementStatement.2.movementPc.activating = false) ∨
    ∃ l, s.movementStatement.2.log = s.log ++ l ∧
      (.reported ∉ l ∧ .stop ∉ l ∧ .start ∉ l) ∧
      (s.movementStatement.2.movementPc.activating = true → s.movementPc.activating = true) := by
  have haccess : ∀ p, (s.accessMap p).log = s.log := fun p => by
    obtain ⟨_, heq⟩ := accessMap_eq (s := s) p
    rw [heq]
  have htest : ∀ d, (s.testMove d).log = s.log := fun d => by
    obtain ⟨_, heq⟩ := testMove_eq (s := s) d
    rw [heq]
  generalize hat : s.movementPc = pc
  cases pc with
  | test =>
    by_cases hok : s.gotOk .movementControl
    · refine .inl ⟨rfl, hok, ?_⟩
      simp only [movementStatement, hat]
      rw [if_pos hok]
      rfl
    · refine .inr (.inr ⟨[], ?_, by simp, ?_⟩) <;> simp only [movementStatement, hat] <;>
        rw [if_neg hok]
      · simp
      · exact id
  | engine =>
    exact .inr (.inl ⟨rfl, by simp [movementStatement, hat, record],
      by simp [movementStatement, hat, MovementPc.activating]⟩)
  | row0 | col0 | setDown | clearMap | install | unmask | recv | ended | exit =>
    exact .inr (.inr ⟨[], by simp [movementStatement, hat], by simp,
      by simp [movementStatement, hat, MovementPc.activating]⟩)
  | busy =>
    refine .inr (.inr ⟨[], by simp [movementStatement, hat], by simp, fun h => ?_⟩)
    simp only [movementStatement, hat] at h
    split at h <;> cases h
  | kill =>
    exact .inr (.inr ⟨[.arrived], by simp [movementStatement, hat, record], by simp,
      by simp [movementStatement, hat, MovementPc.activating]⟩)
  | mbSend =>
    exact .inr (.inr ⟨[.mailed .mb2_5], by simp [movementStatement, hat, record], by simp,
      fun _ => rfl⟩)
  | testTile | markTile =>
    exact .inr (.inr ⟨[], by simp [movementStatement, hat, setTile, haccess], by simp,
      fun _ => rfl⟩)
  | guard d =>
    exact .inr (.inr ⟨[], by simp [movementStatement, hat, guardStatement, htest], by simp,
      fun _ => rfl⟩)
  | find l =>
    refine .inr (.inr ⟨[], ?_, by simp, fun _ => rfl⟩)
    cases l with
    | nil => simp [movementStatement, hat]
    | cons d rest =>
      simp only [movementStatement, hat, findStatement]
      split
      · simp
      · simp [htest]
  | started | mbRecv | testMail | setReturn | mask | garbage | switch | move d | findMove d
  | findTurn d | setStuck r | home | homeRow | homeCol | testStuck | testHome =>
    exact .inr (.inr ⟨[], by simp [movementStatement, hat], by simp, fun _ => rfl⟩)


/-- What the statements of the other tasks write. -/
theorem statement_log (input : Input) (ht : t ≠ .movementControl) : ∃ l,
    (s.statement input t).2.log = s.log ++ l ∧ .start ∉ l ∧
      (.reported ∈ l → t = .obstacleControl ∧
        (s.statement input t).1 = .kill .movementControl .sigusr1) ∧
      (.stop ∈ l → t = .movementStop ∧ s.stopPc = .write) := by
  have hwriter : ∀ {l : List LogEntry}, (∀ e ∈ l, e.writer = t) → t ≠ .obstacleControl →
      t ≠ .movementStop → .start ∉ l ∧ .reported ∉ l ∧ .stop ∉ l := fun hl h1 hs =>
    ⟨fun hmem => ht (hl _ hmem).symm, fun hmem => h1 (hl _ hmem).symm,
      fun hmem => hs (hl _ hmem).symm⟩
  have hothers : ∀ {l : List LogEntry}, .start ∉ l ∧ .reported ∉ l ∧ .stop ∉ l →
      (s.statement input t).2.log = s.log ++ l → ∃ l,
        (s.statement input t).2.log = s.log ++ l ∧ .start ∉ l ∧
          (.reported ∈ l → t = .obstacleControl ∧
            (s.statement input t).1 = .kill .movementControl .sigusr1) ∧
          (.stop ∈ l → t = .movementStop ∧ s.stopPc = .write) := fun hl heq =>
    ⟨_, heq, hl.1, fun hmem => absurd hmem hl.2.1, fun hmem => absurd hmem hl.2.2⟩
  cases t with
  | main =>
    obtain ⟨_, _, heq⟩ := mainStatement_owns (s := s)
    exact hothers (l := []) (by simp) (by simp [statement, heq])
  | tsystem =>
    obtain ⟨_, _, heq, -⟩ := systemStatement_owns (s := s)
    exact hothers (l := []) (by simp) (by simp [statement, heq])
  | obstacleControl =>
    generalize hat : s.obstaclePc = pc
    cases pc with
    | kill =>
      exact ⟨[.reported], by simp [statement, obstacleStatement, hat, record], by simp,
        fun _ => ⟨rfl, by simp [statement, obstacleStatement, hat]⟩, by simp⟩
    | test =>
      simp only [statement, obstacleStatement, hat]
      split
      · exact ⟨[.begun .obstacleControl], rfl, by simp, by simp, by simp⟩
      · exact ⟨[], by simp, by simp, by simp, by simp⟩
    | recv | started | read | send | busy | ended =>
      exact hothers (l := []) (by simp) (by simp [statement, obstacleStatement, hat])
  | movementStop =>
    generalize hat : s.stopPc = pc
    cases pc with
    | recv => exact ⟨[], by simp [statement, stopStatement, hat], by simp, by simp, by simp⟩
    | test =>
      simp only [statement, stopStatement, hat]
      split
      · exact ⟨[.begun .movementStop], rfl, by simp, by simp, by simp⟩
      · exact ⟨[], by simp, by simp, by simp, by simp⟩
    | write =>
      exact ⟨[.stop], by simp [statement, stopStatement, hat, record], by simp, by simp, by simp⟩
  | movementControl => exact absurd rfl ht
  | checkResources =>
    obtain ⟨_, l, heq, hl⟩ := resourcesStatement_owns (s := s)
    exact hothers (hwriter hl (by simp) (by simp)) (by simp [statement, heq])
  | acousticSignals =>
    obtain ⟨_, l, heq, hl⟩ := acousticStatement_owns (s := s)
    exact hothers (hwriter hl (by simp) (by simp)) (by simp [statement, heq])
  | brushesSpeed =>
    obtain ⟨_, _, _, l, heq, hl⟩ := brushesStatement_owns s input
    exact hothers (hwriter hl (by simp) (by simp)) (by simp [statement, heq])
  | idle => exact hothers (l := []) (by simp) (by simp [statement])

theorem movementStatement_handler (h : s.movementPc ≠ .install) :
    s.movementStatement.2.handler = s.handler := by
  unfold movementStatement guardStatement findStatement setTile
  split <;> (try split) <;>
    first
    | rfl
    | exact absurd ‹_› h
    | simp only [accessMap_handlers, testMove_handlers]

theorem movementStatement_installed (h : s.movementPc.uninstalled = true ∨
    s.handler .movementControl .sigusr1 = .obstacle) :
    s.movementStatement.2.movementPc.uninstalled = true ∨
      s.movementStatement.2.handler .movementControl .sigusr1 = .obstacle := by
  have hkept := movementStatement_handler (s := s)
  generalize hat : s.movementPc = pc at h hkept
  cases pc with
  | row0 | col0 | setDown | clearMap => exact .inl (by simp [movementStatement, hat]; rfl)
  | install => exact .inr (by simp [movementStatement, hat])
  | _ =>
    rw [hkept (by simp)]
    exact .inr (h.resolve_left (by simp [MovementPc.uninstalled]))

/-! ### All runs -/

/-- A step by which Task2 does not go on. -/
theorem RestartInv.grow (h : RestartInv s) {l : List LogEntry} (hlog : s'.log = s.log ++ l)
    (hpc : s'.movementPc = s.movementPc)
    (hhandler : s'.handler .movementControl .sigusr1 = s.handler .movementControl .sigusr1)
    (hstart : .start ∉ l) (hstop : s.movementPc.activating = true → .stop ∉ l)
    (hawaited : Outstanding .reported .handled s'.log → s'.Awaited) : RestartInv s' where
  installed := by
    rw [hpc, hhandler]
    exact h.installed
  resumes ha := by
    rw [hpc] at ha
    rw [hlog]
    exact (h.resumes ha).append (hstop ha)
  safe := hlog ▸ h.safe.append hstart
  awaited := hawaited

/-- An activation or a statement of Task2. -/
theorem RestartInv.movement (h : RestartInv s) (hex : s.Executes .movementControl)
    (hopen : s.machine.kernel.state .movementControl ≠ .close)
    (hok : s.Restrained (.run input)) {m : RobotMachine}
    (hawaited : s.Awaited → (s.movementStatement.2.withMachine m).Awaited) :
    RestartInv (s.movementStatement.2.withMachine m) := by
  have hinstalled := movementStatement_installed h.installed
  rcases movementStatement_log (s := s) with ⟨hpc, hgot, hlog⟩ | ⟨hpc, hlog, hout⟩ |
    ⟨l, hlog, ⟨hreported, hstop, hstart⟩, hpc⟩
  · -- nothing is outstanding when an activation begins
    have hnone : ¬Outstanding .reported .handled s.log := fun ho => by
      rcases h.awaited ho with hc | hp | ⟨⟨b, hsig⟩, -⟩
      · exact hopen hc
      · exact hok.begin ⟨input, rfl⟩ hex hpc hgot hp
      · exact hex.2 b _ hsig
    refine ⟨hinstalled, fun _ => ?_, ?_, fun ho => ?_⟩
    · exact hlog ▸ resumes_begun hnone
    · exact hlog ▸ h.safe.append (by simp)
    · exact absurd ((hlog ▸ ho : Outstanding _ _ (s.log ++ _)).of_append (by simp)).1 hnone
  · refine ⟨hinstalled, fun ha => ?_, ?_, fun ho => hawaited (h.awaited ?_)⟩
    · exact absurd (hout.symm.trans ha) (by simp)
    · have hresumes : Resumes s.log := h.resumes (by rw [hpc]; rfl)
      exact hlog ▸ h.safe.start hresumes
    · exact ((hlog ▸ ho : Outstanding _ _ (s.log ++ _)).of_append (by simp)).1
  · refine ⟨hinstalled, fun ha => ?_, ?_, fun ho => hawaited (h.awaited ?_)⟩
    · exact hlog ▸ (h.resumes (hpc ha)).append hstop
    · exact hlog ▸ h.safe.append hstart
    · exact ((hlog ▸ ho : Outstanding _ _ (s.log ++ _)).of_append hreported).1

/-- A statement of the obstacle handler. -/
theorem RestartInv.handler (h : RestartInv s) {act : RobotAct} {s₁ : App} {m : RobotMachine}
    (hh : s.obstacleHandlerStatement = some (act, s₁))
    (hawaited : s.handlerPc ≠ .mark → s.Awaited → (s₁.withMachine m).Awaited) :
    RestartInv (s₁.withMachine m) := by
  unfold obstacleHandlerStatement at hh
  split at hh <;> cases hh
  · have hlog : ((s.setTile s.position 1).record .handled).log = s.log ++ [.handled] := by
      obtain ⟨_, heq⟩ := accessMap_eq (s := s) s.position
      simp [setTile, record, heq]
    have hpc : (s.setTile s.position 1).movementPc = s.movementPc ∧
        (s.setTile s.position 1).handler = s.handler := by
      obtain ⟨_, heq⟩ := accessMap_eq (s := s) s.position
      simp [setTile, heq]
    refine h.grow hlog hpc.1 (congrFun (congrFun hpc.2 _) _) (by simp) (by simp) fun ho => ?_
    have hanswered := ((hlog ▸ ho : Outstanding _ _ (s.log ++ _)).of_append (by simp)).2
    exact absurd (List.mem_singleton_self _) hanswered
  · next hrevert =>
    refine h.grow (l := []) (by simp [withMachine]) rfl rfl (by simp) (by simp) fun ho => ?_
    exact hawaited (by simp [hrevert]) (h.awaited ho)

theorem RestartInv.step (h : RestartInv s) (hinv : HandlerInv s) (hok : s.Restrained i)
    (hm : Moves a s i s') : RestartInv s' := by
  cases hm with
  | @own input m hex hstep =>
    have hopen := open_of_step hstep (by simp)
    obtain ⟨-, -, hstays⟩ := hinv.machine hstep fun act hl hat hcur hsig => by
      cases hl
      rw [← hcur] at hsig
      exact starting_of_signalsSelf hsig
    have hstays := hstays.resolve_left (by simp)
    by_cases hcur : s.machine.current = .movementControl
    · rw [hcur] at hex hstep hopen ⊢
      have hmark := hinv.executes hex hstep
      refine h.movement hex hopen hok fun ha => ?_
      exact ha.machine hinv hstep (fun _ b => hstays b _) (by simp)
        (fun _ => movementStatement_handlers.1.trans hmark) (by simp)
    · have hsame : LeavesTask2 s (s.statement input s.machine.current).2 :=
        statement_leavesTask2 hcur
      obtain ⟨l, hlog, hstart, hreported, hstop⟩ := statement_log (s := s) input hcur
      refine h.grow hlog hsame.pc (hsame.handler _) hstart (fun hact hmem => ?_) fun ho => ?_
      · obtain ⟨ht, hpc⟩ := hstop hmem
        rw [ht] at hex
        exact absurd ((hok.stop ⟨input, rfl⟩ hex hpc).symm.trans hact) (by simp)
      · by_cases hmem : .reported ∈ l
        · -- Task1 is about to queue the signal
          obtain ⟨ht, hact⟩ := hreported hmem
          obtain ⟨-, rfl⟩ := Machine.step_own hstep hex.2
          rw [hact]
          refine .inr (.inl (.inl ⟨.check, ?_, by simp⟩))
          rw [← ht]
          simp [withMachine, Machine.perform, Machine.setCall]
        · have ho : Outstanding .reported .handled (s.log ++ l) := hlog ▸ ho
          exact (h.awaited (ho.of_append hmem).1).machine hinv hstep (fun _ b => hstays b _)
            (by simp) (fun hmark => hsame.handlerPc.trans hmark) (by simp)
  | @handler input m b n act s₁ hsig hst hstep =>
    have hopen := open_of_step hstep (by simp)
    have hstarted := hinv.not_starting hsig hopen
    obtain ⟨-, -, hstays⟩ := hinv.machine hstep fun _ _ hat => by
      have hnone : (s.ctx s.machine.current).sig = .none := hat.1
      rw [hsig] at hnone
      cases hnone
    have hstays := hstays.resolve_left (by simp)
    generalize hx : s.handler s.machine.current n = x at hst
    cases x with
    | default => cases hst
    | obstacle =>
      refine h.handler hst fun hne ha => ?_
      exact ha.machine hinv hstep (fun _ b => hstays b _) (by simp) (fun hmark => absurd hmark hne)
        (by simp)
    | turnOff =>
      obtain ⟨_, _, rfl⟩ := turnOffStatement_owns hst
      refine h.grow (l := []) (by simp [withMachine]) rfl rfl (by simp) (by simp) fun ho => ?_
      exact (h.awaited ho).machine hinv hstep (fun _ b => hstays b _) (by simp) id (by simp)
  | @returned input m b n hsig hst hstep =>
    have hopen := open_of_step hstep (by simp)
    have hstarted := hinv.not_starting hsig hopen
    obtain ⟨-, -, hstays⟩ := hinv.machine hstep fun _ hl => by cases hl
    obtain ⟨hpc, hhandler, hkept⟩ := resetHandler_handlers (s := s)
      (x := s.handler s.machine.current n)
    have hlog : (s.resetHandler (s.handler s.machine.current n)).log = s.log ++ [] := by
      rw [List.append_nil]
      unfold resetHandler
      split <;> rfl
    refine h.grow hlog hpc (congrFun (congrFun hhandler _) _) (by simp) (by simp) fun ho => ?_
    have ho : Outstanding .reported .handled s.log :=
      ((hlog ▸ ho : Outstanding _ _ (s.log ++ [])).of_append (by simp)).1
    refine (h.awaited ho).machine hinv hstep (fun hmark b' hrun => ?_) (by simp) (fun hmark => ?_)
      fun _ hcur => hinv.reset_mark hsig hopen hcur
    · by_cases hcur : s.machine.current = .movementControl
      · -- the handler has not begun, so it does not return
        have hobs := h.installed.resolve_left fun hu =>
          hstarted (starting_of_uninstalled hu) hcur.symm
        rw [hcur] at hsig hst
        obtain ⟨-, rfl⟩ := SigLayer.running.inj (hsig.symm.trans hrun)
        rw [hobs] at hst
        simp [handlerStatement, obstacleHandlerStatement, hmark] at hst
      · exact hstays.resolve_left (fun hret => hcur hret.2) b' _ hrun
    · exact hkept.elim id fun hkept => hkept.2.trans hmark
  | @kern m hstep =>
    obtain ⟨-, -, hstays⟩ := hinv.machine hstep fun _ hl => by cases hl
    have hstays := hstays.resolve_left (by simp)
    refine h.grow (l := []) (by simp [withMachine]) rfl rfl (by simp) (by simp) fun ho => ?_
    exact (h.awaited ho).machine hinv hstep (fun _ b => hstays b _) (fun _ => hok.node rfl) id
      (by simp)
  | @tick due m hstep =>
    obtain ⟨-, -, hstays⟩ := hinv.machine hstep fun _ hl => by cases hl
    have hstays := hstays.resolve_left (by simp)
    refine h.grow (l := []) (by simp [withMachine]) rfl rfl (by simp) (by simp) fun ho => ?_
    exact (h.awaited ho).machine hinv hstep (fun _ b => hstays b _) (by simp) id (by simp)

theorem RestartInv.initial {b : Boot} : RestartInv (initial b) where
  installed := .inl rfl
  resumes ha := by cases ha
  safe := noRestart_nil
  awaited ho := absurd ho not_outstanding_nil

end App

end RobotVacuum
