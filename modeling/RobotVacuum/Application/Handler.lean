import RobotVacuum.Application.Steps
import RobotVacuum.Machine.Handling

/-!
# The obstacle handler and the body of Task2

Task2 and its signal handler share the robot without a lock, but they are one thread: while the
handler runs, no statement of the body is executed (`HandlerInv.executes`). The machine may preempt
the handler as often as it likes.
-/

namespace RobotVacuum

open Kernel (ReadyQueueInv ReadyTable KernelOk)
open Machine (SchedOk HandlingOk SignalsSelf Fresh)

/-! ### The start -/

section Start

variable {b : Boot} {t : Task}

theorem initialKernel_table : ReadyTable (initialKernel b) where
  proper := by
    refine ⟨fun h => ?_, fun {h h' _} hm hm' => ?_⟩
    · simp only [initialKernel]
      split <;> simp
    · by_contra hne
      simp only [initialKernel] at hm hm'
      split at hm
      · next heq =>
        rw [if_neg fun heq' => hne (heq.trans heq'.symm)] at hm'
        cases hm'
      · cases hm
  prio {p t} hm := by
    simp only [initialKernel] at hm
    split at hm
    · next heq =>
      obtain rfl := List.mem_singleton.mp hm
      cases heq
      rfl
    · cases hm
  bit p hp := by
    have hgroup : (initialKernel b).readyPriorityGroup = priorityMask 32 31 := rfl
    rw [hgroup, getLsbD_priorityMask hp]
    by_cases h31 : p = 31 <;> simp [initialKernel, h31]
  orderly := QueueEvent.orderly_nil.append_singleton (e := .enter 31 Task.idle) List.not_mem_nil
  log p := by
    by_cases h31 : p = 31
    · subst h31
      rfl
    · simp [initialKernel, h31, QueueEvent.replay, QueueEvent.apply, Ne.symm h31]

theorem initialKernel_ok : KernelOk (initialKernel b) where
  ready :=
    { table := initialKernel_table
      ready_iff := fun t => by
        have hstate : (initialKernel b).state t = t.initialState := rfl
        rw [hstate]
        constructor
        · intro ht
          refine ⟨31, ?_⟩
          cases t <;> first | exact List.mem_singleton.mpr rfl | cases ht
        · rintro ⟨p, hm⟩
          simp only [initialKernel] at hm
          split at hm
          · obtain rfl := List.mem_singleton.mp hm
            rfl
          · cases hm
      wait := fun {q t} hm => by simp [initialKernel] at hm
      running := fun {t} ht => by
        have hstate : t.initialState = .running := ht
        cases t <;> first | rfl | cases hstate
      current := by
        change Task.main.initialState ≠ .ready
        decide
      mask := fun {t} ht => by
        have hstate : t.initialState.started = true ∨ t = .main := ht
        cases t <;> first | rfl | (rcases hstate with h | h <;> cases h) }
  attached t _ := by
    refine ⟨?_, rfl⟩
    change (if t = .main then ThreadObject.dynamic else .static) ≠ .detached
    split <;> decide
  current := by
    change Task.main.initialState ≠ .init
    decide

end Start

/-- Before Task2 waits for its first activation. -/
def MovementPc.starting : MovementPc → Bool
  | .row0 | .col0 | .setDown | .clearMap | .install | .unmask => true
  | _ => false

namespace App

variable {a : Addresses} {s s' : App} {i : Label} {t : Task} {input : Input} {act : RobotAct}

/-! ### Statements and handlers -/

/-- A statement of Task2 before its first wait does not concern the kernel, the last one apart. -/
theorem starting_of_statement (h : s.movementStatement.2.movementPc.starting = true) :
    s.movementPc.starting = true ∧ s.movementStatement.1 = .local := by
  unfold movementStatement guardStatement findStatement at h ⊢
  split at h <;> (try split at h) <;> (try split at h) <;> simp_all [MovementPc.starting]

/-- Task2 does not signal itself, and unmasks its signal before its first wait. -/
theorem starting_of_signalsSelf
    (h : SignalsSelf .movementControl s.movementStatement.1) : s.movementPc.starting = true := by
  obtain ⟨n, h⟩ := h
  unfold movementStatement at h
  split at h <;> (try split at h) <;> simp_all [MovementPc.starting]

/-- The robot, and where in the obstacle handler Task2 is. -/
def robotState (s : App) := (s.map, s.position, s.direction, s.moved, s.mapFault, s.handlerPc)

/-- The robot, Task2 and its handlers are left alone. -/
structure LeavesTask2 (s s' : App) : Prop where
  robot : s'.robotState = s.robotState
  pc : s'.movementPc = s.movementPc
  handler : ∀ n, s'.handler .movementControl n = s.handler .movementControl n
  owner : ∀ t n, s'.handler t n = .obstacle → s.handler t n = .obstacle

theorem LeavesTask2.handlerPc (h : LeavesTask2 s s') : s'.handlerPc = s.handlerPc := by
  have hrobot := h.robot
  simp only [robotState, Prod.mk.injEq] at hrobot
  exact hrobot.2.2.2.2.2

theorem systemStatement_leavesTask2 : LeavesTask2 s s.systemStatement.2 := by
  have hinstall : ∀ t n, (if t = .tsystem ∧ n = .sigusr2 then .turnOff else s.handler t n) =
      Handler.obstacle → s.handler t n = .obstacle := fun t n h => by
    split at h
    · cases h
    · exact h
  have hother : ∀ n, (if Task.movementControl = .tsystem ∧ n = .sigusr2 then .turnOff
      else s.handler .movementControl n) = s.handler .movementControl n :=
    fun _ => if_neg (by simp)
  unfold systemStatement
  split <;> (try split) <;>
    first
    | exact ⟨rfl, rfl, fun _ => rfl, fun _ _ => id⟩
    | exact ⟨rfl, rfl, hother, hinstall⟩

/-- The other tasks leave Task2 alone. -/
theorem statement_leavesTask2 (ht : t ≠ .movementControl) :
    LeavesTask2 s (s.statement input t).2 := by
  cases t with
  | main =>
    obtain ⟨_, _, heq⟩ := mainStatement_owns (s := s)
    simp only [statement, heq]
    exact ⟨rfl, rfl, fun _ => rfl, fun _ _ => id⟩
  | tsystem => exact systemStatement_leavesTask2
  | obstacleControl =>
    obtain ⟨_, _, heq, -⟩ := obstacleStatement_owns s input
    simp only [statement, heq]
    exact ⟨rfl, rfl, fun _ => rfl, fun _ _ => id⟩
  | movementStop =>
    obtain ⟨_, _, heq, -⟩ := stopStatement_owns (s := s)
    simp only [statement, heq]
    exact ⟨rfl, rfl, fun _ => rfl, fun _ _ => id⟩
  | movementControl => exact absurd rfl ht
  | checkResources =>
    obtain ⟨_, _, heq, -⟩ := resourcesStatement_owns (s := s)
    simp only [statement, heq]
    exact ⟨rfl, rfl, fun _ => rfl, fun _ _ => id⟩
  | acousticSignals =>
    obtain ⟨_, _, heq, -⟩ := acousticStatement_owns (s := s)
    simp only [statement, heq]
    exact ⟨rfl, rfl, fun _ => rfl, fun _ _ => id⟩
  | brushesSpeed =>
    obtain ⟨_, _, _, _, heq, -⟩ := brushesStatement_owns s input
    simp only [statement, heq]
    exact ⟨rfl, rfl, fun _ => rfl, fun _ _ => id⟩
  | idle => exact ⟨rfl, rfl, fun _ => rfl, fun _ _ => id⟩

theorem accessMap_handlers (p : ℤ × ℤ) : (s.accessMap p).handlerPc = s.handlerPc ∧
    (s.accessMap p).handler = s.handler := by
  obtain ⟨_, heq⟩ := accessMap_eq (s := s) p
  rw [heq]
  exact ⟨rfl, rfl⟩

theorem testMove_handlers (d : Directions) : (s.testMove d).handlerPc = s.handlerPc ∧
    (s.testMove d).handler = s.handler := by
  obtain ⟨_, heq⟩ := testMove_eq (s := s) d
  rw [heq]
  exact ⟨rfl, rfl⟩

theorem movementStatement_handlers : s.movementStatement.2.handlerPc = s.handlerPc ∧
    ∀ t n, s.movementStatement.2.handler t n = .obstacle →
      s.handler t n = .obstacle ∨ t = .movementControl := by
  have hinstall : ∀ t n, (if t = .movementControl ∧ n = .sigusr1 then .obstacle
      else s.handler t n) = Handler.obstacle → s.handler t n = .obstacle ∨
        t = .movementControl := fun t n h => by
    split at h
    · next hm => exact .inr hm.1
    · exact .inl h
  unfold movementStatement guardStatement findStatement setTile
  split <;> (try split) <;>
    first
    | exact ⟨rfl, fun _ _ => .inl⟩
    | exact ⟨rfl, hinstall⟩
    | (simp only [accessMap_handlers, testMove_handlers]; exact ⟨trivial, fun _ _ => .inl⟩)

/-! ### All runs -/

/-- Task2 has begun its obstacle handler and not returned from it. -/
def InObstacleHandler (s : App) : Prop := ∃ b n,
  (s.ctx .movementControl).sig = .running b n ∧ s.handler .movementControl n = .obstacle

/-- What holds of the handler in every run. -/
structure HandlerInv (s : App) : Prop where
  sched : SchedOk s.machine
  handling : HandlingOk .movementControl s.machine
  fresh : s.movementPc.starting = true →
    s.machine.kernel.state .movementControl = .close ∨ Fresh (s.machine.view .movementControl)
  owner : ∀ t n, s.handler t n = .obstacle → t = .movementControl
  /-- A handler that was begun goes on, unless Task2 is detached. -/
  inside : s.handlerPc ≠ .mark →
    s.machine.kernel.state .movementControl = .close ∨ s.InObstacleHandler

/-- A thread that takes a step of its own is not closed. -/
theorem open_of_step {m : RobotMachine} {l : Machine.Label Task EventId MutexId MailboxId TimerId
      String} (h : s.machine.step (platform a) l = some m) (hl : ∀ due, l ≠ .tick due) :
    s.machine.kernel.state s.machine.current ≠ .close := by
  cases l with
  | tick due => exact absurd rfl (hl due)
  | act act | hret | kern =>
    simp only [Machine.step] at h
    split at h
    · next hrun => exact hrun.2
    · cases h

/-- While Task2 is in its handler it executes no statement of its body. -/
theorem HandlerInv.executes (h : HandlerInv s) {m : RobotMachine}
    (hex : s.Executes .movementControl)
    (hstep : s.machine.step (platform a) (.act act) = some m) : s.handlerPc = .mark := by
  by_contra hne
  rcases h.inside hne with hc | ⟨b, n, hsig, -⟩
  · exact open_of_step hstep (by simp) (hex.1.symm ▸ hc)
  · exact hex.2 b n hsig

theorem HandlerInv.initial {b : Boot} : HandlerInv (initial b) where
  sched := ⟨initialKernel_ok, fun _ _ h => by cases h⟩
  handling :=
    { signals := .inr
        { layer := fun h => absurd rfl h
          pending := fun h => by cases h
          self := fun _ _ h => by cases h
          new := fun _ => ⟨fun _ => rfl, rfl, rfl⟩ }
      dispatched := fun h => by cases h }
  fresh _ := by
    refine .inr ⟨fun _ => rfl, fun h => ?_, rfl, rfl, rfl⟩
    have hstate : Task.movementControl.initialState = .suspend := ThreadState.phase_eq_suspend.mp h
    cases hstate
  owner _ _ h := by cases h
  inside h := absurd rfl h

/-- What the machine does to Task2 in a step, the statements apart by which Task2 unmasks its
signal: it stays where it was in its handler unless it returns. -/
theorem HandlerInv.machine (h : HandlerInv s) {m : RobotMachine}
    {l : Machine.Label Task EventId MutexId MailboxId TimerId String}
    (hstep : s.machine.step (platform a) l = some m)
    (hself : ∀ act, l = .act act → s.machine.AtUser → .movementControl = s.machine.current →
      SignalsSelf .movementControl act → s.movementPc.starting = true) :
    SchedOk m ∧ HandlingOk .movementControl m ∧
      (l = .hret ∧ s.machine.current = .movementControl ∨
        ∀ b n, (s.ctx .movementControl).sig = .running b n →
          m.kernel.state .movementControl = .close ∨
            (m.ctx .movementControl).sig = .running b n) := by
  have hk := h.sched.kernel
  obtain ⟨hhandling, hstays⟩ := h.handling.step h.sched hstep fun act hl hat hcur hsig => by
    have hopen := open_of_step hstep (by simp [hl])
    have hf := (h.fresh (hself act hl hat hcur hsig)).resolve_left (hcur.symm ▸ hopen)
    exact ⟨fun hs => hf.state (ThreadState.phase_eq_suspend.mpr hs), hf.pending⟩
  refine ⟨h.sched.step hstep, hhandling, ?_⟩
  rcases hstays with ⟨hcur, hret⟩ | hstays
  · exact .inl ⟨hret, hcur.symm⟩
  · exact .inr fun b n hrun => (hstays b n hrun).symm

/-- The invariant after a step by which Task2 stays in its handler. -/
theorem HandlerInv.of_stays (h : HandlerInv s) {m : RobotMachine}
    {l : Machine.Label Task EventId MutexId MailboxId TimerId String}
    (hstep : s.machine.step (platform a) l = some m) (hm : SchedOk m)
    (hhandling : HandlingOk .movementControl m)
    (hstays : ∀ b n, (s.ctx .movementControl).sig = .running b n →
      m.kernel.state .movementControl = .close ∨ (m.ctx .movementControl).sig = .running b n)
    (hfresh : s'.movementPc.starting = true → s.movementPc.starting = true ∧
      (.movementControl = s.machine.current → ∀ act, l = .act act → act = .local))
    (howner : ∀ t n, s'.handler t n = .obstacle → t = .movementControl)
    (hinside : s'.handlerPc ≠ .mark → (s.handlerPc ≠ .mark ∨ s.InObstacleHandler) ∧
      ∀ n, s'.handler .movementControl n = s.handler .movementControl n) :
    HandlerInv (s'.withMachine m) where
  sched := hm
  handling := hhandling
  fresh hs := by
    obtain ⟨hstart, hlocal⟩ := hfresh hs
    exact Machine.fresh_of_step h.sched.kernel (h.fresh hstart) hstep hlocal
  owner := howner
  inside hne := by
    obtain ⟨hin, hhandler⟩ := hinside hne
    have hin : s.machine.kernel.state .movementControl = .close ∨ s.InObstacleHandler :=
      hin.elim h.inside .inr
    rcases hin with hc | ⟨b, n, hrun, hobs⟩
    · exact .inl (Machine.close_of_step h.sched.kernel hstep hc)
    · exact (hstays b n hrun).imp id fun hrun' => ⟨b, n, hrun', (hhandler n).trans hobs⟩

/-- A thread in a handler has begun to wait before. -/
theorem HandlerInv.not_starting (h : HandlerInv s) {b : Bool} {n : Signo}
    (hsig : (s.ctx s.machine.current).sig = .running b n)
    (hopen : s.machine.kernel.state s.machine.current ≠ .close)
    (hs : s.movementPc.starting = true) : .movementControl ≠ s.machine.current := by
  intro heq
  rw [← heq] at hsig hopen
  have hnone : (s.ctx .movementControl).sig = .none := ((h.fresh hs).resolve_left hopen).sig
  rw [hsig] at hnone
  cases hnone

theorem resetHandler_handlers {x : Handler} : (s.resetHandler x).movementPc = s.movementPc ∧
    (s.resetHandler x).handler = s.handler ∧ ((s.resetHandler x).handlerPc = .mark ∨
      x ≠ .obstacle ∧ (s.resetHandler x).handlerPc = s.handlerPc) := by
  cases x with
  | obstacle => exact ⟨rfl, rfl, .inl rfl⟩
  | default | turnOff => exact ⟨rfl, rfl, .inr ⟨by simp, rfl⟩⟩

/-- A handler of Task2 that returns begins from its start the next time. -/
theorem HandlerInv.reset_mark (h : HandlerInv s) {b : Bool} {n : Signo}
    (hsig : (s.ctx s.machine.current).sig = .running b n)
    (hopen : s.machine.kernel.state s.machine.current ≠ .close)
    (hcur : s.machine.current = .movementControl) :
    (s.resetHandler (s.handler s.machine.current n)).handlerPc = .mark := by
  rcases (resetHandler_handlers (s := s)).2.2 with hkept | ⟨hne, hkept⟩
  · exact hkept
  by_contra hin
  rcases h.inside (hkept ▸ hin) with hc | ⟨b', n', hrun, hobs⟩
  · exact hopen (hcur.symm ▸ hc)
  · rw [hcur] at hsig hne
    rw [hsig] at hrun
    cases hrun
    exact hne hobs

theorem HandlerInv.step (h : HandlerInv s) (hm : Moves a s i s') : HandlerInv s' := by
  cases hm with
  | @own input m hex hstep =>
    obtain ⟨hsched, hhandling, hstays⟩ := h.machine hstep fun act hl hat hcur hsig => by
      cases hl
      rw [← hcur] at hsig
      exact starting_of_signalsSelf hsig
    have hstays := hstays.resolve_left (by simp)
    by_cases hcur : s.machine.current = .movementControl
    · rw [hcur] at hex hstep ⊢
      have hmark := h.executes hex hstep
      obtain ⟨hpc, howner⟩ := movementStatement_handlers (s := s)
      refine h.of_stays hstep hsched hhandling hstays (fun hs => ?_)
        (fun t n ht => (howner t n ht).elim (h.owner t n) id)
        (fun hne => absurd (hpc.trans hmark) hne)
      obtain ⟨hstart, hlocal⟩ := starting_of_statement hs
      refine ⟨hstart, fun _ act hl => ?_⟩
      cases hl
      exact hlocal
    · have hsame : LeavesTask2 s (s.statement input s.machine.current).2 :=
        statement_leavesTask2 hcur
      refine h.of_stays hstep hsched hhandling hstays
        (fun hs => ⟨hsame.pc ▸ hs, fun heq => absurd heq.symm hcur⟩)
        (fun t n ht => h.owner t n (hsame.owner t n ht))
        (fun hne => ⟨.inl (hsame.handlerPc ▸ hne), hsame.handler⟩)
  | @handler input m b n act s₁ hsig hh hstep =>
    have hopen := open_of_step hstep (by simp)
    have hstarted := h.not_starting hsig hopen
    obtain ⟨hsched, hhandling, hstays⟩ := h.machine hstep fun _ _ hat => by
      have hnone : (s.ctx s.machine.current).sig = .none := hat.1
      rw [hsig] at hnone
      cases hnone
    have hstays := hstays.resolve_left (by simp)
    generalize hx : s.handler s.machine.current n = x at hh
    cases x with
    | default => cases hh
    | obstacle =>
      have hcur := h.owner _ _ hx
      obtain ⟨_, _, _, _, _, _, -, rfl⟩ := obstacleHandlerStatement_owns hh
      rw [hcur] at hsig hx
      exact h.of_stays hstep hsched hhandling hstays
        (fun hs => ⟨hs, fun heq => absurd heq (hstarted hs)⟩) h.owner
        (fun _ => ⟨.inr ⟨b, n, hsig, hx⟩, fun _ => rfl⟩)
    | turnOff =>
      obtain ⟨_, _, rfl⟩ := turnOffStatement_owns hh
      exact h.of_stays hstep hsched hhandling hstays
        (fun hs => ⟨hs, fun heq => absurd heq (hstarted hs)⟩) h.owner
        (fun hne => ⟨.inl hne, fun _ => rfl⟩)
  | @returned input m b n hsig hh hstep =>
    have hopen := open_of_step hstep (by simp)
    have hstarted := h.not_starting hsig hopen
    obtain ⟨hsched, hhandling, hstays⟩ := h.machine hstep fun _ hl => by cases hl
    obtain ⟨hpc, hhandler, hkept⟩ := resetHandler_handlers (s := s)
      (x := s.handler s.machine.current n)
    by_cases hcur : s.machine.current = .movementControl
    · have hmark := h.reset_mark hsig hopen hcur
      exact ⟨hsched, hhandling, fun hs => absurd hcur.symm (hstarted (hpc ▸ hs)),
        fun t n ht => h.owner t n (hhandler ▸ ht), fun hne => absurd hmark hne⟩
    · have hstays := hstays.resolve_left fun hret => hcur hret.2
      refine h.of_stays hstep hsched hhandling hstays
        (fun hs => ⟨hpc ▸ hs, fun heq => absurd heq.symm hcur⟩)
        (fun t n ht => h.owner t n (hhandler ▸ ht)) fun hne => ?_
      rcases hkept with hkept | ⟨-, hkept⟩
      · exact absurd hkept hne
      · exact ⟨.inl (hkept ▸ hne), fun _ => congrFun (congrFun hhandler _) _⟩
  | @kern m hstep =>
    obtain ⟨hsched, hhandling, hstays⟩ := h.machine hstep fun _ hl => by cases hl
    exact h.of_stays hstep hsched hhandling (hstays.resolve_left (by simp))
      (fun hs => ⟨hs, fun _ _ hl => by cases hl⟩) h.owner (fun hne => ⟨.inl hne, fun _ => rfl⟩)
  | @tick due m hstep =>
    obtain ⟨hsched, hhandling, hstays⟩ := h.machine hstep fun _ hl => by cases hl
    exact h.of_stays hstep hsched hhandling (hstays.resolve_left (by simp))
      (fun hs => ⟨hs, fun _ _ hl => by cases hl⟩) h.owner (fun hne => ⟨.inl hne, fun _ => rfl⟩)

theorem handlerInv_of_reaches {ok : App → Label → Prop} (h : (runs a).Reaches ok s) :
    HandlerInv s := by
  refine h.invariant ?_ fun s i s' hinv _ hs => hinv.step (moves_of_step hs)
  rintro s ⟨b, rfl⟩
  exact .initial

end App

end RobotVacuum
