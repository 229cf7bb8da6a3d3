import RobotVacuum.Application.Obstacles
import RobotVacuum.Machine.Owning

/-!
# Emergency tasks come first

Until `turnOffSystem` raises the priority of the system task, the priorities of the tasks are those
of `tasks.h`, except that the owner of the mutex of the battery may have the low byte of an address
as its priority. A task that is more urgent than these, and than all tasks that take the mutex, is
never kept waiting by a less urgent one (`urgent_prompt`).
-/

namespace RobotVacuum

open Kernel (KernelOk Ranked Competing)
open Machine (Owners MayInherit Prompt Calling)

namespace App

/-- The priorities that the inheritance protocol of the project may write: the low bytes of the
addresses it hands to `rt_thread_control`. -/
def Addresses.Inherited (a : Addresses) (p : ℕ) : Prop :=
  (∃ t, p = (a.currentPriority t).toNat % 256) ∨ p = a.originalPriority.toNat % 256

/-- The tasks that take the mutex of the battery. -/
def TakesMutex (t : Task) : Prop := t = .tsystem ∨ t = .checkResources

/-- A task is more urgent than those that take the mutex, whatever priority these inherit. -/
structure Urgent (a : Addresses) (t : Task) : Prop where
  fixed : t.priority < Task.checkResources.priority
  inherited : ∀ p, a.Inherited p → t.priority < p

/-- The priorities the tasks may have before the shutdown. -/
def ranking (a : Addresses) : Ranking Task where
  urgent := Urgent a
  allowed t p := p = t.priority ∨ TakesMutex t ∧ a.Inherited p
  fixed {t p q} ht hp hq := by
    have hnot : ¬TakesMutex t := by
      have := ht.fixed
      rintro (rfl | rfl) <;> simp [Task.priority] at this
    rw [hp.resolve_right fun h => hnot h.1, hq.resolve_right fun h => hnot h.1]
  lt {t p} ht hp := by
    have hlt := ht.fixed
    have hnot : ¬TakesMutex t := by
      rintro (rfl | rfl) <;> simp [Task.priority] at hlt
    obtain rfl := hp.resolve_right fun h => hnot h.1
    exact Nat.lt_trans hlt (by decide)
  above {t x p q} ht hx hp hq := by
    have hlt := ht.fixed
    have hnot : ¬TakesMutex t := by
      rintro (rfl | rfl) <;> simp [Task.priority] at hlt
    rw [hp.resolve_right fun h => hnot h.1]
    rcases hq with rfl | ⟨-, hq⟩
    · by_contra hle
      refine hx ⟨by omega, fun p hp => ?_⟩
      have := ht.inherited p hp
      omega
    · exact ht.inherited q hq

variable {a : Addresses} {s s' : App} {i : Label} {t : Task} {input : Input}

/-! ### The shutdown -/

/-- `turnOffSystem` has raised the priority of the system task. -/
def Raised (s : App) : Prop :=
  s.turnOffFlag = true ∨ s.turnOffPc = .preemptableFlag ∨ s.turnOffPc = .turnOff

/-- When `turnOffSystem` is about to return it has set its flag. -/
def TurnOffInv (s : App) : Prop := s.turnOffPc = .ret → s.turnOffFlag = true

theorem statement_turnOff : (s.statement input t).2.turnOffPc = s.turnOffPc ∧
    (s.statement input t).2.turnOffFlag = s.turnOffFlag := by
  cases t with
  | main =>
    obtain ⟨_, _, heq⟩ := mainStatement_owns (s := s)
    simp [statement, heq]
  | tsystem =>
    obtain ⟨_, _, heq, -⟩ := systemStatement_owns (s := s)
    simp [statement, heq]
  | obstacleControl =>
    obtain ⟨_, _, heq, -⟩ := obstacleStatement_owns s input
    simp [statement, heq]
  | movementStop =>
    obtain ⟨_, _, heq, -⟩ := stopStatement_owns (s := s)
    simp [statement, heq]
  | movementControl =>
    obtain ⟨_, _, _, _, _, _, _, _, _, _, heq⟩ := movementStatement_owns (s := s)
    simp [statement, heq]
  | checkResources =>
    obtain ⟨_, _, heq, -⟩ := resourcesStatement_owns (s := s)
    simp [statement, heq]
  | acousticSignals =>
    obtain ⟨_, _, heq, -⟩ := acousticStatement_owns (s := s)
    simp [statement, heq]
  | brushesSpeed =>
    obtain ⟨_, _, _, _, heq, -⟩ := brushesStatement_owns s input
    simp [statement, heq]
  | idle => exact ⟨rfl, rfl⟩

/-- A statement of `turnOffSystem` up to the one that raises the priority leaves the ranks alone. -/
theorem turnOffStatement_raised {act : RobotAct} {s₁ : App}
    (h : s.turnOffStatement = some (act, s₁)) :
    (act.Keeps (ranking a) ∨ s₁.Raised) ∧ (s.Raised → s₁.Raised) ∧
      (TurnOffInv s → TurnOffInv s₁) := by
  unfold turnOffStatement at h
  split at h <;> cases h <;> simp_all [Raised, TurnOffInv, Machine.Act.Keeps]

theorem turnOffStatement_none (h : s.turnOffStatement = none) : s.turnOffPc = .ret := by
  unfold turnOffStatement at h
  split at h <;> first | assumption | cases h

/-- How `turnOffSystem` goes on in a step. -/
theorem TurnOffInv.step (h : TurnOffInv s) (hm : Moves a s i s') :
    TurnOffInv s' ∧ (s.Raised → s'.Raised) := by
  have hsame : ∀ {s' : App}, s'.turnOffPc = s.turnOffPc → s'.turnOffFlag = s.turnOffFlag →
      TurnOffInv s' ∧ (s.Raised → s'.Raised) := fun hpc hflag => by
    unfold TurnOffInv Raised
    rw [hpc, hflag]
    exact ⟨h, id⟩
  cases hm with
  | own hex hstep =>
    obtain ⟨hpc, hflag⟩ := statement_turnOff
    exact hsame hpc hflag
  | @handler input m b n act s₁ hsig hst hstep =>
    generalize s.handler s.machine.current n = x at hst
    cases x with
    | default => cases hst
    | obstacle =>
      obtain ⟨_, _, _, _, _, _, -, rfl⟩ := obstacleHandlerStatement_owns hst
      exact hsame rfl rfl
    | turnOff =>
      obtain ⟨-, hraised, hinv⟩ := turnOffStatement_raised (a := a) hst
      exact ⟨hinv h, hraised⟩
  | @returned input m b n hsig hst hstep =>
    generalize s.handler s.machine.current n = x at hst
    cases x with
    | default => exact hsame rfl rfl
    | obstacle => exact hsame rfl rfl
    | turnOff =>
      -- the flag was set before `turnOffSystem` returns
      have hflag := h (turnOffStatement_none hst)
      refine ⟨fun hret => ?_, fun _ => .inl hflag⟩
      cases hret
  | kern hstep => exact hsame rfl rfl
  | tick hstep => exact hsame rfl rfl

/-! ### The statements -/

/-- The tasks other than the system task and Task3 do not take the mutex. -/
theorem statement_take {m : MutexId} (h : (s.statement input t).1.object = some (.mutex m)) :
    TakesMutex t := by
  cases t with
  | tsystem => exact .inl rfl
  | checkResources => exact .inr rfl
  | main =>
    simp only [statement, mainStatement] at h
    split at h <;> (try split at h) <;> cases h
  | obstacleControl =>
    simp only [statement, obstacleStatement] at h
    split at h <;> (try split at h) <;> cases h
  | movementStop =>
    simp only [statement, stopStatement] at h
    split at h <;> (try split at h) <;> cases h
  | movementControl =>
    simp only [statement, movementStatement] at h
    split at h <;> (try split at h) <;> cases h
  | acousticSignals =>
    simp only [statement, acousticStatement] at h
    split at h <;> (try split at h) <;> cases h
  | brushesSpeed =>
    simp only [statement, brushesStatement] at h
    split at h <;> (try split at h) <;> cases h
  | idle => cases h

/-- No statement of a task gives a thread a priority it may not have. -/
theorem statement_keeps : (s.statement input t).1.Keeps (ranking a) := by
  cases t with
  | tsystem =>
    simp only [statement, systemStatement]
    split <;> (try split) <;> simp [Machine.Act.Keeps, ranking, Task.priority]
  | checkResources =>
    simp only [statement, resourcesStatement]
    split <;> (try split) <;> exact trivial
  | main =>
    simp only [statement, mainStatement]
    split <;> (try split) <;> exact trivial
  | obstacleControl =>
    simp only [statement, obstacleStatement]
    split <;> (try split) <;> exact trivial
  | movementStop =>
    simp only [statement, stopStatement]
    split <;> (try split) <;> exact trivial
  | movementControl =>
    simp only [statement, movementStatement]
    split <;> (try split) <;> exact trivial
  | acousticSignals =>
    simp only [statement, acousticStatement]
    split <;> (try split) <;> exact trivial
  | brushesSpeed =>
    simp only [statement, brushesStatement]
    split <;> (try split) <;> exact trivial
  | idle => exact trivial

/-- A statement of a handler waits for nothing, and leaves the ranks alone until `turnOffSystem`
raises the priority. -/
theorem handlerStatement_keeps {x : Handler} {act : RobotAct} {s₁ : App}
    (h : s.handlerStatement x = some (act, s₁)) :
    act.object = none ∧ (act.Keeps (ranking a) ∨ s₁.Raised) := by
  cases x with
  | default => cases h
  | obstacle =>
    obtain ⟨_, _, _, _, _, _, rfl, -⟩ := obstacleHandlerStatement_owns h
    exact ⟨rfl, .inl trivial⟩
  | turnOff =>
    refine ⟨?_, (turnOffStatement_raised h).1⟩
    simp only [handlerStatement, turnOffStatement] at h
    split at h <;> cases h <;> rfl

/-! ### All runs -/

/-- What a step asks of the machine. -/
theorem Moves.statements (hm : Moves a s i s') : ∃ l,
    s.machine.step (platform a) l = some s'.machine ∧ ∀ act, l = .act act →
      (∀ m, act.object = some (.mutex m) → TakesMutex s.machine.current) ∧
        (act.Keeps (ranking a) ∨ s'.Raised) := by
  cases hm with
  | own hex hstep =>
    refine ⟨_, hstep, fun act hl => ?_⟩
    simp only [Machine.Label.act.injEq] at hl
    subst hl
    exact ⟨fun m => statement_take, .inl statement_keeps⟩
  | handler hsig hh hstep =>
    refine ⟨_, hstep, fun act hl => ?_⟩
    simp only [Machine.Label.act.injEq] at hl
    subst hl
    obtain ⟨hobject, hkeeps⟩ := handlerStatement_keeps (a := a) hh
    refine ⟨fun m hm => ?_, hkeeps⟩
    rw [hobject] at hm
    cases hm
  | returned hsig hh hstep => exact ⟨_, hstep, fun _ hl => by cases hl⟩
  | kern hstep => exact ⟨_, hstep, fun _ hl => by cases hl⟩
  | tick hstep => exact ⟨_, hstep, fun _ hl => by cases hl⟩

/-- What holds of the ranks in all runs. -/
structure UrgencyInv (a : Addresses) (s : App) : Prop where
  turnOff : TurnOffInv s
  owners : ∀ m, Owners TakesMutex m s.machine
  waits : s.machine.ValidWaits
  ranked : ¬s.Raised → Ranked (ranking a) s.machine.kernel
  prompt : ¬s.Raised → Prompt (ranking a) s.machine

theorem UrgencyInv.initial {b : Boot} : UrgencyInv a (initial b) where
  turnOff h := by cases h
  owners m :=
    { owner := fun _ h => by cases h
      users := ⟨fun t h => by simp [App.initial, initialKernel] at h, fun _ _ h => by cases h⟩ }
  waits t e h := by simp [App.initial, initialKernel] at h
  ranked _ := ⟨rfl, fun _ => rfl, fun _ => .inl rfl, fun _ => .inl rfl⟩
  prompt _ t ht hc := by
    have hlt := ht.fixed
    cases t <;> simp [Competing, Kernel.state, App.initial, initialKernel, Task.initialThread,
      Task.initialState, Task.priority] at hc hlt

/-- The owner of a mutex may have the priorities the inheritance protocol writes. -/
theorem UrgencyInv.inherits (h : UrgencyInv a s) :
    MayInherit (ranking a) (platform a) s.machine := by
  intro m o ho
  have hown := (h.owners m).owner o ho
  exact ⟨fun t => .inr ⟨hown, .inl ⟨t, rfl⟩⟩, .inr ⟨hown, .inr rfl⟩⟩

theorem UrgencyInv.step (h : UrgencyInv a s) (hk : KernelOk s.machine.kernel)
    (hm : Moves a s i s') : UrgencyInv a s' := by
  obtain ⟨hturnOff, hraised⟩ := h.turnOff.step hm
  obtain ⟨l, hstep, hact⟩ := hm.statements
  have hranked : ¬s'.Raised → Ranked (ranking a) s'.machine.kernel := fun hcalm =>
    Machine.ranked_of_step (h.ranked fun hr => hcalm (hraised hr)) h.inherits
      (fun act hl => (hact act hl).2.resolve_right hcalm) hstep
  refine ⟨hturnOff, fun m => ?_, h.waits.step hstep, hranked, fun hcalm => ?_⟩
  · exact (h.owners m).step hk hstep fun act hl => (hact act hl).1 m
  · have hcalm' : ¬s.Raised := fun hr => hcalm (hraised hr)
    exact (h.prompt hcalm').step hk h.waits (h.ranked hcalm') (hranked hcalm) hstep

theorem urgencyInv_of_reachable (h : (runs a).Reachable s) : UrgencyInv a s := by
  refine Automaton.Reaches.invariant_of (J := HandlerInv) (fun _ => handlerInv_of_reaches) ?_
    (fun s i s' hh _ hinv _ hs => hinv.step hh.sched.kernel (moves_of_step hs)) h
  rintro s ⟨b, rfl⟩
  exact .initial

/-- **Emergency tasks come first**: until `turnOffSystem` raises the priority of the system task, a
task that is more urgent than those that take the mutex of the battery is ready only while a task
runs that is at least as urgent, or that is about to call `rt_schedule`. -/
theorem urgent_prompt (h : (runs a).Reachable s) (hcalm : ¬s.Raised) (ht : Urgent a t)
    (hc : Competing s.machine.kernel t) :
    s.machine.kernel.prio s.machine.current ≤ t.priority ∨ s.machine.Calling := by
  have hinv := urgencyInv_of_reachable h
  have hprio : s.machine.kernel.prio t = t.priority := by
    have hrank := (hinv.ranked hcalm).prio t
    exact (ranking a).fixed ht hrank (.inl rfl)
  have hprompt := hinv.prompt hcalm t ht hc
  rwa [hprio] at hprompt

/-- TaskS runs while Task1, which has just called it, is ready. -/
theorem urgent_prompt_stop : ∃ s : App, (runs ⟨fun _ => 0xff, 0xff⟩).Reachable s ∧
    s.machine.current = .movementStop ∧ s.machine.kernel.state .obstacleControl = .ready ∧
    (s.machine.kernel.prio s.machine.current ≤ Task.obstacleControl.priority ∨
      s.machine.Calling) := by
  obtain ⟨s, hs, hp⟩ := exists_reachable (a := ⟨fun _ => 0xff, 0xff⟩) (b := {})
    (startupLabels ++ .run {} :: .tick [.movementControlActivation] ::
      labels [1, 1, 1, 0, 0, 0, 1, 0, 0, 0, 0, 0, 0, 0, 0, 0, 0, 2, 2, 2, 2, 2, 2, 0, 0, 0, 1, 1] ++
      .tick [.obstacleControlActivation] :: labels [1, 1, 1, 0, 0] ++
      .run { obstacle := true } :: labels [0, 1, 1, 1, 1, 1, 0, 1, 1])
    (p := fun s => decide (s.machine.current = .movementStop ∧
      s.machine.kernel.state .obstacleControl = .ready ∧ s.turnOffFlag = false ∧
      s.turnOffPc = .mask1)) (by decide +kernel)
  obtain ⟨hcur, hready, hflag, hpc⟩ := of_decide_eq_true hp
  refine ⟨s, hs, hcur, hready, urgent_prompt hs ?_ ⟨by decide, ?_⟩ (.inl hready)⟩
  · simp [Raised, hflag, hpc]
  · rintro p (⟨t, rfl⟩ | rfl) <;> simp [Task.priority]

end App

end RobotVacuum
