import RobotVacuum.Application.Steps
import RobotVacuum.Machine.Calls

/-!
# The way home by mail

Task3 mails Task2 when the battery is low or the garbage bag is full, and Task2 mails Task5 when
it turns back. Both sends ignore whether the mail was accepted. `MailsOk` is about the mailboxes
and who reads them. From it, with one invariant for each receiver, the order to come home is
never lost (`ordersKept_of_reachable`): it is in the mailbox, in the hands of the receiver, or
carried out.
-/

set_option linter.unusedSectionVars false

namespace RobotVacuum

namespace App

variable {a : Addresses} {s s' : App} {i : Label} {input : Input} {t : Task} {b : MailboxId}

/-- A task that reads a mailbox of its own is at the statement after `rt_mb_recv`. -/
def Reads (s : App) (t : Task) (b : MailboxId) : Prop :=
  t = .movementControl ∧ b = .mb2_3 ∧ s.movementPc = .testMail ∨
    t = .brushesSpeed ∧ b = .mb2_5 ∧ s.brushesPc = .testMail

/-- The mailboxes are in order, and who reads them. -/
structure MailsOk (s : App) : Prop where
  ok : ∀ b, (s.machine.mailbox b).Ok
  order : ∀ v ∈ (s.machine.mailbox .mb2_5).accepted, v = mbStr4
  reads : ∀ t b w stage, s.machine.Receives t b w stage →
    w = false ∧ stage = .enter ∧ s.Reads t b

/-- The mails Task3 sends go to Task2, those of Task2 to Task5, and no other task sends or
receives mails. -/
theorem statement_mails (s : App) (input : Input) (t : Task) :
    (∀ b v, (s.statement input t).1 = .mbSend b v →
      t = .checkResources ∧ b = .mb2_3 ∨ t = .movementControl ∧ b = .mb2_5 ∧ v = mbStr4 ∧
        s.movementPc = .mbSend) ∧
    ∀ b w, (s.statement input t).1 = .mbRecv b w → w = false ∧
      (t = .movementControl ∧ b = .mb2_3 ∧ s.movementPc = .mbRecv ∧
        (s.statement input t).2.movementPc = .testMail ∨
      t = .brushesSpeed ∧ b = .mb2_5 ∧ s.brushesPc = .mbRecv ∧
        (s.statement input t).2.brushesPc = .testMail) := by
  cases t <;> simp only [statement]
  case main => unfold mainStatement; split <;> (try split) <;> simp
  case tsystem => unfold systemStatement; split <;> (try split) <;> simp
  case obstacleControl => unfold obstacleStatement; split <;> (try split) <;> simp
  case movementStop => unfold stopStatement; split <;> (try split) <;> simp
  case movementControl => unfold movementStatement; split <;> (try split) <;> simp_all
  case checkResources => unfold resourcesStatement; split <;> (try split) <;> simp_all
  case acousticSignals => unfold acousticStatement; split <;> (try split) <;> simp
  case brushesSpeed => unfold brushesStatement; split <;> (try split) <;> simp_all
  case idle => simp

/-- The positions and the data of a receiver are its own. -/
theorem statement_receivers (s : App) (input : Input) (t : Task) :
    (t ≠ .movementControl → (s.statement input t).2.movementPc = s.movementPc ∧
      (s.statement input t).2.direction = s.direction) ∧
    (t ≠ .brushesSpeed → (s.statement input t).2.brushesPc = s.brushesPc) := by
  cases t <;> simp only [statement]
  case main =>
    obtain ⟨_, _, heq⟩ := mainStatement_owns (s := s)
    rw [heq]
    exact ⟨fun _ => ⟨rfl, rfl⟩, fun _ => rfl⟩
  case tsystem =>
    obtain ⟨_, _, heq, -⟩ := systemStatement_owns (s := s)
    rw [heq]
    exact ⟨fun _ => ⟨rfl, rfl⟩, fun _ => rfl⟩
  case obstacleControl =>
    obtain ⟨_, _, heq, -⟩ := obstacleStatement_owns s input
    rw [heq]
    exact ⟨fun _ => ⟨rfl, rfl⟩, fun _ => rfl⟩
  case movementStop =>
    obtain ⟨_, _, heq, -⟩ := stopStatement_owns (s := s)
    rw [heq]
    exact ⟨fun _ => ⟨rfl, rfl⟩, fun _ => rfl⟩
  case movementControl =>
    obtain ⟨_, _, _, _, _, _, _, _, _, _, heq⟩ := movementStatement_owns (s := s)
    rw [heq]
    exact ⟨fun h => absurd rfl h, fun _ => rfl⟩
  case checkResources =>
    obtain ⟨_, _, heq, -⟩ := resourcesStatement_owns (s := s)
    rw [heq]
    exact ⟨fun _ => ⟨rfl, rfl⟩, fun _ => rfl⟩
  case acousticSignals =>
    obtain ⟨_, _, heq, -⟩ := acousticStatement_owns (s := s)
    rw [heq]
    exact ⟨fun _ => ⟨rfl, rfl⟩, fun _ => rfl⟩
  case brushesSpeed =>
    obtain ⟨_, _, _, _, heq, -⟩ := brushesStatement_owns s input
    rw [heq]
    exact ⟨fun _ => ⟨rfl, rfl⟩, fun h => absurd rfl h⟩
  case idle => exact ⟨fun _ => ⟨trivial, trivial⟩, fun _ => trivial⟩

/-- A log that grew, without an attempt to send to a mailbox. -/
def NoMail (s s' : App) (b : MailboxId) : Prop :=
  ∃ l, s'.log = s.log ++ l ∧ .mailed b ∉ l

theorem noMail_of_writer {l : List LogEntry} (hlog : s'.log = s.log ++ l)
    (hl : ∀ e ∈ l, e.writer = t) (hm : t ≠ .movementControl) (hr : t ≠ .checkResources) :
    NoMail s s' b := by
  refine ⟨l, hlog, fun hmem => ?_⟩
  have hw := hl _ hmem
  cases b with
  | mb2_3 => exact hr hw.symm
  | mb2_5 => exact hm hw.symm

private theorem not_mailed {b' : MailboxId} {v : String}
    (h : ∀ w, (Machine.Act.mbSend b' v : RobotAct) ≠ .mbSend b w) :
    LogEntry.mailed b ∉ [LogEntry.mailed b'] := fun hm => by
  simp only [List.mem_singleton, LogEntry.mailed.injEq] at hm
  exact h v (by rw [hm])

/-- An attempt to send is recorded only where the task sends. -/
theorem statement_noMail (h : ∀ v, (s.statement input t).1 ≠ .mbSend b v) :
    NoMail s (s.statement input t).2 b := by
  cases t <;> simp only [statement] at h ⊢
  case main =>
    obtain ⟨_, _, heq⟩ := mainStatement_owns (s := s)
    rw [heq]
    exact ⟨[], (List.append_nil _).symm, List.not_mem_nil⟩
  case tsystem =>
    obtain ⟨_, _, heq, -⟩ := systemStatement_owns (s := s)
    rw [heq]
    exact ⟨[], (List.append_nil _).symm, List.not_mem_nil⟩
  case obstacleControl =>
    obtain ⟨_, l, heq, hl⟩ := obstacleStatement_owns s input
    rw [heq]
    exact noMail_of_writer rfl hl (by decide) (by decide)
  case movementStop =>
    obtain ⟨_, l, heq, hl⟩ := stopStatement_owns (s := s)
    rw [heq]
    exact noMail_of_writer rfl hl (by decide) (by decide)
  case movementControl =>
    obtain ⟨fault, hf⟩ := accessMap_eq (s := s) s.position
    choose fault' hf' using fun d => testMove_eq (s := s) d
    revert h
    unfold movementStatement guardStatement findStatement setTile
    split <;> (try split) <;> intro h <;>
      first
      | exact ⟨[], (List.append_nil _).symm, List.not_mem_nil⟩
      | exact ⟨[], by rw [hf, List.append_nil], List.not_mem_nil⟩
      | exact ⟨[], by rw [hf', List.append_nil], List.not_mem_nil⟩
      | exact ⟨[_], rfl, not_mailed h⟩
      | exact ⟨[_], rfl, by simp⟩
  case checkResources =>
    revert h
    unfold resourcesStatement
    split <;> (try split) <;> intro h <;>
      first
      | exact ⟨[], (List.append_nil _).symm, List.not_mem_nil⟩
      | exact ⟨[_], rfl, not_mailed h⟩
      | exact ⟨[_], rfl, by simp⟩
  case acousticSignals =>
    obtain ⟨_, l, heq, hl⟩ := acousticStatement_owns (s := s)
    rw [heq]
    exact noMail_of_writer rfl hl (by decide) (by decide)
  case brushesSpeed =>
    obtain ⟨_, _, _, l, heq, hl⟩ := brushesStatement_owns s input
    rw [heq]
    exact noMail_of_writer rfl hl (by decide) (by decide)
  case idle => exact ⟨[], (List.append_nil _).symm, List.not_mem_nil⟩

/-! ### Steps -/

/-- A step that neither sends nor receives a mail, and does not touch the program of a
receiver. -/
structure Aside (s s' : App) : Prop where
  calls : ∀ t, (s.ctx t).call = none → s'.machine.calls t = s.machine.calls t
  mailbox : s'.machine.mailbox = s.machine.mailbox
  receives : ∀ t b w stage, s'.machine.Receives t b w stage → s.machine.Receives t b w stage
  movementPc : s'.movementPc = s.movementPc
  direction : s'.direction = s.direction
  brushesPc : s'.brushesPc = s.brushesPc
  noMail : ∀ b, NoMail s s' b

/-- What a step does to the mails. -/
inductive MailMoves (a : Addresses) (s : App) : App → Prop
  | aside {s' : App} : Aside s s' → MailMoves a s s'
  | took {m : RobotMachine} {b : MailboxId} : s.Reads s.machine.current b → s.machine.Took m b →
    MailMoves a s (s.withMachine m)
  | own {input : Input} : s.machine.AtUser →
    MailMoves a s ((s.statement input s.machine.current).2.withMachine
      (s.machine.perform (platform a) (s.statement input s.machine.current).1))

theorem noMail_refl {m : RobotMachine} : NoMail s (s.withMachine m) b :=
  ⟨[], (List.append_nil _).symm, List.not_mem_nil⟩

theorem rtMbSend_accepted {V : Type} {mb : Mailbox V} {v w : V}
    (h : w ∈ (mb.rtMbSend v).1.accepted) : w ∈ mb.accepted ∨ w = v := by
  unfold Mailbox.rtMbSend at h
  split at h
  · exact .inl h
  · dsimp only at h
    split at h
    · simpa using h
    · exact .inl h

/-- The mailboxes after a statement. -/
theorem own_mailbox (b : MailboxId) (input : Input) (hat : s.machine.AtUser) {m : RobotMachine}
    (hm : m = s.machine.perform (platform a) (s.statement input s.machine.current).1) :
    (m.mailbox b = s.machine.mailbox b ∧ NoMail s (s.statement input s.machine.current).2 b) ∨
      ∃ v, (s.statement input s.machine.current).1 = .mbSend b v ∧
        m.mailbox b = ((s.machine.mailbox b).rtMbSend v).1 := by
  by_cases hsend : ∃ v, (s.statement input s.machine.current).1 = .mbSend b v
  · obtain ⟨v, hv⟩ := hsend
    refine .inr ⟨v, hv, ?_⟩
    rw [hm, hv, Machine.perform_mbSend_mailbox, Function.update_self]
  · have hno : ∀ v, (s.statement input s.machine.current).1 ≠ .mbSend b v :=
      fun v hv => hsend ⟨v, hv⟩
    refine .inl ⟨?_, statement_noMail hno⟩
    by_cases hother : ∃ b' v, (s.statement input s.machine.current).1 = .mbSend b' v
    · obtain ⟨b', v, hv⟩ := hother
      have hne : b ≠ b' := fun heq => hno v (heq ▸ hv)
      rw [hm, hv, Machine.perform_mbSend_mailbox, Function.update_of_ne hne]
    · have hperf := Machine.performed (p := platform a)
        (a := (s.statement input s.machine.current).1) hat.2.2
      rw [hm, hperf.mailbox fun b' v hv => hother ⟨b', v, hv⟩]

theorem MailsOk.step (h : MailsOk s) (hm : MailMoves a s s') : MailsOk s' := by
  cases hm with
  | aside haside =>
    refine ⟨fun b => ?_, fun v hv => ?_, fun t b w stage hr => ?_⟩
    · rw [haside.mailbox]
      exact h.ok b
    · rw [haside.mailbox] at hv
      exact h.order v hv
    · obtain ⟨hw, hs, hreads⟩ := h.reads t b w stage (haside.receives t b w stage hr)
      refine ⟨hw, hs, ?_⟩
      unfold Reads at hreads ⊢
      rwa [haside.movementPc, haside.brushesPc]
  | @took m b hreads htook =>
    have hmail : ∀ b', m.mailbox b' = s.machine.mailbox b' ∨
        b' = b ∧ m.mailbox b' = (s.machine.mailbox b).take.1 := fun b' => by
      rw [htook.mailbox]
      by_cases hb : b' = b
      · subst hb
        exact .inr ⟨rfl, Function.update_self ..⟩
      · exact .inl (Function.update_of_ne hb ..)
    refine ⟨fun b' => ?_, fun v hv => ?_, fun t b' w stage hr => ?_⟩
    · show (m.mailbox b').Ok
      rcases hmail b' with heq | ⟨rfl, heq⟩ <;> rw [heq]
      · exact h.ok b'
      · exact (h.ok b').take htook.entry
    · refine h.order v ?_
      change v ∈ (m.mailbox .mb2_5).accepted at hv
      rcases hmail .mb2_5 with heq | ⟨rfl, heq⟩ <;> rw [heq] at hv <;> exact hv
    · by_cases ht : t = s.machine.current
      · have hcall : (m.ctx s.machine.current).call = none := congrArg Prod.fst htook.received
        rw [ht, Machine.Receives, withMachine, hcall] at hr
        cases hr
      · have hcall : (m.ctx t).call = (s.machine.ctx t).call :=
          congrArg Prod.fst (htook.others t ht)
        exact h.reads t b' w stage (hcall.symm.trans hr)
  | @own input hat =>
    have hperf := Machine.performed (p := platform a)
      (a := (s.statement input s.machine.current).1) hat.2.2
    have hmails := statement_mails s input s.machine.current
    refine ⟨fun b => ?_, fun v hv => ?_, fun t b w stage hr => ?_⟩
    · simp only [withMachine]
      rcases own_mailbox (a := a) b input hat rfl with ⟨heq, -⟩ | ⟨v, -, heq⟩
      · rw [heq]
        exact h.ok b
      · rw [heq]
        exact (h.ok b).rtMbSend
    · simp only [withMachine] at hv
      rcases own_mailbox (a := a) .mb2_5 input hat rfl with ⟨heq, -⟩ | ⟨w, hw, heq⟩
      · rw [heq] at hv
        exact h.order v hv
      · rw [heq] at hv
        rcases rtMbSend_accepted hv with hv | rfl
        · exact h.order v hv
        · rcases hmails.1 _ _ hw with ⟨-, hb⟩ | ⟨-, -, hv, -⟩
          · cases hb
          · exact hv
    · have hpcs := statement_receivers s input s.machine.current
      by_cases ht : t = s.machine.current
      · subst ht
        obtain ⟨ha, rfl⟩ := hperf.receives b w stage hr
        obtain ⟨rfl, hread⟩ := hmails.2 b w ha
        refine ⟨rfl, rfl, ?_⟩
        rcases hread with ⟨hcur, hb, -, hpc⟩ | ⟨hcur, hb, -, hpc⟩
        · exact .inl ⟨hcur, hb, hpc⟩
        · exact .inr ⟨hcur, hb, hpc⟩
      · have hcall : (((s.machine.perform (platform a)
            (s.statement input s.machine.current).1)).ctx t).call = (s.machine.ctx t).call :=
          congrArg Prod.fst (hperf.others t ht)
        obtain ⟨hw, hs, hreads⟩ := h.reads t b w stage (hcall.symm.trans hr)
        refine ⟨hw, hs, ?_⟩
        rcases hreads with ⟨rfl, hb, hpc⟩ | ⟨rfl, hb, hpc⟩
        · exact .inl ⟨rfl, hb, (hpcs.1 (Ne.symm ht)).1.trans hpc⟩
        · exact .inr ⟨rfl, hb, (hpcs.2 (Ne.symm ht)).trans hpc⟩

/-! ### Task2 -/

/-- Task2 is about to set another direction than `RETURN`, or to choose one. -/
def turning : MovementPc → Bool
  | .row0 | .col0 | .setDown | .guard _ | .find _ | .findMove _ | .findTurn _ => true
  | _ => false

/-- Task2 has taken a mail and is about to set the direction to `RETURN`. -/
def TakenOrder (s : App) : Prop :=
  (s.movementPc = .testMail ∧ (s.ctx .movementControl).call = none ∧
    s.gotOk .movementControl) ∨ s.movementPc = .setReturn

/-- Since the first attempt to send, the order is carried out, in the mailbox or taken. -/
structure OrderHome (s : App) : Prop where
  turning : turning s.movementPc = true → s.direction ≠ .returning
  kept : .mailed .mb2_3 ∈ s.log → s.direction = .returning ∨
    (s.machine.mailbox .mb2_3).entry ≠ 0 ∨ s.TakenOrder

theorem turning_movementStatement (h : turning s.movementPc = true → s.direction ≠ .returning) :
    turning s.movementStatement.2.movementPc = true →
      s.movementStatement.2.direction ≠ .returning := by
  obtain ⟨fault, hf⟩ := accessMap_eq (s := s) s.position
  choose fault' hf' using fun d => testMove_eq (s := s) d
  unfold movementStatement guardStatement findStatement setTile
  split <;> (try split) <;> simp_all [turning, record]
  · split_ifs <;> simp

/-- The direction stays `RETURN`. -/
theorem returning_movementStatement (h : turning s.movementPc = true → s.direction ≠ .returning)
    (hd : s.direction = .returning) : s.movementStatement.2.direction = .returning := by
  obtain ⟨fault, hf⟩ := accessMap_eq (s := s) s.position
  choose fault' hf' using fun d => testMove_eq (s := s) d
  unfold movementStatement guardStatement findStatement setTile
  split <;> (try split) <;> simp_all [turning, record]

/-- A taken order is carried out. -/
theorem movementStatement_order (hc : s.TakenOrder) :
    s.movementStatement.2.direction = .returning ∨
      s.movementStatement.2.movementPc = .setReturn := by
  rcases hc with ⟨hpc, -, hok⟩ | hpc
  · refine .inr ?_
    simp [movementStatement, hpc, hok]
  · exact .inl (by simp [movementStatement, hpc])

/-- What concerns neither Task2 nor its mailbox. -/
theorem OrderHome.of_eq (h : OrderHome s) (hpc : s'.movementPc = s.movementPc)
    (hd : s'.direction = s.direction) (hmail : s'.machine.mailbox .mb2_3 = s.machine.mailbox .mb2_3)
    (hcalls : (s.ctx .movementControl).call = none →
      s'.machine.calls .movementControl = s.machine.calls .movementControl)
    (hlog : NoMail s s' .mb2_3) : OrderHome s' := by
  refine ⟨fun ht => ?_, fun hm => ?_⟩
  · rw [hd]
    exact h.turning (hpc ▸ ht)
  · obtain ⟨l, hl, hno⟩ := hlog
    rw [hl, List.mem_append] at hm
    rcases h.kept (hm.resolve_right hno) with hr | he | ⟨htest, hnone, hok⟩ | hset
    · exact .inl (hd.trans hr)
    · exact .inr (.inl (hmail.symm ▸ he))
    · refine .inr (.inr (.inl ⟨hpc.trans htest, ?_, ?_⟩))
      · exact (congrArg Prod.fst (hcalls hnone)).trans hnone
      · exact (congrArg (·.2.1) (hcalls hnone)).trans hok
    · exact .inr (.inr (.inr (hpc.trans hset)))

theorem OrderHome.step (h : OrderHome s) (hok : MailsOk s) (hm : MailMoves a s s') :
    OrderHome s' := by
  cases hm with
  | aside haside =>
    exact h.of_eq haside.movementPc haside.direction (by rw [haside.mailbox])
      (haside.calls _) (haside.noMail _)
  | @took m b hreads htook =>
    rcases hreads with ⟨hcur, rfl, hpc⟩ | ⟨hcur, rfl, -⟩
    · refine ⟨h.turning, fun _ => .inr (.inr (.inl ⟨hpc, ?_, ?_⟩))⟩
      · exact congrArg Prod.fst (hcur ▸ htook.received)
      · exact congrArg (·.2.1) (hcur ▸ htook.received)
    · refine h.of_eq rfl rfl ?_ (fun _ => htook.others _ (by rw [hcur]; decide)) noMail_refl
      show m.mailbox .mb2_3 = _
      rw [htook.mailbox, Function.update_of_ne (by decide)]
  | @own input hat =>
    have hperf := Machine.performed (p := platform a)
      (a := (s.statement input s.machine.current).1) hat.2.2
    have hmails := statement_mails s input s.machine.current
    by_cases hcur : s.machine.current = .movementControl
    · rw [hcur]
      rw [hcur] at hmails
      have hstatement : s.statement input .movementControl = s.movementStatement := rfl
      rw [hstatement]
      refine ⟨turning_movementStatement h.turning, fun hm => ?_⟩
      rcases own_mailbox (a := a) .mb2_3 input hat rfl with ⟨heq, l, hl, hno⟩ |
        ⟨v, hv, -⟩
      · rw [hcur, hstatement] at heq hl
        simp only [withMachine, hl, List.mem_append] at hm
        rcases h.kept (hm.resolve_right hno) with hr | he | hc
        · exact .inl (returning_movementStatement h.turning hr)
        · exact .inr (.inl (heq.symm ▸ he))
        · rcases movementStatement_order hc with hr | hset
          · exact .inl hr
          · exact .inr (.inr (.inr hset))
      · rw [hcur] at hv
        rcases hmails.1 _ _ hv with ⟨hne, -⟩ | ⟨-, hb, -⟩
        · cases hne
        · cases hb
    · have hpcs := (statement_receivers s input s.machine.current).1 hcur
      rcases own_mailbox (a := a) .mb2_3 input hat rfl with ⟨heq, hlog⟩ |
        ⟨v, -, heq⟩
      · exact h.of_eq hpcs.1 hpcs.2 heq (fun _ => hperf.others _ (Ne.symm hcur)) hlog
      · refine ⟨fun ht => ?_, fun _ => .inr (.inl ?_)⟩
        · have hd : (s.statement input s.machine.current).2.direction = s.direction := hpcs.2
          rw [withMachine, hd]
          exact h.turning (hpcs.1 ▸ ht)
        · simp only [withMachine]
          rw [heq]
          exact (hok.ok _).rtMbSend_entry

/-! ### Task5 -/

/-- Task5 has taken the mail and is about to stop the brushes. -/
def TakenStop (s : App) : Prop :=
  (s.brushesPc = .testMail ∧ s.machine.calls .brushesSpeed = (none, .eok, some mbStr4)) ∨
    (s.brushesPc = .compare ∧ s.machine.calls .brushesSpeed = (none, .eok, some mbStr4)) ∨
    s.brushesPc = .writeStop

/-- Since the first attempt to send, the mail is in the mailbox, taken, or the brushes were
stopped. -/
def StopKept (s : App) : Prop :=
  .mailed .mb2_5 ∈ s.log → (s.machine.mailbox .mb2_5).entry ≠ 0 ∨
    .power stopBrushes ∈ s.log ∨ s.TakenStop

/-- What concerns neither Task5 nor its mailbox. -/
theorem StopKept.of_eq (h : StopKept s) (hpc : s'.brushesPc = s.brushesPc)
    (hmail : s'.machine.mailbox .mb2_5 = s.machine.mailbox .mb2_5)
    (hcalls : (s.ctx .brushesSpeed).call = none →
      s'.machine.calls .brushesSpeed = s.machine.calls .brushesSpeed)
    (hlog : NoMail s s' .mb2_5) : StopKept s' := by
  intro hm
  obtain ⟨l, hl, hno⟩ := hlog
  rw [hl, List.mem_append] at hm
  rcases h (hm.resolve_right hno) with he | hp | ⟨htest, hc⟩ | ⟨hcomp, hc⟩ | hw
  · exact .inl (hmail.symm ▸ he)
  · exact .inr (.inl (hl ▸ List.mem_append_left _ hp))
  · exact .inr (.inr (.inl ⟨hpc.trans htest, (hcalls (congrArg Prod.fst hc)).trans hc⟩))
  · exact .inr (.inr (.inr (.inl ⟨hpc.trans hcomp, (hcalls (congrArg Prod.fst hc)).trans hc⟩)))
  · exact .inr (.inr (.inr (.inr (hpc.trans hw))))

/-- A taken mail stops the brushes. -/
theorem brushesStatement_stop {m : RobotMachine}
    (hm : m = s.machine.perform (platform a) (s.brushesStatement input).1) (hc : s.TakenStop) :
    .power stopBrushes ∈ (s.brushesStatement input).2.log ∨
      ((s.brushesStatement input).2.withMachine m).TakenStop := by
  rcases hc with ⟨hpc, hcalls⟩ | ⟨hpc, hcalls⟩ | hpc
  · have hok : s.gotOk .brushesSpeed := congrArg (·.2.1) hcalls
    have heq : s.brushesStatement input = (.local, { s with brushesPc := .compare }) := by
      simp [brushesStatement, hpc, hok]
    rw [heq] at hm ⊢
    exact .inr (.inr (.inl ⟨rfl, hm ▸ hcalls⟩))
  · have hmail : (s.ctx .brushesSpeed).mail = some mbStr4 := congrArg (·.2.2) hcalls
    have heq : s.brushesStatement input = (.local, { s with brushesPc := .writeStop }) := by
      simp [brushesStatement, hpc, hmail]
    rw [heq]
    exact .inr (.inr (.inr rfl))
  · have heq : s.brushesStatement input =
        (.local, { s.record (.power stopBrushes) with brushesPc := .setStop }) := by
      simp [brushesStatement, hpc]
    rw [heq]
    exact .inl (List.mem_append_right _ List.mem_cons_self)

theorem StopKept.step (h : StopKept s) (hok : MailsOk s) (hm : MailMoves a s s') :
    StopKept s' := by
  cases hm with
  | aside haside =>
    exact h.of_eq haside.brushesPc (by rw [haside.mailbox]) (haside.calls _) (haside.noMail _)
  | @took m b hreads htook =>
    rcases hreads with ⟨hcur, rfl, -⟩ | ⟨hcur, rfl, hpc⟩
    · refine h.of_eq rfl ?_ (fun _ => htook.others _ (by rw [hcur]; decide)) noMail_refl
      show m.mailbox .mb2_5 = _
      rw [htook.mailbox, Function.update_of_ne (by decide)]
    · -- the only mail that is ever sent to Task5
      have hmails := Mailbox.take_mails (hok.ok .mb2_5) htook.entry
      have hmem : (s.machine.mailbox .mb2_5).take.2 ∈ (s.machine.mailbox .mb2_5).accepted := by
        rw [(hok.ok .mb2_5).history, hmails]
        exact List.mem_append_right _ List.mem_cons_self
      have hreceived := htook.received
      rw [hok.order _ hmem] at hreceived
      exact fun _ => .inr (.inr (.inl ⟨hpc, hcur ▸ hreceived⟩))
  | @own input hat =>
    have hperf := Machine.performed (p := platform a)
      (a := (s.statement input s.machine.current).1) hat.2.2
    have hmails := statement_mails s input s.machine.current
    by_cases hcur : s.machine.current = .brushesSpeed
    · rw [hcur]
      rw [hcur] at hmails
      have hstatement : s.statement input .brushesSpeed = s.brushesStatement input := rfl
      rw [hstatement]
      intro hm
      rcases own_mailbox (a := a) .mb2_5 input hat rfl with ⟨heq, l, hl, hno⟩ |
        ⟨v, hv, -⟩
      · rw [hcur, hstatement] at heq hl
        simp only [withMachine, hl, List.mem_append] at hm
        rcases h (hm.resolve_right hno) with he | hp | hc
        · exact .inl (heq.symm ▸ he)
        · exact .inr (.inl (hl.symm ▸ List.mem_append_left _ hp))
        · exact .inr (brushesStatement_stop rfl hc)
      · rw [hcur] at hv
        rcases hmails.1 _ _ hv with ⟨hne, -⟩ | ⟨hne, -⟩ <;> cases hne
    · have hpc := (statement_receivers s input s.machine.current).2 hcur
      rcases own_mailbox (a := a) .mb2_5 input hat rfl with ⟨heq, hlog⟩ |
        ⟨v, -, heq⟩
      · exact h.of_eq hpc heq (fun _ => hperf.others _ (Ne.symm hcur)) hlog
      · refine fun _ => .inl ?_
        simp only [withMachine]
        rw [heq]
        exact (hok.ok _).rtMbSend_entry

/-! ### Runs -/

theorem rtMbSend_taken {V : Type} (mb : Mailbox V) (v : V) :
    (mb.rtMbSend v).1.taken = mb.taken := by
  unfold Mailbox.rtMbSend
  split
  · rfl
  · dsimp only
    split <;> rfl

/-- Mails of Task3 are taken by Task2 only. -/
theorem MailMoves.received (hm : MailMoves a s s') :
    (s'.machine.mailbox .mb2_3).taken = (s.machine.mailbox .mb2_3).taken ∨
    ∃ v, (s'.machine.mailbox .mb2_3).taken = (s.machine.mailbox .mb2_3).taken ++ [v] ∧
      s.machine.current = .movementControl ∧ s'.gotOk .movementControl ∧
      (s'.ctx .movementControl).mail = some v := by
  cases hm with
  | aside haside => exact .inl (by rw [haside.mailbox])
  | @took m b hreads htook =>
    simp only [withMachine]
    rw [htook.mailbox]
    rcases hreads with ⟨hcur, rfl, -⟩ | ⟨-, rfl, -⟩
    · refine .inr ⟨(s.machine.mailbox .mb2_3).take.2, ?_, hcur, ?_, ?_⟩
      · rw [Function.update_self]
        rfl
      · exact congrArg (·.2.1) (hcur ▸ htook.received)
      · exact congrArg (·.2.2) (hcur ▸ htook.received)
    · exact .inl (by rw [Function.update_of_ne (by decide)])
  | @own input hat =>
    simp only [withMachine]
    rcases own_mailbox (a := a) .mb2_3 input hat rfl with ⟨heq, -⟩ | ⟨v, -, heq⟩
    · exact .inl (by rw [heq])
    · exact .inl (by rw [heq, rtMbSend_taken])

end App

end RobotVacuum
