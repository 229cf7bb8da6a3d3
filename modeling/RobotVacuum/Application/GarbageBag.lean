import RobotVacuum.Application.Steps
import RobotVacuum.Ipc.Mailbox

/-!
# The checks of the garbage bag

Task3 reads the counter of the garbage bag and reports a full bag: it raises a flag for Task4 and
mails Task2. Here its program runs in an open system, in which any number of tiles may be cleaned
between any two of its statements and everything else it reads is the environment's choice. The
checks it makes are recorded with the value they read.

The program compares the counter with `FULL` alone. So a check reports a bag that is full if and
only if the counter is exactly `FULL` (`reportsFullBag_iff`), and no check does once another tile
was cleaned.
-/

namespace RobotVacuum

/-- A check of the garbage bag: the value read, whether the flag was raised, and whether the mail
was sent or found the ring full. -/
structure BagCheck where
  value : ℕ
  raised : Bool := false
  mailed : Bool := false
  ringFull : Bool := false
  deriving DecidableEq, Repr

/-- The garbage bag, the position of Task3 in its program, its mails to Task2, and the checks it
has made, the last one first. -/
structure BagState where
  counter : ℕ := 0
  pc : ResourcesPc := .recv
  mailbox : Mailbox String
  checks : List BagCheck := []

/-- What happens next: a tile is cleaned, Task2 reads its mailbox, or Task3 executes a statement in
an application that agrees on the bag and the position and is otherwise arbitrary. -/
inductive BagOp
  | clean
  | receive
  | statement (s : App)

/-- The check raised the flag and sent the mail, unless the ring was full. -/
def BagCheck.Reports (c : BagCheck) : Prop :=
  c.raised = true ∧ (c.mailed = true ∨ c.ringFull = true)

namespace BagState

/-- Change the check that is being made. -/
def amend (b : BagState) (f : BagCheck → BagCheck) : BagState :=
  { b with checks := b.checks.modifyHead f }

/-- What a statement of Task3 does to the record of its checks and to the mailbox. -/
def observe (b : BagState) : RobotAct → BagState
  | .send .resources e => if e = eventFlag2 then b.amend ({ · with raised := true }) else b
  | .mbSend .mb2_3 v =>
    let r := b.mailbox.rtMbSend v
    let ringFull : Bool := b.mailbox.entry = b.mailbox.size
    let b := { b with mailbox := r.1 }
    if v = mbStr1 then
      b.amend ({ · with mailed := decide (r.2 = .eok), ringFull := ringFull })
    else b
  | _ => b

/-- The application in which Task3 executes its next statement. -/
def within (b : BagState) (s : App) : App :=
  { s with garbageBagValue := b.counter, resourcesPc := b.pc }

/-- Reading the counter begins a check. -/
def begin (b : BagState) : BagState :=
  if b.pc = .readBag then { b with checks := ⟨b.counter, false, false, false⟩ :: b.checks } else b

/-- One step. -/
def step (b : BagState) : BagOp → Option BagState
  | .clean => some { b with counter := b.counter + 1 }
  | .receive => some (if 0 < b.mailbox.entry then { b with mailbox := b.mailbox.take.1 } else b)
  | .statement s =>
    let r := (b.within s).resourcesStatement
    some { b.begin.observe r.1 with pc := r.2.resourcesPc }

/-- All interleavings of the cleanings with the checks. -/
def runs : Automaton BagState BagOp where
  init b := b.counter = 0 ∧ b.pc = .recv ∧ b.mailbox.Ok ∧ b.checks = []
  step := step

/-- Task3 is in the middle of a check. -/
def checking : ResourcesPc → Bool
  | .testBag _ | .sendFull | .mailFull => true
  | _ => false

variable {b b' : BagState} {s : App} {op : BagOp}

/-! ### What a statement does -/

/-- The statements of Task3, as far as the bag is concerned. -/
inductive Statement (b b' : BagState) : Prop
  /-- A statement outside the checks, which may send another mail. -/
  | aside : checking b.pc = false → checking b'.pc = false → b'.counter = b.counter →
      b'.checks = b.checks →
      (b'.mailbox = b.mailbox ∨ ∃ v, b'.mailbox = (b.mailbox.rtMbSend v).1) → Statement b b'
  | read : checking b.pc = false → b' = { b with
      pc := .testBag b.counter, checks := ⟨b.counter, false, false, false⟩ :: b.checks } →
      Statement b b'
  | isFull {v : ℕ} : b.pc = .testBag v → v = full → b' = { b with pc := .sendFull } →
      Statement b b'
  | isNotFull {v : ℕ} : b.pc = .testBag v → v ≠ full → b' = { b with pc := .busy } →
      Statement b b'
  | raise : b.pc = .sendFull →
      b' = { b.amend ({ · with raised := true }) with pc := .mailFull } → Statement b b'
  | mail : b.pc = .mailFull → b' = { b.amend (fun c => { c with
      mailed := decide ((b.mailbox.rtMbSend mbStr1).2 = .eok)
      ringFull := decide (b.mailbox.entry = b.mailbox.size) }) with
        mailbox := (b.mailbox.rtMbSend mbStr1).1, pc := .busy } → Statement b b'

/-- Outside the checks, Task3 neither reports a full bag nor enters a check. -/
theorem resourcesStatement_aside (h : checking s.resourcesPc = false)
    (hr : s.resourcesPc ≠ .readBag) : checking s.resourcesStatement.2.resourcesPc = false ∧
      s.resourcesStatement.1 ≠ .send .resources eventFlag2 ∧
      s.resourcesStatement.1 ≠ .mbSend .mb2_3 mbStr1 := by
  have hlow : mbStr2 ≠ mbStr1 := by decide
  have hcritical : mbStr3 ≠ mbStr1 := by decide
  unfold App.resourcesStatement
  split <;> (try split) <;> simp_all [checking]

theorem observe_aside {act : RobotAct} (hsend : act ≠ .send .resources eventFlag2)
    (hmail : act ≠ .mbSend .mb2_3 mbStr1) : (b.observe act).counter = b.counter ∧
      (b.observe act).checks = b.checks ∧
      ((b.observe act).mailbox = b.mailbox ∨
        ∃ v, (b.observe act).mailbox = (b.mailbox.rtMbSend v).1) := by
  unfold observe
  split
  · next e =>
    have he : e ≠ eventFlag2 := fun he => hsend (by rw [he])
    rw [if_neg he]
    exact ⟨rfl, rfl, .inl rfl⟩
  · next v =>
    have hv : v ≠ mbStr1 := fun hv => hmail (by rw [hv])
    simp only [hv, if_false, true_and]
    exact .inr ⟨v, rfl⟩
  · exact ⟨rfl, rfl, .inl rfl⟩

theorem statement_of_step (h : b.step (.statement s) = some b') : Statement b b' := by
  obtain rfl := Option.some.inj h
  by_cases hread : b.pc = .readBag
  · exact .read (by rw [hread]; rfl) (by
      simp [within, App.resourcesStatement, hread, begin, observe])
  by_cases hcheck : checking b.pc = true
  · cases hpc : b.pc
    case testBag v =>
      by_cases hv : v = full
      · exact .isFull hpc hv (by simp [within, App.resourcesStatement, hpc, begin, observe, hv])
      · exact .isNotFull hpc hv
          (by simp [within, App.resourcesStatement, hpc, begin, observe, hv])
    case sendFull =>
      exact .raise hpc (by simp [within, App.resourcesStatement, hpc, begin, observe, amend])
    case mailFull =>
      exact .mail hpc (by simp [within, App.resourcesStatement, hpc, begin, observe, amend])
    all_goals
      rw [hpc] at hcheck
      cases hcheck
  · have hcheck : checking b.pc = false := by simpa using hcheck
    obtain ⟨hpc, hsend, hmail⟩ := resourcesStatement_aside (s := b.within s) hcheck hread
    obtain ⟨hcounter, hchecks, hmailbox⟩ := observe_aside (b := b.begin) hsend hmail
    have hbegin : b.begin = b := if_neg hread
    rw [hbegin] at hcounter hchecks hmailbox
    refine .aside hcheck hpc ?_ ?_ ?_ <;> rw [hbegin]
    · exact hcounter
    · exact hchecks
    · exact hmailbox

/-! ### The checks of a run -/

/-- The record of the check that is being made. -/
def pendingCheck : ResourcesPc → Option BagCheck
  | .testBag v => some { value := v }
  | .sendFull => some { value := full }
  | .mailFull => some { value := full, raised := true }
  | _ => none

theorem pendingCheck_eq_none {pc : ResourcesPc} (h : checking pc = false) :
    pendingCheck pc = none := by
  cases pc <;> first | rfl | cases h

/-- What holds in every state of a run. -/
structure Inv (b : BagState) : Prop where
  mailbox : b.mailbox.Ok
  /-- The checks that were made report exactly the value `FULL`. -/
  checks : ∃ made, b.checks = (pendingCheck b.pc).toList ++ made ∧
    ∀ c ∈ made, c.Reports ↔ c.value = full
  bounded : ∀ c ∈ b.checks, c.value ≤ b.counter
  ordered : b.checks.Pairwise fun later earlier => earlier.value ≤ later.value

theorem Inv.of_statement (h : Inv b) (hs : Statement b b') : Inv b' := by
  obtain ⟨made, hchecks, hmade⟩ := h.checks
  have hbounded := h.bounded
  have hordered := h.ordered
  cases hs with
  | aside hpc hpc' hcounter heq hmailbox =>
    refine ⟨?_, ⟨made, ?_, hmade⟩, ?_, heq ▸ hordered⟩
    · rcases hmailbox with hm | ⟨v, hm⟩ <;> rw [hm]
      · exact h.mailbox
      · exact h.mailbox.rtMbSend
    · rw [heq, hchecks, pendingCheck_eq_none hpc, pendingCheck_eq_none hpc']
    · rw [heq, hcounter]
      exact hbounded
  | read hpc heq =>
    subst heq
    refine ⟨h.mailbox, ⟨made, ?_, hmade⟩, ?_, List.pairwise_cons.mpr ⟨hbounded, hordered⟩⟩
    · rw [hchecks, pendingCheck_eq_none hpc]
      rfl
    · simpa using hbounded
  | @isFull v hpc hv heq =>
    subst heq hv
    rw [hpc] at hchecks
    exact ⟨h.mailbox, ⟨made, hchecks, hmade⟩, hbounded, hordered⟩
  | @isNotFull v hpc hv heq =>
    subst heq
    rw [hpc] at hchecks
    refine ⟨h.mailbox, ⟨_, hchecks, fun c hc => ?_⟩, hbounded, hordered⟩
    rcases List.mem_cons.mp hc with rfl | hc
    · simp [BagCheck.Reports, hv]
    · exact hmade c hc
  | raise hpc heq =>
    subst heq
    rw [hpc] at hchecks
    have hcons : b.checks = { value := full } :: made := hchecks
    refine ⟨h.mailbox, ⟨made, ?_, hmade⟩, ?_, ?_⟩
    · simp [amend, hcons, pendingCheck]
    · rw [hcons] at hbounded
      simpa [amend, hcons] using hbounded
    · rw [hcons] at hordered
      simpa [amend, hcons] using hordered
  | mail hpc heq =>
    subst heq
    rw [hpc] at hchecks
    have hcons : b.checks = { value := full, raised := true } :: made := hchecks
    refine ⟨h.mailbox.rtMbSend, ⟨_, rfl, ?_⟩, ?_, ?_⟩
    · intro c hc
      change c ∈ List.modifyHead _ b.checks at hc
      rw [hcons] at hc
      rcases List.mem_cons.mp hc with rfl | hc
      · -- a ring that is not full accepts the mail
        by_cases hfull : b.mailbox.entry = b.mailbox.size
        · simp [BagCheck.Reports, hfull]
        · simp [BagCheck.Reports, (Mailbox.rtMbSend_room (v := mbStr1) h.mailbox hfull).1]
      · exact hmade c hc
    · rw [hcons] at hbounded
      simpa [amend, hcons] using hbounded
    · rw [hcons] at hordered
      simpa [amend, hcons] using hordered

theorem inv_of_reachable (h : runs.Reachable b) : Inv b := by
  refine h.invariant (fun b hb => ?_) fun b op b' hb _ hstep => ?_
  · obtain ⟨-, hpc, hmailbox, hnone⟩ := hb
    exact ⟨hmailbox, ⟨[], by simp [hnone, hpc, pendingCheck], by simp⟩, by simp [hnone],
      by simp [hnone]⟩
  · cases op with
    | clean =>
      obtain rfl := Option.some.inj hstep
      exact ⟨hb.mailbox, hb.checks, fun c hc => Nat.le_succ_of_le (hb.bounded c hc), hb.ordered⟩
    | receive =>
      obtain rfl := Option.some.inj hstep
      split
      · next hentry =>
        exact ⟨hb.mailbox.take (Nat.ne_of_gt hentry), hb.checks, hb.bounded, hb.ordered⟩
      · exact hb
    | statement s => exact hb.of_statement (statement_of_step hstep)

/-- No check overlooks a full bag, and after a check that found it full all later checks report
it. -/
def ReportsFullBag (b : BagState) : Prop :=
  (∀ c ∈ b.checks, full ≤ c.value → c.Reports) ∧
    b.checks.Pairwise fun later earlier => full ≤ earlier.value → later.Reports

/-- **A full bag is reported exactly as long as the counter does not pass `FULL`**: between its
checks, Task3 has reported the full bag at every check that found it full if and only if no check
read a value beyond `FULL`. -/
theorem reportsFullBag_iff (b : BagState) (h : runs.Reachable b) (hpc : checking b.pc = false) :
    b.ReportsFullBag ↔ ∀ c ∈ b.checks, c.value ≤ full := by
  have hinv := inv_of_reachable h
  obtain ⟨made, hchecks, hmade⟩ := hinv.checks
  rw [pendingCheck_eq_none hpc] at hchecks
  have hall : ∀ c ∈ b.checks, c.Reports ↔ c.value = full := hchecks ▸ hmade
  constructor
  · intro hreports c hc
    rcases Nat.le_total c.value full with hle | hge
    · exact hle
    · exact ((hall c hc).mp (hreports.1 c hc hge)).le
  · intro hle
    refine ⟨fun c hc hge => (hall c hc).mpr (Nat.le_antisymm (hle c hc) hge), ?_⟩
    refine hinv.ordered.imp_of_mem fun {later earlier} hlater _ hord hge => ?_
    exact (hall later hlater).mpr (Nat.le_antisymm (hle later hlater) (hge.trans hord))

/-! ### Two runs -/

/-- The bag at the start. -/
def start : BagState where
  mailbox := { msgPool := fun _ => "", size := mailboxSize }

theorem start_reachable : runs.Reachable start :=
  .init ⟨rfl, rfl, Mailbox.ok_init (by decide) (by decide), rfl⟩

/-- A number of tiles are cleaned, then Task3 executes a number of statements, undisturbed and
with a charged battery. -/
def cleanThenCheck (tiles statements : ℕ) : List BagOp :=
  List.replicate tiles .clean ++ List.replicate statements (.statement (App.initial {}))

/-- The bag is full at the check. -/
theorem reportsFullBag_iff_full : ∃ b, runs.Reachable b ∧ (∃ c ∈ b.checks, c.value = full) ∧
    (b.ReportsFullBag ↔ ∀ c ∈ b.checks, c.value ≤ full) := by
  obtain ⟨b, hb, hp⟩ := start_reachable.exists_of_runList (cleanThenCheck 30 13)
    (fun b => b.pc = .ended && b.checks = [⟨30, true, true, false⟩]) (by decide)
  simp only [Bool.and_eq_true, decide_eq_true_eq] at hp
  refine ⟨b, hb, ⟨_, by rw [hp.2]; exact List.mem_singleton_self _, rfl⟩, ?_⟩
  exact reportsFullBag_iff b hb (by rw [hp.1]; rfl)

/-- One more tile was cleaned before the check, which overlooks the full bag. -/
theorem check_overlooks : ¬ ∀ b, runs.Reachable b → checking b.pc = false → b.ReportsFullBag := by
  intro h
  obtain ⟨b, hb, hp⟩ := start_reachable.exists_of_runList (cleanThenCheck 31 11)
    (fun b => b.pc = .ended && b.checks = [⟨31, false, false, false⟩]) (by decide)
  simp only [Bool.and_eq_true, decide_eq_true_eq] at hp
  have hreport := (h b hb (by rw [hp.1]; rfl)).1 ⟨31, false, false, false⟩
    (by rw [hp.2]; exact List.mem_singleton_self _) (by decide)
  exact absurd hreport.1 (by decide)

end BagState

end RobotVacuum
