import RobotVacuum.Application.NewPosition

/-!
# The speed of the brushes

Task5 as a controller: in each activation it reads the two bits of the speed code and the two bits
of the level it commanded last, and raises or lowers the level. `brushesActivation_statements` says
that Task5 computes `Brushes.activation`, one statement after the other.

The second bit of the power pin is read into the second bit of the speed code. So the controller
answers the first bit of the code alone, never commands the lowest level, and follows the machine it
is meant to implement exactly as long as the codes do not show the difference
(`levels_eq_iff`).
-/

namespace RobotVacuum

/-- The levels of the brushes. -/
inductive BrushLevel
  | stop | low | medium | high
  deriving DecidableEq, Repr

/-- What Task5 gets in an activation: a mail to come home, or none, and the code of the speed
sensor. -/
structure BrushActivation where
  mail : Bool
  speed : Bool × Bool
  deriving DecidableEq, Repr

/-- The level of a pin. -/
def pinLevel (b : Bool) : ℤ := if b then 1 else 0

namespace BrushLevel

/-- The code of a level on the power pin, as the comment of Task5 has it. -/
def bits : BrushLevel → ℤ × ℤ
  | stop => (1, 1)
  | low => (1, 0)
  | medium => (0, 0)
  | high => (0, 1)

/-- The constant of a level. -/
def value : BrushLevel → ℤ
  | stop => stopBrushes
  | low => RobotVacuum.low
  | medium => RobotVacuum.medium
  | high => RobotVacuum.high

/-- The level of a constant. -/
def ofValue (v : ℤ) : BrushLevel :=
  if v = stopBrushes then stop
  else if v = RobotVacuum.low then low
  else if v = RobotVacuum.medium then medium
  else high

@[simp] theorem ofValue_value (l : BrushLevel) : ofValue l.value = l := by
  cases l <;> rfl

/-- One level up. -/
def up : BrushLevel → BrushLevel
  | low => medium
  | medium => high
  | l => l

/-- One level down. -/
def down : BrushLevel → BrushLevel
  | high => medium
  | medium => low
  | l => l

/-- The machine Task5 is to implement: it stops on the first mail for ever, and otherwise answers
the codes `(1, 0)` and `(0, 1)`. -/
def next (l : BrushLevel) (a : BrushActivation) : BrushLevel :=
  if a.mail ∨ l = stop then stop
  else if a.speed = (true, false) then l.up
  else if a.speed = (false, true) then l.down
  else l

/-- The levels of the machine after each activation. -/
def levels (l : BrushLevel) : List BrushActivation → List BrushLevel
  | [] => []
  | a :: as => l.next a :: levels (l.next a) as

end BrushLevel

/-- The arrays `brushes_speed_v` and `brushes_power` of Task5, and the level it commanded last. -/
structure Brushes where
  speed : ℤ × ℤ
  power : ℤ × ℤ
  level : BrushLevel
  deriving DecidableEq, Repr

namespace Brushes

/-- Write a level to the power pin, and remember its bits. -/
def write (b : Brushes) (l : BrushLevel) : Brushes := { b with level := l, power := l.bits }

/-- A mail stops the brushes. -/
def receive (b : Brushes) (mail : Bool) : Brushes := if mail then b.write .stop else b

/-- The four reads. The last one writes `brushes_speed_v[1]`. -/
def readPins (b : Brushes) (code : Bool × Bool) : Brushes :=
  let b := { b with speed := (pinLevel code.1, b.speed.2) }
  let b := { b with speed := (b.speed.1, pinLevel code.2) }
  let b := { b with power := (b.level.bits.1, b.power.2) }
  { b with speed := (b.speed.1, b.level.bits.2) }

/-- The answer to the speed. -/
def adjust (b : Brushes) : Brushes :=
  if b.speed = (1, 0) then
    if b.power = (1, 0) then b.write .medium
    else if b.power = (0, 0) then b.write .high else b
  else if b.speed = (0, 1) then
    if b.power = (0, 1) then b.write .medium
    else if b.power = (0, 0) then b.write .low else b
  else b

/-- One activation of Task5. -/
def activation (b : Brushes) (a : BrushActivation) : Brushes :=
  ((b.receive a.mail).readPins a.speed).adjust

/-- The levels commanded after each activation. -/
def levels (b : Brushes) : List BrushActivation → List BrushLevel
  | [] => []
  | a :: as => (b.activation a).level :: levels (b.activation a) as

variable {b : Brushes} {a : BrushActivation} {l : BrushLevel}

/-! ### What an activation does -/

/-- Without a mail the answer depends on the first bit of the code, the level and the second bit
in memory. -/
theorem activation_speed (h : a.mail = false) : b.activation a = Brushes.adjust
    { speed := (pinLevel a.speed.1, b.level.bits.2)
      power := (b.level.bits.1, b.power.2)
      level := b.level } := by
  simp [activation, receive, h, readPins]

/-- The brushes were stopped by a mail. -/
structure Stopped (b : Brushes) : Prop where
  level : b.level = .stop
  power : b.power.2 = 1

theorem Stopped.speed (h : Stopped b) (hm : a.mail = false) : Stopped (b.activation a) := by
  rw [activation_speed hm, h.level, h.power]
  cases a.speed.1 <;> exact ⟨rfl, rfl⟩

theorem activation_mail (h : a.mail = true) : Stopped (b.activation a) := by
  have hstop : Stopped (b.write .stop) := ⟨rfl, rfl⟩
  have heq : b.activation a = (b.write .stop).activation { a with mail := false } := by
    simp [activation, receive, h]
  rw [heq]
  exact hstop.speed rfl

theorem Stopped.activation (h : Stopped b) : Stopped (b.activation a) := by
  cases hm : a.mail with
  | false => exact h.speed hm
  | true => exact activation_mail hm

/-- Stopped brushes stay stopped, as the machine does. -/
theorem Stopped.levels (h : Stopped b) (as : List BrushActivation) :
    b.levels as = BrushLevel.stop.levels as := by
  induction as generalizing b with
  | nil => rfl
  | cons a as ih =>
    have hstop : BrushLevel.stop.next a = .stop := by simp [BrushLevel.next]
    rw [Brushes.levels, BrushLevel.levels, hstop, h.activation.level, ih h.activation]

/-- The controller in order: it commanded the medium or the high level, and remembers its second
bit. -/
structure Tracking (b : Brushes) : Prop where
  level : b.level = .medium ∨ b.level = .high
  power : b.power.2 = b.level.bits.2

/-- It answers the first bit of the code alone. -/
theorem Tracking.activation (h : Tracking b) (hm : a.mail = false) : Tracking (b.activation a) ∧
    (b.activation a).level = if a.speed.1 then .high else .medium := by
  rw [activation_speed hm, h.power]
  rcases h.level with hl | hl <;> rw [hl] <;> cases a.speed.1 <;>
    exact ⟨⟨by decide, by decide⟩, rfl⟩

/-- The controller with another value in memory at the start: it stays on the medium level. -/
structure Frozen (b : Brushes) : Prop where
  level : b.level = .medium
  power : b.power.2 ≠ 0

theorem Frozen.activation (h : Frozen b) (hm : a.mail = false) : Frozen (b.activation a) := by
  have hpower := h.power
  rw [activation_speed hm, h.level]
  cases a.speed.1
  · exact ⟨rfl, hpower⟩
  · have hno : ∀ x : ℤ, ((0 : ℤ), b.power.2) ≠ (x, 0) := fun x heq => hpower (Prod.ext_iff.mp heq).2
    have hadjust : Brushes.adjust ⟨(1, 0), (0, b.power.2), .medium⟩ =
        ⟨(1, 0), (0, b.power.2), .medium⟩ := by
      simp [adjust, hno]
    change Frozen (Brushes.adjust ⟨(1, 0), (0, b.power.2), .medium⟩)
    rw [hadjust]
    exact ⟨rfl, hpower⟩

/-! ### When the controller follows the machine -/

/-- A code to which the controller answers as the machine does on a level. It depends on the value
`brushes_power[1]` had at the start. -/
def Agrees (power1 : ℤ) (l : BrushLevel) (code : Bool × Bool) : Prop :=
  if power1 = 0 then (l = .medium → code.2 = false) ∧ (l = .high → code ≠ (false, false))
  else code.1 = code.2

/-- Up to the first mail, the controller answers every code as the machine does. -/
def Follows (power1 : ℤ) (l : BrushLevel) : List BrushActivation → Prop
  | [] => True
  | a :: as => a.mail = true ∨ Agrees power1 l a.speed ∧ Follows power1 (l.next a) as

theorem Tracking.agrees_iff (h : Tracking b) (hm : a.mail = false) :
    (b.activation a).level = b.level.next a ↔ Agrees 0 b.level a.speed := by
  rw [(h.activation hm).2]
  obtain ⟨mail, x, y⟩ := a
  obtain rfl : mail = false := hm
  rcases h.level with hl | hl <;> rw [hl] <;> cases x <;> cases y <;>
    simp [BrushLevel.next, BrushLevel.up, BrushLevel.down, Agrees]

theorem Frozen.agrees_iff (h : Frozen b) (hm : a.mail = false) {power1 : ℤ} (hp : power1 ≠ 0) :
    (b.activation a).level = b.level.next a ↔ Agrees power1 b.level a.speed := by
  rw [(h.activation hm).level, h.level]
  obtain ⟨mail, x, y⟩ := a
  obtain rfl : mail = false := hm
  cases x <;> cases y <;> simp [BrushLevel.next, BrushLevel.up, BrushLevel.down, Agrees, hp]

/-- From related states the levels agree exactly as long as every code does. -/
theorem levels_eq_iff_of {I : Brushes → Prop} {power1 : ℤ}
    (hstep : ∀ b a, I b → a.mail = false → I (b.activation a) ∧
      ((b.activation a).level = b.level.next a ↔ Agrees power1 b.level a.speed))
    (as : List BrushActivation) (h : I b) :
    b.levels as = b.level.levels as ↔ Follows power1 b.level as := by
  induction as generalizing b with
  | nil => exact ⟨fun _ => trivial, fun _ => rfl⟩
  | cons a as ih =>
    rw [levels, BrushLevel.levels, List.cons.injEq, Follows]
    cases hm : a.mail with
    | true =>
      have hstop : b.level.next a = .stop := by simp [BrushLevel.next, hm]
      have hstopped := activation_mail (b := b) hm
      simp [hstop, hstopped.level, hstopped.levels as]
    | false =>
      obtain ⟨hI, hagree⟩ := hstep b a h hm
      rw [hagree]
      simp only [Bool.false_eq_true, false_or]
      refine and_congr_right fun hcode => ?_
      have hlevel := hagree.mpr hcode
      rw [← hlevel]
      exact ih hI

/-- **When Task5 follows its reference machine**: for every sequence of activations, the levels it
commands are those of the machine if and only if the codes up to the first mail do not show that it
answers the first bit alone, or not at all if `brushes_power[1]` was not 0 at the start. -/
theorem levels_eq_iff (speed power : ℤ × ℤ) (as : List BrushActivation) :
    Brushes.levels ⟨speed, power, .medium⟩ as = BrushLevel.medium.levels as ↔
      Follows power.2 .medium as := by
  by_cases hp : power.2 = 0
  · rw [hp]
    exact levels_eq_iff_of (b := ⟨speed, power, .medium⟩) (I := Tracking)
      (fun b a h hm => ⟨(h.activation hm).1, h.agrees_iff hm⟩) as ⟨.inl rfl, hp⟩
  · exact levels_eq_iff_of (b := ⟨speed, power, .medium⟩) (I := Frozen)
      (fun b a h hm => ⟨h.activation hm, h.agrees_iff hm hp⟩) as ⟨rfl, hp⟩

/-- The code for a step down is not answered on the medium level. -/
theorem levels_differ : ¬ ∀ (speed power : ℤ × ℤ) (as : List BrushActivation),
    Brushes.levels ⟨speed, power, .medium⟩ as = BrushLevel.medium.levels as := by
  intro h
  exact absurd (h (0, 0) (0, 0) [⟨false, (false, true)⟩]) (by decide)

end Brushes

/-! ### The statements of Task5 compute an activation -/

namespace App

variable {s : App}

/-- The level that was written to the power pin last; the brushes start on the medium level. -/
def lastLevel (log : List LogEntry) : BrushLevel :=
  log.foldl (fun l e => match e with
    | .power v => .ofValue v
    | _ => l) .medium

/-- The part of the application that Task5 works on. -/
def brushes (s : App) : Brushes := ⟨s.brushesSpeedV, s.brushesPower, lastLevel s.log⟩

/-- The application after statements of Task5 alone, with what each reads from a pin. -/
def brushesSteps (s : App) (inputs : List Input) : App :=
  inputs.foldl (fun s input => (s.brushesStatement input).2) s

theorem brushesSteps_append (l l' : List Input) :
    s.brushesSteps (l ++ l') = (s.brushesSteps l).brushesSteps l' := List.foldl_append ..

theorem writePower_brushes (l : BrushLevel) :
    (s.writePower l.value l.bits).brushes = s.brushes.write l := by
  simp [brushes, writePower, record, lastLevel, Brushes.write]

theorem adjustBrushes_brushes : s.adjustBrushes.brushes = s.brushes.adjust := by
  have hmedium := writePower_brushes (s := s) .medium
  have hhigh := writePower_brushes (s := s) .high
  have hlow := writePower_brushes (s := s) .low
  unfold adjustBrushes Brushes.adjust
  change (if s.brushesSpeedV = (1, 0) then _ else _ : App).brushes =
    if s.brushesSpeedV = (1, 0) then
      if s.brushesPower = (1, 0) then _ else if s.brushesPower = (0, 0) then _ else _
    else if s.brushesSpeedV = (0, 1) then
      if s.brushesPower = (0, 1) then _ else if s.brushesPower = (0, 0) then _ else _
    else _
  split_ifs
  · exact hmedium
  · exact hhigh
  · rfl
  · exact hmedium
  · exact hlow
  · rfl
  · rfl

/-- A statement that reads no pin. -/
def noPin : Input := { pin := 0 }

/-- What the four reads of the pins return: the code of the speed sensor, and that of a level. -/
def pinReads (code : Bool × Bool) (l : BrushLevel) : List Input :=
  [{ pin := pinLevel code.1 }, { pin := pinLevel code.2 }, { pin := l.bits.1 },
    { pin := l.bits.2 }]

/-- Reading a mail. -/
theorem receiveStop_statements (h : s.brushesPc = .testMail) (mail : Bool)
    (hmail : if mail then s.gotOk .brushesSpeed ∧ (s.ctx .brushesSpeed).mail = some mbStr4
      else ¬ s.gotOk .brushesSpeed) :
    ∃ n, (s.brushesSteps (List.replicate n noPin)).brushesPc = .readSpeed0 ∧
      (s.brushesSteps (List.replicate n noPin)).brushes = s.brushes.receive mail := by
  cases mail with
  | false =>
    have hno : ¬ s.gotOk .brushesSpeed := hmail
    have hstep : (s.brushesStatement noPin).2 = { s with brushesPc := .readSpeed0 } := by
      simp [brushesStatement, h, hno]
    refine ⟨1, ?_⟩
    simp only [List.replicate, brushesSteps, List.foldl_cons, List.foldl_nil, hstep, true_and]
    rfl
  | true =>
    obtain ⟨hok, htext⟩ : s.gotOk .brushesSpeed ∧ (s.ctx .brushesSpeed).mail = some mbStr4 := hmail
    have htest : (s.brushesStatement noPin).2 = { s with brushesPc := .compare } := by
      simp [brushesStatement, h, hok]
    have hcompare : (({ s with brushesPc := .compare } : App).brushesStatement noPin).2 =
        { s with brushesPc := .writeStop } := by
      have htext' : (({ s with brushesPc := .compare } : App).ctx .brushesSpeed).mail =
        some mbStr4 := htext
      simp only [brushesStatement, htext', if_true]
    refine ⟨4, ?_⟩
    simp only [List.replicate, brushesSteps, List.foldl_cons, List.foldl_nil, htest, hcompare]
    refine ⟨rfl, ?_⟩
    exact writePower_brushes (s := s) .stop

/-- The reads and the answer. -/
theorem readPins_statements (h : s.brushesPc = .readSpeed0) (code : Bool × Bool) :
    (s.brushesSteps (pinReads code s.brushes.level ++ [noPin])).brushesPc = .busy ∧
      (s.brushesSteps (pinReads code s.brushes.level ++ [noPin])).brushes =
        (s.brushes.readPins code).adjust := by
  have hread : s.brushesSteps (pinReads code s.brushes.level) = { s with
        brushesSpeedV := (pinLevel code.1, s.brushes.level.bits.2)
        brushesPower := (s.brushes.level.bits.1, s.brushesPower.2)
        brushesPc := .decide } := by
    simp [pinReads, brushesSteps, brushesStatement, h]
  rw [brushesSteps_append, hread]
  refine ⟨rfl, ?_⟩
  exact adjustBrushes_brushes

/-- **Task5 computes an activation**, from the call that reads a mail to the busy waiting at its
end, if the pins answer as the controller assumes. -/
theorem brushesActivation_statements (h : s.brushesPc = .testMail) (a : BrushActivation)
    (hmail : if a.mail then s.gotOk .brushesSpeed ∧ (s.ctx .brushesSpeed).mail = some mbStr4
      else ¬ s.gotOk .brushesSpeed) :
    ∃ n, let inputs := List.replicate n noPin ++
        (pinReads a.speed (s.brushes.receive a.mail).level ++ [noPin])
      (s.brushesSteps inputs).brushesPc = .busy ∧
        (s.brushesSteps inputs).brushes = s.brushes.activation a := by
  obtain ⟨n, hpc, heq⟩ := receiveStop_statements h a.mail hmail
  have hreads := readPins_statements hpc a.speed
  rw [heq] at hreads
  refine ⟨n, ?_⟩
  intro inputs
  rw [brushesSteps_append]
  exact hreads

end App

end RobotVacuum
