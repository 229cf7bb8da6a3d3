import RobotVacuum.Application.Steps

/-!
# The battery level

The system task decrements the battery status in a free-running loop, as often as it gets
around it while the time is a multiple of 900 ms, and nothing stops it at zero. As long as no
decrement finds the battery exhausted, the level is what is left of the charge and Task3 notices
when it is used up (`battery_sound`); the decrement after that wraps around.
-/

namespace RobotVacuum

namespace App

variable {a : Addresses} {s s' : App} {i : Label} {t : Task} {input : Input}

/-- The battery level and how often it was decremented. -/
def battery (s : App) : BitVec 32 × ℕ := (s.batteryStatus, s.decrements)

/-- The next statement decrements the battery status. -/
def Decrements (s : App) : Prop := s.Executes .tsystem ∧ s.systemPc = .decrement

/-- No decrement finds the battery exhausted. -/
def DrainsInTime (s : App) : Label → Prop
  | .run _ => s.Decrements → s.batteryStatus ≠ totallyDischarge
  | _ => True

/-- Only the system task touches the battery level. -/
theorem statement_battery (h : t = .tsystem → s.systemPc ≠ .decrement) :
    (s.statement input t).2.battery = s.battery := by
  cases t with
  | main =>
    obtain ⟨_, _, heq⟩ := mainStatement_owns (s := s)
    simp only [statement, heq, battery]
  | tsystem =>
    obtain ⟨_, _, heq, -⟩ := systemStatement_owns (s := s)
    simp only [statement, heq, battery, if_neg (h rfl)]
  | obstacleControl =>
    obtain ⟨_, _, heq, -⟩ := obstacleStatement_owns s input
    simp only [statement, heq, battery]
  | movementStop =>
    obtain ⟨_, _, heq, -⟩ := stopStatement_owns (s := s)
    simp only [statement, heq, battery]
  | movementControl =>
    obtain ⟨_, _, _, _, _, _, _, _, _, _, heq⟩ := movementStatement_owns (s := s)
    simp only [statement, heq, battery]
  | checkResources =>
    obtain ⟨_, _, heq, -⟩ := resourcesStatement_owns (s := s)
    simp only [statement, heq, battery]
  | acousticSignals =>
    obtain ⟨_, _, heq, -⟩ := acousticStatement_owns (s := s)
    simp only [statement, heq, battery]
  | brushesSpeed =>
    obtain ⟨_, _, _, _, heq, -⟩ := brushesStatement_owns s input
    simp only [statement, heq, battery]
  | idle => rfl

theorem handlerStatement_battery {x : Handler} {act : RobotAct}
    (h : s.handlerStatement x = some (act, s')) : s'.battery = s.battery := by
  cases x with
  | default => cases h
  | obstacle =>
    obtain ⟨_, _, _, _, _, _, -, rfl⟩ := obstacleHandlerStatement_owns h
    rfl
  | turnOff =>
    obtain ⟨_, _, rfl⟩ := turnOffStatement_owns h
    rfl

/-- A step decrements the battery status once or leaves it alone. -/
theorem battery_of_moves (h : Moves a s i s') : s'.battery = s.battery ∨
    (∃ input, i = .run input) ∧ s.Decrements ∧
      s'.battery = (s.batteryStatus - decValue, s.decrements + 1) := by
  cases h with
  | own hown hm =>
    by_cases hdec : s.machine.current = .tsystem ∧ s.systemPc = .decrement
    · refine .inr ⟨⟨_, rfl⟩, ⟨hdec.1 ▸ hown, hdec.2⟩, ?_⟩
      obtain ⟨_, _, heq, -⟩ := systemStatement_owns (s := s)
      rw [hdec.1]
      simp only [statement, heq, battery, withMachine, if_pos hdec.2]
    · exact .inl (statement_battery fun ht hpc => hdec ⟨ht, hpc⟩)
  | handler _ hh _ =>
    have heq := handlerStatement_battery hh
    exact .inl heq
  | returned hsig hh hm =>
    refine .inl ?_
    cases s.handler s.machine.current _ <;> rfl
  | kern hm => exact .inl rfl
  | tick hm => exact .inl rfl

/-- The level is what the decrements have left of the charge. -/
def BatteryInv (s : App) : Prop :=
  s.batteryStatus.toNat + decValue.toNat * s.decrements = charge.toNat

theorem BatteryInv.step (h : s.BatteryInv) (hok : s.DrainsInTime i) (hm : Moves a s i s') :
    s'.BatteryInv ∧ s'.batteryStatus.toNat ≤ s.batteryStatus.toNat := by
  change s.batteryStatus.toNat + 2 * s.decrements = 100 at h
  change s'.batteryStatus.toNat + 2 * s'.decrements = 100 ∧ _
  rcases battery_of_moves hm with heq | ⟨⟨input, rfl⟩, hdec, heq⟩
  · obtain ⟨hb, hd⟩ := Prod.mk.inj heq
    rw [hb, hd]
    exact ⟨h, Nat.le_refl _⟩
  · obtain ⟨hb, hd⟩ := Prod.mk.inj heq
    have hne : s.batteryStatus.toNat ≠ 0 := fun h0 =>
      hok hdec (BitVec.eq_of_toNat_eq h0)
    rw [hb, hd]
    -- the level is even, so it is at least one decrement
    have hsub : (s.batteryStatus - decValue).toNat = s.batteryStatus.toNat - 2 := by
      have h2 : (2 : ℕ) ≤ s.batteryStatus.toNat := by omega
      exact BitVec.toNat_sub_of_le h2
    rw [hsub]
    omega

end App

end RobotVacuum
