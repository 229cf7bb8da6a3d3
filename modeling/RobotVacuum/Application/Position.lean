import RobotVacuum.Application.Handler

/-!
# The position of the robot

The obstacle handler takes back a move: it marks the tile the robot stands on and goes one step
against the direction. It does not check that there was a move. As long as there was one, the robot
stays on the map and waits on tiles without obstacle (`position_safe`); an obstacle reported before
the first move takes it off the map (`position_unsafe`).
-/

namespace RobotVacuum

/-! ### Directions -/

namespace Directions

variable {d : Directions} {p : ℤ × ℤ}

theorem opposite_next_next : d.opposite.next (d.next p) = p := by
  cases d <;> simp [opposite, next]

theorem next_ne_self (h : d ≠ .returning) : d.next p ≠ p := by
  intro heq
  cases d with
  | returning => exact h rfl
  | up | down | left | right => simp [next, Prod.ext_iff] at heq

theorem opposite_ne_returning (h : d ≠ .returning) : d.opposite ≠ .returning := by
  cases d <;> simp_all [opposite]

theorem ne_returning_of_inBound {side : ℤ} (h : d.inBound side p = true) : d ≠ .returning := by
  rintro rfl
  cases h

end Directions

open Directions

/-! ### Where Task2 is -/

namespace MovementPc

/-- Position and direction do not fit together. -/
def turning : MovementPc → Bool
  | .findTurn _ => true
  | _ => false

/-- Between the test of a move and the update of the position and the direction. -/
def inMove : MovementPc → Bool
  | .move _ | .findMove _ | .findTurn _ => true
  | _ => false

theorem turning_of_inMove {pc : MovementPc} (h : pc.inMove = false) : pc.turning = false := by
  cases pc <;> first | rfl | cases h

end MovementPc

open MovementPc (turning_of_inMove)

namespace App

variable {a : Addresses} {s s' : App} {i : Label} {t : Task} {input : Input} {d : Directions}

/-- The next statement is the first one of the obstacle handler. -/
def BeginsHandler (s : App) (i : Label) : Prop :=
  (∃ input, i = .run input) ∧ s.machine.current = .movementControl ∧ s.InObstacleHandler ∧
    s.handlerPc = .mark

/-- The obstacle handler begins only after a move that was completed since it last ran, and not
between the test of the next one and its completion. -/
def HandlesMove (s : App) (i : Label) : Prop :=
  s.BeginsHandler i → s.moved = true ∧ s.movementPc.inMove = false

/-- The tile the robot came from. -/
def back (s : App) : ℤ × ℤ := s.direction.opposite.next s.position

/-- What is known at a statement of Task2. -/
def PcOk (s : App) : Prop :=
  match s.movementPc with
  | .guard d => d = s.direction ∧ d ≠ .returning
  | .move d => d = s.direction ∧ d ≠ .returning ∧ s.canMove d
  | .find _ => s.direction ≠ .returning
  | .findMove d => s.direction ≠ .returning ∧ s.canMove d
  | .findTurn d => d ≠ .returning ∧ s.direction ≠ .returning ∧
      inMap (d.opposite.next s.position) ∧ s.tile (d.opposite.next s.position) ≠ 1
  | .home => s.direction = .returning
  | .homeRow => s.direction = .returning ∧ 0 < s.position.1
  | .homeCol => s.direction = .returning ∧ 0 < s.position.2
  | _ => True

/-- The invariant of the runs in which the handler takes back moves only. -/
structure RobotInv (s : App) : Prop where
  onMap : inMap s.position
  access : s.mapFault = false
  starting : s.movementPc.starting = true →
    s.position = (0, 0) ∧ s.direction ≠ .returning ∧ s.moved = false
  free : s.handlerPc ≠ .revert → s.direction ≠ .returning → s.tile s.position ≠ 1
  /-- The tile the handler goes back to. -/
  back : s.moved = true → s.movementPc.turning = false → s.direction ≠ .returning →
    inMap s.back ∧ s.tile s.back ≠ 1
  reverts : s.handlerPc = .revert → s.moved = true ∧ s.movementPc.inMove = false
  pc : s.PcOk

/-- Task2 goes on to another statement. -/
theorem RobotInv.goto (h : RobotInv s) (hrobot : s'.robotState = s.robotState)
    (hstart : s'.movementPc.starting = true → s.movementPc.starting = true)
    (hturn : s'.movementPc.turning = false → s.movementPc.turning = false)
    (hmove : s.handlerPc = .revert → s'.movementPc.inMove = false) (hpc : s'.PcOk) :
    RobotInv s' := by
  simp only [robotState, Prod.mk.injEq] at hrobot
  obtain ⟨hmap, hpos, hdir, hmoved, hfault, hhandler⟩ := hrobot
  have htile : ∀ p, s'.tile p = s.tile p := fun p => by rw [tile, tile, hmap]
  have hback : s'.back = s.back := by rw [App.back, App.back, hpos, hdir]
  refine ⟨hpos ▸ h.onMap, hfault ▸ h.access, fun hs => ?_, fun hh hd => ?_, fun hm ht hd => ?_,
    fun hr => ?_, hpc⟩
  · rw [hpos, hdir, hmoved]
    exact h.starting (hstart hs)
  · rw [htile, hpos]
    exact h.free (hhandler ▸ hh) (hdir ▸ hd)
  · rw [htile, hback]
    exact h.back (hmoved ▸ hm) (hturn ht) (hdir ▸ hd)
  · rw [hhandler] at hr
    exact ⟨hmoved ▸ (h.reverts hr).1, hmove hr⟩

/-- The other tasks. -/
theorem RobotInv.frame (h : RobotInv s) (hrobot : s'.robotState = s.robotState)
    (hpc : s'.movementPc = s.movementPc) : RobotInv s' := by
  have hok : s'.PcOk := by
    have hrobot := hrobot
    simp only [robotState, Prod.mk.injEq] at hrobot
    obtain ⟨hmap, hpos, hdir, -⟩ := hrobot
    have hsame := h.pc
    unfold PcOk canMove tile at hsame ⊢
    rw [hpc, hpos, hdir, hmap]
    exact hsame
  exact h.goto hrobot (hpc ▸ id) (hpc ▸ id) (fun hr => hpc ▸ (h.reverts hr).2) hok

/-! ### The body of Task2 -/

theorem inMap_next {p : ℤ × ℤ} (hp : inMap p) (h : d.inBound mapSide p = true) :
    inMap (d.next p) := by
  obtain ⟨h1, h2, h3, h4⟩ := hp
  cases d <;> simp only [inBound, decide_eq_true_eq, Bool.false_eq_true] at h <;>
    exact ⟨by simp only [next]; omega, by simp only [next]; omega, by simp only [next]; omega,
      by simp only [next]; omega⟩

theorem accessMap_of_inMap {p : ℤ × ℤ} (hp : inMap p) : s.accessMap p = s := if_pos hp

theorem testMove_of_inMap (hp : inMap s.position) : s.testMove d = s := by
  unfold testMove
  split
  · next hb => exact accessMap_of_inMap (inMap_next hp hb)
  · rfl

theorem tile_setTile {p q : ℤ × ℤ} {v : ℤ} :
    (s.setTile p v).tile q = if q = p then v else s.tile q := by
  obtain ⟨x, y⟩ := p
  obtain ⟨x', y'⟩ := q
  simp only [setTile, tile, Function.update_apply, Prod.mk.injEq]
  by_cases hx : x' = x
  · subst hx
    by_cases hy : y' = y <;> simp [hy]
  · simp [hx]

/-- A statement of Task2 that goes on to one statement in any case. -/
theorem RobotInv.next (h : RobotInv s) (hmark : s.handlerPc = .mark)
    (hrobot : s'.robotState = s.robotState)
    (hstart : s'.movementPc.starting = true → s.movementPc.starting = true)
    (hturn : s.movementPc.turning = false) (hpc : s'.PcOk) : RobotInv s' :=
  h.goto hrobot hstart (fun _ => hturn) (fun hr => by rw [hmark] at hr; cases hr) hpc

theorem RobotInv.movement (h : RobotInv s) (hmark : s.handlerPc = .mark) :
    RobotInv s.movementStatement.2 := by
  have hfree := h.free (by simp [hmark])
  have hreverts : ∀ {P : Prop}, s.handlerPc = .revert → P := fun hr => by
    rw [hmark] at hr
    cases hr
  have hpc := h.pc
  unfold PcOk at hpc
  generalize hat : s.movementPc = pc at hpc
  cases pc with
  | row0 | col0 =>
    obtain ⟨hpos, -, -⟩ := h.starting (by rw [hat]; rfl)
    refine h.next hmark ?_ (fun _ => by rw [hat]; rfl) (by rw [hat]; rfl) ?_
    · simp [movementStatement, hat, robotState, hpos]
    · simp [movementStatement, hat, PcOk]
  | setDown =>
    obtain ⟨hpos, hdir, hmoved⟩ := h.starting (by rw [hat]; rfl)
    have hstep : s.movementStatement.2 =
        { s with direction := .down, movementPc := .clearMap } := by
      simp [movementStatement, hat]
    rw [hstep]
    refine ⟨h.onMap, h.access, fun _ => ⟨hpos, by simp, hmoved⟩, fun _ _ => hfree hdir,
      fun hm => ?_, fun hr => ?_, trivial⟩
    · exact absurd (hmoved.symm.trans hm) (by simp)
    · exact absurd (hmark.symm.trans hr) (by simp)
  | clearMap =>
    obtain ⟨hpos, hdir, hmoved⟩ := h.starting (by rw [hat]; rfl)
    have hstep : s.movementStatement.2 =
        { s with map := fun _ _ => 0, movementPc := .install } := by
      simp [movementStatement, hat]
    rw [hstep]
    refine ⟨h.onMap, h.access, fun _ => ⟨hpos, hdir, hmoved⟩, fun _ _ => by simp [tile],
      fun hm => ?_, fun hr => ?_, trivial⟩
    · exact absurd (hmoved.symm.trans hm) (by simp)
    · exact absurd (hmark.symm.trans hr) (by simp)
  | install | unmask | recv | started | mbRecv | mask | mbSend | garbage | setStuck r | kill
  | engine | ended | exit =>
    refine h.next hmark ?_ ?_ (by rw [hat]; rfl) ?_ <;>
      simp [movementStatement, hat, robotState, PcOk, MovementPc.starting, record]
  | test | testMail | testStuck | testHome | busy =>
    refine h.next hmark ?_ ?_ (by rw [hat]; rfl) ?_
    · simp only [movementStatement, hat]
      split <;> rfl
    · simp only [movementStatement, hat]
      split <;> simp [MovementPc.starting]
    · simp only [movementStatement, hat]
      split <;> trivial
  | setReturn =>
    have hstep : s.movementStatement.2 =
        { s with direction := .returning, movementPc := .mask } := by simp [movementStatement, hat]
    rw [hstep]
    exact ⟨h.onMap, h.access, fun hs => (by cases hs), fun _ hd => absurd rfl hd,
      fun _ _ hd => absurd rfl hd, hreverts, trivial⟩
  | testTile =>
    have hstep : s.movementStatement.2 = { s with
        movementPc := if s.tile s.position = 0 then .markTile else .switch } := by
      simp [movementStatement, hat, accessMap_of_inMap h.onMap]
    rw [hstep]
    by_cases hzero : s.tile s.position = 0
    · rw [if_pos hzero]
      exact h.next hmark rfl (fun hs => by cases hs) (by rw [hat]; rfl) trivial
    · rw [if_neg hzero]
      exact h.next hmark rfl (fun hs => by cases hs) (by rw [hat]; rfl) trivial
  | markTile =>
    have hstep : s.movementStatement.2 =
        { s.setTile s.position 2 with movementPc := .garbage } := by simp [movementStatement, hat]
    have htile : ∀ q, (s.setTile s.position 2).tile q ≠ 1 ↔ q = s.position ∨ s.tile q ≠ 1 :=
      fun q => by
        rw [tile_setTile]
        split <;> simp_all
    rw [hstep]
    rw [setTile, accessMap_of_inMap h.onMap] at htile ⊢
    refine ⟨h.onMap, h.access, fun hs => (by cases hs), fun _ _ => (htile _).mpr (.inl rfl),
      fun hm _ hd => ?_, hreverts, trivial⟩
    obtain ⟨hmap, hback⟩ := h.back hm (by rw [hat]; rfl) hd
    exact ⟨hmap, (htile _).mpr (.inr hback)⟩
  | switch =>
    have hstep : s.movementStatement.2 = { s with
        movementPc := if s.direction = .returning then .home else .guard s.direction } := by
      simp [movementStatement, hat]
    rw [hstep]
    by_cases hdir : s.direction = .returning
    · rw [if_pos hdir]
      exact h.next hmark rfl (fun hs => by cases hs) (by rw [hat]; rfl) hdir
    · rw [if_neg hdir]
      exact h.next hmark rfl (fun hs => by cases hs) (by rw [hat]; rfl) ⟨rfl, hdir⟩
  | guard d =>
    obtain ⟨hd, hne⟩ := hpc
    have hstep : s.movementStatement.2 = { s with
        movementPc := if s.canMove d then .move d else .find [.up, .down, .left, .right] } := by
      simp [movementStatement, hat, guardStatement, testMove_of_inMap h.onMap]
    rw [hstep]
    by_cases hmove : s.canMove d
    · rw [if_pos hmove]
      exact h.next hmark rfl (fun hs => by cases hs) (by rw [hat]; rfl) ⟨hd, hne, hmove⟩
    · rw [if_neg hmove]
      exact h.next hmark rfl (fun hs => by cases hs) (by rw [hat]; rfl) (hd ▸ hne)
  | move d =>
    obtain ⟨rfl, hne, hbound, htile⟩ := hpc
    have hstep : s.movementStatement.2 = { s with
        position := s.direction.next s.position, moved := true, movementPc := .testStuck } := by
      simp [movementStatement, hat]
    rw [hstep]
    refine ⟨inMap_next h.onMap hbound, h.access, fun hs => (by cases hs), fun _ _ => htile,
      fun _ _ _ => ?_, hreverts, trivial⟩
    have hback : s.direction.opposite.next (s.direction.next s.position) = s.position :=
      opposite_next_next
    rw [App.back, hback]
    exact ⟨h.onMap, hfree hne⟩
  | find l =>
    cases l with
    | nil =>
      refine h.next hmark ?_ ?_ (by rw [hat]; rfl) ?_ <;>
        simp [movementStatement, hat, robotState, PcOk, MovementPc.starting]
    | cons d rest =>
      by_cases hopp : s.direction = d.opposite
      · have hstep : s.movementStatement.2 = { s with movementPc := .find rest } := by
          simp [movementStatement, hat, findStatement, hopp]
        rw [hstep]
        exact h.next hmark rfl (fun hs => by cases hs) (by rw [hat]; rfl) hpc
      · have hstep : s.movementStatement.2 = { s with
            movementPc := if s.canMove d then .findMove d else .find rest } := by
          simp [movementStatement, hat, findStatement, hopp, testMove_of_inMap h.onMap]
        rw [hstep]
        by_cases hmove : s.canMove d
        · rw [if_pos hmove]
          exact h.next hmark rfl (fun hs => by cases hs) (by rw [hat]; rfl) ⟨hpc, hmove⟩
        · rw [if_neg hmove]
          exact h.next hmark rfl (fun hs => by cases hs) (by rw [hat]; rfl) hpc
  | findMove d =>
    obtain ⟨hdir, hbound, htile⟩ := hpc
    have hstep : s.movementStatement.2 =
        { s with position := d.next s.position, movementPc := .findTurn d } := by
      simp [movementStatement, hat]
    rw [hstep]
    refine ⟨inMap_next h.onMap hbound, h.access, fun hs => (by cases hs), fun _ _ => htile,
      fun _ ht => (by cases ht), hreverts, ?_⟩
    have hback : d.opposite.next (d.next s.position) = s.position := opposite_next_next
    refine ⟨ne_returning_of_inBound hbound, hdir, ?_, ?_⟩
    · exact hback.symm ▸ h.onMap
    · exact hback.symm ▸ hfree hdir
  | findTurn d =>
    obtain ⟨hne, hdir, hmap, htile⟩ := hpc
    have hstep : s.movementStatement.2 =
        { s with direction := d, moved := true, movementPc := .setStuck 0 } := by
      simp [movementStatement, hat]
    rw [hstep]
    exact ⟨h.onMap, h.access, fun hs => (by cases hs), fun _ _ => hfree hdir,
      fun _ _ _ => ⟨hmap, htile⟩, hreverts, trivial⟩
  | home =>
    have hstep : s.movementStatement.2 = { s with
        movementPc := if 0 < s.position.1 then .homeRow
          else if 0 < s.position.2 then .homeCol else .testStuck } := by
      simp [movementStatement, hat]
    rw [hstep]
    by_cases hrow : 0 < s.position.1
    · rw [if_pos hrow]
      exact h.next hmark rfl (fun hs => by cases hs) (by rw [hat]; rfl) ⟨hpc, hrow⟩
    · rw [if_neg hrow]
      by_cases hcol : 0 < s.position.2
      · rw [if_pos hcol]
        exact h.next hmark rfl (fun hs => by cases hs) (by rw [hat]; rfl) ⟨hpc, hcol⟩
      · rw [if_neg hcol]
        exact h.next hmark rfl (fun hs => by cases hs) (by rw [hat]; rfl) trivial
  | homeRow =>
    obtain ⟨hdir, hpos⟩ := hpc
    have hstep : s.movementStatement.2 = { s with
        position := (s.position.1 - 1, s.position.2), movementPc := .testStuck } := by
      simp [movementStatement, hat]
    obtain ⟨-, h2, h3⟩ := h.onMap
    rw [hstep]
    exact ⟨⟨by dsimp only; omega, by dsimp only; omega, h3⟩, h.access, fun hs => (by cases hs),
      fun _ hd => absurd hdir hd, fun _ _ hd => absurd hdir hd, hreverts, trivial⟩
  | homeCol =>
    obtain ⟨hdir, hpos⟩ := hpc
    have hstep : s.movementStatement.2 = { s with
        position := (s.position.1, s.position.2 - 1), movementPc := .testStuck } := by
      simp [movementStatement, hat]
    obtain ⟨h1, h2, -, h4⟩ := h.onMap
    rw [hstep]
    exact ⟨⟨h1, h2, by dsimp only; omega, by dsimp only; omega⟩, h.access,
      fun hs => (by cases hs), fun _ hd => absurd hdir hd, fun _ _ hd => absurd hdir hd, hreverts,
      trivial⟩

/-! ### The handler -/

/-- The tile is marked. The tile the robot came from is another one. -/
theorem RobotInv.mark (h : RobotInv s) (hmoved : s.moved = true)
    (hmove : s.movementPc.inMove = false) :
    RobotInv { (s.setTile s.position 1).record .handled with handlerPc := .revert } := by
  have htile : ∀ q, q ≠ s.position → (s.setTile s.position 1).tile q = s.tile q :=
    fun q hq => by rw [tile_setTile, if_neg hq]
  rw [setTile, accessMap_of_inMap h.onMap] at htile ⊢
  refine ⟨h.onMap, h.access, h.starting, fun hr => absurd rfl hr, fun hm ht hd => ?_,
    fun _ => ⟨hmoved, hmove⟩, ?_⟩
  · obtain ⟨hmap, hback⟩ := h.back hm ht hd
    refine ⟨hmap, ?_⟩
    have hne : s.back ≠ s.position := next_ne_self (opposite_ne_returning hd)
    exact fun heq => hback ((htile s.back hne).symm.trans heq)
  · have hpc := h.pc
    unfold PcOk at hpc ⊢
    dsimp only [record]
    generalize s.movementPc = pc at hpc hmove ⊢
    cases pc <;> first | exact hpc | cases hmove

/-- The move is taken back. -/
theorem RobotInv.revert (h : RobotInv s) (hr : s.handlerPc = .revert) :
    RobotInv { s with
      position := s.direction.opposite.next s.position, moved := false, handlerPc := .ret } := by
  obtain ⟨hmoved, hmove⟩ := h.reverts hr
  have hpc := h.pc
  by_cases hdir : s.direction = .returning
  · -- on the way home no move is taken back
    have hsame : s.direction.opposite.next s.position = s.position := by rw [hdir]; rfl
    rw [hsame]
    exact ⟨h.onMap, h.access, fun hs => ⟨(h.starting hs).1, (h.starting hs).2.1, rfl⟩,
      fun _ hd => absurd hdir hd, fun hm => (by cases hm), fun hr => (by cases hr), hpc⟩
  · obtain ⟨hmap, htile⟩ := h.back hmoved (turning_of_inMove hmove) hdir
    refine ⟨hmap, h.access, fun hs => ?_, fun _ _ => htile, fun hm => (by cases hm),
      fun hr => (by cases hr), ?_⟩
    · exact absurd ((h.starting hs).2.2.symm.trans hmoved) (by simp)
    · unfold PcOk at hpc ⊢
      dsimp only
      generalize s.movementPc = pc at hpc hmove ⊢
      cases pc <;>
        first
        | exact hpc
        | exact absurd hpc hdir
        | exact absurd hpc.1 hdir
        | cases hmove

theorem RobotInv.handler (h : RobotInv s) {act : RobotAct}
    (hbegin : s.handlerPc = .mark → s.moved = true ∧ s.movementPc.inMove = false)
    (hh : s.obstacleHandlerStatement = some (act, s')) : RobotInv s' := by
  unfold obstacleHandlerStatement at hh
  split at hh <;> cases hh
  · next hmark => exact h.mark (hbegin hmark).1 (hbegin hmark).2
  · next hr => exact h.revert hr

/-! ### All runs -/

theorem RobotInv.step (h : RobotInv s) (hh : HandlerInv s) (hok : s.HandlesMove i)
    (hm : Moves a s i s') : RobotInv s' := by
  have hmachine : ∀ {r : App} {m : RobotMachine}, RobotInv r → RobotInv (r.withMachine m) :=
    fun h => h.frame rfl rfl
  cases hm with
  | @own input m hex hstep =>
    refine hmachine ?_
    by_cases hcur : s.machine.current = .movementControl
    · rw [hcur] at hex hstep ⊢
      exact h.movement (hh.executes hex hstep)
    · have hsame : LeavesTask2 s (s.statement input s.machine.current).2 :=
        statement_leavesTask2 hcur
      exact h.frame hsame.robot hsame.pc
  | @handler input m b n act s₁ hsig hst hstep =>
    refine hmachine ?_
    generalize hx : s.handler s.machine.current n = x at hst
    cases x with
    | default => cases hst
    | obstacle =>
      have hcur := hh.owner _ _ hx
      rw [hcur] at hsig hx
      exact h.handler (fun hmark => hok ⟨⟨_, rfl⟩, hcur, ⟨b, n, hsig, hx⟩, hmark⟩) hst
    | turnOff =>
      obtain ⟨_, _, rfl⟩ := turnOffStatement_owns hst
      exact h.frame rfl rfl
  | @returned input m b n hsig hst hstep =>
    refine hmachine ?_
    generalize s.handler s.machine.current n = x at hst
    cases x with
    | default | turnOff => exact h.frame rfl rfl
    | obstacle =>
      have hret : s.handlerPc = .ret := by
        simp only [handlerStatement] at hst
        unfold obstacleHandlerStatement at hst
        split at hst <;> first | assumption | cases hst
      exact ⟨h.onMap, h.access, h.starting, fun _ => h.free (by simp [hret]), h.back,
        fun hr => (by cases hr), h.pc⟩
  | kern hstep => exact hmachine h
  | tick hstep => exact hmachine h

theorem RobotInv.initial {b : Boot} : RobotInv (initial b) where
  onMap := by
    change inMap (0, 0)
    decide
  access := rfl
  starting _ := ⟨rfl, by simp [App.initial], rfl⟩
  free _ _ := by simp [App.initial, tile]
  back hm := by cases hm
  reverts hr := by cases hr
  pc := trivial

end App

end RobotVacuum
