import RobotVacuum.Foundation.Automaton
import Mathlib.Data.List.Sort

/-!
# Hard timers

The timer list of `timer.c` and the tick interrupt of `clock.c`. A timer counts in the 32-bit
tick of the system, which wraps around, and the list is kept in the order in which the timers
expire by comparing ticks modulo `2 ^ 32` with half the range. The tick interrupt takes expired
timers from the front of the list, runs their timeout functions and puts periodic ones back
while it is still draining the list.

The skip list has one level, and the timeout functions only send events, so they leave the
timers alone.
-/

namespace RobotVacuum

/-- `RT_TICK_MAX / 2`. -/
def rtTickMaxHalf : BitVec 32 := 0xffffffff / 2

/-- `struct rt_timer`, without what the timeout function is called with. -/
structure HardTimer where
  initTick : BitVec 32
  timeoutTick : BitVec 32 := 0
  periodic : Bool
  activated : Bool := false
  /-- The object is registered as a timer. -/
  attached : Bool := true

/-- The timers of a system, and the tick. -/
structure Timers (D : Type) where
  timer : D → HardTimer
  /-- `_timer_list`. -/
  list : List D := []
  rtTick : BitVec 32
  /-- History variable: the number of ticks so far. -/
  elapsed : ℕ := 0
  /-- History variable: the number of calls of `rt_timer_start` so far. -/
  starts : ℕ := 0
  /-- History variable: the number of the call that started a timer last. -/
  startNo : D → ℕ := fun _ => 0
  /-- History variables: the number and the time of the last start that was not a restart by
  `rt_timer_check`, and the times at which the timeout function ran since. -/
  callNo : D → ℕ := fun _ => 0
  since : D → ℕ := fun _ => 0
  fired : D → List ℕ := fun _ => []
  /-- History variable: the timeout functions that ran, with the times. -/
  log : List (ℕ × D) := []

namespace Timers

variable {D : Type} [DecidableEq D]

/-- Write a timer. -/
def setTimer (s : Timers D) (d : D) (f : HardTimer → HardTimer) : Timers D :=
  { s with timer := Function.update s.timer d (f (s.timer d)) }

/-- `_timer_remove`, which does nothing for a timer that is not linked. -/
def timerRemove (s : Timers D) (d : D) : Timers D := { s with list := s.list.erase d }

/-- The test that ends the search for the place of timer `d` in front of timer `t`. -/
def insertsBefore (s : Timers D) (d t : D) : Prop :=
  (s.timer t).timeoutTick - (s.timer d).timeoutTick ≠ 0 ∧
    (s.timer t).timeoutTick - (s.timer d).timeoutTick < rtTickMaxHalf

instance (s : Timers D) (d t : D) : Decidable (s.insertsBefore d t) := by
  unfold insertsBefore
  infer_instance

/-- `rt_timer_start`; `none` if an assertion fails. -/
def rtTimerStart (s : Timers D) (d : D) : Option (Timers D) :=
  if !(s.timer d).attached then none
  else
    let s := (s.timerRemove d).setTimer d fun t => { t with activated := false }
    if ¬(s.timer d).initTick < rtTickMaxHalf then none
    else
      let s := s.setTimer d fun t => { t with timeoutTick := s.rtTick + t.initTick }
      let s := { s with list := s.list.orderedInsert s.insertsBefore d }
      let s := s.setTimer d fun t => { t with activated := true }
      some { s with startNo := Function.update s.startNo d s.starts, starts := s.starts + 1 }

/-- `rt_timer_stop`. -/
def rtTimerStop (s : Timers D) (d : D) : Option (Timers D) :=
  if !(s.timer d).attached then none
  else if !(s.timer d).activated then some s
  else some ((s.timerRemove d).setTimer d fun t => { t with activated := false })

/-- `rt_timer_detach`. -/
def rtTimerDetach (s : Timers D) (d : D) : Option (Timers D) :=
  if !(s.timer d).attached then none
  else some ((s.timerRemove d).setTimer d fun t => { t with activated := false, attached := false })

/-- Run the timeout function. -/
def timeoutFunc (s : Timers D) (d : D) : Timers D :=
  { s with
    fired := Function.update s.fired d (s.fired d ++ [s.elapsed])
    log := s.log ++ [(s.elapsed, d)] }

/-- The body of the loop of `rt_timer_check`, for an expired timer. The timeout function leaves
the timer in the temporary list, from which it is removed at once. -/
def expire (s : Timers D) (d : D) : Option (Timers D) :=
  let s := s.timerRemove d
  let s := if !(s.timer d).periodic then s.setTimer d fun t => { t with activated := false } else s
  let s := s.timeoutFunc d
  if (s.timer d).periodic && (s.timer d).activated then
    (s.setTimer d fun t => { t with activated := false }).rtTimerStart d
  else some s

/-- `rt_timer_check`, with a bound on the number of times its loop is tested. -/
def rtTimerCheck : ℕ → Timers D → Option (Timers D)
  | 0, _ => none
  | fuel + 1, s =>
    match s.list with
    | [] => some s
    | d :: _ =>
      if s.rtTick - (s.timer d).timeoutTick < rtTickMaxHalf then
        (s.expire d).bind (rtTimerCheck fuel)
      else some s

/-- `rt_tick_increase`, as far as the timers are concerned. -/
def rtTickIncrease (fuel : ℕ) (s : Timers D) : Option (Timers D) :=
  rtTimerCheck fuel { s with rtTick := s.rtTick + 1, elapsed := s.elapsed + 1 }

/-- The calls between ticks, and the tick. -/
inductive Op (D : Type)
  | start (d : D)
  | stop (d : D)
  | detach (d : D)
  | tick

/-- A call or a tick. The loop of `rt_timer_check` is given one turn for each timer of the list
and one to find it drained. -/
def step (s : Timers D) : Op D → Option (Timers D)
  | .start d => (s.rtTimerStart d).map fun s' => { s' with
      callNo := Function.update s'.callNo d s.starts
      since := Function.update s'.since d s.elapsed
      fired := Function.update s'.fired d [] }
  | .stop d => s.rtTimerStop d
  | .detach d => s.rtTimerDetach d
  | .tick => s.rtTickIncrease (s.list.length + 1)

/-- All runs: no timer is active at the start, the tick has any value, and the periods are at
least 1 and less than half the range of the tick. -/
def runs (D : Type) [DecidableEq D] : Automaton (Timers D) (Op D) where
  init s := ∃ timer tick, s = { timer := timer, rtTick := tick } ∧
    ∀ d, (timer d).activated = false ∧ 0 < (timer d).initTick ∧ (timer d).initTick < rtTickMaxHalf
  step := step

end Timers

end RobotVacuum
