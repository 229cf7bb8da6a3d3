import RobotVacuum.Ipc.WaitList

/-!
# Events

`rt_event_send` sets flags of an event and then walks the list of waiting threads once, from
the front: a thread whose condition holds has its flags cleared from the event, if it asked for
that, and is resumed. The walk goes by the flags as they are when it reaches a thread, so a
thread in front can consume flags that a later one waits for.

`eventSendWalk` is the walk. Beside the kernel and the remaining flags it returns the threads
that were resumed, and whether the walk reached the end of the list, which it does unless a
waiting thread has neither option set.
-/

set_option linter.unusedSectionVars false

namespace RobotVacuum

namespace Kernel

variable {T Q : Type} [DecidableEq T] [DecidableEq Q]

/-- Whether the flags `present` satisfy a wait for the flags `wanted`; `none` if the option is
to wait neither for all nor for any of them. -/
def eventStatus (option : EventOption) (wanted present : BitVec 32) : Option Bool :=
  if option.and then some (wanted &&& present = wanted)
  else if option.or then some (wanted &&& present ≠ 0)
  else none

/-- The flags a thread receives when it is resumed. -/
def eventReceived (th : Thread) (set : BitVec 32) : BitVec 32 :=
  if th.eventInfo.and then th.eventSet else th.eventSet &&& set

/-- Hand a waiting thread its flags and resume it. -/
def eventResume (k : Kernel T Q) (t : T) (received : BitVec 32) : Kernel T Q :=
  (k.modify t fun th => { th with eventSet := received }).rtThreadResume t

/-- The walk over the waiting threads. -/
def eventSendWalk (k : Kernel T Q) (set : BitVec 32) :
    List T → Kernel T Q × BitVec 32 × List T × Bool
  | [] => (k, set, [], true)
  | t :: ts =>
    let th := k.thread t
    match eventStatus th.eventInfo th.eventSet set with
    | none => (k, set, [], false)
    | some false => k.eventSendWalk set ts
    | some true =>
      let received := eventReceived th set
      let set := if th.eventInfo.clear then set &&& ~~~received else set
      let (k, set, resumed, valid) := (k.eventResume t received).eventSendWalk set ts
      (k, set, t :: resumed, valid)

variable {k : Kernel T Q} {set : BitVec 32} {l : List T} {t x : T}

/-- What every resumption of the walk keeps, the walk keeps. -/
theorem eventSendWalk_induct {P : Kernel T Q → Prop} (h : P k)
    (hstep : ∀ k' t received, t ∈ l → P k' → P (k'.eventResume t received)) :
    P (k.eventSendWalk set l).1 := by
  induction l generalizing k set with
  | nil => exact h
  | cons t ts ih =>
    have hts : ∀ k' t' received, t' ∈ ts → P k' → P (k'.eventResume t' received) :=
      fun k' t' received hm => hstep k' t' received (List.mem_cons_of_mem _ hm)
    rw [eventSendWalk]
    dsimp only
    split
    · exact h
    · exact ih h hts
    · exact ih (hstep _ _ _ List.mem_cons_self h) hts

/-- Only waiting threads are resumed. -/
theorem eventSendWalk_subset : (k.eventSendWalk set l).2.2.1 ⊆ l := by
  induction l generalizing k set with
  | nil => exact List.Subset.refl _
  | cons t ts ih =>
    rw [eventSendWalk]
    dsimp only
    split
    · exact List.nil_subset _
    · exact List.Subset.trans ih (List.subset_cons_self _ _)
    · exact List.cons_subset_cons _ ih

@[simp] theorem eventResume_currentThread {received : BitVec 32} :
    (k.eventResume t received).currentThread = k.currentThread := by
  simp [eventResume]

theorem ReadyQueueInv.eventResume (h : ReadyQueueInv k) {received : BitVec 32} :
    ReadyQueueInv (k.eventResume t received) :=
  (h.of_schedEq (.modify rfl rfl rfl)).rtThreadResume

theorem ReadyQueueInv.eventSendWalk (h : ReadyQueueInv k) :
    ReadyQueueInv (k.eventSendWalk set l).1 :=
  eventSendWalk_induct h fun _ _ _ _ hk => hk.eventResume

end Kernel

end RobotVacuum
