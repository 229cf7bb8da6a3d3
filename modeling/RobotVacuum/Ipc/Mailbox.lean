import RobotVacuum.Foundation.CyclicWindow
import RobotVacuum.Kernel.Thread

/-!
# Mailboxes

The mailbox of `ipc.c`: a pool of `size` slots used as a ring, with the offsets of the next
slot to write and to read and the number of mails. Sending never waits here (`rt_mb_send`), so
a send to a full mailbox is refused.

`Mailbox.Ok` ties the offsets to the number of mails, and `Mailbox.mails` is what the mailbox
holds. The two history variables list the mails that were accepted and the mails that were
taken out; `Mailbox.Ok` says that the accepted mails are the ones taken out, in that order,
followed by the ones the mailbox holds. So mails come out **in the order they were accepted,
each exactly once**, however often the offsets wrap around.
-/

namespace RobotVacuum

/-- `RT_MB_ENTRY_MAX`. -/
abbrev rtMbEntryMax : ℕ := 0xffff

/-- A mailbox of mails of type `V`. -/
structure Mailbox (V : Type) where
  msgPool : ℕ → V
  size : ℕ
  inOffset : ℕ := 0
  outOffset : ℕ := 0
  entry : ℕ := 0
  /-- History variable: the mails accepted so far, oldest first. -/
  accepted : List V := []
  /-- History variable: the mails taken out so far, oldest first. -/
  taken : List V := []

namespace Mailbox

variable {V : Type} {mb : Mailbox V} {v : V}

/-- `rt_mb_send`, up to waking a thread that waits for a mail. -/
def rtMbSend (mb : Mailbox V) (v : V) : Mailbox V × RtErr :=
  if mb.entry = mb.size then (mb, .efull)
  else
    let mb := { mb with
      msgPool := Function.update mb.msgPool mb.inOffset v
      inOffset := if mb.inOffset + 1 ≥ mb.size then 0 else mb.inOffset + 1 }
    if mb.entry < rtMbEntryMax then
      ({ mb with entry := mb.entry + 1, accepted := mb.accepted ++ [v] }, .eok)
    else (mb, .efull)

/-- Take the oldest mail out of a mailbox that is not empty. -/
def take (mb : Mailbox V) : Mailbox V × V :=
  let v := mb.msgPool mb.outOffset
  ({ mb with
      outOffset := if mb.outOffset + 1 ≥ mb.size then 0 else mb.outOffset + 1
      entry := if 0 < mb.entry then mb.entry - 1 else mb.entry
      taken := mb.taken ++ [v] }, v)

/-- The mails in the mailbox, oldest first. -/
def mails (mb : Mailbox V) : List V := window mb.msgPool mb.size mb.outOffset mb.entry

/-- The offsets, the number of mails and the history agree. -/
structure Ok (mb : Mailbox V) : Prop where
  size_pos : 0 < mb.size
  size_le : mb.size ≤ rtMbEntryMax
  entry_le : mb.entry ≤ mb.size
  out_lt : mb.outOffset < mb.size
  in_eq : mb.inOffset = (mb.outOffset + mb.entry) % mb.size
  history : mb.accepted = mb.taken ++ mb.mails

/-- A mailbox is empty when initialized. -/
theorem ok_init {pool : ℕ → V} {size : ℕ} (h : 0 < size) (hle : size ≤ rtMbEntryMax) :
    Ok { msgPool := pool, size := size } where
  size_pos := h
  size_le := hle
  entry_le := Nat.zero_le _
  out_lt := h
  in_eq := by simp
  history := rfl

/-- A full mailbox refuses a mail and does not change. -/
theorem rtMbSend_full (h : mb.entry = mb.size) : mb.rtMbSend v = (mb, .efull) := if_pos h

theorem rtMbSend_size : (mb.rtMbSend v).1.size = mb.size := by
  unfold rtMbSend
  dsimp only
  split
  · rfl
  · split <;> rfl

/-- A mailbox with room accepts the mail at its end. -/
theorem rtMbSend_room (h : mb.Ok) (hne : mb.entry ≠ mb.size) :
    (mb.rtMbSend v).2 = .eok ∧ (mb.rtMbSend v).1.mails = mb.mails ++ [v] ∧
      (mb.rtMbSend v).1.accepted = mb.accepted ++ [v] ∧ (mb.rtMbSend v).1.taken = mb.taken ∧
      (mb.rtMbSend v).1.Ok := by
  have hlt : mb.entry < mb.size := Nat.lt_of_le_of_ne h.entry_le hne
  have hmax : mb.entry < rtMbEntryMax := Nat.lt_of_lt_of_le hlt h.size_le
  have hin : mb.inOffset < mb.size := h.in_eq ▸ Nat.mod_lt _ h.size_pos
  have hmails : (mb.rtMbSend v).1.mails = mb.mails ++ [v] := by
    simp only [rtMbSend, if_neg hne, if_pos hmax, mails]
    rw [h.in_eq]
    exact window_put hlt
  refine ⟨?_, hmails, ?_, ?_, ?_⟩
  · simp [rtMbSend, hne, hmax]
  · simp [rtMbSend, hne, hmax]
  · simp [rtMbSend, hne, hmax]
  · refine ⟨?_, ?_, ?_, ?_, ?_, ?_⟩
    · rw [rtMbSend_size]
      exact h.size_pos
    · rw [rtMbSend_size]
      exact h.size_le
    · simp only [rtMbSend, if_neg hne, if_pos hmax]
      exact hlt
    · simp only [rtMbSend, if_neg hne, if_pos hmax]
      exact h.out_lt
    · simp only [rtMbSend, if_neg hne, if_pos hmax]
      rw [show (if mb.inOffset + 1 ≥ mb.size then 0 else mb.inOffset + 1) =
        advance mb.size mb.inOffset from rfl, advance_eq_mod hin, h.in_eq, Nat.mod_add_mod,
        Nat.add_assoc]
    · rw [hmails]
      simp only [rtMbSend, if_neg hne, if_pos hmax]
      rw [h.history, List.append_assoc]

/-- Sending keeps the mailbox in order, accepted or not. -/
theorem Ok.rtMbSend (h : mb.Ok) : (mb.rtMbSend v).1.Ok := by
  by_cases hfull : mb.entry = mb.size
  · rw [rtMbSend_full hfull]
    exact h
  · exact (rtMbSend_room h hfull).2.2.2.2

/-- After a send, accepted or not, the mailbox is not empty. -/
theorem Ok.rtMbSend_entry (h : mb.Ok) : (mb.rtMbSend v).1.entry ≠ 0 := by
  by_cases hfull : mb.entry = mb.size
  · rw [rtMbSend_full hfull, hfull]
    exact Nat.ne_of_gt h.size_pos
  · have hlen := congrArg List.length (rtMbSend_room (v := v) h hfull).2.1
    simp only [mails, length_window, List.length_append] at hlen
    rw [hlen]
    exact Nat.succ_ne_zero _

/-- Taking from a mailbox that is not empty takes its oldest mail. -/
theorem take_mails (h : mb.Ok) (hne : mb.entry ≠ 0) : mb.mails = mb.take.2 :: mb.take.1.mails := by
  obtain ⟨n, hn⟩ := Nat.exists_eq_succ_of_ne_zero hne
  simp only [mails, take, hn, Nat.succ_pos, if_true, Nat.succ_sub_one]
  exact window_get h.out_lt

theorem Ok.take (h : mb.Ok) (hne : mb.entry ≠ 0) : mb.take.1.Ok where
  size_pos := h.size_pos
  size_le := h.size_le
  entry_le := by
    simp only [Mailbox.take, if_pos (Nat.pos_of_ne_zero hne)]
    exact Nat.le_trans (Nat.sub_le _ _) h.entry_le
  out_lt := advance_lt h.size_pos
  in_eq := by
    simp only [Mailbox.take, if_pos (Nat.pos_of_ne_zero hne)]
    rw [show (if mb.outOffset + 1 ≥ mb.size then 0 else mb.outOffset + 1) =
      advance mb.size mb.outOffset from rfl, advance_eq_mod h.out_lt, Nat.mod_add_mod, h.in_eq]
    congr 1
    omega
  history := by
    have hmails := take_mails h hne
    rw [show mb.take.1.accepted = mb.accepted from rfl, h.history, hmails,
      show mb.take.1.taken = mb.taken ++ [mb.take.2] from rfl, List.append_assoc]
    rfl

end Mailbox

end RobotVacuum
