import RobotVacuum.Timers.Timers

/-!
# Periodic timers fire exactly

`TimersInv` is the invariant of the timers, which also holds while `rt_timer_check` drains the
list: the list is ordered by the ticks that remain, and timers with equally many by when they
were started. A timer that is put into the list has its whole period left, so it goes behind
those that have expired, and the loop ends after one turn for each of them.

The ticks that remain are counted in the 32-bit tick and the times in natural numbers; `exact`
relates the two, so nothing depends on where the tick wraps around.
-/

set_option linter.unusedSectionVars false

namespace RobotVacuum

namespace Timers

variable {D : Type} [DecidableEq D] {s s' : Timers D} {d x y : D}

/-- The ticks that remain until a timer expires, `timeout_tick - rt_tick` modulo `2 ^ 32`. -/
def remaining (s : Timers D) (d : D) : ℕ := ((s.timer d).timeoutTick - s.rtTick).toNat

/-- The period of a timer. -/
def period (s : Timers D) (d : D) : ℕ := (s.timer d).initTick.toNat

/-- Timer `x` expires before timer `y`, or as soon and was started earlier. -/
def Before (s : Timers D) (x y : D) : Prop :=
  s.remaining x < s.remaining y ∨ s.remaining x = s.remaining y ∧ s.startNo x < s.startNo y

/-- The timers of the list that have expired. -/
def due (s : Timers D) : List D := s.list.filter fun d => s.remaining d = 0

/-- The times `s + k * P` for `k = 1, ..., n`. -/
def multiples (since period n : ℕ) : List ℕ := (List.range n).map fun k => since + (k + 1) * period

/-- What holds of the timers at all times, also within the loop of `rt_timer_check`. -/
structure TimersInv (s : Timers D) : Prop where
  nodup : s.list.Nodup
  sorted : s.list.Pairwise s.Before
  active : ∀ d, d ∈ s.list ↔ (s.timer d).activated = true
  attached : ∀ d ∈ s.list, (s.timer d).attached = true
  period : ∀ d, 0 < s.period d ∧ s.period d < 2147483647
  remaining : ∀ d ∈ s.list, s.remaining d ≤ s.period d
  exact : ∀ d ∈ s.list,
    s.elapsed + s.remaining d = s.since d + ((s.fired d).length + 1) * s.period d
  fired : ∀ d ∈ s.list, s.fired d = multiples (s.since d) (s.period d) (s.fired d).length
  startNo : ∀ d ∈ s.list, s.callNo d ≤ s.startNo d ∧ s.startNo d < s.starts
  together : ∀ x ∈ s.list, ∀ y ∈ s.list, s.period x = s.period y → s.since x = s.since y →
    s.callNo x < s.callNo y → s.remaining x = s.remaining y ∧ s.startNo x < s.startNo y ∨
      s.remaining x = s.period x ∧ s.remaining y = 0

/-- The times at which a timer fired since it was started are those of the log. -/
structure Logged (s : Timers D) : Prop where
  past : ∀ e ∈ s.log, e.1 ≤ s.elapsed
  fired : ∀ d, s.fired d = ((s.log.filter fun e => e.2 = d ∧ s.since d < e.1).map Prod.fst)

/-! ### Comparing ticks -/

theorem rtTickMaxHalf_toNat : rtTickMaxHalf.toNat = 2147483647 := by decide

/-- Comparing two timeouts modulo `2 ^ 32` compares the ticks that remain. -/
theorem insertsBefore_iff (hx : s.remaining x < 2147483647) (hy : s.remaining y < 2147483647) :
    s.insertsBefore x y ↔ s.remaining x < s.remaining y := by
  have hhalf : rtTickMaxHalf = 2147483647#32 := by decide
  simp only [insertsBefore, remaining, hhalf] at *
  generalize (s.timer x).timeoutTick = a at *
  generalize (s.timer y).timeoutTick = b at *
  generalize s.rtTick = c at *
  constructor
  · rintro ⟨h1, h2⟩
    bv_omega
  · intro h
    constructor
    · bv_omega
    · bv_omega

/-- The test of `rt_timer_check` finds out whether a timer has expired. -/
theorem expired_iff (h : s.remaining d < 2147483647) :
    s.rtTick - (s.timer d).timeoutTick < rtTickMaxHalf ↔ s.remaining d = 0 := by
  have hhalf : rtTickMaxHalf = 2147483647#32 := by decide
  simp only [remaining, hhalf] at *
  generalize (s.timer d).timeoutTick = a at *
  generalize s.rtTick = c at *
  constructor
  · intro h1
    bv_omega
  · intro h
    bv_omega

/-! ### Putting a timer into the list -/

/-- The place of a new element in front of the first one that it comes before. -/
theorem pairwise_orderedInsert {α : Type} {R r : α → α → Prop} [DecidableRel r] {a : α}
    {l : List α} (htrans : ∀ {x y z}, R x y → R y z → R x z) (h : l.Pairwise R)
    (hbefore : ∀ x ∈ l, r a x → R a x) (hafter : ∀ x ∈ l, ¬r a x → R x a) :
    (l.orderedInsert r a).Pairwise R := by
  induction l with
  | nil => simp
  | cons x l ih =>
    have hl := List.pairwise_cons.mp h
    rw [List.orderedInsert_cons]
    split
    · next hr =>
      have hax := hbefore x List.mem_cons_self hr
      refine List.pairwise_cons.mpr ⟨fun y hy => ?_, h⟩
      rcases List.mem_cons.mp hy with rfl | hy
      · exact hax
      · exact htrans hax (hl.1 y hy)
    · next hr =>
      refine List.pairwise_cons.mpr ⟨fun y hy => ?_, ih hl.2
        (fun y hy => hbefore y (List.mem_cons_of_mem _ hy))
        fun y hy => hafter y (List.mem_cons_of_mem _ hy)⟩
      rcases (List.mem_orderedInsert r).mp hy with rfl | hy
      · exact hafter x List.mem_cons_self hr
      · exact hl.1 y hy

theorem Before.trans {z : D} (h : s.Before x y) (h' : s.Before y z) : s.Before x z := by
  unfold Before at *
  omega

/-- The state in which `rt_timer_start` looks for the place of the timer. -/
def rewound (s : Timers D) (d : D) : Timers D :=
  (s.timerRemove d).setTimer d fun t =>
    { t with timeoutTick := s.rtTick + t.initTick, activated := false }

/-- The state after `rt_timer_start`. -/
def started (s : Timers D) (d : D) : Timers D :=
  { ({ s.rewound d with list := (s.list.erase d).orderedInsert (s.rewound d).insertsBefore d
      }.setTimer d fun t => { t with activated := true }) with
    startNo := Function.update s.startNo d s.starts
    starts := s.starts + 1 }

theorem rtTimerStart_eq (ha : (s.timer d).attached = true) (hp : s.period d < 2147483647) :
    s.rtTimerStart d = some (s.started d) := by
  have hlt : (s.timer d).initTick < rtTickMaxHalf := by
    rw [BitVec.lt_def, rtTickMaxHalf_toNat]
    exact hp
  unfold rtTimerStart started rewound
  simp [ha, hlt, setTimer, timerRemove]

/-- The state after the body of the loop of `rt_timer_check`, if the timer is started again. -/
theorem expire_periodic (hp : (s.timer d).periodic = true) (ha : (s.timer d).attached = true)
    (hact : (s.timer d).activated = true) (hlt : s.period d < 2147483647) :
    s.expire d = some ((((s.timerRemove d).timeoutFunc d).setTimer d fun t =>
      { t with activated := false }).started d) := by
  unfold expire
  simp only [timerRemove, hp, timeoutFunc, hact, Bool.not_true, Bool.false_eq_true, if_false,
    Bool.and_self, if_true]
  refine rtTimerStart_eq ?_ ?_
  · simpa [setTimer] using ha
  · simpa [setTimer, period] using hlt

/-- ... and if it is not. -/
theorem expire_oneShot (hp : (s.timer d).periodic = false) :
    s.expire d = some (((s.timerRemove d).setTimer d fun t =>
      { t with activated := false }).timeoutFunc d) := by
  unfold expire
  simp [timerRemove, hp, timeoutFunc, setTimer]

/-! ### Steps on one timer -/

/-- Two states agree in all that is not about timer `d`. -/
structure Agree (d : D) (s s' : Timers D) : Prop where
  rtTick : s'.rtTick = s.rtTick
  elapsed : s'.elapsed = s.elapsed
  timer : ∀ x, x ≠ d → s'.timer x = s.timer x
  startNo : ∀ x, x ≠ d → s'.startNo x = s.startNo x
  callNo : ∀ x, x ≠ d → s'.callNo x = s.callNo x
  since : ∀ x, x ≠ d → s'.since x = s.since x
  fired : ∀ x, x ≠ d → s'.fired x = s.fired x
  initTick : (s'.timer d).initTick = (s.timer d).initTick

theorem Agree.remaining (h : Agree d s s') (hx : x ≠ d) : s'.remaining x = s.remaining x := by
  rw [Timers.remaining, Timers.remaining, h.timer x hx, h.rtTick]

theorem Agree.period (h : Agree d s s') : s'.period x = s.period x := by
  rw [Timers.period, Timers.period]
  by_cases hx : x = d
  · rw [hx, h.initTick]
  · rw [h.timer x hx]

theorem Agree.before (h : Agree d s s') (hx : x ≠ d) (hy : y ≠ d) :
    s'.Before x y ↔ s.Before x y := by
  rw [Before, Before, h.remaining hx, h.remaining hy, h.startNo x hx, h.startNo y hy]

/-- Taking a timer out of the list keeps the invariant. -/
theorem TimersInv.remove (h : TimersInv s) (hs : Agree d s s') (hl : s'.list = s.list.erase d)
    (hstarts : s'.starts = s.starts) (hact : (s'.timer d).activated = false) :
    TimersInv s' := by
  have hmem : ∀ {x}, x ∈ s'.list → x ∈ s.list ∧ x ≠ d := fun hx => by
    rw [hl] at hx
    exact ⟨List.mem_of_mem_erase hx, fun hxd => by
      rw [hxd, h.nodup.mem_erase_iff] at hx
      exact hx.1 rfl⟩
  exact
    { nodup := hl ▸ h.nodup.erase d
      sorted := by
        have hsub : s'.list.Pairwise s.Before := by
          rw [hl]
          exact h.sorted.sublist List.erase_sublist
        refine hsub.imp_of_mem fun hx hy hb => ?_
        exact (hs.before (hmem hx).2 (hmem hy).2).mpr hb
      active := fun x => by
        by_cases hx : x = d
        · rw [hx, hl, hact, h.nodup.mem_erase_iff]
          simp
        · rw [hl, hs.timer x hx, h.nodup.mem_erase_iff, ← h.active]
          simp [hx]
      attached := fun x hx => by
        rw [hs.timer x (hmem hx).2]
        exact h.attached x (hmem hx).1
      period := fun x => by
        rw [hs.period]
        exact h.period x
      remaining := fun x hx => by
        rw [hs.remaining (hmem hx).2, hs.period]
        exact h.remaining x (hmem hx).1
      exact := fun x hx => by
        rw [hs.remaining (hmem hx).2, hs.period, hs.elapsed, hs.since x (hmem hx).2,
          hs.fired x (hmem hx).2]
        exact h.exact x (hmem hx).1
      fired := fun x hx => by
        rw [hs.period, hs.since x (hmem hx).2, hs.fired x (hmem hx).2]
        exact h.fired x (hmem hx).1
      startNo := fun x hx => by
        rw [hs.callNo x (hmem hx).2, hs.startNo x (hmem hx).2, hstarts]
        exact h.startNo x (hmem hx).1
      together := fun x hx y hy => by
        rw [hs.period, hs.period, hs.remaining (hmem hx).2, hs.remaining (hmem hy).2,
          hs.callNo x (hmem hx).2, hs.callNo y (hmem hy).2, hs.since x (hmem hx).2,
          hs.since y (hmem hy).2, hs.startNo x (hmem hx).2, hs.startNo y (hmem hy).2]
        exact h.together x (hmem hx).1 y (hmem hy).1 }

/-- Putting a timer into the list with its whole period left keeps the invariant, if its times
are exact and it does not overtake a timer it runs together with. -/
theorem TimersInv.insert (h : TimersInv s) (hd : d ∉ s.list) (hs : Agree d s s')
    {r : D → D → Prop} [DecidableRel r] (hl : s'.list = s.list.orderedInsert r d)
    (hr : ∀ x ∈ s.list, r d x ↔ s.period d < s.remaining x)
    (hstarts : s'.starts = s.starts + 1) (hno : s'.startNo d = s.starts)
    (hact : (s'.timer d).activated = true) (hatt : (s'.timer d).attached = true)
    (hrem : s'.remaining d = s.period d) (hcall : s'.callNo d ≤ s.starts)
    (hexact : s.elapsed + s.period d = s'.since d + ((s'.fired d).length + 1) * s.period d)
    (hfired : s'.fired d = multiples (s'.since d) (s.period d) (s'.fired d).length)
    (hfirst : ∀ x ∈ s.list, s.period x = s.period d → s.since x = s'.since d →
      s.callNo x < s'.callNo d → s.remaining x = s.period x)
    (hlast : ∀ x ∈ s.list, s.period d = s.period x → s'.since d = s.since x →
      s'.callNo d < s.callNo x → s.remaining x = 0) : TimersInv s' := by
  have hne : ∀ {x}, x ∈ s.list → x ≠ d := fun hx hxd => hd (hxd ▸ hx)
  have hmem : ∀ {x}, x ∈ s'.list ↔ x = d ∨ x ∈ s.list := by
    intro x
    rw [hl, List.mem_orderedInsert]
  have hself : s'.remaining d = s'.period d := hrem.trans hs.period.symm
  exact
    { nodup := by
        rw [hl, (List.perm_orderedInsert r d s.list).nodup_iff]
        exact List.nodup_cons.mpr ⟨hd, h.nodup⟩
      sorted := by
        rw [hl]
        refine pairwise_orderedInsert Before.trans
          (h.sorted.imp_of_mem fun hx hy hb => (hs.before (hne hx) (hne hy)).mpr hb)
          (fun x hx hb => ?_) fun x hx hb => ?_
        · left
          rw [hrem, hs.remaining (hne hx)]
          exact (hr x hx).mp hb
        · rw [hr x hx] at hb
          unfold Before
          rw [hrem, hs.remaining (hne hx), hno, hs.startNo x (hne hx)]
          have hlt := (h.startNo x hx).2
          omega
      active := fun x => by
        rw [hmem]
        by_cases hx : x = d
        · simp [hx, hact]
        · rw [hs.timer x hx, ← h.active]
          simp [hx]
      attached := fun x hx => by
        rcases hmem.mp hx with rfl | hx
        · exact hatt
        · rw [hs.timer x (hne hx)]
          exact h.attached x hx
      period := fun x => by
        rw [hs.period]
        exact h.period x
      remaining := fun x hx => by
        rcases hmem.mp hx with rfl | hx
        · exact hself.le
        · rw [hs.remaining (hne hx), hs.period]
          exact h.remaining x hx
      exact := fun x hx => by
        rcases hmem.mp hx with rfl | hx
        · rw [hself, hs.period, hs.elapsed]
          exact hexact
        · rw [hs.remaining (hne hx), hs.period, hs.elapsed, hs.since x (hne hx),
            hs.fired x (hne hx)]
          exact h.exact x hx
      fired := fun x hx => by
        rcases hmem.mp hx with rfl | hx
        · rw [hs.period]
          exact hfired
        · rw [hs.period, hs.since x (hne hx), hs.fired x (hne hx)]
          exact h.fired x hx
      startNo := fun x hx => by
        rcases hmem.mp hx with rfl | hx
        · rw [hno, hstarts]
          omega
        · rw [hs.callNo x (hne hx), hs.startNo x (hne hx), hstarts]
          have hlt := h.startNo x hx
          omega
      together := fun x hx y hy => by
        rcases hmem.mp hx with rfl | hx
        · rcases hmem.mp hy with rfl | hy
          · exact fun _ _ hlt => absurd hlt (lt_irrefl _)
          · rw [hs.period, hs.period, hs.since y (hne hy), hs.callNo y (hne hy), hrem,
              hs.remaining (hne hy)]
            exact fun hp hsince hlt => .inr ⟨rfl, hlast y hy hp hsince hlt⟩
        · rcases hmem.mp hy with rfl | hy
          · rw [hs.period, hs.period, hs.since x (hne hx), hs.callNo x (hne hx), hrem,
              hs.remaining (hne hx), hs.startNo x (hne hx), hno]
            exact fun hp hsince hlt =>
              .inl ⟨(hfirst x hx hp hsince hlt).trans hp, (h.startNo x hx).2⟩
          · rw [hs.period, hs.period, hs.remaining (hne hx), hs.remaining (hne hy),
              hs.callNo x (hne hx), hs.callNo y (hne hy), hs.since x (hne hx),
              hs.since y (hne hy), hs.startNo x (hne hx), hs.startNo y (hne hy)]
            exact h.together x hx y hy }

/-! ### The calls -/

theorem remaining_rewound : (s.rewound d).remaining d = s.period d := by
  simp only [remaining, rewound, setTimer, timerRemove, Function.update_self, period]
  congr 1
  bv_omega

/-- `rt_timer_start` finds the place behind all timers that expire no later. -/
theorem insertsBefore_rewound (h : TimersInv s) (hx : x ∈ s.list) (hne : x ≠ d) :
    (s.rewound d).insertsBefore d x ↔ s.period d < s.remaining x := by
  have hother : (s.rewound d).remaining x = s.remaining x := by
    simp [remaining, rewound, setTimer, timerRemove, hne]
  have hbound := h.remaining x hx
  have hlt := (h.period x).2
  rw [insertsBefore_iff, remaining_rewound, hother]
  · rw [remaining_rewound]
    exact (h.period d).2
  · rw [hother]
    omega

theorem remaining_started : (s.started d).remaining d = s.period d := by
  simp only [remaining, started, rewound, setTimer, timerRemove, Function.update_self, period]
  congr 1
  bv_omega

theorem filter_orderedInsert {α : Type} {r : α → α → Prop} [DecidableRel r] {p : α → Bool} {a : α}
    {l : List α} (ha : p a = false) : (l.orderedInsert r a).filter p = l.filter p := by
  induction l with
  | nil => simp [ha]
  | cons x l ih =>
    rw [List.orderedInsert_cons]
    split
    · simp [List.filter_cons, ha]
    · rw [List.filter_cons, List.filter_cons, ih]

theorem due_congr (hl : s'.list.filter (fun x => s'.remaining x = 0) =
    (s.list.erase d).filter fun x => s.remaining x = 0) (hcons : s.list = d :: s.list.erase d)
    (hdue : s.remaining d = 0) : s.due = d :: s'.due := by
  unfold due
  rw [hl]
  conv_lhs => rw [hcons]
  rw [List.filter_cons, if_pos (by simpa using hdue)]

theorem Logged.timeoutFunc (h : Logged s) (hlt : s.since d < s.elapsed)
    (hlog : s'.log = s.log ++ [(s.elapsed, d)]) (helapsed : s'.elapsed = s.elapsed)
    (hsince : s'.since = s.since)
    (hfired : s'.fired = Function.update s.fired d (s.fired d ++ [s.elapsed])) : Logged s' := by
  refine ⟨fun e he => ?_, fun x => ?_⟩
  · rw [hlog, List.mem_append, List.mem_singleton] at he
    rw [helapsed]
    rcases he with he | rfl
    · exact h.past e he
    · exact le_rfl
  · rw [hlog, hsince, hfired, List.filter_append, List.map_append, ← h.fired x]
    by_cases hx : x = d
    · subst hx
      simp [hlt]
    · simp [hx, Ne.symm hx]

/-- **One turn** of the loop runs the first timeout function that is due, and leaves one less. -/
theorem TimersInv.expire (h : TimersInv s) {rest : List D} (hl : s.list = d :: rest)
    (hdue : s.remaining d = 0) : ∃ s', s.expire d = some s' ∧ TimersInv s' ∧
      s.due = d :: s'.due ∧ s'.log = s.log ++ [(s.elapsed, d)] ∧ s'.elapsed = s.elapsed ∧
      (Logged s → Logged s') := by
  have hmem : d ∈ s.list := hl ▸ List.mem_cons_self
  have herase : s.list.erase d = rest := by rw [hl, List.erase_cons_head]
  have hcons : s.list = d :: s.list.erase d := by rw [herase, hl]
  have hhead : ∀ x ∈ rest, s.Before d x := by
    have hsorted := h.sorted
    rw [hl] at hsorted
    exact (List.pairwise_cons.mp hsorted).1
  have hnot : d ∉ s.list.erase d := h.nodup.not_mem_erase
  have hne : ∀ {x}, x ∈ s.list.erase d → x ≠ d := fun hx hxd => hnot (hxd ▸ hx)
  have hlt : s.since d < s.elapsed := by
    have hexact := h.exact d hmem
    have hpos := (h.period d).1
    have hmul : s.period d ≤ ((s.fired d).length + 1) * s.period d :=
      Nat.le_mul_of_pos_left _ (Nat.succ_pos _)
    omega
  by_cases hper : (s.timer d).periodic
  · rw [expire_periodic hper (h.attached d hmem) ((h.active d).mp hmem) (h.period d).2]
    have hagree : Agree d s (((s.timerRemove d).timeoutFunc d).setTimer d fun t =>
        { t with activated := false }) := by
      refine ⟨rfl, rfl, ?_, ?_, ?_, ?_, ?_, ?_⟩
      all_goals simp +contextual [timerRemove, timeoutFunc, setTimer]
    generalize hs₁ : ((s.timerRemove d).timeoutFunc d).setTimer d (fun t =>
      { t with activated := false }) = s₁ at hagree
    have hlist : s₁.list = s.list.erase d := by rw [← hs₁]; rfl
    have hinv : TimersInv s₁ := h.remove hagree hlist (by rw [← hs₁]; rfl)
      (by rw [← hs₁]; simp [setTimer])
    have hnot₁ : d ∉ s₁.list := hlist ▸ hnot
    have hfired : s₁.fired d = s.fired d ++ [s.elapsed] := by
      rw [← hs₁]
      simp [timerRemove, timeoutFunc, setTimer]
    have hsince : s₁.since d = s.since d := by rw [← hs₁]; rfl
    have hcall : s₁.callNo d = s.callNo d := by rw [← hs₁]; rfl
    have hstarts : s₁.starts = s.starts := by rw [← hs₁]; rfl
    have hexact := h.exact d hmem
    rw [hdue, Nat.add_zero] at hexact
    have hstart : Agree d s₁ (s₁.started d) := by
      refine ⟨rfl, rfl, ?_, ?_, ?_, ?_, ?_, ?_⟩
      all_goals simp +contextual [started, rewound, timerRemove, setTimer]
    refine ⟨_, rfl, ?_, ?_, ?_, ?_, fun hlogged => ?_⟩
    · refine hinv.insert hnot₁ hstart (r := (s₁.rewound d).insertsBefore) ?_ (fun x hx => ?_)
        rfl ?_ ?_ ?_ ?_ ?_ ?_ ?_ ?_ ?_
      · simp only [started, setTimer, List.erase_of_not_mem hnot₁]
      · exact insertsBefore_rewound hinv hx fun hxd => hnot₁ (hxd ▸ hx)
      · simp [started]
      · simp [started, setTimer]
      · have hatt := h.attached d hmem
        rw [← hs₁]
        simpa [started, rewound, setTimer, timerRemove, timeoutFunc] using hatt
      · exact remaining_started
      · have hno := h.startNo d hmem
        show s₁.callNo d ≤ s₁.starts
        rw [hcall, hstarts]
        omega
      · show s₁.elapsed + _ = s₁.since d + ((s₁.fired d).length + 1) * _
        rw [hfired, hsince, hagree.elapsed, hagree.period, hexact, List.length_append,
          List.length_singleton, Nat.add_assoc, ← Nat.succ_mul]
      · show s₁.fired d = multiples (s₁.since d) _ (s₁.fired d).length
        rw [hfired, hsince, hagree.period, h.fired d hmem, List.length_append,
          List.length_singleton, hexact]
        simp [multiples, List.range_succ]
      · intro x hx hp hsin hlt
        have hx' : x ∈ s.list := List.mem_of_mem_erase (hlist ▸ hx)
        have hxd : x ≠ d := fun hxd => hnot₁ (hxd ▸ hx)
        rw [hagree.period, hagree.period] at hp
        have hsin' : s₁.since x = s₁.since d := hsin
        have hlt' : s₁.callNo x < s₁.callNo d := hlt
        rw [hsince, hagree.since x hxd] at hsin'
        rw [hcall, hagree.callNo x hxd] at hlt'
        rw [hagree.remaining hxd, hagree.period]
        rcases h.together x hx' d hmem hp hsin' hlt' with ⟨heq, hlt''⟩ | ⟨hfull, -⟩
        · have hb := hhead x (by rw [← herase, ← hlist]; exact hx)
          unfold Before at hb
          omega
        · exact hfull
      · intro x hx hp hsin hlt
        have hx' : x ∈ s.list := List.mem_of_mem_erase (hlist ▸ hx)
        have hxd : x ≠ d := fun hxd => hnot₁ (hxd ▸ hx)
        rw [hagree.period, hagree.period] at hp
        have hsin' : s₁.since d = s₁.since x := hsin
        have hlt' : s₁.callNo d < s₁.callNo x := hlt
        rw [hsince, hagree.since x hxd] at hsin'
        rw [hcall, hagree.callNo x hxd] at hlt'
        rw [hagree.remaining hxd]
        rcases h.together d hmem x hx' hp hsin' hlt' with ⟨heq, -⟩ | ⟨-, hzero⟩
        · rw [← heq, hdue]
        · exact hzero
    · refine due_congr ?_ hcons hdue
      have hself : decide ((s₁.started d).remaining d = 0) = false := by
        rw [remaining_started, hagree.period, decide_eq_false_iff_not]
        exact (h.period d).1.ne'
      have hl' : (s₁.started d).list = (s.list.erase d).orderedInsert
          (s₁.rewound d).insertsBefore d := by
        simp only [started, setTimer, List.erase_of_not_mem hnot₁]
        rw [hlist]
      rw [hl', filter_orderedInsert (p := fun x => decide ((s₁.started d).remaining x = 0)) hself]
      refine List.filter_congr fun x hx => ?_
      rw [hstart.remaining (hne hx), hagree.remaining (hne hx)]
    · rw [← hs₁]
      rfl
    · exact hagree.elapsed
    · rw [← hs₁]
      exact hlogged.timeoutFunc hlt rfl rfl rfl rfl
  · rw [Bool.not_eq_true] at hper
    rw [expire_oneShot hper]
    have hagree : Agree d s (((s.timerRemove d).setTimer d fun t =>
        { t with activated := false }).timeoutFunc d) := by
      refine ⟨rfl, rfl, ?_, ?_, ?_, ?_, ?_, ?_⟩
      all_goals simp +contextual [timerRemove, timeoutFunc, setTimer]
    refine ⟨_, rfl, h.remove hagree rfl rfl (by simp [timeoutFunc, setTimer]), ?_, rfl, rfl,
      fun hlogged => hlogged.timeoutFunc hlt rfl rfl rfl rfl⟩
    refine due_congr ?_ hcons hdue
    refine List.filter_congr fun x hx => ?_
    rw [hagree.remaining (hne hx)]

/-- **The loop** ends after as many turns as timers are due, and runs their timeout functions in
the order of the list. -/
theorem rtTimerCheck_spec {fuel : ℕ} (h : TimersInv s) (hfuel : s.due.length < fuel) :
    ∃ s', rtTimerCheck fuel s = some s' ∧ TimersInv s' ∧ s'.due = [] ∧
      s'.log = s.log ++ s.due.map (fun d => (s.elapsed, d)) ∧ s'.elapsed = s.elapsed ∧
      (Logged s → Logged s') := by
  induction fuel generalizing s with
  | zero => cases hfuel
  | succ fuel ih =>
    unfold rtTimerCheck
    cases hl : s.list with
    | nil =>
      have hdue : s.due = [] := by simp [due, hl]
      exact ⟨s, rfl, h, hdue, by simp [hdue], rfl, id⟩
    | cons d rest =>
      have hmem : d ∈ s.list := hl ▸ List.mem_cons_self
      have hlt : s.remaining d < 2147483647 :=
        lt_of_le_of_lt (h.remaining d hmem) (h.period d).2
      dsimp only
      by_cases hzero : s.remaining d = 0
      · rw [if_pos ((expired_iff hlt).mpr hzero)]
        obtain ⟨s₁, hs₁, hinv, hdue, hlog, helapsed, hlogged⟩ := h.expire hl hzero
        rw [hdue, List.length_cons] at hfuel
        obtain ⟨s', hs', hinv', hdue', hlog', helapsed', hlogged'⟩ := ih hinv (by omega)
        refine ⟨s', by rw [hs₁, Option.bind_some, hs'], hinv', hdue', ?_,
          helapsed'.trans helapsed, fun hl => hlogged' (hlogged hl)⟩
        rw [hlog', hlog, hdue, helapsed, List.map_cons, List.append_assoc, List.singleton_append]
      · rw [if_neg fun hexp => hzero ((expired_iff hlt).mp hexp)]
        have hdue : s.due = [] := by
          refine List.filter_eq_nil_iff.mpr fun x hx => ?_
          have hsorted := h.sorted
          rw [hl] at hsorted hx
          rcases List.mem_cons.mp hx with rfl | hx
          · simpa using hzero
          · have hb := (List.pairwise_cons.mp hsorted).1 x hx
            unfold Before at hb
            simp only [decide_eq_true_eq]
            omega
        exact ⟨s, rfl, h, hdue, by simp [hdue], rfl, id⟩

/-! ### The tick -/

/-- What holds between ticks. -/
def Waiting (s : Timers D) : Prop := TimersInv s ∧ ∀ d ∈ s.list, 0 < s.remaining d

/-- The time goes on by one tick. -/
def tick (s : Timers D) : Timers D := { s with rtTick := s.rtTick + 1, elapsed := s.elapsed + 1 }

theorem remaining_tick (h : 0 < s.remaining d) : s.tick.remaining d + 1 = s.remaining d := by
  simp only [remaining, tick] at *
  generalize (s.timer d).timeoutTick = a at *
  bv_omega

theorem Waiting.tick (h : Waiting s) : TimersInv s.tick := by
  obtain ⟨h, hpos⟩ := h
  have hrem : ∀ {x}, x ∈ s.list → s.tick.remaining x + 1 = s.remaining x :=
    fun hx => remaining_tick (hpos _ hx)
  exact
    { nodup := h.nodup
      sorted := h.sorted.imp_of_mem fun {x y} hx hy hb => by
        have h1 := hrem hx
        have h2 := hrem hy
        unfold Before at *
        show _ ∨ _ ∧ s.startNo x < s.startNo y
        omega
      active := h.active
      attached := h.attached
      period := h.period
      remaining := fun x hx => by
        have h1 := hrem hx
        have h2 := h.remaining x hx
        show s.tick.remaining x ≤ s.period x
        omega
      exact := fun x hx => by
        have h1 := hrem hx
        have h2 := h.exact x hx
        show s.elapsed + 1 + s.tick.remaining x = s.since x + ((s.fired x).length + 1) * s.period x
        omega
      fired := h.fired
      startNo := h.startNo
      together := fun x hx y hy hp hsince hlt => by
        have h1 := hrem hx
        have h2 := hrem hy
        rcases h.together x hx y hy hp hsince hlt with ⟨heq, hno⟩ | ⟨-, hzero⟩
        · exact .inl ⟨by omega, hno⟩
        · omega }

/-- **The tick interrupt** ends, and runs exactly the timeout functions that are due. -/
theorem Waiting.rtTickIncrease (h : Waiting s) {fuel : ℕ} (hfuel : s.list.length < fuel) :
    ∃ s', s.rtTickIncrease fuel = some s' ∧ Waiting s' ∧ s'.elapsed = s.elapsed + 1 ∧
      s'.log = s.log ++ (s.list.filter fun d => s.remaining d = 1).map
        (fun d => (s.elapsed + 1, d)) ∧ (Logged s → Logged s') := by
  have hdue : s.tick.due = s.list.filter fun d => s.remaining d = 1 := by
    refine List.filter_congr fun x hx => ?_
    have hrem := remaining_tick (h.2 x hx)
    rw [decide_eq_decide]
    omega
  have hlen : s.tick.due.length < fuel :=
    lt_of_le_of_lt (List.length_filter_le _ _) hfuel
  obtain ⟨s', hs', hinv, hnil, hlog, helapsed, hlogged⟩ := rtTimerCheck_spec h.tick hlen
  refine ⟨s', hs', ⟨hinv, fun d hd => ?_⟩, helapsed, ?_,
    fun hl => hlogged ⟨fun e he => ?_, hl.fired⟩⟩
  · have hnot := List.filter_eq_nil_iff.mp hnil d hd
    simp only [decide_eq_true_eq] at hnot
    omega
  · rw [hlog, hdue]
    rfl
  · exact (hl.past e he).trans (Nat.le_succ _)

end Timers

end RobotVacuum
