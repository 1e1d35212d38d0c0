import Mathlib.Data.List.Induction

/-
  One push button: `agile_btn_process` for one object of the list, the pin and
  the tick as it reads them. A tick is a millisecond.

  What is proved:
    1. `events_wellformed` — whatever the pin does, the events come in presses: a
       press ends in one click and had no hold event, or in one end of hold and
       had at least one.
    2. `bounce_ignored` — contact seen for less than 15 ms at a time is not reported.
    3. `short_press_clicks` — contact for 15 ms and less than a second is one
       click.
-/

namespace Aqualarm

/-- `enum agile_btn_event`. -/
inductive BtnEvent where
  | pressDown | hold | holdFree | pressUp | click
  deriving DecidableEq, Repr

/-- `enum agile_btn_state`. -/
inductive BtnState where
  | nonePress | checkPress | pressDown | pressHold | holdFree | pressUp
  deriving DecidableEq, Repr

/-- `struct agile_btn`, as `agile_btn_create` and `agile_btn_start` leave it; both
buttons have a callback for `BTN_HOLD_EVENT`. -/
structure AgileBtn where
  repeatCnt : UInt8 := 0
  holdFlag : Bool := false
  eliminationTime : UInt8 := 15
  state : BtnState := .nonePress
  holdTime : UInt32 := 0
  prevHoldTime : UInt32 := 0
  holdCycleTime : UInt32 := 1000
  tickTimeout : UInt32 := 0
  deriving DecidableEq, Repr

/-- `RT_TICK_MAX`. -/
def rtTickMax : UInt32 := 0xFFFFFFFF

/-- `(rt_tick_get() - tick_timeout) < (RT_TICK_MAX / 2)`. -/
def tickPassed (now tickTimeout : UInt32) : Bool := now - tickTimeout < rtTickMax / 2

def agileBtnCalHoldTime (now : UInt32) (btn : AgileBtn) : AgileBtn :=
  { btn with
    holdTime :=
      if now < btn.tickTimeout then rtTickMax - btn.tickTimeout + now else now - btn.tickTimeout }

/-- `agile_btn_process` for one button: `active` is whether the pin has the active
level. -/
def agileBtnProcess (active : Bool) (now : UInt32) (btn : AgileBtn) : AgileBtn × List BtnEvent :=
  match btn.state with
  | .nonePress =>
    if active then
      ({ btn with tickTimeout := now + btn.eliminationTime.toUInt32, state := .checkPress }, [])
    else if btn.repeatCnt ≠ 0 ∧ tickPassed now btn.tickTimeout then ({ btn with repeatCnt := 0 }, [])
    else (btn, [])
  | .checkPress =>
    if active then (if tickPassed now btn.tickTimeout then { btn with state := .pressDown } else btn, [])
    else ({ btn with state := .nonePress }, [])
  | .pressDown =>
    -- the pin is not read here
    ({ btn with
        holdTime := 0, prevHoldTime := 0, repeatCnt := btn.repeatCnt + 1
        tickTimeout := now, state := .pressHold }, [.pressDown])
  | .pressHold =>
    if active then
      let btn := agileBtnCalHoldTime now btn
      if btn.holdTime - btn.prevHoldTime ≥ btn.holdCycleTime then
        ({ btn with prevHoldTime := btn.holdTime, holdFlag := true }, [.hold])
      else (btn, [])
    else ({ btn with state := if btn.holdFlag then .holdFree else .pressUp, holdFlag := false }, [])
  | .holdFree => ({ btn with tickTimeout := now + 500, state := .nonePress }, [.holdFree])
  | .pressUp => ({ btn with tickTimeout := now + 500, state := .nonePress }, [.pressUp, .click])

/-! A call in each state. -/

section
variable {btn : AgileBtn} (now : UInt32)

theorem process_nonePress_active (h : btn.state = .nonePress) :
    agileBtnProcess true now btn =
      ({ btn with tickTimeout := now + btn.eliminationTime.toUInt32, state := .checkPress }, []) := by
  unfold agileBtnProcess
  rw [h]
  rfl

theorem process_nonePress_idle (h : btn.state = .nonePress) :
    agileBtnProcess false now btn =
      ({ btn with repeatCnt := if btn.repeatCnt ≠ 0 ∧ tickPassed now btn.tickTimeout then 0 else btn.repeatCnt }, []) := by
  obtain ⟨repeatCnt, holdFlag, eliminationTime, state, holdTime, prevHoldTime, holdCycleTime, tickTimeout⟩ := btn
  obtain rfl : state = .nonePress := h
  unfold agileBtnProcess
  dsimp only
  rw [if_neg Bool.false_ne_true]
  split <;> rfl

theorem process_checkPress_active (h : btn.state = .checkPress) :
    agileBtnProcess true now btn =
      ({ btn with state := if tickPassed now btn.tickTimeout then .pressDown else .checkPress }, []) := by
  unfold agileBtnProcess
  rw [h]
  dsimp only
  rw [if_pos rfl]
  split
  · rfl
  · rw [← h]

theorem process_checkPress_idle (h : btn.state = .checkPress) :
    agileBtnProcess false now btn = ({ btn with state := .nonePress }, []) := by
  unfold agileBtnProcess
  rw [h]
  rfl

theorem process_pressDown (h : btn.state = .pressDown) (active : Bool) :
    agileBtnProcess active now btn =
      ({ btn with
        holdTime := 0, prevHoldTime := 0, repeatCnt := btn.repeatCnt + 1
        tickTimeout := now, state := .pressHold }, [.pressDown]) := by
  unfold agileBtnProcess
  rw [h]

/-- What `agile_btn_cal_hold_time` computes. -/
def heldFor (now tickTimeout : UInt32) : UInt32 :=
  if now < tickTimeout then rtTickMax - tickTimeout + now else now - tickTimeout

theorem process_pressHold_active (h : btn.state = .pressHold) :
    agileBtnProcess true now btn =
      if btn.holdCycleTime ≤ heldFor now btn.tickTimeout - btn.prevHoldTime then
        ({ btn with
          holdTime := heldFor now btn.tickTimeout, prevHoldTime := heldFor now btn.tickTimeout
          holdFlag := true }, [.hold])
      else ({ btn with holdTime := heldFor now btn.tickTimeout }, []) := by
  obtain ⟨repeatCnt, holdFlag, eliminationTime, state, holdTime, prevHoldTime, holdCycleTime, tickTimeout⟩ := btn
  obtain rfl : state = .pressHold := h
  rfl

theorem process_pressHold_idle (h : btn.state = .pressHold) :
    agileBtnProcess false now btn =
      ({ btn with state := if btn.holdFlag then .holdFree else .pressUp, holdFlag := false }, []) := by
  unfold agileBtnProcess
  rw [h]
  rfl

theorem process_holdFree (h : btn.state = .holdFree) (active : Bool) :
    agileBtnProcess active now btn = ({ btn with tickTimeout := now + 500, state := .nonePress }, [.holdFree]) := by
  unfold agileBtnProcess
  rw [h]

theorem process_pressUp (h : btn.state = .pressUp) (active : Bool) :
    agileBtnProcess active now btn =
      ({ btn with tickTimeout := now + 500, state := .nonePress }, [.pressUp, .click]) := by
  unfold agileBtnProcess
  rw [h]

end

/-- The button over a list of samples, with the events it has reported. -/
def agileBtnRun (btn : AgileBtn) : List (Bool × UInt32) → AgileBtn × List BtnEvent
  | [] => (btn, [])
  | s :: samples =>
    let p := agileBtnProcess s.1 s.2 btn
    let q := agileBtnRun p.1 samples
    (q.1, p.2 ++ q.2)

theorem agileBtnRun_cons {btn btn' : AgileBtn} {active : Bool} {now : UInt32} {events : List BtnEvent}
    (h : agileBtnProcess active now btn = (btn', events)) (samples : List (Bool × UInt32)) :
    agileBtnRun btn ((active, now) :: samples) =
      ((agileBtnRun btn' samples).1, events ++ (agileBtnRun btn' samples).2) := by
  simp only [agileBtnRun, h]

theorem agileBtnRun_append (btn : AgileBtn) (s t : List (Bool × UInt32)) :
    agileBtnRun btn (s ++ t) =
      ((agileBtnRun (agileBtnRun btn s).1 t).1, (agileBtnRun btn s).2 ++ (agileBtnRun (agileBtnRun btn s).1 t).2) := by
  induction s generalizing btn with
  | nil => rfl
  | cons s samples ih => simp only [List.cons_append, agileBtnRun, ih, List.append_assoc]

theorem agileBtnRun_snoc (btn : AgileBtn) (samples : List (Bool × UInt32)) (active : Bool) (now : UInt32) :
    agileBtnRun btn (samples ++ [(active, now)]) =
      ((agileBtnProcess active now (agileBtnRun btn samples).1).1,
        (agileBtnRun btn samples).2 ++ (agileBtnProcess active now (agileBtnRun btn samples).1).2) := by
  rw [agileBtnRun_append]
  simp only [agileBtnRun, List.append_nil]

/-! The events of a press. -/

/-- What a press reports from its start to its end. -/
inductive Press : List BtnEvent → Prop where
  | short : Press [.pressDown, .pressUp, .click]
  | long (n : Nat) : Press (.pressDown :: List.replicate (n + 1) .hold ++ [.holdFree])

/-- What the press that is going on has reported so far. -/
inductive Pressing (btn : AgileBtn) : List BtnEvent → Prop where
  | before (hstate : btn.state = .nonePress ∨ btn.state = .checkPress ∨ btn.state = .pressDown)
    (hflag : btn.holdFlag = false) : Pressing btn []
  | on (hstate : btn.state = .pressHold) (n : Nat) (hflag : btn.holdFlag = decide (n ≠ 0)) :
    Pressing btn (.pressDown :: List.replicate n .hold)
  | held (hstate : btn.state = .holdFree) (n : Nat) (hflag : btn.holdFlag = false) :
    Pressing btn (.pressDown :: List.replicate (n + 1) .hold)
  | up (hstate : btn.state = .pressUp) (hflag : btn.holdFlag = false) : Pressing btn [.pressDown]

/-- A call carries a press on, or ends it. -/
theorem pressing_process {btn : AgileBtn} {events : List BtnEvent} (h : Pressing btn events) (active : Bool)
    (now : UInt32) :
    let p := agileBtnProcess active now btn
    Pressing p.1 (events ++ p.2) ∨ Press (events ++ p.2) ∧ Pressing p.1 [] := by
  cases h with
  | before hstate hflag =>
    left
    rcases hstate with hstate | hstate | hstate
    · cases active with
      | true =>
        rw [process_nonePress_active now hstate]
        exact .before (Or.inr (Or.inl rfl)) hflag
      | false =>
        rw [process_nonePress_idle now hstate]
        exact .before (Or.inl hstate) hflag
    · cases active with
      | true =>
        rw [process_checkPress_active now hstate]
        refine .before ?_ hflag
        dsimp only
        split
        · exact Or.inr (Or.inr rfl)
        · exact Or.inr (Or.inl rfl)
      | false =>
        rw [process_checkPress_idle now hstate]
        exact .before (Or.inl rfl) hflag
    · rw [process_pressDown now hstate]
      exact .on rfl 0 hflag
  | on hstate n hflag =>
    left
    cases active with
    | true =>
      rw [process_pressHold_active now hstate]
      split
      · have hmore := @Pressing.on { btn with
          holdTime := heldFor now btn.tickTimeout, prevHoldTime := heldFor now btn.tickTimeout
          holdFlag := true } hstate (n + 1) (by simp)
        rw [List.replicate_succ'] at hmore
        exact hmore
      · rw [List.append_nil]
        exact @Pressing.on { btn with holdTime := heldFor now btn.tickTimeout } hstate n hflag
    | false =>
      rw [process_pressHold_idle now hstate, hflag]
      cases n with
      | zero => exact .up rfl rfl
      | succ n =>
        rw [List.append_nil]
        exact .held rfl n rfl
  | held hstate n hflag =>
    rw [process_holdFree now hstate]
    exact Or.inr ⟨.long n, .before (Or.inl rfl) hflag⟩
  | up hstate hflag =>
    rw [process_pressUp now hstate]
    exact Or.inr ⟨.short, .before (Or.inl rfl) hflag⟩

/-- **The events of a button.** Whatever its pin does and whenever it is looked
at, a button reports presses one after the other: a press ends in one click and
reported no hold, or in one end of hold and reported at least one. -/
theorem events_wellformed (samples : List (Bool × UInt32)) :
    ∃ (presses : List (List BtnEvent)) (rest : List BtnEvent),
      (agileBtnRun {} samples).2 = presses.flatten ++ rest ∧ (∀ p ∈ presses, Press p) ∧
      Pressing (agileBtnRun {} samples).1 rest := by
  induction samples using List.reverseRecOn with
  | nil => exact ⟨[], [], rfl, fun p hp => absurd hp List.not_mem_nil, .before (Or.inl rfl) rfl⟩
  | append_singleton samples s ih =>
    obtain ⟨presses, rest, hevents, hpresses, hrest⟩ := ih
    rw [agileBtnRun_snoc, hevents]
    rcases pressing_process hrest s.1 s.2 with hon | ⟨hdone, hnew⟩
    · exact ⟨presses, _, List.append_assoc _ _ _, hpresses, hon⟩
    · refine ⟨presses ++ [rest ++ (agileBtnProcess s.1 s.2 (agileBtnRun {} samples).1).2], [], ?_, ?_, hnew⟩
      · simp
      · intro p hp
        rcases List.mem_append.1 hp with hold | hlast
        · exact hpresses p hold
        · exact List.mem_singleton.1 hlast ▸ hdone

/-! Ticks of a clock that does not wrap. -/

theorem toNat_tick (t : Nat) : (UInt32.ofNat t).toNat = t % 4294967296 := rfl

/-- The comparison is right for times less than 24 days apart. -/
theorem tickPassed_iff {t₀ t : Nat} {d : UInt32} (hle : t₀ ≤ t) (ht : t < t₀ + 2000) (hd : d.toNat ≤ 2000) :
    tickPassed (UInt32.ofNat t) (UInt32.ofNat t₀ + d) = true ↔ t₀ + d.toNat ≤ t := by
  have hhalf : (rtTickMax / 2).toNat = 2147483647 := rfl
  unfold tickPassed
  rw [decide_eq_true_eq, UInt32.lt_iff_toNat_lt, hhalf, UInt32.toNat_sub, UInt32.toNat_add, toNat_tick, toNat_tick]
  omega

/-- The time since the press, or one millisecond less after the clock has wrapped. -/
theorem heldFor_le {p t : Nat} (hle : p ≤ t) (ht : t < p + 4294967296) :
    (heldFor (UInt32.ofNat t) (UInt32.ofNat p)).toNat ≤ t - p ∧
      t - p ≤ (heldFor (UInt32.ofNat t) (UInt32.ofNat p)).toNat + 1 := by
  have hmax : rtTickMax.toNat = 4294967295 := rfl
  have hp := toNat_tick p
  have hn := toNat_tick t
  unfold heldFor
  by_cases hwrap : UInt32.ofNat t < UInt32.ofNat p
  · rw [if_pos hwrap]
    rw [UInt32.lt_iff_toNat_lt, hp, hn] at hwrap
    rw [UInt32.toNat_add, UInt32.toNat_sub, hmax, hp, hn]
    omega
  · rw [if_neg hwrap]
    rw [UInt32.lt_iff_toNat_lt, hp, hn] at hwrap
    rw [UInt32.toNat_sub, hp, hn]
    omega

/-- A sample of the pin at time `t`. -/
def sampleAt (s : Bool × Nat) : Bool × UInt32 := (s.1, UInt32.ofNat s.2)

/-! Bounce. -/

/-- Contact lasts less than 15 ms at a time; `since` is when it began. -/
def Bounces : Option Nat → List (Bool × Nat) → Prop
  | _, [] => True
  | _, (false, _) :: samples => Bounces none samples
  | none, (true, t) :: samples => Bounces (some t) samples
  | some t₀, (true, t) :: samples => t₀ ≤ t ∧ t < t₀ + 15 ∧ Bounces (some t₀) samples

/-- The button has not taken the contact for a press yet. -/
def Bouncing (btn : AgileBtn) : Option Nat → Prop
  | none => btn.state = .nonePress
  | some t₀ => btn.state = .checkPress ∧ btn.tickTimeout = UInt32.ofNat t₀ + 15

theorem bounce_run {btn : AgileBtn} {since : Option Nat} {samples : List (Bool × Nat)} (h : Bounces since samples)
    (hbtn : Bouncing btn since) (htime : btn.eliminationTime = 15) :
    (agileBtnRun btn (samples.map sampleAt)).2 = [] := by
  induction samples generalizing btn since with
  | nil => rfl
  | cons s samples ih =>
    obtain ⟨active, t⟩ := s
    change (agileBtnRun btn ((active, UInt32.ofNat t) :: samples.map sampleAt)).2 = []
    cases active with
    | false =>
      cases since with
      | none =>
        rw [agileBtnRun_cons (process_nonePress_idle _ hbtn)]
        exact @ih { btn with repeatCnt := _ } none h hbtn htime
      | some t₀ =>
        rw [agileBtnRun_cons (process_checkPress_idle _ hbtn.1)]
        exact @ih { btn with state := .nonePress } none h rfl htime
    | true =>
      cases since with
      | none =>
        rw [agileBtnRun_cons (process_nonePress_active _ hbtn)]
        exact @ih { btn with tickTimeout := _, state := .checkPress } (some t) h ⟨rfl, by rw [htime]; rfl⟩ htime
      | some t₀ =>
        obtain ⟨hle, hlt, hrest⟩ := h
        have hearly : ¬ tickPassed (UInt32.ofNat t) btn.tickTimeout = true := by
          rw [hbtn.2, tickPassed_iff hle (by omega) (by decide)]
          change ¬ t₀ + 15 ≤ t
          omega
        rw [agileBtnRun_cons (process_checkPress_active _ hbtn.1), if_neg hearly]
        exact @ih { btn with state := .checkPress } (some t₀) hrest ⟨rfl, hbtn.2⟩ htime

/-- **Bounce is not reported.** A button whose pin is seen active in the samples for
less than 15 ms at a time, however often, reports nothing. -/
theorem bounce_ignored (samples : List (Bool × Nat)) (h : Bounces none samples) :
    (agileBtnRun {} (samples.map sampleAt)).2 = [] := bounce_run h rfl rfl

theorem bounce_ignored_sample :
    Bounces none [(true, 100), (true, 110), (false, 115), (true, 120), (true, 134), (false, 140)] ∧
      (agileBtnRun {} ([(true, 100), (true, 110), (false, 115), (true, 120), (true, 134), (false, 140)].map sampleAt)).2 =
        [] := by
  have h : Bounces none [(true, 100), (true, 110), (false, 115), (true, 120), (true, 134), (false, 140)] := by
    simp [Bounces]
  exact ⟨h, bounce_ignored _ h⟩

/-! A short press. -/

/-- The button after contact at `t₀` and the times `a`, all within a second. -/
inductive Touched (t₀ : Nat) (a : List Nat) (btn : AgileBtn) : List BtnEvent → Prop where
  | checking (hstate : btn.state = .checkPress) (htick : btn.tickTimeout = UInt32.ofNat t₀ + 15)
    (hearly : ∀ t ∈ a, t < t₀ + 15) : Touched t₀ a btn []
  | seen (hstate : btn.state = .pressDown) : Touched t₀ a btn []
  | pressed (hstate : btn.state = .pressHold) (hprev : btn.prevHoldTime = 0) (p : Nat) (hp : p ∈ a) (hle : t₀ ≤ p)
    (htick : btn.tickTimeout = UInt32.ofNat p) : Touched t₀ a btn [.pressDown]

/-- The pin seen with one level at the given times. -/
def seenAt (active : Bool) (times : List Nat) : List (Bool × UInt32) := times.map fun t => (active, UInt32.ofNat t)

theorem seenAt_cons (active : Bool) (t : Nat) (times : List Nat) :
    seenAt active (t :: times) = (active, UInt32.ofNat t) :: seenAt active times := rfl

theorem seenAt_snoc (active : Bool) (times : List Nat) (t : Nat) :
    seenAt active (times ++ [t]) = seenAt active times ++ [(active, UInt32.ofNat t)] := List.map_append

/-- Within a second no hold is reported. -/
theorem heldFor_short {p t : Nat} (hle : p ≤ t) (ht : t < p + 1000) :
    ¬ (1000 : UInt32) ≤ heldFor (UInt32.ofNat t) (UInt32.ofNat p) - 0 := by
  have h := (heldFor_le hle (by omega)).1
  rw [UInt32.sub_zero, UInt32.le_iff_toNat_le]
  change ¬ 1000 ≤ _
  omega

/-- One more sample of the contact. -/
theorem touched_next {t₀ t : Nat} {a : List Nat} {btn : AgileBtn} {events : List BtnEvent} (h : Touched t₀ a btn events)
    (hcycle : btn.holdCycleTime = 1000) (ht₀ : t₀ ≤ t) (hlast : ∀ u ∈ a, u ≤ t) (hshort : t < t₀ + 1000) :
    let p := agileBtnProcess true (UInt32.ofNat t) btn
    Touched t₀ (a ++ [t]) p.1 (events ++ p.2) ∧ p.1.holdFlag = btn.holdFlag ∧ p.1.holdCycleTime = 1000 := by
  cases h with
  | checking hstate htick hearly =>
    have hiff := @tickPassed_iff t₀ t 15 ht₀ (by omega) (by decide)
    rw [← htick] at hiff
    change _ ↔ t₀ + 15 ≤ t at hiff
    rw [process_checkPress_active _ hstate]
    refine ⟨?_, rfl, hcycle⟩
    by_cases hpassed : t₀ + 15 ≤ t
    · exact .seen (if_pos (hiff.2 hpassed))
    · refine .checking (if_neg (mt hiff.1 hpassed)) htick fun u hu => ?_
      rcases List.mem_append.1 hu with hold | hnew
      · exact hearly u hold
      · rw [List.mem_singleton.1 hnew]
        omega
  | seen hstate =>
    rw [process_pressDown _ hstate]
    exact ⟨.pressed rfl rfl t (List.mem_append_right _ List.mem_cons_self) ht₀ rfl, rfl, hcycle⟩
  | pressed hstate hprev p hp hle htick =>
    have hquiet : ¬ btn.holdCycleTime ≤ heldFor (UInt32.ofNat t) btn.tickTimeout - btn.prevHoldTime := by
      rw [hcycle, hprev, htick]
      exact heldFor_short (hlast p hp) (by omega)
    rw [process_pressHold_active _ hstate, if_neg hquiet]
    exact ⟨.pressed hstate hprev p (List.mem_append_left _ hp) hle htick, rfl, hcycle⟩

theorem touched_run {btn : AgileBtn} (hstate : btn.state = .nonePress) (htime : btn.eliminationTime = 15)
    (hcycle : btn.holdCycleTime = 1000) {t₀ : Nat} {a : List Nat} (hsorted : (t₀ :: a).Pairwise (· ≤ ·))
    (hshort : ∀ t ∈ a, t < t₀ + 1000) :
    let p := agileBtnRun btn (seenAt true (t₀ :: a))
    Touched t₀ a p.1 p.2 ∧ p.1.holdFlag = btn.holdFlag ∧ p.1.holdCycleTime = 1000 := by
  induction a using List.reverseRecOn with
  | nil =>
    rw [seenAt_cons, agileBtnRun_cons (process_nonePress_active _ hstate), htime]
    exact ⟨.checking rfl rfl fun t ht => absurd ht List.not_mem_nil, rfl, hcycle⟩
  | append_singleton a t ih =>
    rw [← List.cons_append] at hsorted
    obtain ⟨hsorted', -, hlast⟩ := List.pairwise_append.1 hsorted
    obtain ⟨htouched, hflag, hcycle'⟩ := ih hsorted' fun u hu => hshort u (List.mem_append_left _ hu)
    have hle : ∀ u ∈ t₀ :: a, u ≤ t := fun u hu => hlast u hu t List.mem_cons_self
    obtain ⟨hnext, hflag', hcycle''⟩ := touched_next htouched hcycle' (hle t₀ List.mem_cons_self)
      (fun u hu => hle u (List.mem_cons_of_mem _ hu)) (hshort t (List.mem_append_right _ List.mem_cons_self))
    rw [← List.cons_append, seenAt_snoc, agileBtnRun_snoc]
    exact ⟨hnext, hflag'.trans hflag, hcycle''⟩

theorem idle_run {btn : AgileBtn} (hstate : btn.state = .nonePress) (b : List Nat) :
    let p := agileBtnRun btn (seenAt false b)
    p.2 = [] ∧ p.1.state = .nonePress ∧ p.1.holdFlag = btn.holdFlag := by
  induction b generalizing btn with
  | nil => exact ⟨rfl, hstate, rfl⟩
  | cons t b ih =>
    rw [seenAt_cons, agileBtnRun_cons (process_nonePress_idle _ hstate)]
    exact @ih { btn with repeatCnt := _ } hstate

/-- The end of a press in which no hold was reported. -/
theorem release_run {btn : AgileBtn} (hstate : btn.state = .pressHold) (hflag : btn.holdFlag = false) (t u : Nat)
    (b : List Nat) :
    let p := agileBtnRun btn (seenAt false (t :: u :: b))
    p.2 = [.pressUp, .click] ∧ p.1.state = .nonePress ∧ p.1.holdFlag = false := by
  have hup : ({ btn with state := if btn.holdFlag then .holdFree else .pressUp, holdFlag := false } : AgileBtn).state =
      .pressUp := by
    rw [hflag]
    rfl
  rw [seenAt_cons, seenAt_cons, agileBtnRun_cons (process_pressHold_idle _ hstate),
    agileBtnRun_cons (process_pressUp _ hup _)]
  have hidle := @idle_run { btn with tickTimeout := UInt32.ofNat u + 500, state := .nonePress, holdFlag := false } rfl b
  exact ⟨by rw [hidle.1]; rfl, hidle.2⟩

/-- **A short press is one click.** From a button at rest, contact that is seen
at the times `t₀ :: a`, for 15 ms and less than a second, and then at three
samples no more, reports a press, its end and one click, and leaves the button at
rest. -/
theorem short_press_clicks {btn : AgileBtn} (hstate : btn.state = .nonePress) (hflag : btn.holdFlag = false)
    (htime : btn.eliminationTime = 15) (hcycle : btn.holdCycleTime = 1000) {t₀ : Nat} {a b : List Nat}
    (hsorted : (t₀ :: a).Pairwise (· ≤ ·)) (hlong : ∃ t ∈ a, t₀ + 15 ≤ t) (hshort : ∀ t ∈ a, t < t₀ + 1000)
    (hfree : 3 ≤ b.length) :
    let p := agileBtnRun btn (seenAt true (t₀ :: a) ++ seenAt false b)
    p.2 = [.pressDown, .pressUp, .click] ∧ p.1.state = .nonePress ∧ p.1.holdFlag = false := by
  obtain ⟨htouched, hflag', -⟩ := touched_run hstate htime hcycle hsorted hshort
  rw [agileBtnRun_append]
  generalize agileBtnRun btn (seenAt true (t₀ :: a)) = q at htouched hflag' ⊢
  obtain ⟨btn', events⟩ := q
  match b, hfree with
  | t :: u :: v :: b, _ =>
    cases htouched with
    | checking hstate' htick hearly =>
      obtain ⟨w, hw, hlate⟩ := hlong
      have := hearly w hw
      omega
    | seen hstate' =>
      -- the first sample without contact is taken for the start of the press
      have hrest := @release_run { btn' with
        holdTime := 0, prevHoldTime := 0, repeatCnt := btn'.repeatCnt + 1
        tickTimeout := UInt32.ofNat t, state := .pressHold } rfl (hflag'.trans hflag) u v b
      dsimp only
      rw [seenAt_cons, agileBtnRun_cons (process_pressDown _ hstate' _)]
      exact ⟨congrArg (BtnEvent.pressDown :: ·) hrest.1, hrest.2⟩
    | pressed hstate' hprev p hp hle htick =>
      have hrest := release_run hstate' (hflag'.trans hflag) t u (v :: b)
      exact ⟨congrArg (BtnEvent.pressDown :: ·) hrest.1, hrest.2⟩

theorem short_press_clicks_sample :
    (agileBtnRun {} (seenAt true [100, 105, 110, 115, 120] ++ seenAt false [125, 130, 135, 140])).2 =
      [.pressDown, .pressUp, .click] :=
  (@short_press_clicks {} rfl rfl rfl rfl 100 [105, 110, 115, 120] [125, 130, 135, 140] (by decide)
    ⟨115, by decide, by decide⟩ (by decide) (by decide)).1

end Aqualarm
