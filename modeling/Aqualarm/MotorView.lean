import Aqualarm.MotorTurns

/-
  What Modbus is shown of the motors. `mb_valve_control_state` should be the
  level of the control pin, and `mb_valve_check_state` whether a check of the
  side is under way.

  What is proved:
    1. `control_shown_iff` — the first holds throughout a run exactly where no
       check starts on a side: `valve_check_start` drives the pin back and
       leaves the variable.
    2. `check_shown_iff` — the second, exactly where no event opens or closes a
       valve that counts as good over a check under way: `valve_open` and
       `valve_close` stop the timers and leave the variable.
    3. `motors_shown_iff` — both, exactly where no check starts.
-/

namespace Aqualarm

open Lib

/-! What is shown. -/

def Motor.ControlShown (m : Motor) : Prop := m.mbValveControlState = true ↔ m.controlPin = .pinLow

def Motor.Running (m : Motor) : Prop := m.turnBackTimer = true ∨ m.turnCheckTimer = true

def Motor.CheckShown (m : Motor) : Prop := m.mbValveCheckState = true ↔ m.Running

instance : DecidablePred Motor.ControlShown := fun m =>
  inferInstanceAs (Decidable (m.mbValveControlState = true ↔ m.controlPin = .pinLow))

instance : DecidablePred Motor.Running := fun m =>
  inferInstanceAs (Decidable (m.turnBackTimer = true ∨ m.turnCheckTimer = true))

instance : DecidablePred Motor.CheckShown := fun m => inferInstanceAs (Decidable (m.mbValveCheckState = true ↔ m.Running))

instance {p : Side → Prop} [DecidablePred p] : Decidable (∀ side, p side) :=
  decidable_of_iff (p .left ∧ p .right) ⟨fun h side => match side with | .left => h.1 | .right => h.2,
    fun h => ⟨h .left, h .right⟩⟩

def ControlShown (u : MainUnit) : Prop := ∀ side, (u.core.motor side).ControlShown

def CheckShown (u : MainUnit) : Prop := ∀ side, (u.core.motor side).CheckShown

/-- Both variables of both sides are what the motors do. -/
def MotorsShown (u : MainUnit) : Prop := ControlShown u ∧ CheckShown u

instance : DecidablePred ControlShown := fun u => inferInstanceAs (Decidable (∀ side, (u.core.motor side).ControlShown))

instance : DecidablePred CheckShown := fun u => inferInstanceAs (Decidable (∀ side, (u.core.motor side).CheckShown))

instance : DecidablePred MotorsShown := fun u => inferInstanceAs (Decidable (ControlShown u ∧ CheckShown u))

/-! What breaks it. -/

/-- A check starts on a side. -/
structure StartsCheck (s : State) (e : Event) : Prop where
  starts : e.StartsChecks s
  opened : s.unit.core.valveStatus = .valveStatusOpen
  side : ∃ side, s.unit.env.fullyOpen side = .pinLow

/-- A valve that counts as good is opened or closed while a side is checked. -/
structure StopsCheck (s : State) (e : Event) : Prop where
  turns : e.turn s ≠ .stays
  good : s.unit.core.valveValid = true
  side : ∃ side, (s.unit.core.motor side).Running

/-- The state as the event finds it. -/
def State.before (s : State) (i : Env × Event) : State := s.onUnit (MainUnit.begin i.1)

theorem drive_next {cfg : Config} {s s' : State} {i : Env × Event} (hn : (system cfg).next s i = some s') :
    DriveStep (s.before i) i.2 s'.unit.core.drive := by
  obtain ⟨_, rfl⟩ := system_next_eq_some.1 hn
  exact drive_handle i.2 (s.before i)

/-- The timer that expires was armed. -/
theorem timer_armed {cfg : Config} {s s' : State} {i : Env × Event} {t : Timer}
    (hn : (system cfg).next s i = some s') (he : i.2 = .timer t) : t.armed s.unit = true := by
  obtain ⟨hen, _⟩ := system_next_eq_some.1 hn
  rw [he] at hen
  exact (Bool.and_eq_true_iff.1 hen).2

/-! The control pins. -/

namespace Drive

/-- The motors where no check has been started. -/
def atRest : ValveStatus → Drive
  | .valveStatusOpen =>
    { valveStatus := .valveStatusOpen, motor := fun _ => { mbValveControlState := true, controlPin := .pinLow } }
  | .valveStatusClose => {}

theorem atRest_turned (status : ValveStatus) (t : Turn) : ∃ status', (atRest status).turned t = atRest status' := by
  cases t with
  | stays => exact ⟨status, rfl⟩
  | opens => exact ⟨.valveStatusOpen, by cases status <;> rfl⟩
  | closes => exact ⟨.valveStatusClose, by cases status <;> rfl⟩

theorem atRest_motor (status : ValveStatus) (side : Side) :
    ((atRest status).motor side).ControlShown ∧ ((atRest status).motor side).CheckShown := by
  cases status <;> decide +revert

/-- With no side fully open, nothing is checked. -/
theorem checked_none {fullyOpen : Side → PinLevel} (d : Drive) (h : ∀ side, fullyOpen side ≠ .pinLow) :
    d.checked fullyOpen = d :=
  Drive.ext rfl rfl (funext fun side => if_neg (h side))

end Drive

/-- No check has been started since the reset. -/
def AtRest (u : MainUnit) : Prop := ∃ status, u.core.drive = Drive.atRest status

theorem AtRest.shown {u : MainUnit} (h : AtRest u) : MotorsShown u := by
  obtain ⟨status, h⟩ := h
  have hmotor : u.core.motor = (Drive.atRest status).motor := congrArg Drive.motor h
  constructor <;> intro side <;> rw [hmotor]
  · exact (Drive.atRest_motor status side).1
  · exact (Drive.atRest_motor status side).2

/-- No stage of a check is timed. -/
theorem AtRest.idle {u : MainUnit} (h : AtRest u) (side : Side) : ¬ (u.core.motor side).Running := by
  obtain ⟨status, h⟩ := h
  have hmotor : u.core.motor = (Drive.atRest status).motor := congrArg Drive.motor h
  rw [hmotor]
  cases status <;> decide +revert

section
variable {cfg : Config} {s s' : State} {i : Env × Event}

theorem AtRest.next (hi : AtRest s.unit) (hok : ¬ StartsCheck (s.before i) i.2)
    (hn : (system cfg).next s i = some s') : AtRest s'.unit := by
  obtain ⟨status, hd⟩ := hi
  cases drive_next hn with
  | turned _ h =>
    rw [AtRest, h, show (s.before i).unit.core.drive = Drive.atRest status from hd]
    exact Drive.atRest_turned status _
  | checked hc ho _ h =>
    refine ⟨status, ?_⟩
    rw [h, Drive.checked_none _ fun side hp => hok ⟨hc, ho, side, hp⟩]
    exact hd
  -- no stage is timed, so none ends
  | turnedBack side he =>
    exact absurd (Or.inl (timer_armed hn he)) (AtRest.idle ⟨status, hd⟩ side)
  | turnChecked side he =>
    exact absurd (Or.inr (timer_armed hn he)) (AtRest.idle ⟨status, hd⟩ side)
  | reset _ _ h => exact ⟨.valveStatusClose, h⟩

/-- The side is driven back, and still shows as driven open. -/
theorem AtRest.startsCheck (hi : AtRest s.unit) (hbad : StartsCheck (s.before i) i.2)
    (hn : (system cfg).next s i = some s') : ¬ ControlShown s'.unit := by
  obtain ⟨status, hd⟩ := hi
  obtain ⟨hstarts, hopen, side, hp⟩ := hbad
  have hstatus : (Drive.atRest status).valveStatus = .valveStatusOpen := (congrArg Drive.valveStatus hd).symm.trans hopen
  have hdriven : ((Drive.atRest status).motor side).mbValveControlState = true := by
    cases status with
    | valveStatusOpen => rfl
    | valveStatusClose => cases hstatus
  cases drive_next hn with
  | turned hc => exact absurd ((hc hstarts).symm.trans hopen) (by decide)
  | checked _ _ _ h =>
    intro hshown
    have hmotor : s'.unit.core.motor side = _ := (congrFun (congrArg Drive.motor h) side).trans (if_pos hp)
    have hside := hshown side
    rw [hmotor, show (s.before i).unit.core.drive = Drive.atRest status from hd] at hside
    -- the pin is high now, the variable as it was
    have hpin : PinLevel.pinHigh = .pinLow := hside.1 hdriven
    cases hpin
  | turnedBack side he =>
    rw [he] at hstarts
    exact hstarts.elim
  | turnChecked side he =>
    rw [he] at hstarts
    exact hstarts.elim
  | reset hc => exact absurd hstarts hc

end

theorem control_shown_iff (cfg : Config) (env : Env) (flash : Flash) (download : Nat → UInt8) (is : List (Env × Event)) :
    (system cfg).Always (fun s => ControlShown s.unit) (powerOn cfg env flash download) is ↔
      (system cfg).Steps (fun s i _ => ¬ StartsCheck (s.before i) i.2) (powerOn cfg env flash download) is := by
  refine @Machine.always_iff_steps _ _ (system cfg) (fun s => AtRest s.unit) (fun s => ControlShown s.unit)
    (fun s i => ¬ StartsCheck (s.before i) i.2) _ ?_ (fun _ h => h.shown.1) ?_ ?_ is
  · exact ⟨.valveStatusClose, boot_drive _⟩
  · exact fun s i s' hi hok hn => hi.next hok hn
  · exact fun s i s' hi hbad hn => hi.startsCheck (not_not.1 hbad) hn

/-! The checks. -/

namespace Drive

def CheckShown (d : Drive) : Prop := ∀ side, (d.motor side).CheckShown

section
variable {d d' : Drive} {side : Side} {m : Motor}

/-- A change of one side. -/
theorem CheckShown.update (hi : d.CheckShown) (hm : d'.motor = Function.update d.motor side m) (h : m.CheckShown) :
    d'.CheckShown := by
  intro s
  rw [hm]
  by_cases hs : s = side
  · rw [hs, Function.update_self]
    exact h
  · rw [Function.update_of_ne hs]
    exact hi s

theorem CheckShown.opened (hi : d.CheckShown) : d.opened.CheckShown := hi

theorem CheckShown.closed (hi : d.CheckShown) : d.closed.CheckShown := hi

/-- With no check under way there is none to stop. -/
theorem CheckShown.halted (hi : d.CheckShown) (hidle : ∀ side, ¬ (d.motor side).Running) : d.halted.CheckShown := by
  intro side
  have hstate : (d.motor side).mbValveCheckState ≠ true := fun h => hidle side ((hi side).1 h)
  exact ⟨fun h => absurd h hstate, fun h => h.elim (absurd · Bool.false_ne_true) (absurd · Bool.false_ne_true)⟩

/-- A check that is stopped goes on showing. -/
theorem CheckShown.not_halted (hi : d.CheckShown) (h : (d.motor side).Running) : ¬ d.halted.CheckShown := by
  intro hhalted
  have hrunning : (d.halted.motor side).Running := (hhalted side).1 ((hi side).2 h)
  exact hrunning.elim (absurd · Bool.false_ne_true) (absurd · Bool.false_ne_true)

theorem CheckShown.turned (hi : d.CheckShown) {t : Turn}
    (hidle : t ≠ .stays → d.valveValid = true → ∀ side, ¬ (d.motor side).Running) : (d.turned t).CheckShown := by
  cases t with
  | stays => exact hi
  | opens =>
    by_cases hv : d.valveValid = true
    · rw [turned_opens hv]
      exact hi.opened.halted (hidle (by decide) hv)
    · rw [turned_opens_refused (Bool.eq_false_of_not_eq_true hv)]
      exact hi
  | closes =>
    by_cases hv : d.valveValid = true
    · rw [turned_closes hv]
      exact hi.closed.halted (hidle (by decide) hv)
    · -- closed all the same, with the checks going on
      rw [turned_closes_refused (Bool.eq_false_of_not_eq_true hv)]
      exact hi.closed

theorem CheckShown.not_turned (hi : d.CheckShown) {t : Turn} (ht : t ≠ .stays) (hv : d.valveValid = true)
    (h : (d.motor side).Running) : ¬ (d.turned t).CheckShown := by
  cases t with
  | stays => exact absurd rfl ht
  | opens =>
    rw [turned_opens hv]
    exact @not_halted d.opened side hi h
  | closes =>
    rw [turned_closes hv]
    exact @not_halted d.closed side hi h

theorem CheckShown.checked (hi : d.CheckShown) (fullyOpen : Side → PinLevel) : (d.checked fullyOpen).CheckShown := by
  intro side
  unfold Drive.checked
  dsimp only
  split
  · exact ⟨fun _ => Or.inl rfl, fun _ => rfl⟩
  · exact hi side

/-- The second stage follows the first, or the check has ended. -/
theorem CheckShown.turnedBack (hi : d.CheckShown) (hback : (d.motor side).turnBackTimer = true)
    (hcheck : (d.motor side).turnCheckTimer = false) (passed : Bool) : (d.turnedBack side passed).CheckShown := by
  cases passed with
  | true =>
    refine hi.update rfl ?_
    exact ⟨fun _ => Or.inr rfl, fun _ => (hi side).2 (Or.inl hback)⟩
  | false =>
    refine hi.update rfl ?_
    refine ⟨fun h => absurd h Bool.false_ne_true, fun h => ?_⟩
    rcases h with h | h
    · exact absurd h Bool.false_ne_true
    · exact absurd (hcheck.symm.trans h) Bool.false_ne_true

theorem CheckShown.turnChecked (hi : d.CheckShown) (hback : (d.motor side).turnBackTimer = false) (passed : Bool) :
    (d.turnChecked side passed).CheckShown := by
  have hended : ∀ result, Motor.CheckShown
      { d.motor side with turnCheckTimer := false, mbValveCheckState := false, checkResult := result } := by
    refine fun result => ⟨fun h => absurd h Bool.false_ne_true, fun h => ?_⟩
    rcases h with h | h
    · exact absurd (hback.symm.trans h) Bool.false_ne_true
    · exact absurd h Bool.false_ne_true
  cases passed with
  | true =>
    refine hi.update rfl ?_
    exact hended false
  | false =>
    refine hi.update rfl ?_
    exact hended true

end

end Drive

/-- The timers of a side are those of its check, one at a time. -/
structure CheckHeld (u : MainUnit) : Prop where
  shown : CheckShown u
  coherent : CheckCoherent u.core.check

section
variable {cfg : Config} {s s' : State} {i : Env × Event}

theorem CheckHeld.next (hi : CheckHeld s.unit) (hok : ¬ StopsCheck (s.before i) i.2)
    (hn : (system cfg).next s i = some s') : CheckHeld s'.unit := by
  refine ⟨?_, check_coherent hn hi.coherent⟩
  have hshown : (s.before i).unit.core.drive.CheckShown := hi.shown
  change s'.unit.core.drive.CheckShown
  cases drive_next hn with
  | turned _ h =>
    rw [h]
    exact hshown.turned fun ht hv side hr => hok ⟨ht, hv, side, hr⟩
  | checked _ _ _ h =>
    rw [h]
    exact hshown.checked _
  | turnedBack side he h =>
    have harmed := timer_armed hn he
    rw [h]
    exact hshown.turnedBack harmed (hi.coherent.once side harmed) _
  | turnChecked side he h =>
    -- a side in its second stage is not in its first
    have hback : (s.unit.core.motor side).turnBackTimer = false := Bool.eq_false_of_not_eq_true fun hb =>
      Bool.false_ne_true ((hi.coherent.once side hb).symm.trans (timer_armed hn he))
    rw [h]
    exact hshown.turnChecked hback _
  | reset _ _ h =>
    rw [h]
    exact fun side => by decide +revert

theorem CheckHeld.stopsCheck (hi : CheckHeld s.unit) (hbad : StopsCheck (s.before i) i.2)
    (hn : (system cfg).next s i = some s') : ¬ CheckShown s'.unit := by
  have hshown : (s.before i).unit.core.drive.CheckShown := hi.shown
  obtain ⟨hturns, hgood, side, hr⟩ := hbad
  change ¬ s'.unit.core.drive.CheckShown
  cases drive_next hn with
  | turned _ h =>
    rw [h]
    exact hshown.not_turned hturns hgood hr
  | checked _ _ ht => exact absurd ht hturns
  | turnedBack side he =>
    rw [he] at hturns
    exact absurd rfl hturns
  | turnChecked side he =>
    rw [he] at hturns
    exact absurd rfl hturns
  | reset _ ht => exact absurd ht hturns

end

theorem check_shown_iff (cfg : Config) (env : Env) (flash : Flash) (download : Nat → UInt8) (is : List (Env × Event)) :
    (system cfg).Always (fun s => CheckShown s.unit) (powerOn cfg env flash download) is ↔
      (system cfg).Steps (fun s i _ => ¬ StopsCheck (s.before i) i.2) (powerOn cfg env flash download) is := by
  refine @Machine.always_iff_steps _ _ (system cfg) (fun s => CheckHeld s.unit) (fun s => CheckShown s.unit)
    (fun s i => ¬ StopsCheck (s.before i) i.2) _ ?_ (fun _ h => h.shown) ?_ ?_ is
  · refine ⟨?_, @reachable_check cfg _ (Machine.reachable_start ⟨env, flash, download, rfl⟩)⟩
    have hrest : AtRest (powerOn cfg env flash download).unit := ⟨.valveStatusClose, boot_drive _⟩
    exact hrest.shown.2
  · exact fun s i s' hi hok hn => hi.next hok hn
  · exact fun s i s' hi hbad hn => hi.stopsCheck (not_not.1 hbad) hn

/-- **The motors as Modbus is shown them, exactly when.** Both variables are
exact throughout a run exactly where no check starts on a side; so is the first
alone; and the second exactly where no check is stopped. -/
theorem motors_shown_iff (cfg : Config) (env : Env) (flash : Flash) (download : Nat → UInt8) (is : List (Env × Event)) :
    ((system cfg).Always (fun s => MotorsShown s.unit) (powerOn cfg env flash download) is ↔
      (system cfg).Steps (fun s i _ => ¬ StartsCheck (s.before i) i.2) (powerOn cfg env flash download) is) ∧
    ((system cfg).Always (fun s => ControlShown s.unit) (powerOn cfg env flash download) is ↔
      (system cfg).Steps (fun s i _ => ¬ StartsCheck (s.before i) i.2) (powerOn cfg env flash download) is) ∧
    ((system cfg).Always (fun s => CheckShown s.unit) (powerOn cfg env flash download) is ↔
      (system cfg).Steps (fun s i _ => ¬ StopsCheck (s.before i) i.2) (powerOn cfg env flash download) is) := by
  refine ⟨?_, control_shown_iff .., check_shown_iff ..⟩
  refine @Machine.always_iff_steps _ _ (system cfg) (fun s => AtRest s.unit) (fun s => MotorsShown s.unit)
    (fun s i => ¬ StartsCheck (s.before i) i.2) _ ⟨.valveStatusClose, boot_drive _⟩ (fun _ h => h.shown) ?_ ?_ is
  · exact fun s i s' hi hok hn => hi.next hok hn
  · exact fun s i s' hi hbad hn h => hi.startsCheck (not_not.1 hbad) hn h.1

/-- Opened and checked, both sides are driven back and show as driven open;
closed before the first stage ends, no timer is armed and both show as under
check. -/
theorem motors_shown_fails :
    (¬ ∀ (cfg : Config) (env : Env) (flash : Flash) (download : Nat → UInt8) (is : List (Env × Event)),
      (system cfg).Always (fun s => MotorsShown s.unit) (powerOn cfg env flash download) is) ∧
    (¬ ∀ (cfg : Config) (env : Env) (flash : Flash) (download : Nat → UInt8) (is : List (Env × Event)),
      (system cfg).Always (fun s => ControlShown s.unit) (powerOn cfg env flash download) is) ∧
    ¬ ∀ (cfg : Config) (env : Env) (flash : Flash) (download : Nat → UInt8) (is : List (Env × Event)),
      (system cfg).Always (fun s => CheckShown s.unit) (powerOn cfg env flash download) is := by
  have hcontrol : ¬ (system sampleConfig).Always (fun s => ControlShown s.unit) sampleStart
      [(sampleEnv, .keyOnClick), (sampleEnv, .rtcValveCheck)] := by
    refine Machine.not_always_of_run (M := system sampleConfig) sampleStart _ ?_
    decide +kernel
  have hcheck : ¬ (system sampleConfig).Always (fun s => CheckShown s.unit) sampleStart
      [(sampleEnv, .keyOnClick), (sampleEnv, .rtcValveCheck), (sampleEnv, .keyOffClick)] := by
    refine Machine.not_always_of_run (M := system sampleConfig) sampleStart _ ?_
    decide +kernel
  refine ⟨fun h => hcontrol ?_, fun h => hcontrol (h _ _ _ _ _), fun h => hcheck (h _ _ _ _ _)⟩
  exact (h _ _ _ _ _).mono fun _ hs => hs.1

end Aqualarm
