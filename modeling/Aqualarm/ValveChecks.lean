import Aqualarm.Enrolment

/-
  The two-stage check of the two motors. Three flags and four timers say how it
  stands, and four callbacks, the start of a check, opening and closing write
  them.

  What is proved:
    1. `CheckStep`, `Effect.check`, `turnBack_check`, `turnCheck_check` — what an
       event can do to them.
    2. `refusal_explained` — where no check is under way, `valve_valid` is 1
       exactly if both results are good.
    3. `valve_valid_checked_iff` — `valve_valid` is 1 only over sides whose last
       finished check passed, exactly where no side passes while the other's
       failure was erased by a check still under way.
-/

namespace Aqualarm

open Lib Relation

/-! The variables. -/

@[ext] structure SideCheck where
  checkResult : Bool := false
  turnBackTimer : Bool := false
  turnCheckTimer : Bool := false
  deriving DecidableEq

def SideCheck.running (m : SideCheck) : Prop := m.turnBackTimer = true ∨ m.turnCheckTimer = true

@[ext] structure CheckView where
  valveValid : Bool := true
  side : Side → SideCheck := fun _ => {}

def Core.check (c : Core) : CheckView :=
  { valveValid := c.valveValid
    side := fun side =>
      { checkResult := (c.motor side).checkResult, turnBackTimer := (c.motor side).turnBackTimer
        turnCheckTimer := (c.motor side).turnCheckTimer } }

namespace CheckView

def put (side : Side) (m : SideCheck) (v : CheckView) : CheckView := { v with side := Function.update v.side side m }

def stopped (v : CheckView) : CheckView := { v with side := fun side => { checkResult := (v.side side).checkResult } }

/-- A check starts on some sides. -/
def started (restart : Side → Prop) [DecidablePred restart] (v : CheckView) : CheckView :=
  { v with side := fun side => if restart side then { turnBackTimer := true } else v.side side }

/-! The callbacks; the timer that expires is no longer armed. -/

def turnedBack (side : Side) (passed : Bool) (v : CheckView) : CheckView :=
  if passed then v.put side { v.side side with turnBackTimer := false, turnCheckTimer := true }
  else { v.put side { v.side side with checkResult := true, turnBackTimer := false } with valveValid := false }

def turnChecked (side : Side) (passed : Bool) (v : CheckView) : CheckView :=
  if passed then
    { v.put side { v.side side with checkResult := false, turnCheckTimer := false } with
      valveValid := if (v.side side.other).checkResult = false then true else v.valveValid }
  else { v.put side { v.side side with checkResult := true, turnCheckTimer := false } with valveValid := false }

section
variable {v : CheckView} {side s : Side} {m : SideCheck}

@[simp] theorem put_same : (v.put side m).side side = m := Function.update_self ..

theorem put_of_ne (h : s ≠ side) : (v.put side m).side s = v.side s := Function.update_of_ne h ..

end

/-- Opening or closing the valve: the timers stop over a valve that counts as
good, and nothing happens over another. -/
def Halted (v v' : CheckView) : Prop := v' = v ∨ v.valveValid = true ∧ v' = v.stopped

end CheckView

/-- What an event other than the end of a stage does to a check. -/
inductive CheckStep (v v' : CheckView) : Prop
  | halted (h : v.Halted v')
  | started (restart : Side → Prop) (_ : DecidablePred restart) (h : v' = v.started restart)

theorem CheckStep.same {v v' : CheckView} (h : v' = v) : CheckStep v v' := .halted (Or.inl h)

theorem CheckStep.valveValid {v v' : CheckView} (h : CheckStep v v') : v'.valveValid = v.valveValid := by
  cases h with
  | halted h =>
    obtain h | ⟨_, h⟩ := h
    · rw [h]
    · rw [h]
      rfl
  | started _ _ h => rw [h]; rfl

/-! Each operation of the source. -/

section
variable {u₀ u u' : MainUnit} {e : Event}

theorem valveOpen_check (c : Core) : c.check.Halted (valveOpen c).2.check := by
  unfold valveOpen
  split
  · exact Or.inl rfl
  · rename_i h
    exact Or.inr ⟨Bool.eq_true_of_not_eq_false fun hv => h (Or.inr hv), rfl⟩

theorem valveClose_check (c : Core) : c.check.Halted (valveClose c).2.check := by
  unfold valveClose
  split
  · exact Or.inl rfl
  · rename_i h
    exact Or.inr ⟨Bool.eq_true_of_not_eq_false h, rfl⟩

theorem valveCheckStartSide_check (side : Side) (level : PinLevel) (c : Core) :
    (valveCheckStartSide side level c).check = c.check.started fun s => s = side ∧ level = .pinLow := by
  unfold valveCheckStartSide CheckView.started
  by_cases hl : level = .pinLow
  · rw [if_pos hl]
    refine CheckView.ext rfl (funext fun s => ?_)
    simp only [Core.check, Core.setMotor_motor]
    by_cases hs : s = side
    · simp only [hs, if_true, hl, and_self]
    · simp only [hs, if_false, false_and]
  · rw [if_neg hl]
    refine CheckView.ext rfl (funext fun s => ?_)
    exact (if_neg fun h => hl h.2).symm

/-- The sides whose pin reads fully open are checked, if the valve is open. -/
theorem valveCheckStart_check (fullyOpen : Side → PinLevel) (c : Core) :
    CheckStep c.check (valveCheckStart fullyOpen c).check := by
  unfold valveCheckStart
  split
  · exact .same rfl
  · refine .started (fun s => fullyOpen s = .pinLow) inferInstance ?_
    rw [valveCheckStartSide_check, valveCheckStartSide_check]
    refine CheckView.ext rfl (funext fun s => ?_)
    cases s <;> simp [CheckView.started]

theorem Raised.check {w : Warning} (h : Raised w u u') : u.core.check.Halted u'.core.check := by
  cases h with
  | shown hc => exact Or.inl (by rw [hc]; rfl)
  | closed u₁ h₁ hc =>
    have hu₁ : u₁.core.check = u.core.check := by
      rcases h₁ with rfl | rfl
      · rfl
      · rw [valveLock_core]
        rfl
    rw [hc, ← hu₁]
    exact valveClose_check u₁.core
  | already h => exact Or.inl (by rw [h])

theorem warningEnable_check (w : Warning) (u : MainUnit) : u.core.check.Halted (warningEnable w u).core.check := by
  obtain ⟨_, h⟩ | ⟨_, hr⟩ := warningEnable_cases w u
  · exact Or.inl (by rw [h])
  · exact hr.check

/-- A failure of a motor is only shown and reported. -/
theorem valveFail_check (side : Side) (u : MainUnit) : (warningEnable side.failEvent u).core.check = u.core.check := by
  unfold warningEnable
  split
  · cases side <;> exact (congrArg Core.check (gatewayUpload_core ..)).trans rfl
  · rfl

theorem boot_check (u : MainUnit) : u.boot.core.check = {} := by
  unfold MainUnit.boot valveInit
  dsimp only
  rw [MainUnit.onStorage_core]
  split
  · -- a leak closes the valve, over no check
    obtain h | ⟨_, h⟩ := warningEnable_check .slaverSensorLeak _ <;> exact h
  · rfl

/-- The end of a stage of a check. -/
def Event.EndsStage (e : Event) : Prop := ∃ side, e = .timer (.turnBack side) ∨ e = .timer (.turnCheck side)

theorem disarm_check {t : Timer} (h : ¬ (Event.timer t).EndsStage) (u : MainUnit) :
    (t.disarm u).core.check = u.core.check := by
  cases t with
  | turnBack side => exact absurd ⟨side, Or.inl rfl⟩ h
  | turnCheck side => exact absurd ⟨side, Or.inr rfl⟩ h
  | radioLearn | valveDelayClose | valveDetectOnce | heartConnect => rfl

/-- Every effect of an event that ends no stage is such a step, or a reset. -/
theorem Effect.check (hstage : ¬ e.EndsStage) (h : Effect u₀ e u u') :
    CheckStep u.core.check u'.core.check ∨ Resets u₀ e ∧ u'.core.check = {} := by
  cases h with
  | heart | send | registry | enrol | clear | learnStart | learnStop | learnTimeout | learnRefresh | delayControl =>
    exact Or.inl (.same rfl)
  | leak | lost => exact Or.inl (.halted (warningEnable_check _ _))
  | raise => exact Or.inl (.halted (warningEnable_check _ _))
  | closeValve => exact Or.inl (.halted (valveClose_check _))
  | lockClose =>
    refine Or.inl (.halted ?_)
    have hlock : (valveLock u).core.check = u.core.check := by rw [valveLock_core]; rfl
    rw [← hlock]
    exact valveClose_check _
  | openValve => exact Or.inl (.halted (valveOpen_check _))
  | unlockOpen =>
    refine Or.inl (.halted ?_)
    have hunlock : (valveUnlock u).core.check = u.core.check := by rw [valveUnlock_core]; rfl
    rw [← hunlock]
    exact valveOpen_check _
  | checkStart => exact Or.inl (valveCheckStart_check _ _)
  | disarm t ht =>
    subst ht
    exact Or.inl (.same (disarm_check hstage u))
  | turnBackPass side h | turnBackFail side h => exact absurd ⟨side, Or.inl h⟩ hstage
  | turnCheckStart side h | turnCheckValid side h | turnCheckPass side h | turnCheckFail side h =>
    exact absurd ⟨side, Or.inr h⟩ hstage
  | boot h => exact Or.inr ⟨h, boot_check u⟩
  | factoryReset h => exact Or.inr ⟨h, boot_check _⟩

/-! The ends of the stages. -/

theorem setMotor_check (side : Side) (f : Motor → Motor) (c : Core) :
    (c.setMotor side f).check =
      c.check.put side
        { checkResult := (f (c.motor side)).checkResult, turnBackTimer := (f (c.motor side)).turnBackTimer
          turnCheckTimer := (f (c.motor side)).turnCheckTimer } := by
  refine CheckView.ext rfl (funext fun s => ?_)
  simp only [Core.check, Core.setMotor_motor]
  by_cases hs : s = side
  · subst hs
    simp [CheckView.put]
  · rw [if_neg hs, CheckView.put_of_ne hs]

theorem put_put (side : Side) (m m' : SideCheck) (v : CheckView) : (v.put side m).put side m' = v.put side m' := by
  simp [CheckView.put]

theorem turnBack_check (side : Side) (u : MainUnit) :
    (turnBackTimerCallback side ((Timer.turnBack side).disarm u)).core.check =
      u.core.check.turnedBack side (u.env.fullyOpen side = .pinHigh) := by
  unfold turnBackTimerCallback CheckView.turnedBack Timer.disarm
  dsimp only
  rw [MainUnit.onCore_env]
  by_cases hp : u.env.fullyOpen side = .pinHigh
  · rw [if_pos hp, if_pos (by simpa using hp)]
    simp only [MainUnit.onCore_core, setMotor_check, Core.setMotor_motor, if_true, put_put]
    rfl
  · rw [if_neg hp, if_neg (by simpa using hp), valveFail_check]
    have hside : ((u.core.setMotor side fun m => { m with turnBackTimer := false }).setMotor side fun m =>
        { m with checkResult := true, mbValveCheckState := false }).check =
          u.core.check.put side { u.core.check.side side with checkResult := true, turnBackTimer := false } := by
      simp only [setMotor_check, Core.setMotor_motor, if_true, put_put]
      rfl
    exact congrArg (fun v : CheckView => { v with valveValid := false }) hside

theorem other_ne (side : Side) : side.other ≠ side := by
  cases side <;> decide

theorem turnCheck_check (side : Side) (u : MainUnit) :
    (turnCheckTimerCallback side ((Timer.turnCheck side).disarm u)).core.check =
      u.core.check.turnChecked side (u.env.fullyOpen side = .pinLow) := by
  have hput : ∀ result, (((Timer.turnCheck side).disarm u).core.setMotor side fun m =>
      { m with mbValveCheckState := false, checkResult := result }).check =
        u.core.check.put side { u.core.check.side side with checkResult := result, turnCheckTimer := false } := by
    intro result
    unfold Timer.disarm
    simp only [MainUnit.onCore_core, setMotor_check, Core.setMotor_motor, if_true, put_put]
    rfl
  unfold CheckView.turnChecked
  by_cases hp : u.env.fullyOpen side = .pinLow
  · have hother : (((Timer.turnCheck side).disarm u).core.motor side.other).checkResult =
        (u.core.check.side side.other).checkResult := by
      unfold Timer.disarm
      dsimp only
      rw [MainUnit.onCore_core, Core.setMotor_motor, if_neg (other_ne side)]
      rfl
    rw [if_pos (decide_eq_true hp), @turnCheck_passed side ((Timer.turnCheck side).disarm u) hp, hother]
    split
    · have hvalid : ∀ (c : Core) (f : Motor → Motor),
          ((valvefailWarningDisable { c with valveValid := true }).setMotor side f).check =
            { (c.setMotor side f).check with valveValid := true } := by
        intro c f
        obtain h | ⟨h, _⟩ := valvefailWarningDisable_cases { c with valveValid := true } <;> rw [h]
        · rfl
        · rfl
      rw [hvalid, hput]
    · exact hput false
  · rw [if_neg (by simpa using hp), @turnCheck_failed side ((Timer.turnCheck side).disarm u) hp, valveFail_check]
    exact congrArg (fun v : CheckView => { v with valveValid := false }) (hput true)

end

/-! No refusal without a failure. -/

/-- How the flags and the timers go together: a side is in one stage at most, a
side that is checked has no failure on record, a valid valve has none, and a
refused one has a side that failed or is being checked. -/
structure CheckCoherent (v : CheckView) : Prop where
  once : ∀ side, (v.side side).turnBackTimer = true → (v.side side).turnCheckTimer = false
  running : ∀ side, (v.side side).running → (v.side side).checkResult = false
  valid : v.valveValid = true → ∀ side, (v.side side).checkResult = false
  refused : v.valveValid = false → ∃ side, (v.side side).checkResult = true ∨ (v.side side).running

theorem Side.eq_or_other (s side : Side) : s = side ∨ s = side.other := by
  cases s <;> cases side <;> decide

section
variable {v v' : CheckView} {side : Side}

theorem CheckCoherent.initial : CheckCoherent {} :=
  ⟨fun _ h => absurd h Bool.false_ne_true, fun _ _ => rfl, fun _ _ => rfl, fun h => absurd h (by decide)⟩

theorem CheckStep.coherent (h : CheckStep v v') (hi : CheckCoherent v) : CheckCoherent v' := by
  cases h with
  | halted h =>
    obtain rfl | ⟨hv, rfl⟩ := h
    · exact hi
    · refine ⟨fun _ h => absurd h Bool.false_ne_true, fun side _ => hi.valid hv side, fun _ side => hi.valid hv side, ?_⟩
      intro hf
      exact absurd (hv.symm.trans hf) (by decide)
  | started restart _ h =>
    subst h
    have hside : ∀ side, (v.started restart).side side = if restart side then { turnBackTimer := true } else v.side side :=
      fun _ => rfl
    constructor
    · intro side
      rw [hside]
      split
      · exact fun _ => rfl
      · exact hi.once side
    · intro side
      rw [hside]
      split
      · exact fun _ => rfl
      · exact hi.running side
    · intro hv side
      rw [hside]
      split
      · rfl
      · exact hi.valid hv side
    · intro hv
      obtain ⟨side, hr⟩ := hi.refused hv
      refine ⟨side, ?_⟩
      rw [hside]
      split
      · exact Or.inr (Or.inl rfl)
      · exact hr

/-- A change of one side. -/
theorem CheckCoherent.put (hi : CheckCoherent v) {m : SideCheck} {valid : Bool}
    (honce : m.turnBackTimer = true → m.turnCheckTimer = false) (hrunning : m.running → m.checkResult = false)
    (hvalid : valid = true → m.checkResult = false ∧ (v.side side.other).checkResult = false)
    (hrefused : valid = false → (m.checkResult = true ∨ m.running) ∨ (v.side side.other).checkResult = true) :
    CheckCoherent { v.put side m with valveValid := valid } := by
  have hown : (v.put side m).side side = m := CheckView.put_same
  have hother : (v.put side m).side side.other = v.side side.other := CheckView.put_of_ne (other_ne side)
  have hsides : ∀ P : SideCheck → Prop, P m → P (v.side side.other) → ∀ s, P ((v.put side m).side s) := by
    intro P hm ho s
    obtain rfl | rfl := Side.eq_or_other s side
    · rwa [hown]
    · rwa [hother]
  constructor
  · exact hsides (fun m => m.turnBackTimer = true → m.turnCheckTimer = false) honce (hi.once _)
  · exact hsides (fun m => m.running → m.checkResult = false) hrunning (hi.running _)
  · intro hv
    obtain ⟨hm, ho⟩ := hvalid hv
    exact hsides (fun m => m.checkResult = false) hm ho
  · intro hv
    obtain hm | ho := hrefused hv
    · exact ⟨side, show _ ∨ SideCheck.running _ by rwa [hown]⟩
    · exact ⟨side.other, Or.inl (show SideCheck.checkResult _ = true by rwa [hother])⟩

theorem CheckCoherent.turnedBack (hi : CheckCoherent v) (harmed : (v.side side).turnBackTimer = true) (passed : Bool) :
    CheckCoherent (v.turnedBack side passed) := by
  have hresult : (v.side side).checkResult = false := hi.running side (Or.inl harmed)
  have hcheck : (v.side side).turnCheckTimer = false := hi.once side harmed
  cases passed with
  | true =>
    refine @CheckCoherent.put v side hi _ v.valveValid (fun h => absurd h Bool.false_ne_true) (fun _ => hresult) (fun hv => ?_)
      fun _ => Or.inl (Or.inr (Or.inr rfl))
    exact ⟨hresult, hi.valid hv _⟩
  | false =>
    refine @CheckCoherent.put v side hi _ false (fun h => absurd h Bool.false_ne_true) (fun h => ?_)
      (fun h => absurd h Bool.false_ne_true) fun _ => Or.inl (Or.inl rfl)
    -- no stage is left: the side was in its first
    rcases h with h | h
    · exact absurd h Bool.false_ne_true
    · exact absurd (hcheck.symm.trans h) Bool.false_ne_true

theorem CheckCoherent.turnChecked (hi : CheckCoherent v) (harmed : (v.side side).turnCheckTimer = true) (passed : Bool) :
    CheckCoherent (v.turnChecked side passed) := by
  have hback : (v.side side).turnBackTimer = false :=
    Bool.eq_false_of_not_eq_true fun h => Bool.false_ne_true ((hi.once side h).symm.trans harmed)
  cases passed with
  | true =>
    refine hi.put (fun _ => rfl) (fun _ => rfl) (fun hv => ⟨rfl, ?_⟩) fun hv => Or.inr ?_
    · by_cases ho : (v.side side.other).checkResult = false
      · exact ho
      · rw [if_neg ho] at hv
        exact hi.valid hv _
    · by_contra ho
      rw [if_pos (Bool.eq_false_of_not_eq_true ho)] at hv
      exact absurd hv (by decide)
  | false =>
    refine @CheckCoherent.put v side hi _ false (fun h => ?_) (fun h => ?_) (fun h => absurd h Bool.false_ne_true)
      fun _ => Or.inl (Or.inl rfl)
    · exact absurd (hback.symm.trans h) Bool.false_ne_true
    · rcases h with h | h
      · exact absurd (hback.symm.trans h) Bool.false_ne_true
      · exact absurd h Bool.false_ne_true

end

/-- What the end of a stage does: the timer was armed. -/
theorem stage_check {cfg : Config} {s s' : State} {i : Env × Event} {side : Side}
    (hn : (system cfg).next s i = some s') :
    (i.2 = .timer (.turnBack side) → (s.unit.core.check.side side).turnBackTimer = true ∧
      s'.unit.core.check = s.unit.core.check.turnedBack side (i.1.fullyOpen side = .pinHigh)) ∧
    (i.2 = .timer (.turnCheck side) → (s.unit.core.check.side side).turnCheckTimer = true ∧
      s'.unit.core.check = s.unit.core.check.turnChecked side (i.1.fullyOpen side = .pinLow)) := by
  obtain ⟨hen, rfl⟩ := system_next_eq_some.1 hn
  obtain ⟨env, e⟩ := i
  constructor
  · intro he
    obtain rfl : e = .timer (.turnBack side) := he
    exact ⟨(Bool.and_eq_true_iff.1 hen).2, turnBack_check side (s.unit.begin env)⟩
  · intro he
    obtain rfl : e = .timer (.turnCheck side) := he
    exact ⟨(Bool.and_eq_true_iff.1 hen).2, turnCheck_check side (s.unit.begin env)⟩

theorem check_coherent {cfg : Config} {s s' : State} {i : Env × Event} (hn : (system cfg).next s i = some s')
    (hi : CheckCoherent s.unit.core.check) : CheckCoherent s'.unit.core.check := by
  by_cases hstage : i.2.EndsStage
  · obtain ⟨side, he | he⟩ := hstage
    · obtain ⟨harmed, h⟩ := (stage_check hn).1 he
      rw [h]
      exact hi.turnedBack harmed _
    · obtain ⟨harmed, h⟩ := (stage_check hn).2 he
      rw [h]
      exact hi.turnChecked harmed _
  · refine next_keeps (P := fun u => CheckCoherent u.core.check) (fun h => h) (fun u u' he hp => ?_) hn hi
    obtain h | ⟨_, h⟩ := he.check hstage
    · exact h.coherent hp
    · rw [h]
      exact .initial

theorem reachable_check {cfg : Config} {s : State} (hs : (system cfg).Reachable s) : CheckCoherent s.unit.core.check := by
  refine @Machine.reachable_inv _ _ _ (fun s => CheckCoherent s.unit.core.check) ?_ (fun s i s' hi hn => ?_) _ hs
  · rintro _ ⟨env, flash, download, rfl⟩
    exact (boot_check _).symm ▸ CheckCoherent.initial
  · exact check_coherent hn hi

/-- **No unexplained refusal.** With no turn-back and no turn-check timer armed,
`valve_valid` is 1 exactly if both check results are good. -/
theorem refusal_explained {cfg : Config} {s : State} (hs : (system cfg).Reachable s)
    (hidle : ∀ side, (s.unit.core.motor side).turnBackTimer = false ∧ (s.unit.core.motor side).turnCheckTimer = false) :
    s.unit.core.valveValid = true ↔
      (s.unit.core.motor .left).checkResult = false ∧ (s.unit.core.motor .right).checkResult = false := by
  have hco := reachable_check hs
  constructor
  · exact fun hv => ⟨hco.valid hv .left, hco.valid hv .right⟩
  · rintro ⟨hleft, hright⟩
    by_contra hv
    obtain ⟨side, hfailed | hback | hcheck⟩ := hco.refused (Bool.eq_false_of_not_eq_true hv)
    · cases side with
      | left => exact Bool.false_ne_true (hleft.symm.trans hfailed)
      | right => exact Bool.false_ne_true (hright.symm.trans hfailed)
    · exact Bool.false_ne_true ((hidle side).1.symm.trans hback)
    · exact Bool.false_ne_true ((hidle side).2.symm.trans hcheck)

/-- Both sides failed their first stage. -/
theorem refusal_explained_sample : ∃ s,
    (system sampleConfig).run sampleStart
      [(sampleEnv, .keyOnClick), (sampleEnv, .rtcValveCheck), (sampleEnv, .timer (.turnBack .left)),
        (sampleEnv, .timer (.turnBack .right))] = some s ∧
      (s.unit.core.valveValid = true ↔
        (s.unit.core.motor .left).checkResult = false ∧ (s.unit.core.motor .right).checkResult = false) := by
  have hidle : ((system sampleConfig).run sampleStart
      [(sampleEnv, .keyOnClick), (sampleEnv, .rtcValveCheck), (sampleEnv, .timer (.turnBack .left)),
        (sampleEnv, .timer (.turnBack .right))]).any (fun s =>
          decide (((s.unit.core.motor .left).turnBackTimer = false ∧ (s.unit.core.motor .left).turnCheckTimer = false) ∧
            (s.unit.core.motor .right).turnBackTimer = false ∧ (s.unit.core.motor .right).turnCheckTimer = false)) =
        true := by decide +kernel
  obtain ⟨s, hr, hidle⟩ := (Option.any_eq_true _ _).1 hidle
  obtain ⟨hleft, hright⟩ := of_decide_eq_true hidle
  refine ⟨s, hr, refusal_explained ⟨sampleStart, _, ⟨_, _, _, rfl⟩, hr⟩ fun side => ?_⟩
  cases side with
  | left => exact hleft
  | right => exact hright

/-! What the last finished check of each side found. -/

/-- Whether the last check of the side that finished passed, if any finished
since the reset. -/
abbrev CheckLog := Side → Option Bool

instance (rx : RxFrame) (u : MainUnit) : Decidable (rx.OtaEnd u) :=
  decidable_of_iff (rx.deviceType = deviceTypeGateway ∧ rx.rxData 0 = firmwareUpdateCmd ∧ rx.rxData 2 = 3 ∧
      rx.destAddr = getLocalAddress u ∧ (aqDeviceFind rx.sourceAddr u.storage).isSome = true)
    ⟨fun h => ⟨h.1, h.2.1, h.2.2.1, h.2.2.2.1, h.2.2.2.2⟩,
      fun h => ⟨h.deviceType, h.command, h.subCommand, h.toUnit, h.registered⟩⟩

/-- The end of an update from a listed source, both keys held, or a reset: the
events after which the RAM is as at power-on. -/
def Event.resetsUnit (s : State) : Event → Bool
  | .radio rssi _ data len =>
    radioAccepted s.unit.cfg data len ∧ (rxFrameOf s.unit.env.stackSnr rssi data len).OtaEnd s.unit
  | .keyOnLongHold | .keyOffLongHold => s.key.keyOnCount > 3 ∧ s.key.keyOffCount > 3 ∧ s.key.keyOnOffFlag = false
  | .reboot => true
  | _ => false

/-- A check of a side finishes when its first stage fails and when its second
ends. -/
def checkLog (s : State) (i : Env × Event) (log : CheckLog) : CheckLog :=
  match i.2 with
  | .timer (.turnBack side) => if i.1.fullyOpen side = .pinHigh then log else Function.update log side (some false)
  | .timer (.turnCheck side) => Function.update log side (some (i.1.fullyOpen side = .pinLow))
  | e => if e.resetsUnit (s.onUnit (MainUnit.begin i.1)) then fun _ => none else log

/-- The unit with the log beside it. -/
def checkedSystem (cfg : Config) : Machine (State × CheckLog) (Env × Event) :=
  (system cfg).logged checkLog fun _ => none

/-- A valve that counts as good has no side whose last check failed. -/
def ValidChecked (p : State × CheckLog) : Prop :=
  p.1.unit.core.valveValid = true → p.2 .left ≠ some false ∧ p.2 .right ≠ some false

instance : DecidablePred ValidChecked := fun p =>
  inferInstanceAs (Decidable (p.1.unit.core.valveValid = true → _))

/-- A side passes its second stage while the other side's last finished check
failed, and a check that has not finished has erased that failure. -/
def PassesOverRestart (p : State × CheckLog) (i : Env × Event) : Prop :=
  ∃ side, i.2 = .timer (.turnCheck side) ∧ i.1.fullyOpen side = .pinLow ∧
    (p.1.unit.core.motor side.other).checkResult = false ∧ p.2 side.other = some false

section
variable {cfg : Config} {s s' : State} {i : Env × Event}

theorem startLearn_check (u : MainUnit) : (radioStartLearnDevice u).core.check = u.core.check := by
  unfold radioStartLearnDevice
  split
  · rfl
  · split
    · rw [(gatewayConnectStart_core _).1]
      rfl
    · rfl

/-- Both keys held, where that does not reset the unit. -/
theorem longClick_unit {e : Event} (he : e = .keyOnLongHold ∨ e = .keyOffLongHold) (hno : e.resetsUnit s = false) :
    (keyOnOffLongClickHandle s).unit = s.unit := by
  unfold keyOnOffLongClickHandle
  split
  · split
    · exfalso
      rcases he with rfl | rfl <;> simp_all [Event.resetsUnit]
    · rfl
  · rfl

/-- The long clicks that do not reset the unit. -/
theorem keyHold_check {e : Event} (he : e = .keyOnLongHold ∨ e = .keyOffLongHold) (hno : e.resetsUnit s = false) :
    CheckStep s.unit.core.check (e.handle s).unit.core.check := by
  have hlong := longClick_unit he hno
  rcases he with rfl | rfl
  · unfold Event.handle keyOnLongHoldHandle
    dsimp only
    split
    · exact .same rfl
    · split
      · rw [hlong]
        exact .same rfl
      · split
        · exact valveCheckStart_check _ _
        · exact .same rfl
  · unfold Event.handle keyOffLongHoldHandle
    dsimp only
    split
    · exact .same rfl
    · split
      · rw [hlong]
        exact .same rfl
      · split
        · exact .same (startLearn_check _)
        · exact .same rfl

theorem not_resets {e : Event} (hno : e.resetsUnit s = false) (hkey : ¬ (e = .keyOnLongHold ∨ e = .keyOffLongHold)) :
    ¬ Resets s.unit e := by
  intro h
  cases h with
  | reboot => cases hno
  | keyOn => exact hkey (Or.inl rfl)
  | keyOff => exact hkey (Or.inr rfl)
  | otaEnd hf hend =>
    obtain ⟨rssi, snr, data, len, rfl, hacc, rfl⟩ := hf
    exact of_decide_eq_false hno ⟨hacc, hend⟩

/-- Only the ends of stages and a reset change `valve_valid`. -/
theorem valveValid_kept (hn : (system cfg).next s i = some s') (hstage : ¬ i.2.EndsStage)
    (hno : i.2.resetsUnit (s.onUnit (MainUnit.begin i.1)) = false) :
    s'.unit.core.valveValid = s.unit.core.valveValid := by
  by_cases hkey : i.2 = .keyOnLongHold ∨ i.2 = .keyOffLongHold
  · obtain ⟨_, rfl⟩ := system_next_eq_some.1 hn
    exact (keyHold_check hkey hno).valveValid
  · refine next_keeps (P := fun u => u.core.valveValid = s.unit.core.valveValid) (fun h => h) (fun u u' he hp => ?_) hn rfl
    obtain h | ⟨hreset, _⟩ := he.check hstage
    · exact h.valveValid.trans hp
    · exact absurd hreset (not_resets (s := s.onUnit (MainUnit.begin i.1)) hno hkey)

/-- The log over an event that ends no stage. -/
theorem checkLog_quiet (hstage : ¬ i.2.EndsStage) (log : CheckLog) :
    checkLog s i log = if i.2.resetsUnit (s.onUnit (MainUnit.begin i.1)) then fun _ => none else log := by
  obtain ⟨env, e⟩ := i
  unfold checkLog
  cases e with
  | timer t =>
    cases t with
    | turnBack side => exact absurd ⟨side, Or.inl rfl⟩ hstage
    | turnCheck side => exact absurd ⟨side, Or.inr rfl⟩ hstage
    | radioLearn | valveDelayClose | valveDetectOnce | heartConnect => rfl
  | _ => rfl

theorem ValidChecked.iff_sides {p : State × CheckLog} :
    ValidChecked p ↔ (p.1.unit.core.valveValid = true → ∀ side, p.2 side ≠ some false) := by
  refine forall_congr' fun _ => ⟨fun h side => ?_, fun h => ⟨h .left, h .right⟩⟩
  cases side with
  | left => exact h.1
  | right => exact h.2

end

/-- A step that is no such pass keeps the record. -/
theorem validChecked_step {cfg : Config} {p p' : State × CheckLog} {i : Env × Event} (hi : ValidChecked p)
    (hok : ¬ PassesOverRestart p i) (hn : (checkedSystem cfg).next p i = some p') : ValidChecked p' := by
  obtain ⟨s, log⟩ := p
  obtain ⟨s', log'⟩ := p'
  obtain ⟨hn, hlog⟩ := Machine.logged_next_eq_some.1 hn
  obtain rfl : log' = checkLog s i log := hlog
  rw [ValidChecked.iff_sides] at hi ⊢
  intro hv'
  replace hv' : s'.unit.core.check.valveValid = true := hv'
  by_cases hstage : i.2.EndsStage
  · obtain ⟨env, e⟩ := i
    obtain ⟨side, he | he⟩ := hstage
    · obtain rfl : e = .timer (.turnBack side) := he
      rw [((stage_check hn).1 rfl).2] at hv'
      by_cases hp : env.fullyOpen side = .pinHigh
      · rw [decide_eq_true hp] at hv'
        have hlog : checkLog s (env, .timer (.turnBack side)) log = log := if_pos hp
        rw [hlog]
        exact hi hv'
      · rw [decide_eq_false hp] at hv'
        exact absurd hv' Bool.false_ne_true
    · obtain rfl : e = .timer (.turnCheck side) := he
      rw [((stage_check hn).2 rfl).2] at hv'
      by_cases hp : env.fullyOpen side = .pinLow
      · rw [decide_eq_true hp] at hv'
        have hother : log side.other ≠ some false := by
          by_cases ho : (s.unit.core.motor side.other).checkResult = false
          · exact fun h => hok ⟨side, rfl, hp, ho, h⟩
          · have hv : s.unit.core.valveValid = true := (if_neg ho).symm.trans hv'
            exact hi hv _
        have hlog : checkLog s (env, .timer (.turnCheck side)) log = Function.update log side (some true) :=
          congrArg (fun passed => Function.update log side (some passed)) (decide_eq_true hp)
        intro t
        change checkLog s (env, .timer (.turnCheck side)) log t ≠ some false
        rw [hlog]
        obtain rfl | rfl := Side.eq_or_other t side
        · rw [Function.update_self]
          decide
        · rwa [Function.update_of_ne (other_ne side)]
      · rw [decide_eq_false hp] at hv'
        exact absurd hv' Bool.false_ne_true
  · rw [checkLog_quiet hstage]
    split
    · exact fun _ => Option.some_ne_none _ |>.symm
    · rename_i hno
      exact hi ((valveValid_kept hn hstage (Bool.eq_false_of_not_eq_true hno)).symm.trans hv')

/-- Such a pass makes a valve count as good over a failed side. -/
theorem passesOverRestart_not_checked {cfg : Config} {p p' : State × CheckLog} {i : Env × Event}
    (hbad : PassesOverRestart p i) (hn : (checkedSystem cfg).next p i = some p') : ¬ ValidChecked p' := by
  obtain ⟨s, log⟩ := p
  obtain ⟨s', log'⟩ := p'
  obtain ⟨env, e⟩ := i
  obtain ⟨side, he, hp, hresult, hfailed⟩ := hbad
  obtain rfl : e = .timer (.turnCheck side) := he
  obtain ⟨hn, hlog⟩ := Machine.logged_next_eq_some.1 hn
  obtain rfl : log' = checkLog s (env, .timer (.turnCheck side)) log := hlog
  rw [ValidChecked.iff_sides]
  intro h
  have hvalid : s'.unit.core.check.valveValid = true := by
    have hp : env.fullyOpen side = .pinLow := hp
    rw [((stage_check hn).2 rfl).2, decide_eq_true hp]
    exact if_pos hresult
  refine h hvalid side.other ?_
  rw [checkLog]
  exact (Function.update_of_ne (other_ne side) ..).trans hfailed

/-- **`valve_valid` reflects finished checks, exactly.** -/
theorem valve_valid_checked_iff (cfg : Config) (env : Env) (flash : Flash) (download : Nat → UInt8)
    (is : List (Env × Event)) :
    (checkedSystem cfg).Always ValidChecked (powerOn cfg env flash download, fun _ => none) is ↔
      (checkedSystem cfg).Steps (fun p i _ => ¬ PassesOverRestart p i) (powerOn cfg env flash download, fun _ => none) is := by
  refine @Machine.always_iff_steps _ _ (checkedSystem cfg) ValidChecked ValidChecked (fun p i => ¬ PassesOverRestart p i) _
    (fun _ => ⟨Option.some_ne_none _ |>.symm, Option.some_ne_none _ |>.symm⟩) (fun _ h => h) ?_ ?_ is
  · intro p i p' hi hok hn
    exact validChecked_step hi hok hn
  · intro p i p' _ hbad hn
    exact passesOverRestart_not_checked (not_not.1 hbad) hn

/-- The left side fails; a second check starts, and the right side passes while
the left is not through. -/
theorem valve_valid_checked_fails :
    ¬ ∀ (cfg : Config) (env : Env) (flash : Flash) (download : Nat → UInt8) (is : List (Env × Event)),
      (checkedSystem cfg).Always ValidChecked (powerOn cfg env flash download, fun _ => none) is := by
  intro h
  refine Machine.not_always_of_run (M := checkedSystem sampleConfig) (sampleStart, fun _ => none)
    [(sampleEnv, .keyOnClick), (sampleEnv, .rtcValveCheck), (sampleEnv, .timer (.turnBack .left)),
      (sampleEnv, .rtcValveCheck), ({ sampleEnv with fullyOpen := fun _ => .pinHigh }, .timer (.turnBack .right)),
      (sampleEnv, .timer (.turnCheck .right))] ?_ (h _ _ _ _ _)
  decide +kernel

end Aqualarm
