import Aqualarm.Alarms

/-
  The outputs to the motors. While `valve_status` is CLOSE both control pins
  should be at the closing level.

  What is proved:
    1. `Effect.driven` — every effect keeps this but one: the first stage of a
       valve check drives its side open again.
    2. `closed_valve_driven_iff` — a run keeps it throughout exactly when no
       turn-back timer expires over a shut valve with its `FULLY_OPEN` pin
       reading 1. Such a timer outlives the closing where `valve_close` leaves
       early, on `valve_valid == 0`, and stops no timer.
-/

namespace Aqualarm

open Lib

/-- A closed valve is driven closed, on both sides. -/
def Driven (u : MainUnit) : Prop :=
  u.core.valveStatus = .valveStatusClose → ∀ side, (u.core.motor side).controlPin = .pinHigh

instance : DecidablePred Driven := fun u =>
  have : Decidable (∀ side, (u.core.motor side).controlPin = .pinHigh) :=
    decidable_of_iff ((u.core.motor .left).controlPin = .pinHigh ∧ (u.core.motor .right).controlPin = .pinHigh)
      ⟨fun h side => match side with | .left => h.1 | .right => h.2, fun h => ⟨h .left, h .right⟩⟩
  inferInstanceAs (Decidable (_ → _))

/-- No side is driven open by its turn-back timer over a shut valve. -/
def NoTurnBackOverShut (s : State) (i : Env × Event) : Prop :=
  ∀ side, i.2 = .timer (.turnBack side) → i.1.fullyOpen side = .pinHigh →
    s.unit.core.valveStatus = .valveStatusOpen

theorem warningEnable_driven {w : Warning} {u : MainUnit} (hi : Driven u) : Driven (warningEnable w u) := by
  obtain ⟨_, h⟩ | ⟨_, hr⟩ := warningEnable_cases w u
  · rwa [h]
  · intro hv side
    cases hr with
    | shown hc =>
      rw [hc] at hv ⊢
      exact hi hv side
    | closed u₁ h₁ hc =>
      rw [hc]
      exact valveClose_controlPin u₁.core side
    | already h =>
      rw [h] at hv ⊢
      exact hi hv side

theorem valveOpen_driven {c : Core}
    (hi : c.valveStatus = .valveStatusClose → ∀ side, (c.motor side).controlPin = .pinHigh) :
    (valveOpen c).2.valveStatus = .valveStatusClose →
      ∀ side, ((valveOpen c).2.motor side).controlPin = .pinHigh := by
  obtain ⟨_, he⟩ | ⟨_, _, _, _, hs⟩ := valveOpen_cases c
  · rwa [he]
  · intro hv
    rw [hs] at hv
    cases hv

theorem Driven.of_pins {u u' : MainUnit} (hi : Driven u) (hv : u'.core.valveStatus = u.core.valveStatus)
    (hp : ∀ side, (u'.core.motor side).controlPin = (u.core.motor side).controlPin) : Driven u' :=
  fun h side => (hp side).trans (hi (hv.symm.trans h) side)

section
variable {u₀ u u' : MainUnit} {e : Event}

theorem Effect.driven
    (hok : ∀ side, e = .timer (.turnBack side) → u₀.env.fullyOpen side = .pinHigh →
      u₀.core.valveStatus = .valveStatusOpen)
    (h : Effect u₀ e u u') (hi : Driven u) : Driven u' := by
  cases h with
  | heart | send | registry | enrol | clear | learnStart | learnStop | learnTimeout | learnRefresh
  | delayControl => exact hi
  | leak | lost | raise => exact warningEnable_driven hi
  | closeValve | lockClose => exact fun _ => valveClose_controlPin _
  | openValve => exact valveOpen_driven hi
  | unlockOpen =>
    refine valveOpen_driven ?_
    rw [valveUnlock_core]
    exact hi
  | checkStart =>
    intro hv side
    rw [MainUnit.onCore_core, (valveCheckStart_alarm u.core u.env.fullyOpen).2.2.1] at hv
    rcases valveCheckStart_controlPin u.core u.env.fullyOpen side with h | h
    · exact h.trans (hi hv side)
    · exact h
  | disarm t =>
    cases t with
    | radioLearn | valveDelayClose | valveDetectOnce | heartConnect => exact hi
    | turnBack side | turnCheck side =>
      refine hi.of_pins rfl fun s => ?_
      simp only [Timer.disarm, MainUnit.onCore_core, Core.setMotor_motor]
      split <;> rfl
  | turnBackPass side h hp hu =>
    intro hv
    have hopen := hu.trans (hok side h hp)
    exact absurd (hopen.symm.trans hv) (by simp)
  | turnBackFail | turnCheckStart | turnCheckPass | turnCheckFail =>
    refine hi.of_pins rfl fun s => ?_
    simp only [MainUnit.onCore_core, Core.setMotor_motor]
    split <;> rfl
  | turnCheckValid side =>
    rw [MainUnit.onCore]
    obtain h | ⟨h, _⟩ := valvefailWarningDisable_cases { u.core with valveValid := true }
    · rw [h]
      exact hi
    · rw [h]
      exact hi
  | boot => exact fun _ => (boot_spec u).2.1
  | factoryReset => exact fun _ => (boot_spec _).2.1

end

/-- The expiry drives its side open. -/
theorem turnBack_not_driven {cfg : Config} {s s' : State} {i : Env × Event}
    (hok : ¬ NoTurnBackOverShut s i) (hn : (system cfg).next s i = some s') : ¬ Driven s'.unit := by
  obtain ⟨env, e⟩ := i
  unfold NoTurnBackOverShut at hok
  push Not at hok
  obtain ⟨side, he, hp, hv⟩ := hok
  obtain rfl : e = .timer (.turnBack side) := he
  obtain ⟨_, rfl⟩ := system_next_eq_some.1 hn
  have hshut : s.unit.core.valveStatus = .valveStatusClose := by
    cases h : s.unit.core.valveStatus with
    | valveStatusClose => rfl
    | valveStatusOpen => exact absurd h hv
  have hcall : turnBackTimerCallback side ((Timer.turnBack side).disarm (s.unit.begin env)) =
      ((Timer.turnBack side).disarm (s.unit.begin env)).onCore fun c => c.setMotor side fun m =>
        { m with controlPin := .pinLow, mbValveControlState := true, turnCheckTimer := true } :=
    if_pos hp
  intro hd
  have hlow : ((turnBackTimerCallback side ((Timer.turnBack side).disarm (s.unit.begin env))).core.motor
      side).controlPin = .pinLow := by
    rw [hcall]
    simp
  have hhigh := hd (by
    show (turnBackTimerCallback side ((Timer.turnBack side).disarm (s.unit.begin env))).core.valveStatus = _
    rw [hcall]
    exact hshut) side
  exact absurd (hlow.symm.trans hhigh) (by simp)

/-- **A closed valve is driven closed, exactly when.** -/
theorem closed_valve_driven_iff (cfg : Config) (env : Env) (flash : Flash) (download : Nat → UInt8)
    (is : List (Env × Event)) :
    (system cfg).Always (fun s => Driven s.unit) (powerOn cfg env flash download) is ↔
      (system cfg).Steps (fun s i _ => NoTurnBackOverShut s i) (powerOn cfg env flash download) is := by
  refine @Machine.always_iff_steps _ _ (system cfg) (fun s => Driven s.unit) (fun s => Driven s.unit)
    NoTurnBackOverShut _ (fun _ => (boot_spec _).2.1) (fun _ h => h) ?_ ?_ is
  · intro s i s' hi hok hn
    have hok' : ∀ side, i.2 = .timer (.turnBack side) →
        (s.unit.begin i.1).env.fullyOpen side = .pinHigh →
        (s.unit.begin i.1).core.valveStatus = .valveStatusOpen := hok
    exact next_keeps (P := Driven) (fun h => h) (fun u u' he => he.driven hok') hn hi
  · intro s i s' _ hok hn
    exact turnBack_not_driven hok hn

/-- Opened, checked on both sides, the left side stuck, a leak: the valve is
closed with the right check under way, whose timer then opens that side. -/
theorem closed_valve_driven_fails :
    ¬ ∀ (cfg : Config) (env : Env) (flash : Flash) (download : Nat → UInt8) (is : List (Env × Event)),
      (system cfg).Always (fun s => Driven s.unit) (powerOn cfg env flash download) is := by
  intro h
  refine Machine.not_always_of_run (M := system sampleConfig) sampleStart
    [(sampleEnv, .keyOnClick), (sampleEnv, .rtcValveCheck), (sampleEnv, .timer (.turnBack .left)),
      (sampleEnv, sampleFrame deviceTypeEndunit 7 [learnDeviceCmd, 1, 1]),
      (sampleEnv, sampleFrame deviceTypeEndunit 7 [warningUploadCmd, 2, 0, 1]),
      ({ sampleEnv with fullyOpen := fun _ => .pinHigh }, .timer (.turnBack .right))] ?_ (h _ _ _ _ _)
  decide +kernel

end Aqualarm
