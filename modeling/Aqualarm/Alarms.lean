import Aqualarm.RadioHandlers

/-
  The alarms and the valve, over whole runs.

  What is proved:
    1. `callback_cases`, `warningEnable_cases` — what raising a warning does.
    2. `criticalShut_invariant`, `critical_alarm_keeps_valve_shut` — under
       `SlaverSensorLeak`, `SlaverUltraLowPower` and `SlaverOffline` the valve is
       shut, and no event moves it.
    3. `leak_safety_iff` — a recorded leak keeps its alarm and the valve shut
       throughout a run exactly when the learn timer never expires meanwhile:
       `radio_learn_timer_callback` clears the warning in force without asking
       what it is.
-/

namespace Aqualarm

open Lib

/-! Raising a warning. -/

/-- The status a warning's callback shows. -/
def Warning.status : Warning → DeviceStatus
  | .valveLeftFail => .valveLeftFail
  | .valveRightFail => .valveRightFail
  | .slaverLowPower => .slaverLowPower
  | .slaverUltraLowPower => .slaverUltraLowPower
  | .slaverSensorLeak => .slaverSensorLeak
  | .slaverSensorLost => .slaverSensorLost
  | .slaverOffline => .slaverOffline
  | .masterSensorLost => .masterSensorLost
  | .masterSensorLeak => .masterSensorLeak
  | .masterLowTemp => .masterLowTemp

/-- The warnings whose callback closes the valve. -/
def Warning.Closes (w : Warning) : Prop :=
  w = .slaverUltraLowPower ∨ w = .slaverSensorLeak ∨ w = .slaverOffline ∨ w = .masterSensorLeak ∨
    w = .masterLowTemp

/-- A callback shows its status; closes the valve, locked or not, and shows its
status; or finds its status shown. -/
inductive Raised (w : Warning) (u u' : MainUnit) : Prop
  | shown (hc : u'.core = { u.core with deviceStatus := w.status }) (hs : u'.storage = u.storage)
      (hw : ¬ w.Closes)
  | closed (u₁ : MainUnit) (h₁ : u₁ = u ∨ u₁ = valveLock u)
      (hc : u'.core = { (valveClose u₁.core).2 with deviceStatus := w.status })
      (hs : u'.storage = u₁.storage)
  | already (h : u' = u) (hd : u.core.deviceStatus = w.status)

theorem callback_cases (w : Warning) (u : MainUnit) : Raised w u (w.callback u) := by
  cases w with
  | valveLeftFail | valveRightFail | masterSensorLost =>
    exact .shown (gatewayUpload_core ..) (gatewayUpload_storage ..) (by simp [Warning.Closes])
  | slaverLowPower | slaverSensorLost => exact .shown rfl rfl (by simp [Warning.Closes])
  | slaverUltraLowPower => exact .closed (valveLock u) (Or.inr rfl) rfl rfl
  | slaverSensorLeak =>
    unfold Warning.callback slaverSensorLeakEventCallback
    dsimp only
    split
    · exact .closed (valveLock u) (Or.inr rfl) rfl rfl
    · rename_i h
      exact .already rfl (not_not.1 h)
  | slaverOffline =>
    unfold Warning.callback slaverOfflineEventCallback
    dsimp only
    split
    · exact .closed u (Or.inl rfl) rfl rfl
    · rename_i h
      exact .already rfl (not_not.1 h)
  | masterSensorLeak =>
    exact .closed u (Or.inl rfl) (gatewayUpload_core ..) (gatewayUpload_storage ..)
  | masterLowTemp => exact .closed u (Or.inl rfl) rfl rfl

/-- `warning_enable` drops an event of lower priority, and else records it as
the one in force and runs its callback. -/
theorem warningEnable_cases (w : Warning) (u : MainUnit) :
    (w.priority < u.core.nowEvent.priority ∧ warningEnable w u = u) ∨
    (u.core.nowEvent.priority ≤ w.priority ∧
      Raised w
        (u.onCore fun c =>
          { c with nowEvent := { lastId := w.warningId, priority := w.priority, callback := some w } })
        (warningEnable w u)) := by
  unfold warningEnable
  by_cases h : w.priority ≥ u.core.nowEvent.priority
  · rw [if_pos h]
    exact Or.inr ⟨h, callback_cases w _⟩
  · rw [if_neg h]
    exact Or.inl ⟨by omega, rfl⟩

theorem valveLock_core (u : MainUnit) :
    (valveLock u).core =
      { u.core with lockStatus := if u.core.lockStatus = 0 then 1 else u.core.lockStatus } := by
  unfold valveLock
  split <;> rfl

/-- An accepted warning shows its status and is the one in force. -/
theorem Raised.core {w : Warning} {u u' : MainUnit} (h : Raised w u u') :
    u'.core.deviceStatus = w.status ∧ u'.core.nowEvent = u.core.nowEvent := by
  cases h with
  | shown hc => exact ⟨by rw [hc], by rw [hc]⟩
  | closed u₁ h₁ hc =>
    refine ⟨by rw [hc], ?_⟩
    rw [hc, valveClose_nowEvent]
    rcases h₁ with rfl | rfl
    · rfl
    · rw [valveLock_core]
  | already h hd =>
    subst h
    exact ⟨hd, rfl⟩

/-- An accepted warning leaves the valve as it is or shut; one that closes the
valve leaves it shut, unless its status was shown already. -/
theorem Raised.valveStatus {w : Warning} {u u' : MainUnit} (h : Raised w u u') :
    u'.core.valveStatus = .valveStatusClose ∨
      u'.core.valveStatus = u.core.valveStatus ∧ (w.Closes → u.core.deviceStatus = w.status) := by
  cases h with
  | shown hc hs hw => exact Or.inr ⟨by rw [hc], fun h => absurd h hw⟩
  | closed u₁ h₁ hc => exact Or.inl (by rw [hc, valveClose_valveStatus])
  | already h hd => exact Or.inr ⟨by rw [h], fun _ => hd⟩

/-- Closing drives both outputs high; nothing else a callback does moves them. -/
theorem Raised.controlPin {w : Warning} {u u' : MainUnit} (h : Raised w u u') (side : Side) :
    (u'.core.motor side).controlPin = (u.core.motor side).controlPin ∨
      (u'.core.motor side).controlPin = .pinHigh := by
  cases h with
  | shown hc => exact Or.inl (by rw [hc])
  | closed u₁ h₁ hc =>
    right
    rw [hc]
    exact valveClose_controlPin u₁.core side
  | already h => exact Or.inl (by rw [h])

@[simp] theorem valveLock_deviceList (u : MainUnit) :
    (valveLock u).storage.deviceList = u.storage.deviceList := by
  unfold valveLock
  split <;> rfl

@[simp] theorem valveUnlock_deviceList (u : MainUnit) :
    (valveUnlock u).storage.deviceList = u.storage.deviceList := by
  unfold valveUnlock
  split <;> rfl

theorem Raised.deviceList {w : Warning} {u u' : MainUnit} (h : Raised w u u') :
    u'.storage.deviceList = u.storage.deviceList := by
  cases h with
  | shown hc hs => rw [hs]
  | closed u₁ h₁ hc hs =>
    rcases h₁ with rfl | rfl
    · rw [hs]
    · rw [hs, valveLock_deviceList]
  | already h => rw [h]

theorem warningEnable_deviceList (w : Warning) (u : MainUnit) :
    (warningEnable w u).storage.deviceList = u.storage.deviceList := by
  obtain ⟨_, h⟩ | ⟨_, h⟩ := warningEnable_cases w u
  · rw [h]
  · exact h.deviceList

theorem waterleakFind_congr {st st' : Storage} (h : st'.deviceList = st.deviceList) :
    aqDeviceWaterleakFind st' = aqDeviceWaterleakFind st := by
  unfold aqDeviceWaterleakFind
  rw [h]

/-! The start. -/

/-- After a reset the valve is shut and driven so, and the leak alarm shows
exactly when a loaded record has a leak. -/
theorem boot_spec (u : MainUnit) :
    u.boot.core.valveStatus = .valveStatusClose ∧
    (∀ side, (u.boot.core.motor side).controlPin = .pinHigh) ∧
    (aqDeviceWaterleakFind u.boot.storage = false ∧ u.boot.core.deviceStatus = .valveClose ∧
        u.boot.core.nowEvent = {} ∨
      u.boot.core.deviceStatus = .slaverSensorLeak ∧ u.boot.core.nowEvent.priority = 8) := by
  unfold MainUnit.boot
  dsimp only
  rw [MainUnit.onStorage_core, MainUnit.onStorage_storage, heartRecvClear_waterleakFind]
  generalize readDeviceFromFlash _ = st
  unfold valveInit
  dsimp only
  split
  · rename_i hl
    obtain ⟨h, _⟩ | ⟨_, hr⟩ := warningEnable_cases .slaverSensorLeak
      (MainUnit.onCore
        (fun c => { c with
          lockStatus := UInt8.ofNat (flashGetKey .valveLock st).toNat
          motor := fun side => { c.motor side with controlPin := .pinHigh } })
        { cfg := u.cfg, env := u.env, storage := st, tx := u.tx })
    · exact absurd h (by simp)
    · refine ⟨?_, fun side => ?_, Or.inr ⟨hr.core.1, by rw [hr.core.2]; rfl⟩⟩
      · rcases hr.valveStatus with h | ⟨h, _⟩
        · exact h
        · exact h
      · rcases hr.controlPin side with h | h
        · exact h
        · exact h
  · rename_i hl
    exact ⟨rfl, fun _ => rfl, Or.inl ⟨Bool.eq_false_of_not_eq_true hl, rfl, rfl⟩⟩

/-! Critical alarms. -/

def DeviceStatus.Critical (d : DeviceStatus) : Prop :=
  d = .slaverSensorLeak ∨ d = .slaverUltraLowPower ∨ d = .slaverOffline

theorem DeviceStatus.Idle.not_critical {d : DeviceStatus} (h : d.Idle) : ¬ d.Critical := by
  rcases h with rfl | rfl | rfl <;> simp [DeviceStatus.Critical]

theorem DeviceStatus.Operable.not_critical {d : DeviceStatus} (h : d.Operable) : ¬ d.Critical := by
  rcases h with h | rfl | rfl
  · exact h.not_critical
  · simp [DeviceStatus.Critical]
  · simp [DeviceStatus.Critical]

theorem toDeviceStatus_idle (v : ValveStatus) : v.toDeviceStatus.Idle := by
  cases v with
  | valveStatusClose => exact Or.inl rfl
  | valveStatusOpen => exact Or.inr (Or.inl rfl)

theorem Warning.closes_of_critical {w : Warning} (h : w.status.Critical) : w.Closes := by
  cases w <;> simp_all [Warning.status, DeviceStatus.Critical, Warning.Closes]

/-- A critical alarm shows only over a shut valve. -/
def CriticalShut (u : MainUnit) : Prop :=
  u.core.deviceStatus.Critical → u.core.valveStatus = .valveStatusClose

theorem warningEnable_criticalShut {w : Warning} {u : MainUnit} (hi : CriticalShut u) :
    CriticalShut (warningEnable w u) := by
  obtain ⟨_, h⟩ | ⟨_, hr⟩ := warningEnable_cases w u
  · rwa [h]
  · intro hd
    rw [hr.core.1] at hd
    obtain h | ⟨h, hw⟩ := hr.valveStatus
    · exact h
    · have hs : u.core.deviceStatus = w.status := hw (Warning.closes_of_critical hd)
      exact h.trans (hi (hs ▸ hd))

theorem disarm_alarm (t : Timer) (u : MainUnit) :
    (t.disarm u).core.deviceStatus = u.core.deviceStatus ∧
      (t.disarm u).core.nowEvent = u.core.nowEvent ∧
      (t.disarm u).core.valveStatus = u.core.valveStatus ∧
      (t.disarm u).core.lockStatus = u.core.lockStatus ∧ (t.disarm u).storage = u.storage := by
  cases t <;> exact ⟨rfl, rfl, rfl, rfl, rfl⟩

theorem valvefailWarningDisable_cases (c : Core) :
    valvefailWarningDisable c = c ∨ valvefailWarningDisable c = warningAllClear c ∧
      (c.deviceStatus = .valveLeftFail ∨ c.deviceStatus = .valveRightFail) := by
  unfold valvefailWarningDisable
  split
  · rename_i h
    exact Or.inr ⟨rfl, h⟩
  · exact Or.inl rfl

section
variable {u₀ u u' : MainUnit} {e : Event}

theorem Effect.criticalShut (h : Effect u₀ e u u') (hi : CriticalShut u) : CriticalShut u' := by
  cases h with
  | heart | send | registry | enrol | learnRefresh | delayControl | turnBackPass | turnBackFail
  | turnCheckStart | turnCheckPass | turnCheckFail => exact hi
  | leak => exact warningEnable_criticalShut hi
  | lost => exact warningEnable_criticalShut hi
  | raise => exact warningEnable_criticalShut hi
  | clear | learnStop | learnTimeout =>
    exact fun hd => absurd hd (toDeviceStatus_idle _).not_critical
  | closeValve | lockClose => exact fun _ => valveClose_valveStatus _
  | openValve h₀ h =>
    intro hd
    obtain ⟨_, he⟩ | ⟨_, _, _, hs, _⟩ := valveOpen_cases u.core
    · rw [MainUnit.onCore_core, he] at hd
      exact absurd hd h.not_critical
    · rw [MainUnit.onCore_core, hs] at hd
      exact absurd hd (by simp [DeviceStatus.Critical])
  | unlockOpen h₀ h =>
    intro hd
    obtain ⟨_, he⟩ | ⟨_, _, _, hs, _⟩ := valveOpen_cases (valveUnlock u).core
    · rw [MainUnit.onCore_core, he, valveUnlock_core] at hd
      exact absurd hd h.not_critical
    · rw [MainUnit.onCore_core, hs] at hd
      exact absurd hd (by simp [DeviceStatus.Critical])
  | learnStart => exact fun hd => absurd hd (by simp [DeviceStatus.Critical])
  | checkStart =>
    obtain ⟨hd, _, hv, _⟩ := valveCheckStart_alarm u.core u.env.fullyOpen
    intro hc
    rw [MainUnit.onCore_core, hd] at hc
    exact hv.trans (hi hc)
  | disarm t =>
    obtain ⟨hd, _, hv, _⟩ := disarm_alarm t u
    intro hc
    rw [hd] at hc
    exact hv.trans (hi hc)
  | turnCheckValid side =>
    intro hd
    rw [MainUnit.onCore_core] at hd ⊢
    obtain h | ⟨h, _⟩ := valvefailWarningDisable_cases { u.core with valveValid := true }
    · rw [h] at hd ⊢
      exact hi hd
    · rw [h] at hd
      exact absurd hd (toDeviceStatus_idle _).not_critical
  | boot => exact fun _ => (boot_spec u).1
  | factoryReset => exact fun _ => (boot_spec _).1

/-- From a critical alarm no effect opens the valve: every opening asks for an
operable status at the start of the event. -/
theorem Effect.stays_shut (hc : u₀.core.deviceStatus.Critical) (h : Effect u₀ e u u')
    (hv : u.core.valveStatus = .valveStatusClose) : u'.core.valveStatus = .valveStatusClose := by
  have hwarn : ∀ (w : Warning) (u : MainUnit), u.core.valveStatus = .valveStatusClose →
      (warningEnable w u).core.valveStatus = .valveStatusClose := by
    intro w u hu
    obtain ⟨_, h⟩ | ⟨_, hr⟩ := warningEnable_cases w u
    · rwa [h]
    · rcases hr.valveStatus with h | ⟨h, _⟩
      · exact h
      · exact h.trans hu
  cases h with
  | heart | send | registry | enrol | clear | learnStart | learnStop | learnTimeout | learnRefresh
  | delayControl | turnBackPass | turnBackFail | turnCheckStart | turnCheckPass | turnCheckFail =>
    exact hv
  | leak => exact hwarn _ _ hv
  | lost => exact hwarn _ _ hv
  | raise => exact hwarn _ _ hv
  | closeValve | lockClose => exact valveClose_valveStatus _
  | openValve h₀ => exact absurd hc h₀.not_critical
  | unlockOpen h₀ => exact absurd hc h₀.not_critical
  | checkStart => exact (valveCheckStart_alarm u.core u.env.fullyOpen).2.2.1.trans hv
  | disarm t => exact (disarm_alarm t u).2.2.1.trans hv
  | turnCheckValid side =>
    rw [MainUnit.onCore_core]
    obtain h | ⟨h, _⟩ := valvefailWarningDisable_cases { u.core with valveValid := true }
    · rw [h]
      exact hv
    · rw [h]
      exact hv
  | boot => exact (boot_spec u).1
  | factoryReset => exact (boot_spec _).1

end

/-! From effects to runs. -/

section
variable {cfg : Config}

/-- What the start of an event and each effect of it keep, the event keeps. -/
theorem next_keeps {P : MainUnit → Prop} {s s' : State} {i : Env × Event}
    (hbegin : P s.unit → P (s.unit.begin i.1))
    (heff : ∀ u u', Effect (s.unit.begin i.1) i.2 u u' → P u → P u')
    (h : (system cfg).next s i = some s') (hp : P s.unit) : P s'.unit :=
  closed_of_path heff (path_next h) (hbegin hp)

/-- What a reset establishes and every effect keeps holds throughout every run. -/
theorem always_of_effects {P : MainUnit → Prop} (hboot : ∀ u : MainUnit, P u.boot)
    (hbegin : ∀ env u, P u → P (u.begin env))
    (heff : ∀ u₀ e u u', Effect u₀ e u u' → P u → P u') (env : Env) (flash : Flash)
    (download : Nat → UInt8) (is : List (Env × Event)) :
    (system cfg).Always (fun s => P s.unit) (powerOn cfg env flash download) is := by
  have hstep : ∀ s i s', P s.unit → (system cfg).next s i = some s' → P s'.unit := fun s i s' hs hn =>
    next_keeps (hbegin i.1 s.unit) (fun _ _ => heff _ _ _ _) hn hs
  exact @Machine.always_of_inv _ _ (system cfg) (fun s => P s.unit) _ (hboot _) hstep is

end

theorem criticalShut_invariant (cfg : Config) (env : Env) (flash : Flash) (download : Nat → UInt8)
    (is : List (Env × Event)) :
    (system cfg).Always (fun s => CriticalShut s.unit) (powerOn cfg env flash download) is :=
  always_of_effects (fun u _ => (boot_spec u).1) (fun _ _ h => h) (fun _ _ _ _ => Effect.criticalShut)
    env flash download is

/-- Under a critical alarm the valve is shut, and whatever happens next does not
move it. -/
def CriticalKept (cfg : Config) (s : State) : Prop :=
  s.unit.core.deviceStatus.Critical →
    s.unit.core.valveStatus = .valveStatusClose ∧
      ∀ i s', (system cfg).next s i = some s' → s'.unit.core.valveStatus = s.unit.core.valveStatus

theorem critical_alarm_keeps_valve_shut (cfg : Config) (env : Env) (flash : Flash)
    (download : Nat → UInt8) (is : List (Env × Event)) :
    (system cfg).Always (CriticalKept cfg) (powerOn cfg env flash download) is := by
  refine (criticalShut_invariant cfg env flash download is).mono fun s hs hd => ⟨hs hd, ?_⟩
  intro i s' hn
  have hd' : (s.unit.begin i.1).core.deviceStatus.Critical := hd
  have hv : s'.unit.core.valveStatus = .valveStatusClose :=
    closed_of_path (P := fun u => u.core.valveStatus = .valveStatusClose)
      (fun _ _ => Effect.stays_shut hd') (path_next hn) (hs hd)
  rw [hv, hs hd]

/-! Leaks. -/

/-- A recorded leak shows as `SlaverSensorLeak` over a shut valve. -/
def LeakSafe (s : State) : Prop :=
  aqDeviceWaterleakFind s.unit.storage = true →
    s.unit.core.deviceStatus = .slaverSensorLeak ∧ s.unit.core.valveStatus = .valveStatusClose

instance : DecidablePred LeakSafe := fun s =>
  inferInstanceAs (Decidable (aqDeviceWaterleakFind s.unit.storage = true → _ ∧ _))

/-- The invariant behind `LeakSafe`: the leak alarm is in force at the highest
priority, so that no other warning takes its place. -/
structure LeakInv (u : MainUnit) : Prop where
  shown : aqDeviceWaterleakFind u.storage = true → u.core.deviceStatus = .slaverSensorLeak
  priority : u.core.deviceStatus = .slaverSensorLeak → u.core.nowEvent.priority = 8
  bound : u.core.nowEvent.priority ≤ 8
  shut : CriticalShut u

/-- The learn timer does not expire while a leak is recorded. -/
def NoLearnTimeoutInLeak (s : State) (i : Env × Event) : Prop :=
  ¬ (i.2 = .timer .radioLearn ∧ aqDeviceWaterleakFind s.unit.storage = true)

theorem warningEnable_leakInv {w : Warning} {u : MainUnit} (hi : LeakInv u) (hw : w ≠ .slaverSensorLeak) :
    LeakInv (warningEnable w u) := by
  obtain ⟨_, h⟩ | ⟨hp, hr⟩ := warningEnable_cases w u
  · rwa [h]
  have hlow : w.priority < 8 := by
    cases w <;> first | exact absurd rfl hw | decide
  have hnone : u.core.deviceStatus ≠ .slaverSensorLeak := by
    intro hd
    have := hi.priority hd
    omega
  have hstatus : (warningEnable w u).core.deviceStatus ≠ .slaverSensorLeak := by
    rw [hr.core.1]
    cases w <;> first | exact absurd rfl hw | decide
  refine ⟨fun hl => ?_, fun hd => absurd hd hstatus, ?_, warningEnable_criticalShut hi.shut⟩
  · rw [waterleakFind_congr (warningEnable_deviceList w u)] at hl
    exact absurd (hi.shown hl) hnone
  · rw [hr.core.2]
    exact Nat.le_of_lt hlow

/-- No warning has a higher priority than a leak, so it is always accepted. -/
theorem warningEnable_leak {u : MainUnit} (hb : u.core.nowEvent.priority ≤ 8) (hs : CriticalShut u) :
    LeakInv (warningEnable .slaverSensorLeak u) := by
  obtain ⟨h, _⟩ | ⟨_, hr⟩ := warningEnable_cases .slaverSensorLeak u
  · have : Warning.slaverSensorLeak.priority = 8 := rfl
    omega
  · have hp : (warningEnable .slaverSensorLeak u).core.nowEvent.priority = 8 := by
      rw [hr.core.2]
      rfl
    exact ⟨fun _ => hr.core.1, fun _ => hp, Nat.le_of_eq hp, warningEnable_criticalShut hs⟩

/-- A change of the core that shows some other status keeps the invariant where
no leak is recorded. -/
theorem LeakInv.of_core {u u' : MainUnit} (hi : LeakInv u)
    (hl : aqDeviceWaterleakFind u'.storage = true → aqDeviceWaterleakFind u.storage = true)
    (hd : aqDeviceWaterleakFind u.storage = true → u.core.deviceStatus ≠ .slaverSensorLeak)
    (hd' : u'.core.deviceStatus ≠ .slaverSensorLeak) (hp : u'.core.nowEvent.priority ≤ 8)
    (hs : CriticalShut u') : LeakInv u' :=
  ⟨fun h => absurd (hi.shown (hl h)) (hd (hl h)), fun h => absurd h hd', hp, hs⟩

theorem boot_leakInv (u : MainUnit) : LeakInv u.boot := by
  obtain ⟨hv, _, ⟨hl, hd, hn⟩ | ⟨hd, hn⟩⟩ := boot_spec u
  · refine ⟨fun h => ?_, fun h => ?_, by rw [hn]; decide, fun _ => hv⟩
    · rw [hl] at h
      cases h
    · rw [hd] at h
      cases h
  · exact ⟨fun _ => hd, fun _ => hn, by omega, fun _ => hv⟩

theorem DeviceStatus.Operable.ne_leak {d : DeviceStatus} (h : d.Operable) : d ≠ .slaverSensorLeak :=
  fun hd => h.not_critical (Or.inl hd)

theorem valveOpen_ne_leak {c : Core} (h : c.deviceStatus ≠ .slaverSensorLeak) :
    (valveOpen c).2.deviceStatus ≠ .slaverSensorLeak := by
  obtain ⟨_, he⟩ | ⟨_, _, _, hs, _⟩ := valveOpen_cases c
  · rwa [he]
  · rw [hs]
    simp

theorem valveClose_ne_leak {c : Core} (h : c.deviceStatus ≠ .slaverSensorLeak) :
    (valveClose c).2.deviceStatus ≠ .slaverSensorLeak := by
  rcases valveClose_deviceStatus c with hs | hs
  · rw [hs]
    simp
  · rwa [hs]

section
variable {u₀ u u' : MainUnit} {e : Event}

theorem Effect.leakInv (hok : e = .timer .radioLearn → aqDeviceWaterleakFind u₀.storage = false)
    (h : Effect u₀ e u u') (hi : LeakInv u) : LeakInv u' := by
  have hshut : CriticalShut u' := h.criticalShut hi.shut
  cases h with
  | heart | send | learnRefresh | delayControl | turnBackPass | turnBackFail | turnCheckStart
  | turnCheckPass | turnCheckFail => exact ⟨hi.shown, hi.priority, hi.bound, hshut⟩
  | registry op hq => exact ⟨fun hl => hi.shown (hq.waterleakFind hl), hi.priority, hi.bound, hshut⟩
  | enrol =>
    exact ⟨fun hl => hi.shown (learnStorage_waterleakFind hl), hi.priority, hi.bound, hshut⟩
  | leak => exact warningEnable_leak hi.bound hi.shut
  | lost deviceId value =>
    refine warningEnable_leakInv ⟨fun hl => ?_, hi.priority, hi.bound, hi.shut⟩ (by simp)
    rw [MainUnit.onStorage_storage, wirelostSet_waterleakFind] at hl
    exact hi.shown hl
  | raise w hc =>
    refine warningEnable_leakInv hi ?_
    cases hc with
    | lowPower | ultraLowPower | offline => simp
    | valveFail side => cases side <;> simp [Side.failEvent]
  | clear hc =>
    refine hi.of_core id (fun hl hd => ?_) ?_ (Nat.zero_le _) hshut
    · cases hc with
      | leak _ hf =>
        rw [hf] at hl
        cases hl
      | lost h | offline h | abnormal h =>
        rw [hd] at h
        cases h
    · exact DeviceStatus.Operable.ne_leak (Or.inl (toDeviceStatus_idle _))
  | closeValve h =>
    refine hi.of_core id (fun _ => h.ne_leak) (valveClose_ne_leak h.ne_leak) ?_ hshut
    rw [MainUnit.onCore_core, valveClose_nowEvent]
    exact hi.bound
  | lockClose h =>
    have hne : u.core.deviceStatus ≠ .slaverSensorLeak := DeviceStatus.Operable.ne_leak (Or.inl h)
    refine hi.of_core (fun hl => ?_) (fun _ => hne) (valveClose_ne_leak ?_) ?_ hshut
    · rwa [MainUnit.onCore_storage, waterleakFind_congr (valveLock_deviceList u)] at hl
    · rwa [valveLock_core]
    · rw [MainUnit.onCore_core, valveClose_nowEvent, valveLock_core]
      exact hi.bound
  | openValve h₀ h =>
    refine hi.of_core id (fun _ => h.ne_leak) (valveOpen_ne_leak h.ne_leak) ?_ hshut
    rw [MainUnit.onCore_core, valveOpen_nowEvent]
    exact hi.bound
  | unlockOpen h₀ h =>
    have hne : u.core.deviceStatus ≠ .slaverSensorLeak := DeviceStatus.Operable.ne_leak (Or.inl h)
    refine hi.of_core (fun hl => ?_) (fun _ => hne) (valveOpen_ne_leak ?_) ?_ hshut
    · rwa [MainUnit.onCore_storage, waterleakFind_congr (valveUnlock_deviceList u)] at hl
    · rwa [valveUnlock_core]
    · rw [MainUnit.onCore_core, valveOpen_nowEvent, valveUnlock_core]
      exact hi.bound
  | learnStart h =>
    exact hi.of_core id (fun _ => DeviceStatus.Operable.ne_leak (Or.inl h)) (by simp) hi.bound hshut
  | learnStop h =>
    refine hi.of_core id (fun _ => by rw [h]; simp) ?_ (Nat.zero_le _) hshut
    exact DeviceStatus.Operable.ne_leak (Or.inl (toDeviceStatus_idle _))
  | learnTimeout h hu =>
    have hl : aqDeviceWaterleakFind u.storage = false := hu ▸ hok h
    refine hi.of_core id (fun hl' => ?_) ?_ (Nat.zero_le _) hshut
    · rw [hl] at hl'
      cases hl'
    · exact DeviceStatus.Operable.ne_leak (Or.inl (toDeviceStatus_idle _))
  | checkStart =>
    obtain ⟨hd, hn, _⟩ := valveCheckStart_alarm u.core u.env.fullyOpen
    refine ⟨fun hl => hd.trans (hi.shown hl), fun h => ?_, ?_, hshut⟩
    · rw [MainUnit.onCore_core, hn]
      exact hi.priority (hd.symm.trans h)
    · rw [MainUnit.onCore_core, hn]
      exact hi.bound
  | disarm t =>
    obtain ⟨hd, hn, _, _, hs⟩ := disarm_alarm t u
    refine ⟨fun hl => ?_, fun h => ?_, ?_, hshut⟩
    · rw [hs] at hl
      exact hd.trans (hi.shown hl)
    · rw [hn]
      exact hi.priority (hd.symm.trans h)
    · rw [hn]
      exact hi.bound
  | turnCheckValid side =>
    rw [MainUnit.onCore] at hshut ⊢
    obtain h | ⟨h, hd⟩ := valvefailWarningDisable_cases { u.core with valveValid := true }
    · rw [h] at hshut ⊢
      exact ⟨hi.shown, hi.priority, hi.bound, hshut⟩
    · rw [h] at hshut ⊢
      refine hi.of_core id (fun _ hl => ?_) ?_ (Nat.zero_le _) hshut
      · rcases hd with hd | hd <;> (dsimp only at hd; rw [hl] at hd; cases hd)
      · exact DeviceStatus.Operable.ne_leak (Or.inl (toDeviceStatus_idle _))
  | boot => exact boot_leakInv u
  | factoryReset => exact boot_leakInv _

end

theorem LeakInv.leakSafe {s : State} (h : LeakInv s.unit) : LeakSafe s :=
  fun hl => ⟨h.shown hl, h.shut (Or.inl (h.shown hl))⟩

theorem gatewayConnectStart_core (u : MainUnit) :
    (gatewayConnectStart u).core = u.core ∧ (gatewayConnectStart u).storage = u.storage := by
  unfold gatewayConnectStart
  split
  · simp [gatewayHeartUploadPoweron]
  · exact ⟨rfl, rfl⟩

theorem radioLearnTimerCallback_spec (u : MainUnit) :
    (radioLearnTimerCallback u).core.deviceStatus.Idle ∧
      (radioLearnTimerCallback u).storage = u.storage := by
  unfold radioLearnTimerCallback
  obtain ⟨hc, hs⟩ := gatewayConnectStart_core
    (u.onCore fun c => warningAllClear { c with allowAddDevice := false })
  rw [hc, hs]
  exact ⟨toDeviceStatus_idle _, rfl⟩

/-- The learn timer's expiry hides a recorded leak. -/
theorem learnTimeout_not_leakSafe {cfg : Config} {s s' : State} {i : Env × Event}
    (hok : ¬ NoLearnTimeoutInLeak s i) (hn : (system cfg).next s i = some s') : ¬ LeakSafe s' := by
  obtain ⟨env, e⟩ := i
  obtain ⟨he, hl⟩ := not_not.1 hok
  obtain rfl : e = .timer .radioLearn := he
  obtain ⟨_, rfl⟩ := system_next_eq_some.1 hn
  obtain ⟨hidle, hs⟩ := radioLearnTimerCallback_spec (Timer.radioLearn.disarm (s.unit.begin env))
  intro hsafe
  have hleak : aqDeviceWaterleakFind
      (radioLearnTimerCallback (Timer.radioLearn.disarm (s.unit.begin env))).storage = true := by
    rw [hs]
    exact hl
  exact DeviceStatus.Operable.ne_leak (Or.inl hidle) (hsafe hleak).1

/-- **Leak safety, exactly.** In a run from power-on every state shows each
recorded leak over a shut valve if and only if the learn timer never expires
while a leak is recorded. -/
theorem leak_safety_iff (cfg : Config) (env : Env) (flash : Flash) (download : Nat → UInt8)
    (is : List (Env × Event)) :
    (system cfg).Always LeakSafe (powerOn cfg env flash download) is ↔
      (system cfg).Steps (fun s i _ => NoLearnTimeoutInLeak s i) (powerOn cfg env flash download) is := by
  refine @Machine.always_iff_steps _ _ (system cfg) (fun s => LeakInv s.unit) LeakSafe
    NoLearnTimeoutInLeak _ (boot_leakInv _) (fun s => LeakInv.leakSafe) ?_ ?_ is
  · intro s i s' hi hok hn
    refine next_keeps (fun h => ⟨h.shown, h.priority, h.bound, h.shut⟩) (fun u u' he => he.leakInv ?_) hn hi
    intro he
    exact Bool.eq_false_of_not_eq_true fun hl => hok ⟨he, hl⟩
  · intro s i s' _ hok hn
    exact learnTimeout_not_leakSafe hok hn

/-- An end unit is enrolled, which starts the learn timer, and reports a leak
before the timer expires. -/
theorem leak_safety_fails :
    ¬ ∀ (cfg : Config) (env : Env) (flash : Flash) (download : Nat → UInt8) (is : List (Env × Event)),
      (system cfg).Always LeakSafe (powerOn cfg env flash download) is := by
  intro h
  refine Machine.not_always_of_run (M := system sampleConfig) sampleStart
    [(sampleEnv, sampleFrame deviceTypeEndunit 7 [learnDeviceCmd, 1, 1]),
      (sampleEnv, sampleFrame deviceTypeEndunit 7 [warningUploadCmd, 2, 0, 1]),
      (sampleEnv, .timer .radioLearn)] ?_ (h _ _ _ _ _)
  decide +kernel

end Aqualarm
