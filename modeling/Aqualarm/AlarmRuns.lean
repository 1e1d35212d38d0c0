import Aqualarm.AlarmHandlers

/-
  The alarms, the priority in force and the learn mode, over whole runs.

  `DeviceStatus`, `NowEvent`, `allow_add_device` and the learn timer say partly
  the same, each set in its own place. The invariants below are proved of every
  alarm step, and so of every event (`alarm_keeps`) and of every run.

  What is proved:
    1. `stale_priority_iff` — over a shown valve status each warning comes
       through, exactly where no click moved the valve under `SlaverLowPower`:
       that one path leaves the status and forgets the priority.
    2. `learn_mode_coherent` — the three signs of the learn mode agree, and its
       timeout clears no warning, where no device is added outside it and no
       warning comes up within it.
    3. `alarms_caused` — a shown alarm has its cause in the list, where no frame
       of a motion sensor, the door unit or the gateway takes the last one away.
-/

namespace Aqualarm

open Lib Relation

/-- What every alarm step keeps, an event keeps. -/
theorem alarm_keeps {cfg : Config} {P : MainUnit → Prop} {s s' : State} {i : Env × Event}
    (hbegin : P s.unit → P (s.unit.begin i.1))
    (hstep : ∀ u u', AlarmStep (s.onUnit (MainUnit.begin i.1)) i.2 u u' → P u → P u')
    (h : (system cfg).next s i = some s') (hp : P s.unit) : P s'.unit :=
  closed_of_path hstep (alarm_next h) (hbegin hp)

/-! The priority in force. -/

/-- The warnings some code raises; the other three are bound and never used. -/
def raisedWarnings : List Warning :=
  [.slaverSensorLost, .slaverLowPower, .valveLeftFail, .valveRightFail, .slaverOffline,
    .slaverUltraLowPower, .slaverSensorLeak]

/-- Where the status is the valve's, no warning is held back. -/
def NoStalePriority (s : State) : Prop :=
  (s.unit.core.deviceStatus = .valveClose ∨ s.unit.core.deviceStatus = .valveOpen) →
    ∀ w ∈ raisedWarnings, (warningEnable w s.unit).core.deviceStatus = w.status

instance : DecidablePred NoStalePriority := fun s =>
  inferInstanceAs (Decidable ((s.unit.core.deviceStatus = .valveClose ∨ s.unit.core.deviceStatus = .valveOpen) → _))

theorem Raises.mem_raisedWarnings {u : MainUnit} {e : Event} {w : Warning} (h : Raises u e w) :
    w ∈ raisedWarnings := by
  cases h with
  | lowPower | ultraLowPower | leak | lost | offline => decide
  | turnBack side | turnCheck side => cases side <;> decide

/-- The statuses under which a valve command, or the learn mode, is accepted. -/
def DeviceStatus.Calm (d : DeviceStatus) : Prop := d.Idle ∨ d = .learnDevice

/-- The reachable pairs of status and priority, as far as they matter: a calm
status has at most the lowest priority, a low battery its own, and a lost
master sensor is never shown. -/
structure StatusPriority (v : AlarmView) : Prop where
  calm : v.deviceStatus.Calm → v.nowEvent.priority ≤ 1
  lowPower : v.deviceStatus = .slaverLowPower → v.nowEvent.priority = 3
  masterSensorLost : v.deviceStatus ≠ .masterSensorLost

theorem toDeviceStatus_calm (v : ValveStatus) : v.toDeviceStatus.Calm := Or.inl (toDeviceStatus_idle v)

theorem DeviceStatus.Calm.ne_lowPower {d : DeviceStatus} (h : d.Calm) : d ≠ .slaverLowPower := by
  rintro rfl
  rcases h with (h | h | h) | h <;> cases h

theorem DeviceStatus.Calm.ne_masterSensorLost {d : DeviceStatus} (h : d.Calm) : d ≠ .masterSensorLost := by
  rintro rfl
  rcases h with (h | h | h) | h <;> cases h

theorem StatusPriority.of_calm {v : AlarmView} (h : v.deviceStatus.Calm) (hp : v.nowEvent.priority ≤ 1) :
    StatusPriority v := ⟨fun _ => hp, fun h' => absurd h' h.ne_lowPower, h.ne_masterSensorLost⟩

/-- A raised warning shows over its own priority. -/
theorem StatusPriority.of_raised {w : Warning} {v : AlarmView} (hw : w ∈ raisedWarnings)
    (hs : v.deviceStatus = w.status) (hp : v.nowEvent.priority = w.priority) : StatusPriority v := by
  have hcalm : w.status.Calm → w.priority ≤ 1 := by
    rintro ((h | h | h) | h) <;> cases w <;> first | decide | cases h
  refine ⟨fun h => ?_, fun h => ?_, fun h => ?_⟩
  · rw [hp]
    exact hcalm (hs ▸ h)
  · rw [hs] at h
    rw [hp]
    cases w <;> first | rfl | cases h
  · rw [hs] at h
    cases w <;> first | exact absurd hw (by decide) | cases h

section
variable {s₀ : State} {e : Event} {u u' : MainUnit}

theorem AlarmStep.statusPriority (hok : ¬ LowPowerClick s₀ e)
    (h₀ : s₀.unit.core.deviceStatus ≠ .masterSensorLost) (h : AlarmStep s₀ e u u')
    (hi : StatusPriority u.core.alarm) : StatusPriority u'.core.alarm := by
  cases h with
  | silent hc | forgotten hc => rwa [hc]
  | refreshed _ _ hc =>
    rw [hc]
    exact ⟨hi.calm, hi.lowPower, hi.masterSensorLost⟩
  | cleared v _ hc | learnEnded v hc =>
    rw [hc]
    exact .of_calm (toDeviceStatus_calm v) (Nat.zero_le 1)
  | raised w hr _ _ _ hc =>
    rw [hc]
    exact .of_raised hr.mem_raisedWarnings rfl rfl
  | moved v hidle hc =>
    -- the status is overwritten and the priority is not: at most that of a lost sensor
    rw [hc]
    exact .of_calm (toDeviceStatus_calm v) (hi.calm (Or.inl hidle))
  | clicked v h => exact absurd h (not_or.2 ⟨hok, h₀⟩)
  | learnStarted hidle hc =>
    rw [hc]
    exact .of_calm (Or.inr rfl) (hi.calm (Or.inl hidle))
  | booted hc =>
    rcases hc with hc | ⟨_, hc⟩
    · rw [hc]
      exact .of_calm (Or.inl (Or.inl rfl)) (Nat.zero_le 1)
    · rw [hc]
      exact @StatusPriority.of_raised .slaverSensorLeak _ (by decide) rfl rfl

end

/-- With at most the lowest priority in force, every warning comes through. -/
theorem StatusPriority.noStalePriority {s : State} (h : StatusPriority s.unit.core.alarm) : NoStalePriority s := by
  intro hd w hw
  have hcalm : s.unit.core.deviceStatus.Calm := Or.inl (hd.elim Or.inl fun h => Or.inr (Or.inl h))
  have hp : s.unit.core.nowEvent.priority ≤ 1 := h.calm hcalm
  have hlow : ∀ w ∈ raisedWarnings, 1 ≤ w.priority := by decide
  exact congrArg AlarmView.deviceStatus (warningEnable_alarm (hp.trans (hlow w hw)))

/-- Whichever way a click comes, it runs the click handler on the unit. -/
theorem Event.handle_click {s : State} {e : Event} {on : Bool} (h : e.click s = some on) :
    (e.handle s).unit = if on then keyOnClickHandle s.unit else keyOffClickHandle s.unit := by
  cases e with
  | keyOnClick =>
    cases h
    rfl
  | keyOffClick =>
    cases h
    rfl
  | modbusCoils reg usAddress usNCoils =>
    unfold Event.click mbCoilsClick at h
    unfold Event.handle mbWriteCoils
    dsimp only at h ⊢
    split at h
    · rename_i hn
      rw [if_pos hn]
      split at h
      · rename_i buf hw
        rw [hw]
        obtain rfl : decide (buf 0 &&& 1 ≠ 0) = on := Option.some.inj h
        dsimp only
        unfold mbValveSingleControlWriteCallback
        simp only [if_true, decide_eq_true_eq]
        split <;> rfl
      · cases h
    · cases h
  | modbusHolding reg usAddress usNRegs =>
    unfold Event.click mbHoldingClick at h
    unfold Event.handle mbWriteHolding
    dsimp only at h ⊢
    split at h
    · rename_i hn
      rw [if_pos hn]
      split at h
      · rename_i buf hw
        rw [hw]
        cases h
        rfl
      · cases h
    · cases h
  | _ => cases h

/-- The click leaves the low battery's priority behind a valve status. -/
theorem lowPowerClick_stale {cfg : Config} {s s' : State} {i : Env × Event}
    (hi : StatusPriority s.unit.core.alarm) (hc : LowPowerClick s i.2) (hn : (system cfg).next s i = some s') :
    ¬ NoStalePriority s' := by
  obtain ⟨env, e⟩ := i
  obtain ⟨_, rfl⟩ := system_next_eq_some.1 hn
  obtain ⟨hshown, hvalid, hmoves⟩ := hc
  have hp : s.unit.core.nowEvent.priority = 3 := hi.lowPower hshown
  suffices h : ∀ u' : MainUnit, u' = (e.handle (s.onUnit (MainUnit.begin env))).unit →
      (u'.core.deviceStatus = .valveClose ∨ u'.core.deviceStatus = .valveOpen) ∧ u'.core.nowEvent.priority = 3 by
    obtain ⟨hd, hp'⟩ := h _ rfl
    intro hno
    have hlost : (warningEnable .slaverSensorLost _).core.deviceStatus = .slaverSensorLost :=
      hno hd .slaverSensorLost (by decide)
    rw [warningEnable_dropped (by rw [hp']; decide)] at hlost
    rw [hlost] at hd
    exact absurd hd (by decide)
  rintro u' rfl
  -- the click handler does not depend on what the step begins with
  have hclick : ∀ {on}, e.click s = some on → e.click (s.onUnit (MainUnit.begin env)) = some on := fun h => h
  obtain ⟨hon, hv, hl⟩ | ⟨hoff, hv⟩ := hmoves
  · have hkey : keyOnClickHandle (s.unit.begin env) = openAndReport (s.unit.begin env) := by
      unfold keyOnClickHandle
      rw [show (s.unit.begin env).core.deviceStatus = .slaverLowPower from hshown]
      exact if_pos hv
    obtain ⟨hr, _⟩ | ⟨_, _, hok, hd, _⟩ := valveOpen_cases s.unit.core
    · exact absurd hr (by simp [hl, hvalid])
    · have hunit : (e.handle (s.onUnit (MainUnit.begin env))).unit.core = (valveOpen s.unit.core).2 := by
        rw [Event.handle_click (hclick hon), if_pos rfl]
        change (keyOnClickHandle (s.unit.begin env)).core = _
        rw [hkey]
        unfold openAndReport
        dsimp only
        split
        · exact gatewayUpload_core ..
        · rfl
      rw [hunit, hd, valveOpen_nowEvent]
      exact ⟨Or.inr rfl, hp⟩
  · have hkey : keyOffClickHandle (s.unit.begin env) = closeAndReport (s.unit.begin env) := by
      unfold keyOffClickHandle
      rw [show (s.unit.begin env).core.deviceStatus = .slaverLowPower from hshown]
      exact if_pos hv
    have hunit : (e.handle (s.onUnit (MainUnit.begin env))).unit.core = (valveClose s.unit.core).2 := by
      rw [Event.handle_click (hclick hoff), if_neg (by decide)]
      change (keyOffClickHandle (s.unit.begin env)).core = _
      rw [hkey]
      unfold closeAndReport
      dsimp only
      split
      · exact gatewayUpload_core ..
      · rfl
    have hd : (valveClose s.unit.core).2.deviceStatus = .valveClose := by
      unfold valveClose
      rw [if_neg (by simp [hvalid])]
      rfl
    rw [hunit, hd, valveClose_nowEvent]
    exact ⟨Or.inl rfl, hp⟩

theorem boot_statusPriority (u : MainUnit) : StatusPriority u.boot.core.alarm := by
  rcases boot_alarm u with h | ⟨_, h⟩
  · rw [h]
    exact .of_calm (Or.inl (Or.inl rfl)) (Nat.zero_le 1)
  · rw [h]
    exact @StatusPriority.of_raised .slaverSensorLeak _ (by decide) rfl rfl

/-- **No stale priority, exactly.** In a run from power-on every warning comes
through whenever the status is the valve's, if and only if no click moves the
valve while `SlaverLowPower` shows: `valve_open` and `valve_close` then take the
status and leave the priority. -/
theorem stale_priority_iff (cfg : Config) (env : Env) (flash : Flash) (download : Nat → UInt8)
    (is : List (Env × Event)) :
    (system cfg).Always NoStalePriority (powerOn cfg env flash download) is ↔
      (system cfg).Steps (fun s i _ => ¬ LowPowerClick s i.2) (powerOn cfg env flash download) is := by
  refine @Machine.always_iff_steps _ _ (system cfg) (fun s => StatusPriority s.unit.core.alarm) NoStalePriority
    (fun s i => ¬ LowPowerClick s i.2) _ (boot_statusPriority _) (fun _ => StatusPriority.noStalePriority) ?_ ?_ is
  · intro s i s' hi hok hn
    have hbegin : ¬ LowPowerClick (s.onUnit (MainUnit.begin i.1)) i.2 := fun hc => hok ⟨hc.shown, hc.valid, hc.moves⟩
    exact @alarm_keeps _ (fun u => StatusPriority u.core.alarm) _ _ _ (fun h => h)
      (fun _ _ h => h.statusPriority hbegin hi.masterSensorLost) hn hi
  · intro s i s' hi hok hn
    exact lowPowerClick_stale hi (not_not.1 hok) hn

/-- An end unit reports a low battery, and the valve is opened with its key. -/
theorem stale_priority_fails :
    ¬ ∀ (cfg : Config) (env : Env) (flash : Flash) (download : Nat → UInt8) (is : List (Env × Event)),
      (system cfg).Always NoStalePriority (powerOn cfg env flash download) is := by
  intro h
  refine Machine.not_always_of_run (M := system sampleConfig) sampleStart
    [(sampleEnv, sampleFrame deviceTypeEndunit 7 [learnDeviceCmd, 1, 1]),
      (sampleEnv, sampleFrame deviceTypeEndunit 7 [heartUploadCmd, 1, 1]),
      (sampleEnv, .keyOnClick)] ?_ (h _ _ _ _ _)
  decide +kernel

/-! The learn mode. -/

/-- The window, the status and the timer of the learn mode agree. -/
structure LearnCoherent (v : AlarmView) : Prop where
  window : v.allowAddDevice = true ↔ v.deviceStatus = .learnDevice
  timer : v.radioLearnTimer = true ↔ v.deviceStatus = .learnDevice

instance : DecidablePred LearnCoherent := fun v =>
  decidable_of_iff ((v.allowAddDevice = true ↔ v.deviceStatus = .learnDevice) ∧
      (v.radioLearnTimer = true ↔ v.deviceStatus = .learnDevice))
    ⟨fun h => ⟨h.1, h.2⟩, fun h => ⟨h.window, h.timer⟩⟩

/-- What parts them: a device is added outside the learn mode, or a warning comes
through within it. -/
inductive PartsLearnMode (u : MainUnit) (e : Event) : Prop
  | added (hs : u.core.deviceStatus ≠ .learnDevice) (h : AddsDevice u e)
  | warned (hs : u.core.deviceStatus = .learnDevice) (w : Warning) (h : Raises u e w)
      (hp : u.core.nowEvent.priority ≤ w.priority)

theorem LearnCoherent.off {v : AlarmView} (hw : v.allowAddDevice = false) (ht : v.radioLearnTimer = false)
    (hs : v.deviceStatus ≠ .learnDevice) : LearnCoherent v :=
  ⟨by simp [hw, hs], by simp [ht, hs]⟩

/-- Outside the learn mode nothing of it is left, so another status changes
nothing. -/
theorem LearnCoherent.elsewhere {v v' : AlarmView} (h : LearnCoherent v) (hs : v.deviceStatus ≠ .learnDevice)
    (hw : v'.allowAddDevice = v.allowAddDevice) (ht : v'.radioLearnTimer = v.radioLearnTimer)
    (hs' : v'.deviceStatus ≠ .learnDevice) : LearnCoherent v' := by
  refine .off ?_ ?_ hs'
  · rw [hw]
    exact Bool.eq_false_of_not_eq_true fun ha => hs (h.window.1 ha)
  · rw [ht]
    exact Bool.eq_false_of_not_eq_true fun ha => hs (h.timer.1 ha)

theorem Warning.status_ne_learnDevice (w : Warning) : w.status ≠ .learnDevice := by
  cases w <;> decide

theorem toDeviceStatus_ne_learnDevice (v : ValveStatus) : v.toDeviceStatus ≠ .learnDevice := by
  cases v <;> decide

theorem DeviceStatus.Idle.ne_learnDevice {d : DeviceStatus} (h : d.Idle) : d ≠ .learnDevice := by
  rintro rfl
  rcases h with h | h | h <;> cases h

section
variable {s₀ : State} {e : Event} {u u' : MainUnit}

theorem AlarmStep.learnCoherent (hok : ¬ PartsLearnMode s₀.unit e) (h : AlarmStep s₀ e u u')
    (hi : LearnCoherent u.core.alarm) : LearnCoherent u'.core.alarm := by
  cases h with
  | silent hc | forgotten hc => rwa [hc]
  | cleared v hs hc =>
    rw [hc]
    exact hi.elsewhere hs rfl rfl (toDeviceStatus_ne_learnDevice v)
  | raised w hr hs hn hp hc =>
    rw [hc]
    refine hi.elsewhere (fun hl => hok (.warned (hs.symm.trans hl) w hr ?_)) rfl rfl w.status_ne_learnDevice
    rwa [← hn]
  | moved v hidle hc =>
    rw [hc]
    exact hi.elsewhere hidle.ne_learnDevice rfl rfl (toDeviceStatus_ne_learnDevice v)
  | clicked v h hu hc =>
    rw [hc]
    refine hi.elsewhere (fun hl => ?_) rfl rfl (toDeviceStatus_ne_learnDevice v)
    have hl' : s₀.unit.core.deviceStatus = .learnDevice := hu ▸ hl
    rcases h with h | h
    · rw [h.shown] at hl'
      cases hl'
    · rw [h] at hl'
      cases hl'
  | learnStarted _ hc =>
    rw [hc]
    exact ⟨iff_of_true rfl rfl, iff_of_true rfl rfl⟩
  | learnEnded v hc =>
    rw [hc]
    exact .off rfl rfl (toDeviceStatus_ne_learnDevice v)
  | refreshed h hs hc =>
    -- in the learn mode the timer is armed already
    have hl : u.core.deviceStatus = .learnDevice :=
      hs.trans (by_contra fun hne => hok (.added hne h))
    rw [hc]
    exact ⟨hi.window, iff_of_true rfl hl⟩
  | booted hc =>
    rcases hc with hc | ⟨_, hc⟩ <;> rw [hc] <;> exact .off rfl rfl (by decide)

end

theorem boot_learnCoherent (u : MainUnit) : LearnCoherent u.boot.core.alarm := by
  rcases boot_alarm u with h | ⟨_, h⟩ <;> rw [h] <;> exact .off rfl rfl (by decide)

/-- The learn timer only expires in the learn mode. -/
def TimesOutInLearnMode (s : State) (i : Env × Event) : Prop :=
  i.2 = .timer .radioLearn → s.unit.core.deviceStatus = .learnDevice

/-- **Learn-mode coherence.** In a run from power-on that adds no device outside
the learn mode, and in which no warning comes through within it, the window, the
status and the timer agree in every state, and so the timeout clears no warning. -/
theorem learn_mode_coherent (cfg : Config) (env : Env) (flash : Flash) (download : Nat → UInt8)
    (is : List (Env × Event))
    (hok : (system cfg).Steps (fun s i _ => ¬ PartsLearnMode (s.unit.begin i.1) i.2)
      (powerOn cfg env flash download) is) :
    (system cfg).Always (fun s => LearnCoherent s.unit.core.alarm) (powerOn cfg env flash download) is ∧
      (system cfg).Steps (fun s i _ => TimesOutInLearnMode s i) (powerOn cfg env flash download) is := by
  have halways : (system cfg).Always (fun s => LearnCoherent s.unit.core.alarm) (powerOn cfg env flash download) is := by
    refine @Machine.always_of_steps _ _ (system cfg) (fun s => LearnCoherent s.unit.core.alarm)
      (fun s i _ => ¬ PartsLearnMode (s.unit.begin i.1) i.2) _ (boot_learnCoherent _) ?_ _ hok
    intro s i s' hi hok hn
    exact @alarm_keeps _ (fun u => LearnCoherent u.core.alarm) _ _ _ (fun h => h)
      (fun _ _ h => h.learnCoherent hok) hn hi
  refine ⟨halways, fun pre i s₁ s₂ hpre hr hn he => ?_⟩
  have hcoh := halways pre s₁ ((List.prefix_append _ _).trans hpre) hr
  obtain ⟨henabled, _⟩ := system_next_eq_some.1 hn
  rw [he] at henabled
  exact hcoh.timer.1 (Bool.and_eq_true_iff.1 henabled).2

/-- Entering the learn mode with its key. -/
theorem learn_mode_coherent_key :
    (system sampleConfig).Always (fun s => LearnCoherent s.unit.core.alarm) sampleStart
        (List.replicate 5 (sampleEnv, .keyOffLongHold)) ∧
      (system sampleConfig).Steps (fun s i _ => TimesOutInLearnMode s i) sampleStart
        (List.replicate 5 (sampleEnv, .keyOffLongHold)) := by
  refine learn_mode_coherent sampleConfig sampleEnv Flash.default (fun _ => 0xFF)
    (List.replicate 5 (sampleEnv, .keyOffLongHold)) fun pre i s₁ s₂ hpre _ _ h => ?_
  have hi : i = (sampleEnv, .keyOffLongHold) :=
    List.eq_of_mem_replicate (hpre.subset (List.mem_append_right _ (List.mem_singleton.2 rfl)))
  subst hi
  cases h with
  | added _ h =>
    obtain ⟨rx, ⟨rssi, snr, data, len, he, _⟩, _⟩ := h
    cases he
  | warned _ w h =>
    cases h with
    | lowPower hf | ultraLowPower hf | leak hf | lost hf =>
      obtain ⟨rssi, snr, data, len, he, _⟩ := hf
      cases he
    | offline he | turnBack _ he | turnCheck _ he => cases he

/-- An end unit is enrolled, and the unit is not in the learn mode. -/
theorem learn_mode_coherent_fails :
    ¬ ∀ (cfg : Config) (env : Env) (flash : Flash) (download : Nat → UInt8) (is : List (Env × Event)),
      (system cfg).Always (fun s => LearnCoherent s.unit.core.alarm) (powerOn cfg env flash download) is := by
  intro h
  refine Machine.not_always_of_run (M := system sampleConfig) sampleStart
    [(sampleEnv, sampleFrame deviceTypeEndunit 7 [learnDeviceCmd, 1, 1])] ?_ (h _ _ _ _ _)
  decide +kernel

/-! Alarms and their causes. -/

/-- A shown alarm has a cause in the list. -/
def Caused (u : MainUnit) : Prop := ∀ a : Alarm, u.core.deviceStatus = a.status → a.find u.storage = true

/-- The devices of the list that a frame leaves there. A request to add takes those
it replaces, the gateway's delete command the first of the id it names. -/
def RxFrame.leaves (rx : RxFrame) (u : MainUnit) : List Device :=
  if rx.rxData 0 = learnDeviceCmd ∧ rx.rxData 2 = 1 ∧ rx.destAddr = getLocalAddress u then
    u.storage.staying rx.deviceType
  else if rx.deviceType = deviceTypeGateway ∧ Listed rx.sourceAddr u.storage ∧ rx.destAddr = getLocalAddress u ∧
      rx.rxData 0 = deviceSyncCmd ∧ rx.rxData 2 = 1 then
    u.storage.deviceList.eraseP fun d => d.deviceId = rx.word
  else u.storage.deviceList

/-- The frame ends that the device is offline: it is heard. -/
def RxFrame.Hears (rx : RxFrame) (u : MainUnit) (d : Device) : Prop :=
  rx.deviceType ≠ deviceTypeGateway ∧ Listed rx.sourceAddr u.storage ∧ rx.destAddr = getLocalAddress u ∧
    d.deviceId = rx.sourceAddr

/-- A frame of a motion sensor, the door unit or the gateway takes the last cause
of the alarm that shows: no device with one stays listed, but those offline that
are heard. -/
def TakesCause (u : MainUnit) (e : Event) : Prop :=
  ∃ rx, e.Frame u rx ∧ (rx.deviceType = deviceTypeMotionSensor ∨ rx.deviceType = deviceTypeDoorunit ∨
    rx.deviceType = deviceTypeGateway) ∧
    ∃ a : Alarm, u.core.deviceStatus = a.status ∧
      ∀ d ∈ rx.leaves u, a.caused d = true → a = .offline ∧ rx.Hears u d

/-- A device that is heard causes all but the offline alarm. -/
theorem heardDevice_caused_iff {a : Alarm} {rx : RxFrame} {d : Device} :
    a.caused (heardDevice rx d) = true ↔ a.caused d = true ∧ ¬ (a = .offline ∧ d.deviceId = rx.sourceAddr) := by
  unfold heardDevice
  split
  · rename_i hid
    cases a <;> simp [Alarm.caused, hid]
  · rename_i hid
    simp [hid]

/-- The causes in the learnt registry are those of the devices that stay. -/
theorem learnedRegistry_any {rx : RxFrame} {u : MainUnit} {p : Device → Bool}
    (hp : ∀ slot, p (newDevice slot rx.rssiLevel rx.deviceType rx.sourceAddr) = false) :
    (learnedRegistry rx u).deviceList.any p =
      (if rx.rxData 0 = learnDeviceCmd ∧ rx.rxData 2 = 1 ∧ rx.destAddr = getLocalAddress u then
        u.storage.staying rx.deviceType else u.storage.deviceList).any p := by
  unfold learnedRegistry
  split
  · rw [learnStorage, any_create hp, replaceByType_deviceList]
  · rfl

/-- What the registry then holds tells a frame that takes the last cause. -/
theorem frameRegistry_find_iff {rx : RxFrame} {u : MainUnit} {a : Alarm} :
    a.find (frameRegistry rx u) = true ↔ ∃ d ∈ rx.leaves u, a.caused d = true ∧ ¬ (a = .offline ∧ rx.Hears u d) := by
  have hnew := fun slot => a.caused_newDevice slot rx.rssiLevel rx.deviceType rx.sourceAddr
  unfold frameRegistry
  by_cases hskip : aqDeviceFind rx.sourceAddr u.storage = none ∨ rx.destAddr ≠ getLocalAddress u
  · -- the frame goes no further than its learn part
    have hnot : ¬ (Listed rx.sourceAddr u.storage ∧ rx.destAddr = getLocalAddress u) := by
      rintro ⟨hl, hto⟩
      exact hskip.elim (fun hnone => aqDeviceFind_eq_none.1 hnone hl) fun hne => hne hto
    have hleaves : rx.leaves u =
        if rx.rxData 0 = learnDeviceCmd ∧ rx.rxData 2 = 1 ∧ rx.destAddr = getLocalAddress u then
          u.storage.staying rx.deviceType
        else u.storage.deviceList := by
      unfold RxFrame.leaves
      rw [if_neg (c := _ ∧ _ ∧ _ ∧ _ ∧ _) fun h => hnot ⟨h.2.1, h.2.2.1⟩]
    have hheard : ∀ d, ¬ rx.Hears u d := fun d h => hnot ⟨h.2.1, h.2.2.1⟩
    rw [if_pos hskip, Alarm.find_eq_any, learnedRegistry_any hnew, ← hleaves, List.any_eq_true]
    exact exists_congr fun d => and_congr_right fun _ => (and_iff_left fun h => hheard d h.2).symm
  · obtain ⟨hfound, hto⟩ := not_or.1 hskip
    rw [not_not] at hto
    have hl : Listed rx.sourceAddr u.storage := by
      by_contra hl
      exact hfound (aqDeviceFind_eq_none.2 hl)
    rw [if_neg hskip]
    by_cases hg : rx.deviceType = deviceTypeGateway
    · -- the gateway's frames bring no device online
      have hheard : ∀ d, ¬ rx.Hears u d := fun d h => h.1 hg
      have hfind : ∀ l : List Device,
          l.any a.caused = true ↔ ∃ d ∈ l, a.caused d = true ∧ ¬ (a = .offline ∧ rx.Hears u d) := by
        intro l
        rw [List.any_eq_true]
        exact exists_congr fun d => and_congr_right fun _ => (and_iff_left fun h => hheard d h.2).symm
      rw [if_pos hg, ← hfind]
      split
      · rename_i hsync
        have hnolearn : ¬ (rx.rxData 0 = learnDeviceCmd ∧ rx.rxData 2 = 1 ∧ rx.destAddr = getLocalAddress u) :=
          fun h => absurd (hsync.1.symm.trans h.1) (by decide)
        rw [RxFrame.leaves, if_neg hnolearn, if_pos ⟨hg, hl, hto, hsync⟩, Alarm.find_eq_any, aqDeviceDelete_deviceList]
      · rename_i hsync
        rw [Alarm.find_eq_any, learnedRegistry_any hnew, RxFrame.leaves]
        simp only [hsync, and_false, if_false]
    · -- a node: what is left of the learn part is heard under the source's id
      have hheard : ∀ d, rx.Hears u d ↔ d.deviceId = rx.sourceAddr :=
        fun d => ⟨fun h => h.2.2.2, fun h => ⟨hg, hl, hto, h⟩⟩
      have hnew' : ∀ slot, a.caused (heardDevice rx (newDevice slot rx.rssiLevel rx.deviceType rx.sourceAddr)) = false :=
        fun slot => Bool.eq_false_of_not_eq_true fun h =>
          absurd ((hnew slot).symm.trans (heardDevice_caused_iff.1 h).1) Bool.false_ne_true
      rw [if_neg hg, Alarm.find_heartRecv, learnedRegistry_any hnew', RxFrame.leaves]
      simp only [hg, false_and, if_false, List.any_eq_true, heardDevice_caused_iff, hheard]

theorem Caused.of_no_alarm {u : MainUnit} (h : ∀ a : Alarm, u.core.deviceStatus ≠ a.status) : Caused u :=
  fun a ha => absurd ha (h a)

section
variable {s₀ : State} {e : Event} {u u' : MainUnit}

theorem AlarmStep.caused (hok : ¬ TakesCause s₀.unit e) (h : AlarmStep s₀ e u u') (hi : Caused u) : Caused u' := by
  have hstatus : ∀ {v : AlarmView}, u'.core.alarm = v → u'.core.deviceStatus = v.deviceStatus :=
    fun hc => congrArg AlarmView.deviceStatus hc
  cases h with
  | silent hc hk =>
    intro a ha
    exact hk a ha (hi a ((hstatus hc).symm.trans ha))
  | forgotten hc hf hs =>
    intro a ha
    obtain ⟨rx, hf, ht, hfind⟩ := hf
    rw [hfind a]
    refine by_contra fun hlost => hok ⟨rx, hf, ht, a, hs.symm.trans ((hstatus hc).symm.trans ha), fun d hd hcause => ?_⟩
    exact by_contra fun hheard => hlost (frameRegistry_find_iff.2 ⟨d, hd, hcause, hheard⟩)
  | refreshed _ _ hc hk =>
    intro a ha
    exact hk a ha (hi a ((hstatus hc).symm.trans ha))
  | cleared v _ hc | moved v _ hc | clicked v _ _ hc | learnEnded v hc =>
    refine .of_no_alarm fun a => ?_
    rw [hstatus hc]
    exact toDeviceStatus_no_alarm v a
  | raised w _ _ _ _ hc hf =>
    intro a ha
    exact hf a ((hstatus hc).symm.trans ha)
  | learnStarted _ hc =>
    refine .of_no_alarm fun a => ?_
    rw [hstatus hc]
    cases a <;> simp [Alarm.status]
  | booted hc =>
    rcases hc with hc | ⟨hleak, hc⟩
    · refine .of_no_alarm fun a => ?_
      rw [hstatus hc]
      exact toDeviceStatus_no_alarm .valveStatusClose a
    · intro a ha
      rw [hstatus hc] at ha
      cases a with
      | leak => exact hleak
      | lost | offline => cases ha

end

theorem boot_caused (u : MainUnit) : Caused u.boot := by
  intro a ha
  rcases boot_alarm u with h | ⟨hleak, h⟩
  · rw [show u.boot.core.deviceStatus = _ from congrArg AlarmView.deviceStatus h] at ha
    exact absurd ha (toDeviceStatus_no_alarm .valveStatusClose a)
  · rw [show u.boot.core.deviceStatus = _ from congrArg AlarmView.deviceStatus h] at ha
    cases a with
    | leak => exact hleak
    | lost | offline => cases ha

instance : DecidablePred Caused := fun u =>
  decidable_of_iff ((u.core.deviceStatus = Alarm.leak.status → Alarm.leak.find u.storage = true) ∧
      (u.core.deviceStatus = Alarm.lost.status → Alarm.lost.find u.storage = true) ∧
      (u.core.deviceStatus = Alarm.offline.status → Alarm.offline.find u.storage = true))
    ⟨fun h a => by
      cases a with
      | leak => exact h.1
      | lost => exact h.2.1
      | offline => exact h.2.2,
    fun h => ⟨h .leak, h .lost, h .offline⟩⟩

/-- **No alarm without a cause.** In a run from power-on in which no frame of a
motion sensor, the door unit or the gateway takes the last cause of the alarm
that shows, every alarm that shows has a cause. -/
theorem alarms_caused (cfg : Config) (env : Env) (flash : Flash) (download : Nat → UInt8) (is : List (Env × Event))
    (hok : (system cfg).Steps (fun s i _ => ¬ TakesCause (s.unit.begin i.1) i.2)
      (powerOn cfg env flash download) is) :
    (system cfg).Always (fun s => Caused s.unit) (powerOn cfg env flash download) is := by
  refine @Machine.always_of_steps _ _ (system cfg) (fun s => Caused s.unit)
    (fun s i _ => ¬ TakesCause (s.unit.begin i.1) i.2) _ (boot_caused _) ?_ _ hok
  intro s i s' hi hok hn
  have hbegin : Caused (s.unit.begin i.1) := fun a ha => by
    have hfind : a.find (s.unit.begin i.1).storage = a.find s.unit.storage := a.find_congr rfl
    exact hfind.trans (hi a ha)
  exact alarm_keeps (fun _ => hbegin) (fun _ _ h => h.caused hok) hn hi

/-- An end unit is enrolled and reports a leak. -/
theorem alarms_caused_leak :
    (system sampleConfig).Always (fun s => Caused s.unit) sampleStart
      [(sampleEnv, sampleFrame deviceTypeEndunit 7 [learnDeviceCmd, 1, 1]),
        (sampleEnv, sampleFrame deviceTypeEndunit 7 [warningUploadCmd, 2, 0, 1])] := by
  refine alarms_caused sampleConfig sampleEnv Flash.default (fun _ => 0xFF) _ fun pre i s₁ s₂ hpre _ _ h => ?_
  have hi : i ∈ [(sampleEnv, sampleFrame deviceTypeEndunit 7 [learnDeviceCmd, 1, 1]),
      (sampleEnv, sampleFrame deviceTypeEndunit 7 [warningUploadCmd, 2, 0, 1])] :=
    hpre.subset (List.mem_append_right _ (List.mem_singleton.2 rfl))
  obtain ⟨rx, ⟨rssi, snr, data, len, he, _, rfl⟩, ht, _⟩ := h
  simp only [List.mem_cons, List.not_mem_nil, or_false] at hi
  have htype : (data 2 &&& 0x78) >>> 3 = deviceTypeEndunit := by
    rcases hi with rfl | rfl <;> cases he <;> rfl
  rcases ht with ht | ht | ht <;> exact absurd (htype.symm.trans ht) (by decide)

/-- An end unit is enrolled and reports a leak, a gateway is registered, and the
gateway deletes the end unit. -/
theorem alarms_caused_fails :
    ¬ ∀ (cfg : Config) (env : Env) (flash : Flash) (download : Nat → UInt8) (is : List (Env × Event)),
      (system cfg).Always (fun s => Caused s.unit) (powerOn cfg env flash download) is := by
  intro h
  refine Machine.not_always_of_run (M := system sampleConfig) sampleStart
    [(sampleEnv, sampleFrame deviceTypeEndunit 7 [learnDeviceCmd, 1, 1]),
      (sampleEnv, sampleFrame deviceTypeEndunit 7 [warningUploadCmd, 2, 0, 1]),
      (sampleEnv, sampleFrame deviceTypeGateway 9 [learnDeviceCmd, 1, 1]),
      (sampleEnv, sampleFrame deviceTypeGateway 9 [deviceSyncCmd, 5, 1, 0, 0, 0, 7])] ?_ (h _ _ _ _ _)
  decide +kernel

end Aqualarm
