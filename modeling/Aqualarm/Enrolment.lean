import Aqualarm.Reports

/-
  Who gets into the registry.

  What is proved: `enrolment_window_iff` — along a run a frame adds an address to
  the registry only inside the learn window exactly when, outside it, no
  unregistered sender is enrolled by a request sent to this unit, and no end of
  an update reloads an address that was not listed. The four learn handlers test
  `allow_add_device` for a broadcast request and not for an addressed one.
-/

namespace Aqualarm

open Lib

/-- An unregistered sender asks to be added, and is: there is memory and a slot. -/
structure StrangerAdded (u : MainUnit) (rx : RxFrame) : Prop where
  request : rx.AddDevice u
  unknown : ¬ Listed rx.sourceAddr u.storage
  memory : u.env.mallocDevice = true
  room : Room rx.deviceType u.storage

/-- The registry as the flash holds it. -/
def reloaded (st : Storage) : Storage := readDeviceFromFlash { st with deviceList := [], totalSlot := 0 }

/-- An update ends, and the reset it causes loads an address that is not listed:
a deletion was not stored, or a bitmap was stored with a slot no device has. -/
structure GhostLoaded (u : MainUnit) (rx : RxFrame) : Prop where
  request : rx.OtaEnd u
  ghost : ∃ a, ¬ Listed a u.storage ∧ Listed a (reloaded u.storage)

/-- An address that a frame adds is added in the learn window. -/
def AddsInWindow (s : State) (i : Env × Event) (s' : State) : Prop :=
  (∃ rssi snr data len, i.2 = .radio rssi snr data len) →
    ∀ a, ¬ Listed a s.unit.storage → Listed a s'.unit.storage → s.unit.core.allowAddDevice = true

/-- Outside the learn window no frame adds a stranger or loads a ghost. -/
def NoStranger (s : State) (i : Env × Event) : Prop :=
  s.unit.core.allowAddDevice = false → ∀ rx, i.2.Frame (s.unit.begin i.1) rx →
    ¬ StrangerAdded (s.unit.begin i.1) rx ∧ ¬ GhostLoaded (s.unit.begin i.1) rx

/-! What a reset loads. -/

theorem heartRecvClear_listed {a : UInt32} {st : Storage} :
    Listed a (aqDeviceHeartRecvClear st) ↔ Listed a st :=
  @RegOp.InPlace.listed .heartRecvClear trivial _ _

theorem listed_congr {a : UInt32} {st st' : Storage} (h : st'.deviceList = st.deviceList) :
    Listed a st' ↔ Listed a st := by
  unfold Listed
  rw [h]

theorem boot_listed {a : UInt32} {u : MainUnit} : Listed a u.boot.storage ↔ Listed a (reloaded u.storage) := by
  unfold MainUnit.boot
  dsimp only
  rw [MainUnit.onStorage_storage, heartRecvClear_listed, ← reloaded]
  unfold valveInit
  dsimp only
  split
  · exact listed_congr (warningEnable_deviceList _ _)
  · exact Iff.rfl

theorem reloaded_congr {a : UInt32} {st st' : Storage} (h : st'.flash = st.flash) :
    Listed a (reloaded st') ↔ Listed a (reloaded st) := by
  refine listed_congr ?_
  unfold reloaded readDeviceFromFlash flashGetKey
  dsimp only
  rw [h]

/-! Where a listed address comes from. -/

section
variable {u₀ u u' : MainUnit} {e : Event}

/-- Listed at the start of the event, or enrolled by it. -/
def Accounted (u₀ : MainUnit) (e : Event) (u : MainUnit) : Prop :=
  ∀ a, Listed a u.storage → Listed a u₀.storage ∨
    ∃ rx, e.Frame u₀ rx ∧ rx.AddDevice u₀ ∧ rx.sourceAddr = a ∧ u₀.env.mallocDevice = true ∧
      Room rx.deviceType u₀.storage

theorem Effect.accounted (hno : ¬ Resets u₀ e) (h : Effect u₀ e u u') (hi : Accounted u₀ e u) :
    Accounted u₀ e u' := by
  have hwarn : ∀ (w : Warning) {v : MainUnit}, (∀ a, Listed a v.storage → Listed a u.storage) →
      Accounted u₀ e (warningEnable w v) := by
    intro w v hv a ha
    exact hi a (hv a ((listed_congr (warningEnable_deviceList w v)).1 ha))
  cases h with
  | heart | send | clear | closeValve | openValve | learnStart | learnStop | learnTimeout | learnRefresh
  | delayControl | checkStart | turnBackPass | turnBackFail | turnCheckStart | turnCheckValid
  | turnCheckPass | turnCheckFail => exact hi
  | registry op hq => exact fun a ha => hi a (hq.listed ha)
  | enrol rx hf ha hu rssiLevel =>
    intro a hl
    rcases learnStorage_listed hl with hl | ⟨rfl, hm, hroom⟩
    · exact hi a hl
    · rw [hu] at hroom
      exact Or.inr ⟨rx, hf, ha, rfl, hm, hroom⟩
  | leak deviceId value =>
    exact hwarn _ fun a ha => (@RegOp.InPlace.listed (.waterleakSet deviceId value) trivial _ _).1 ha
  | lost deviceId value =>
    exact hwarn _ fun a ha => (@RegOp.InPlace.listed (.wirelostSet deviceId value) trivial _ _).1 ha
  | raise w => exact hwarn w fun _ ha => ha
  | lockClose => exact fun a ha => hi a ((listed_congr (valveLock_deviceList u)).1 ha)
  | unlockOpen => exact fun a ha => hi a ((listed_congr (valveUnlock_deviceList u)).1 ha)
  | disarm t =>
    intro a ha
    rw [(disarm_alarm t u).2.2.2.2] at ha
    exact hi a ha
  | boot h => exact absurd h hno
  | factoryReset h => exact absurd h hno

end

/-! What the learn handlers store. -/

section
variable {u : MainUnit} {rx : RxFrame}

theorem RxFrame.AddDevice.not_broadcast (h : rx.AddDevice u) :
    ¬ (rx.destAddr = 0xFFFFFFFF ∧ u.core.allowAddDevice = true) := by
  rw [h.toUnit]
  exact fun hc => u.cfg.localAddress_ne_broadcast hc.1

theorem endunitLearn_storage (ha : rx.AddDevice u) (ht : rx.deviceType = deviceTypeEndunit) :
    (radioFrameEndunitParseLearn rx u).storage =
      (learnStorage u.env.mallocDevice rx.rssiLevel rx.deviceType rx.sourceAddr u.storage).2 := by
  unfold radioFrameEndunitParseLearn
  rw [if_neg ha.not_broadcast, if_pos ha.toUnit]
  dsimp only
  rw [if_pos ha.subCommand, ht, learnStorage_node (by decide)]
  split
  · rfl
  · exact gatewayUpload_storage ..

theorem motionLearn_storage (ha : rx.AddDevice u) (ht : rx.deviceType = deviceTypeMotionSensor) :
    (radioFrameMotionParseLearn rx u).storage =
      (learnStorage u.env.mallocDevice rx.rssiLevel rx.deviceType rx.sourceAddr u.storage).2 := by
  unfold radioFrameMotionParseLearn
  rw [if_neg ha.not_broadcast, if_pos ha.toUnit]
  dsimp only
  rw [if_pos ha.subCommand, ht, learnStorage_node (by decide)]
  split
  · rfl
  · exact gatewayUpload_storage ..

theorem doorunitLearn_storage (ha : rx.AddDevice u) (ht : rx.deviceType = deviceTypeDoorunit) :
    (radioFrameDoorunitParseLearn rx u).storage =
      (learnStorage u.env.mallocDevice rx.rssiLevel rx.deviceType rx.sourceAddr u.storage).2 := by
  unfold radioFrameDoorunitParseLearn
  rw [if_neg ha.not_broadcast, if_pos ha.toUnit]
  dsimp only
  obtain ⟨ms, _, h⟩ :=
    aqDoorunitDelete_eq (radioDoorunitCommandSend (replyFrame rx learnDeviceCmd [rx.rxData 2] u) u)
  rw [if_pos ha.subCommand, ht, learnStorage_replacing (by decide), h]
  split
  · rfl
  · exact gatewayUpload_storage ..

theorem gatewayLearn_storage (ha : rx.AddDevice u) (ht : rx.deviceType = deviceTypeGateway) :
    (radioFrameGatewayParseLearn rx u).storage =
      (learnStorage u.env.mallocDevice 0 rx.deviceType rx.sourceAddr u.storage).2 := by
  unfold radioFrameGatewayParseLearn
  rw [if_neg ha.not_broadcast, if_pos ha.toUnit, if_pos ha.subCommand]
  dsimp only
  rw [ht, learnStorage_replacing (by decide)]
  split
  · rfl
  · exact radioGatewayCommandSend_storage ..

end

/-- A stranger's request lists it. -/
theorem StrangerAdded.listed {s : State} {rx : RxFrame} (h : StrangerAdded s.unit rx) :
    Listed rx.sourceAddr (radioFrameDispatch rx s).unit.storage := by
  obtain ⟨ha, hunknown, hm, hroom⟩ := h
  have hfind : aqDeviceFind rx.sourceAddr s.unit.storage = none := aqDeviceFind_eq_none.2 hunknown
  have hadds : ∀ rssiLevel, Listed rx.sourceAddr
      (learnStorage s.unit.env.mallocDevice rssiLevel rx.deviceType rx.sourceAddr s.unit.storage).2 := by
    intro rssiLevel
    rw [hm]
    exact learnStorage_adds hroom
  unfold radioFrameDispatch
  rcases ha.deviceType with ht | ht | ht | ht
  · rw [if_pos ht, State.onUnit_unit, radioFrameMotionParse]
    simp only [hfind, ha.command, if_true]
    rw [motionLearn_storage ha ht]
    exact hadds _
  · rw [if_neg (by rw [ht]; decide), if_pos ht, State.onUnit_unit, radioFrameEndunitParse]
    simp only [hfind, ha.command, if_true]
    rw [endunitLearn_storage ha ht]
    exact hadds _
  · rw [if_neg (by rw [ht]; decide), if_neg (by rw [ht]; decide), if_pos ht, State.onUnit_unit,
      radioFrameDoorunitParse]
    simp only [hfind, ha.command, if_true]
    rw [doorunitLearn_storage ha ht]
    exact hadds _
  · rw [if_neg (by rw [ht]; decide), if_neg (by rw [ht]; decide), if_neg (by rw [ht]; decide), if_pos ht,
      radioFrameGatewayParse]
    simp only [hfind, ha.command, if_true, Option.isNone_none, State.onUnit_unit]
    rw [gatewayLearn_storage ha ht]
    exact hadds _

/-- An update frame of a listed gateway: the gateway is marked, and lora_ota.c runs. -/
theorem dispatch_update {s : State} {rx : RxFrame} (ht : rx.deviceType = deviceTypeGateway)
    (hc : rx.rxData 0 = firmwareUpdateCmd) (hto : rx.destAddr = getLocalAddress s.unit)
    (hreg : (aqDeviceFind rx.sourceAddr s.unit.storage).isSome = true) :
    radioFrameDispatch rx s =
      radioFrameGatewayParseOta rx (s.onUnit (MainUnit.onStorage (aqDeviceRecvSet rx.sourceAddr 1))) := by
  obtain ⟨device, hdev⟩ := Option.isSome_iff_exists.1 hreg
  unfold radioFrameDispatch
  rw [if_neg (by rw [ht]; decide), if_neg (by rw [ht]; decide), if_neg (by rw [ht]; decide), if_pos ht,
    radioFrameGatewayParse]
  simp only [hdev, hc, (by decide : firmwareUpdateCmd ≠ learnDeviceCmd),
    (by decide : firmwareUpdateCmd ≠ controlValveCmd), (by decide : firmwareUpdateCmd ≠ deviceSyncCmd),
    (by decide : firmwareUpdateCmd ≠ confirmAckCmd), if_false, if_true, Option.isNone_some,
    Bool.false_eq_true, hto, ne_eq, not_true_eq_false]

theorem RxFrame.OtaEnd.dispatch {s : State} {rx : RxFrame} (h : rx.OtaEnd s.unit) :
    radioFrameDispatch rx s = loraOtaEnd (s.onUnit (MainUnit.onStorage (aqDeviceRecvSet rx.sourceAddr 1))) := by
  rw [dispatch_update h.deviceType h.command h.toUnit h.registered, radioFrameGatewayParseOta]
  simp only [h.subCommand, (by decide : (3 : UInt8) ≠ 1), (by decide : (3 : UInt8) ≠ 2), if_false, if_true]

/-- The end of an update leaves the registry the flash holds. -/
theorem RxFrame.OtaEnd.listed {s : State} {rx : RxFrame} (h : rx.OtaEnd s.unit) {a : UInt32} :
    Listed a (radioFrameDispatch rx s).unit.storage ↔ Listed a (reloaded s.unit.storage) := by
  rw [h.dispatch, loraOtaEnd, rtHwCpuReset, boot_listed]
  refine reloaded_congr ?_
  simp only [OtaReply.send, gatewayOtaRespEnd, State.onUnit_unit, gatewayUpload_storage]
  rfl

theorem Event.Frame.unique {u : MainUnit} {e : Event} {rx rx' : RxFrame} (h : e.Frame u rx)
    (h' : e.Frame u rx') : rx = rx' := by
  obtain ⟨_, _, _, _, rfl, _, rfl⟩ := h
  obtain ⟨_, _, _, _, he, _, rfl⟩ := h'
  cases he
  rfl

/-- A frame that is handled is dispatched. -/
theorem Event.Frame.handle {s : State} {e : Event} {rx : RxFrame} (h : e.Frame s.unit rx) :
    e.handle s = radioFrameDispatch rx s := by
  obtain ⟨rssi, snr, data, len, rfl, hacc, rfl⟩ := h
  rw [Event.handle, radioProtocolParse_eq, if_pos hacc]

/-- One step adds in the window exactly when it adds no stranger outside it. -/
theorem addsInWindow_iff {cfg : Config} {s s' : State} {i : Env × Event}
    (hn : (system cfg).next s i = some s') : AddsInWindow s i s' ↔ NoStranger s i := by
  obtain ⟨_, hs'⟩ := system_next_eq_some.1 hn
  constructor
  · intro hadds hclosed rx hf
    have hradio : ∃ rssi snr data len, i.2 = .radio rssi snr data len := by
      obtain ⟨rssi, snr, data, len, he, _⟩ := hf
      exact ⟨rssi, snr, data, len, he⟩
    have hno : ∀ a, ¬ Listed a s.unit.storage → ¬ Listed a s'.unit.storage := by
      intro a ha ha'
      rw [hadds hradio a ha ha'] at hclosed
      cases hclosed
    have hdispatch : s' = radioFrameDispatch rx (s.onUnit (MainUnit.begin i.1)) := by
      rw [← hs']
      exact Event.Frame.handle (s := s.onUnit (MainUnit.begin i.1)) hf
    constructor
    · intro hstranger
      have hl := StrangerAdded.listed (s := s.onUnit (MainUnit.begin i.1)) hstranger
      rw [← hdispatch] at hl
      exact hno _ hstranger.unknown hl
    · rintro ⟨hend, a, ha, hload⟩
      have hl := (RxFrame.OtaEnd.listed (s := s.onUnit (MainUnit.begin i.1)) hend).2 hload
      rw [← hdispatch] at hl
      exact hno a ha hl
  · intro hno hradio a ha ha'
    cases hopen : s.unit.core.allowAddDevice with
    | true => rfl
    | false =>
      exfalso
      by_cases hreset : Resets (s.unit.begin i.1) i.2
      · -- only the end of an update resets the unit in a frame's handler
        obtain ⟨rssi, snr, data, len, he⟩ := hradio
        rw [he] at hreset
        cases hreset with
        | otaEnd hf hend =>
          rw [← he] at hf
          rw [← hs', Event.Frame.handle (s := s.onUnit (MainUnit.begin i.1)) hf] at ha'
          exact (hno hopen _ hf).2
            ⟨hend, a, ha, (RxFrame.OtaEnd.listed (s := s.onUnit (MainUnit.begin i.1)) hend).1 ha'⟩
      · have hacc : Accounted (s.unit.begin i.1) i.2 s'.unit :=
          closed_of_path (P := Accounted (s.unit.begin i.1) i.2)
            (fun u u' he => he.accounted hreset) (path_next hn) fun a ha => Or.inl ha
        rcases hacc a ha' with h | ⟨rx, hf, hadd, rfl, hm, hroom⟩
        · exact ha h
        · exact (hno hopen rx hf).1 ⟨hadd, ha, hm, hroom⟩

/-- **Devices are enrolled inside the learn window, exactly when** no stranger's
addressed request is served outside it and no reload brings back an address. -/
theorem enrolment_window_iff (cfg : Config) (env : Env) (flash : Flash) (download : Nat → UInt8)
    (is : List (Env × Event)) :
    (system cfg).Steps AddsInWindow (powerOn cfg env flash download) is ↔
      (system cfg).Steps (fun s i _ => NoStranger s i) (powerOn cfg env flash download) is :=
  @Machine.steps_iff_of_inv _ _ (system cfg) (fun _ => True) _ _ _ trivial (fun _ _ _ _ _ _ => trivial)
    (fun _ _ _ _ => addsInWindow_iff) is

/-- The learn window was never opened, and a stranger becomes the gateway. -/
theorem enrolment_window_fails :
    ¬ ∀ (cfg : Config) (env : Env) (flash : Flash) (download : Nat → UInt8) (is : List (Env × Event)),
      (system cfg).Steps AddsInWindow (powerOn cfg env flash download) is := by
  intro h
  have hstep : ∃ s', (system sampleConfig).next sampleStart
        (sampleEnv, sampleFrame deviceTypeGateway 9 [learnDeviceCmd, 1, 1]) = some s' ∧
      Listed 9 s'.unit.storage := by
    refine ⟨_, rfl, ?_⟩
    decide +kernel
  obtain ⟨s', hn, hl⟩ := hstep
  have hadds := h sampleConfig sampleEnv Flash.default (fun _ => 0xFF)
    [(sampleEnv, sampleFrame deviceTypeGateway 9 [learnDeviceCmd, 1, 1])] [] _ sampleStart s'
    List.prefix_rfl rfl hn ⟨_, _, _, _, rfl⟩ 9 (by decide +kernel) hl
  exact absurd hadds (by decide +kernel)

end Aqualarm
