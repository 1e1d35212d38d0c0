import Aqualarm.Frames

/-
  Which received frames reach a handler.

  What is proved: `frame_accepted_iff` — `radio_protocol_parse` hands a frame to
  a device-type handler exactly when its header is well formed, except that the
  version is not looked at: a frame of version 0 with everything else in order
  is handled. A frame that is not handed over changes nothing.
-/

namespace Aqualarm

/-! The handlers. -/

/-- The device-type handlers. -/
inductive Handler where
  | motion | endunit | doorunit | gateway | factory
  deriving DecidableEq, Repr

def Handler.parse : Handler → RxFrame → State → State
  | .motion, rx => State.onUnit (radioFrameMotionParse rx)
  | .endunit, rx => State.onUnit (radioFrameEndunitParse rx)
  | .doorunit, rx => State.onUnit (radioFrameDoorunitParse rx)
  | .gateway, rx => radioFrameGatewayParse rx
  | .factory, rx => radioFrameFactoryParse rx

/-- The `switch` on `rx_frame.device_type`. -/
def handlerOf (deviceType : UInt8) : Option Handler :=
  if deviceType = deviceTypeMotionSensor then some .motion
  else if deviceType = deviceTypeEndunit then some .endunit
  else if deviceType = deviceTypeDoorunit then some .doorunit
  else if deviceType = deviceTypeGateway then some .gateway
  else if deviceType = deviceTypeFactoryTool then some .factory
  else none

theorem radioFrameDispatch_eq (rx : RxFrame) (s : State) :
    radioFrameDispatch rx s =
      match handlerOf rx.deviceType with
      | some handler => handler.parse rx s
      | none => s := by
  unfold radioFrameDispatch handlerOf
  split_ifs <;> rfl

/-- The handler `radio_protocol_parse` hands the buffer to. -/
def handedTo (cfg : Config) (data : Nat → UInt8) (len : Nat) : Option Handler :=
  if len < 14 then none
  else if data 0 ≠ frameStart then none
  else if data 1 >>> 4 ≠ netRegionSelect then none
  else if data 1 &&& (if 0x0F < networkVersion then 1 else 0) ≠ 0 then none
  else if data (len - 1) ≠ cfg.crc ((List.range (len - 1)).map data) then none
  else handlerOf ((data 2 &&& 0x78) >>> 3)

/-- What the parser does is what the handler does, or nothing. -/
theorem radioProtocolParseOn_handed (stackSnr : Int8) (rssi snr : Int) (data : Nat → UInt8) (len : Nat)
    (s : State) :
    radioProtocolParseOn stackSnr rssi snr data len s =
      match handedTo s.unit.cfg data len with
      | some handler => handler.parse (rxFrameOf stackSnr rssi data len) s
      | none => s := by
  unfold radioProtocolParseOn handedTo
  rw [radioFrameDispatch_eq]
  split_ifs <;> rfl

/-! The header. -/

/-- A well-formed header: start byte, region and version in the two halves of the
second byte, a known device type in bits 3 to 6 of the third, and the CRC of all
before it in the last. -/
structure HeaderGrammar (crc : List UInt8 → UInt8) (data : Nat → UInt8) (len : Nat) : Prop where
  length : 14 ≤ len
  start : data 0 = frameStart
  region : (data 1).toNat / 16 = netRegionSelect.toNat
  version : networkVersion.toNat ≤ (data 1).toNat % 16
  check : data (len - 1) = crc ((List.range (len - 1)).map data)
  deviceType : (data 2).toNat / 8 % 16 = deviceTypeMotionSensor.toNat ∨
    (data 2).toNat / 8 % 16 = deviceTypeEndunit.toNat ∨ (data 2).toNat / 8 % 16 = deviceTypeDoorunit.toNat ∨
    (data 2).toNat / 8 % 16 = deviceTypeGateway.toNat ∨ (data 2).toNat / 8 % 16 = deviceTypeFactoryTool.toNat

/-- Everything but the version is in order, and the version is too low. -/
structure VersionTooLow (crc : List UInt8 → UInt8) (data : Nat → UInt8) (len : Nat) : Prop where
  length : 14 ≤ len
  start : data 0 = frameStart
  region : data 1 >>> 4 = netRegionSelect
  version : data 1 &&& 0x0F < networkVersion
  check : data (len - 1) = crc ((List.range (len - 1)).map data)
  deviceType : (handlerOf ((data 2 &&& 0x78) >>> 3)).isSome = true

/-! The bit fields. -/

theorem shiftRight_four_iff (b c : UInt8) : b >>> 4 = c ↔ b.toNat / 16 = c.toNat := by
  rw [← UInt8.toNat_inj, UInt8.toNat_shiftRight, show UInt8.toNat 4 % 8 = 4 from rfl,
    Nat.shiftRight_eq_div_pow]

theorem and_low_lt_iff (b c : UInt8) : b &&& 0x0F < c ↔ b.toNat % 16 < c.toNat := by
  rw [UInt8.lt_iff_toNat_lt, UInt8.toNat_and]
  exact Iff.of_eq (congrArg (· < c.toNat) (Nat.and_two_pow_sub_one_eq_mod b.toNat 4))

theorem deviceTypeField_toNat (b : UInt8) : ((b &&& 0x78) >>> 3).toNat = b.toNat / 8 % 16 := by
  have hall : ∀ n : Fin 256, ((UInt8.ofNat n &&& 0x78) >>> 3).toNat = n.val / 8 % 16 := by decide +kernel
  have hb := hall ⟨b.toNat, b.toNat_lt⟩
  rwa [UInt8.ofNat_toNat] at hb

theorem handlerOf_isSome (deviceType : UInt8) :
    (handlerOf deviceType).isSome = true ↔
      deviceType = deviceTypeMotionSensor ∨ deviceType = deviceTypeEndunit ∨ deviceType = deviceTypeDoorunit ∨
        deviceType = deviceTypeGateway ∨ deviceType = deviceTypeFactoryTool := by
  unfold handlerOf
  split_ifs with h₁ h₂ h₃ h₄ h₅
  · exact iff_of_true rfl (Or.inl h₁)
  · exact iff_of_true rfl (Or.inr (Or.inl h₂))
  · exact iff_of_true rfl (Or.inr (Or.inr (Or.inl h₃)))
  · exact iff_of_true rfl (Or.inr (Or.inr (Or.inr (Or.inl h₄))))
  · exact iff_of_true rfl (Or.inr (Or.inr (Or.inr (Or.inr h₅))))
  · refine iff_of_false (by simp) ?_
    rintro (h | h | h | h | h)
    exacts [h₁ h, h₂ h, h₃ h, h₄ h, h₅ h]

theorem handlerOf_gateway {deviceType : UInt8} (h : handlerOf deviceType = some .gateway) :
    deviceType = deviceTypeGateway := by
  unfold handlerOf at h
  split_ifs at h
  any_goals cases h
  assumption

section
variable {cfg : Config} {data : Nat → UInt8} {len : Nat}

/-- `data[1] & 0x0F < NETWORK_VERSION` compares 0x0F with the version: the guard
never fires. -/
theorem version_guard_vacuous (b : UInt8) : b &&& (if 0x0F < networkVersion then 1 else 0) = 0 := by
  rw [if_neg (by decide)]
  exact UInt8.and_zero

theorem handedTo_isSome :
    (handedTo cfg data len).isSome = true ↔
      14 ≤ len ∧ data 0 = frameStart ∧ data 1 >>> 4 = netRegionSelect ∧
        data (len - 1) = cfg.crc ((List.range (len - 1)).map data) ∧
        (handlerOf ((data 2 &&& 0x78) >>> 3)).isSome = true := by
  unfold handedTo
  rw [version_guard_vacuous, if_neg (not_not.2 rfl)]
  split_ifs with h₁ h₂ h₃ h₄
  · exact iff_of_false (by simp) fun h => absurd h.1 (by omega)
  · exact iff_of_false (by simp) fun h => h₂ h.2.1
  · exact iff_of_false (by simp) fun h => h₃ h.2.2.1
  · exact iff_of_false (by simp) fun h => h₄ h.2.2.2.1
  · exact ⟨fun h => ⟨by omega, not_not.1 h₂, not_not.1 h₃, not_not.1 h₄, h⟩, fun h => h.2.2.2.2⟩

/-- A frame is handed over when its header is well formed or only its version is
wrong. -/
theorem handedTo_isSome_iff :
    (handedTo cfg data len).isSome = true ↔
      HeaderGrammar cfg.crc data len ∨ VersionTooLow cfg.crc data len := by
  have htype : (handlerOf ((data 2 &&& 0x78) >>> 3)).isSome = true ↔
      (data 2).toNat / 8 % 16 = deviceTypeMotionSensor.toNat ∨
        (data 2).toNat / 8 % 16 = deviceTypeEndunit.toNat ∨ (data 2).toNat / 8 % 16 = deviceTypeDoorunit.toNat ∨
        (data 2).toNat / 8 % 16 = deviceTypeGateway.toNat ∨
        (data 2).toNat / 8 % 16 = deviceTypeFactoryTool.toNat := by
    rw [handlerOf_isSome, ← deviceTypeField_toNat]
    simp only [UInt8.toNat_inj]
  rw [handedTo_isSome]
  constructor
  · rintro ⟨hlen, hstart, hregion, hcheck, hhandler⟩
    by_cases hversion : data 1 &&& 0x0F < networkVersion
    · exact Or.inr ⟨hlen, hstart, hregion, hversion, hcheck, hhandler⟩
    · rw [and_low_lt_iff, Nat.not_lt] at hversion
      exact Or.inl ⟨hlen, hstart, (shiftRight_four_iff _ _).1 hregion, hversion, hcheck, htype.1 hhandler⟩
  · rintro (h | h)
    · exact ⟨h.length, h.start, (shiftRight_four_iff _ _).2 h.region, h.check, htype.2 h.deviceType⟩
    · exact ⟨h.length, h.start, h.region, h.check, h.deviceType⟩

theorem VersionTooLow.not_grammar (h : VersionTooLow cfg.crc data len) : ¬ HeaderGrammar cfg.crc data len :=
  fun hg => absurd ((and_low_lt_iff _ _).1 h.version) (Nat.not_lt.2 hg.version)

end

/-! Acceptance. -/

/-- The frame is handed over exactly when its header is well formed: the parser then
does what that handler does, and with a frame that is not handed over it changes no
state and sends nothing. -/
structure AcceptedAsWellFormed (stackSnr : Int8) (rssi snr : Int) (data : Nat → UInt8) (len : Nat) (s : State) :
    Prop where
  accepted : (handedTo s.unit.cfg data len).isSome = true ↔ HeaderGrammar s.unit.cfg.crc data len
  handled : ∀ handler, handedTo s.unit.cfg data len = some handler →
    radioProtocolParseOn stackSnr rssi snr data len s = handler.parse (rxFrameOf stackSnr rssi data len) s
  rejected : handedTo s.unit.cfg data len = none → radioProtocolParseOn stackSnr rssi snr data len s = s

/-- **Frames are accepted by their header** except for its version. -/
theorem frame_accepted_iff (stackSnr : Int8) (rssi snr : Int) (data : Nat → UInt8) (len : Nat) (s : State) :
    AcceptedAsWellFormed stackSnr rssi snr data len s ↔ ¬ VersionTooLow s.unit.cfg.crc data len := by
  have hhanded := radioProtocolParseOn_handed stackSnr rssi snr data len s
  constructor
  · intro h hlow
    exact hlow.not_grammar (h.accepted.1 (handedTo_isSome_iff.2 (Or.inr hlow)))
  · intro h
    exact
      { accepted := handedTo_isSome_iff.trans (or_iff_left h)
        handled := fun handler hhandler => by rw [hhanded, hhandler]
        rejected := fun hnone => by rw [hhanded, hnone] }

/-- A version 0 frame: the end unit is enrolled by it. -/
def versionZeroFrame : List UInt8 :=
  let body := [frameStart, netRegionSelect <<< 4, deviceTypeEndunit <<< 3 ||| msgConfirmedUplink] ++
    beBytes sampleConfig.localAddress ++ beBytes 7 ++ [learnDeviceCmd, 1, 1]
  body ++ [crc8 body]

theorem frame_accepted_fails :
    ¬ AcceptedAsWellFormed 0 (-60) 5 (versionZeroFrame.getD · 0) versionZeroFrame.length sampleStart ∧
      (radioProtocolParseOn 0 (-60) 5 (versionZeroFrame.getD · 0) versionZeroFrame.length
        sampleStart).unit.storage.deviceList.length = 1 := by
  constructor
  · intro h
    have hversion := (h.accepted.1 (by decide +kernel)).version
    exact absurd hversion (by decide +kernel)
  · decide +kernel

end Aqualarm
