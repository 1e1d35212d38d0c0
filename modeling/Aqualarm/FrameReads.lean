import Aqualarm.OtaSessions
import Aqualarm.RegistryInvariant

/-
  What the handlers read of a received frame.

  What is proved: `RxFrame.Covered.dispatch_withTail` — a frame that is `Covered`
  (long enough for the bytes its handler uses, or handled in a state in which
  they make no difference) has the same effect whatever lies behind it.

  The length is checked once, against 14. The handlers then index `rx_data` up to
  8, and the update handler from there as far as the frame's own size byte says.
-/

namespace Aqualarm

open Lib

/-! The property. -/

/-- What a frame can change or send: registry, flash, valve and warnings,
update, factory test, and the frames enqueued. -/
structure Outcome where
  deviceList : List Device
  totalSlot : BitVec 32
  flash : Flash
  core : Core
  ota : Ota
  factory : Factory
  tx : List SendMsg

def State.outcome (s : State) : Outcome :=
  { deviceList := s.unit.storage.deviceList, totalSlot := s.unit.storage.totalSlot
    flash := s.unit.storage.flash, core := s.unit.core, ota := s.ota, factory := s.factory, tx := s.unit.tx }

/-- The first `len` bytes decide what the buffer does, under any environment, on
a unit that takes frames. -/
def Determined (s : State) (rssi snr : Int) (data : Nat → UInt8) (len : Nat) : Prop :=
  (Event.radio rssi snr data len).enabled s = true →
  ∀ (env : Env) (stackSnr stackSnr' : Int8) (data' : Nat → UInt8), (∀ i, i < len → data' i = data i) →
    (radioProtocolParseOn stackSnr' rssi snr data' len (s.onUnit (MainUnit.begin env))).outcome =
      (radioProtocolParseOn stackSnr rssi snr data len (s.onUnit (MainUnit.begin env))).outcome

/-- The frame with something else behind it and in the field that is not set. -/
def RxFrame.withTail (rx : RxFrame) (snr : Int8) (tail : Nat → UInt8) : RxFrame :=
  { rx with snr := snr, rxData := fun i => if i < rx.rxLen then rx.rxData i else tail i }

/-- From a listed source, to this unit. -/
structure RxFrame.FromListed (rx : RxFrame) (u : MainUnit) : Prop where
  listed : Listed rx.sourceAddr u.storage
  toUnit : rx.destAddr = getLocalAddress u

/-- The word in bytes 3 to 6: an address, a size or an offset. -/
def RxFrame.word (rx : RxFrame) : UInt32 :=
  beWord (rx.rxData 3) (rx.rxData 4) (rx.rxData 5) (rx.rxData 6)

/-- The update packet that `rx` carries makes no difference by what is missing
of it. -/
inductive RxFrame.PacketCovered (rx : RxFrame) (s : State) : Prop
  /-- Its offset cannot be the cursor: it is acknowledged and dropped. -/
  | away (h : ∀ snr tail, (rx.withTail snr tail).word.toNat ≠ s.ota.updateFileCurSize)
  /-- The offset is there, and the write faults. -/
  | noPartition (hlen : 7 ≤ rx.rxLen) (h : s.ota.dlPart = false)
  /-- All of it is there. -/
  | whole (hlen : 8 + (rx.rxData 7).toNat ≤ rx.rxLen)
  /-- The size is there, and does not fit in the partition. -/
  | tooLong (hlen : 8 ≤ rx.rxLen) (h : downloadLen < s.ota.updateFileCurSize + (rx.rxData 7).toNat)
  /-- The partition is full, so nothing is written, and no gateway is answered. -/
  | full (hlen : rx.rxLen ≤ 7) (hpart : s.ota.dlPart = true) (hcur : s.ota.updateFileCurSize = downloadLen)
      (hgateway : aqGatewayFind s.unit.storage = 0)

/-- The frame is long enough for what its handler uses of it, or the state makes
the missing bytes of no consequence. -/
structure RxFrame.Covered (rx : RxFrame) (s : State) : Prop where
  endunitHeart : rx.FromListed s.unit → rx.deviceType = deviceTypeEndunit → rx.rxData 0 = heartUploadCmd →
    4 ≤ rx.rxLen ∨ aqGatewayFind s.unit.storage = 0
  endunitWarn : rx.FromListed s.unit → rx.deviceType = deviceTypeEndunit → rx.rxData 0 = warningUploadCmd →
    4 ≤ rx.rxLen
  doorunitHeart : rx.FromListed s.unit → rx.deviceType = deviceTypeDoorunit → rx.rxData 0 = heartUploadCmd →
    rx.rxData 2 = 0 → 4 ≤ rx.rxLen
  motionHeart : rx.FromListed s.unit → rx.deviceType = deviceTypeMotionSensor → rx.rxData 0 = heartUploadCmd →
    5 ≤ rx.rxLen ∨ aqGatewayFind s.unit.storage = 0
  motionControl : rx.FromListed s.unit → rx.deviceType = deviceTypeMotionSensor →
    rx.rxData 0 = controlValveCmd →
    6 ≤ rx.rxLen ∨ aqGatewayFind s.unit.storage = 0 ∨ ¬ s.unit.core.deviceStatus.Idle
  syncDelete : rx.FromListed s.unit → rx.deviceType = deviceTypeGateway → rx.rxData 0 = deviceSyncCmd →
    rx.rxData 2 = 1 → 7 ≤ rx.rxLen ∨ ∀ snr tail, ¬ Listed (rx.withTail snr tail).word s.unit.storage
  otaBegin : rx.FromListed s.unit → rx.deviceType = deviceTypeGateway → rx.rxData 0 = firmwareUpdateCmd →
    rx.rxData 2 = 1 → 7 ≤ rx.rxLen
  otaReceive : rx.FromListed s.unit → rx.deviceType = deviceTypeGateway → rx.rxData 0 = firmwareUpdateCmd →
    rx.rxData 2 = 2 → rx.PacketCovered s
  /-- A factory test frame stores the unset field. -/
  factoryTest : ¬ (rx.deviceType = deviceTypeFactoryTool ∧ rx.rxData 0 = factoryRfTestCmd ∧
    rx.destAddr = getLocalAddress s.unit ∧ rx.sourceAddr = 99999999)

/-! Frames that differ behind their end. -/

section
variable (rx : RxFrame) (snr : Int8) (tail : Nat → UInt8)

@[simp] theorem withTail_deviceType : (rx.withTail snr tail).deviceType = rx.deviceType := rfl
@[simp] theorem withTail_destAddr : (rx.withTail snr tail).destAddr = rx.destAddr := rfl
@[simp] theorem withTail_sourceAddr : (rx.withTail snr tail).sourceAddr = rx.sourceAddr := rfl
@[simp] theorem withTail_rssiLevel : (rx.withTail snr tail).rssiLevel = rx.rssiLevel := rfl
@[simp] theorem withTail_snr : (rx.withTail snr tail).snr = snr := rfl
@[simp] theorem withTail_rxLen : (rx.withTail snr tail).rxLen = rx.rxLen := rfl

@[simp] theorem withTail_heartRecv : aqDeviceHeartRecv (rx.withTail snr tail) = aqDeviceHeartRecv rx := rfl

@[simp] theorem withTail_replyFrame : replyFrame (rx.withTail snr tail) = replyFrame rx := rfl

variable {rx snr tail} {i : Nat}

theorem withTail_rxData (h : i < rx.rxLen) : (rx.withTail snr tail).rxData i = rx.rxData i := if_pos h

theorem withTail_rxData_of_le (h : rx.rxLen ≤ i) : (rx.withTail snr tail).rxData i = tail i :=
  if_neg (Nat.not_lt.2 h)

theorem withTail_word (h : 7 ≤ rx.rxLen) : (rx.withTail snr tail).word = rx.word := by
  simp only [RxFrame.word, withTail_rxData (show 3 < rx.rxLen by omega),
    withTail_rxData (show 4 < rx.rxLen by omega), withTail_rxData (show 5 < rx.rxLen by omega),
    withTail_rxData (show 6 < rx.rxLen by omega)]

end

/-! Messages to the gateway. -/

section
variable {msgAck : Bool} {msgType command : UInt8} {sendBuf : List UInt8} {u : MainUnit}

theorem aqGatewayFind_congr {st st' : Storage} (h : st'.deviceList = st.deviceList) :
    aqGatewayFind st' = aqGatewayFind st := by
  unfold aqGatewayFind
  rw [h]

/-- Without a gateway nothing is sent. -/
theorem gatewayUpload_of_no_gateway (h : aqGatewayFind u.storage = 0) :
    gatewayUpload msgAck msgType command sendBuf u = u := if_pos h

/-- Byte `k` of the last frame enqueued. -/
def lastByte (k : Nat) (tx : List SendMsg) : Option UInt8 := tx.getLast?.bind fun m => m.frame.txData[k]?

/-- With one, the message is the last frame. -/
theorem gatewayUpload_lastByte (h : aqGatewayFind u.storage ≠ 0) (k : Nat) :
    lastByte k (gatewayUpload msgAck msgType command sendBuf u).tx = sendBuf[k]? := by
  unfold gatewayUpload radioGatewayCommandSend
  rw [if_neg h]
  simp [radioCommandSend, loraTxEnqueue, lastByte]

end

/-! End units. -/

section
variable {rx : RxFrame} {snr : Int8} {tail : Nat → UInt8} {u : MainUnit} {device : Device}

theorem endunitLearn_withTail (h : 3 ≤ rx.rxLen) :
    radioFrameEndunitParseLearn (rx.withTail snr tail) u = radioFrameEndunitParseLearn rx u := by
  simp only [radioFrameEndunitParseLearn, withTail_rxData (show 2 < rx.rxLen by omega), withTail_destAddr,
    withTail_sourceAddr, withTail_rssiLevel, withTail_replyFrame]

theorem endunitValve_withTail (h : 3 ≤ rx.rxLen) :
    radioFrameEndunitParseValve (rx.withTail snr tail) device u = radioFrameEndunitParseValve rx device u := by
  simp only [radioFrameEndunitParseValve, withTail_rxData (show 2 < rx.rxLen by omega),
    withTail_sourceAddr, withTail_rssiLevel, withTail_replyFrame]

theorem endunitWarn_withTail (h : 4 ≤ rx.rxLen) :
    radioFrameEndunitParseWarn (rx.withTail snr tail) device u = radioFrameEndunitParseWarn rx device u := by
  simp only [radioFrameEndunitParseWarn, withTail_rxData (show 2 < rx.rxLen by omega),
    withTail_rxData (show 3 < rx.rxLen by omega), withTail_replyFrame]

/-- What the heart handler does before it tells the gateway. -/
def endunitHeartBefore (rx : RxFrame) (device : Device) (u : MainUnit) : MainUnit :=
  let u := (radioEndunitCommandSend (replyFrame rx heartUploadCmd [] u) u).onStorage
    (aqDeviceBatterySet device.deviceId (rx.rxData 2))
  if (deviceAt device.deviceId u.storage).battery = 1 then warningEnable .slaverLowPower u
  else if (deviceAt device.deviceId u.storage).battery = 2 then warningEnable .slaverUltraLowPower u
  else u

theorem endunitHeart_eq (rx : RxFrame) (device : Device) (u : MainUnit) :
    radioFrameEndunitParseHeart rx device u =
      gatewayWarningEndunitHeart device.deviceId (rx.rxData 2) (rx.rxData 3)
        (deviceAt device.deviceId (endunitHeartBefore rx device u).storage).rssiLevel
        (endunitHeartBefore rx device u) := rfl

theorem endunitHeartBefore_gatewayFind (rx : RxFrame) (device : Device) (u : MainUnit) :
    aqGatewayFind (endunitHeartBefore rx device u).storage = aqGatewayFind u.storage := by
  have hset : aqGatewayFind (aqDeviceBatterySet device.deviceId (rx.rxData 2) u.storage) =
      aqGatewayFind u.storage :=
    @RegOp.InPlace.gatewayFind (.batterySet device.deviceId (rx.rxData 2)) trivial u.storage
  unfold endunitHeartBefore
  dsimp only
  split_ifs
  · exact (aqGatewayFind_congr (warningEnable_deviceList _ _)).trans hset
  · exact (aqGatewayFind_congr (warningEnable_deviceList _ _)).trans hset
  · exact hset

theorem endunitHeart_withTail (h : 3 ≤ rx.rxLen) (hc : 4 ≤ rx.rxLen ∨ aqGatewayFind u.storage = 0) :
    radioFrameEndunitParseHeart (rx.withTail snr tail) device u = radioFrameEndunitParseHeart rx device u := by
  have hbefore : endunitHeartBefore (rx.withTail snr tail) device u = endunitHeartBefore rx device u := by
    simp only [endunitHeartBefore, withTail_rxData (show 2 < rx.rxLen by omega), withTail_replyFrame]
  rw [endunitHeart_eq, endunitHeart_eq, hbefore]
  rcases hc with hlen | hgw
  · rw [withTail_rxData (show 2 < rx.rxLen by omega), withTail_rxData (show 3 < rx.rxLen by omega)]
  · have hgw' : aqGatewayFind (endunitHeartBefore rx device u).storage = 0 := by
      rw [endunitHeartBefore_gatewayFind, hgw]
    simp only [gatewayWarningEndunitHeart, gatewayUpload_of_no_gateway hgw']

/-- A frame that is no request to be added, from a listed source to this unit. -/
theorem RxFrame.FromListed.cases (rx : RxFrame) (u : MainUnit) :
    (rx.FromListed u ∧ ∃ device, aqDeviceFind rx.sourceAddr u.storage = some device) ∨
      (¬ rx.FromListed u ∧
        (aqDeviceFind rx.sourceAddr u.storage = none ∨ rx.destAddr ≠ getLocalAddress u)) := by
  by_cases hd : rx.destAddr = getLocalAddress u
  · cases hf : aqDeviceFind rx.sourceAddr u.storage with
    | none => exact Or.inr ⟨fun h => aqDeviceFind_eq_none.1 hf h.listed, Or.inl rfl⟩
    | some device => exact Or.inl ⟨⟨aqDeviceFind_isSome.1 (by rw [hf]; rfl), hd⟩, device, rfl⟩
  · exact Or.inr ⟨fun h => hd h.toUnit, Or.inr hd⟩

theorem endunitParse_withTail (h : 3 ≤ rx.rxLen)
    (hheart : rx.FromListed u → rx.rxData 0 = heartUploadCmd →
      4 ≤ rx.rxLen ∨ aqGatewayFind u.storage = 0)
    (hwarn : rx.FromListed u → rx.rxData 0 = warningUploadCmd → 4 ≤ rx.rxLen) :
    radioFrameEndunitParse (rx.withTail snr tail) u = radioFrameEndunitParse rx u := by
  unfold radioFrameEndunitParse
  simp only [withTail_rxData (show 0 < rx.rxLen by omega), withTail_destAddr, withTail_sourceAddr,
    withTail_heartRecv, endunitLearn_withTail h, endunitValve_withTail h]
  by_cases hlearn : rx.rxData 0 = learnDeviceCmd
  · simp only [hlearn, (by decide : learnDeviceCmd ≠ heartUploadCmd), (by decide : learnDeviceCmd ≠ controlValveCmd),
      (by decide : learnDeviceCmd ≠ warningUploadCmd), if_false]
  · simp only [hlearn, if_false]
    obtain ⟨hl, device, hdev⟩ | ⟨_, hnone | hdest⟩ := RxFrame.FromListed.cases rx u
    · simp only [hdev]
      by_cases hh : rx.rxData 0 = heartUploadCmd
      · simp only [hh, if_true, endunitHeart_withTail h (hheart hl hh)]
      · by_cases hw : rx.rxData 0 = warningUploadCmd
        · simp only [hh, if_false, endunitWarn_withTail (hwarn hl hw)]
        · simp only [hh, hw, if_false]
    · simp only [hnone]
    · simp only [ne_eq, hdest, not_false_eq_true, if_true]

/-! The door unit. -/

theorem doorunitLearn_withTail (h : 3 ≤ rx.rxLen) :
    radioFrameDoorunitParseLearn (rx.withTail snr tail) u = radioFrameDoorunitParseLearn rx u := by
  simp only [radioFrameDoorunitParseLearn, withTail_rxData (show 2 < rx.rxLen by omega), withTail_destAddr,
    withTail_sourceAddr, withTail_rssiLevel, withTail_replyFrame]

theorem doorunitValve_withTail (h : 3 ≤ rx.rxLen) :
    radioFrameDoorunitParseValve (rx.withTail snr tail) device u =
      radioFrameDoorunitParseValve rx device u := by
  simp only [radioFrameDoorunitParseValve, withTail_rxData (show 2 < rx.rxLen by omega),
    withTail_sourceAddr, withTail_rssiLevel, withTail_replyFrame]

theorem doorunitHeart_withTail (h : 3 ≤ rx.rxLen) (hc : rx.rxData 2 = 0 → 4 ≤ rx.rxLen) :
    radioFrameDoorunitParseHeart (rx.withTail snr tail) device u =
      radioFrameDoorunitParseHeart rx device u := by
  simp only [radioFrameDoorunitParseHeart, withTail_rxData (show 2 < rx.rxLen by omega),
    withTail_replyFrame]
  by_cases hsub : rx.rxData 2 = 0
  · have hlen := hc hsub
    rw [withTail_rxData (show 3 < rx.rxLen by omega)]
  · rw [if_neg hsub, if_neg hsub]

theorem doorunitParse_withTail (h : 3 ≤ rx.rxLen)
    (hheart : rx.FromListed u → rx.rxData 0 = heartUploadCmd → rx.rxData 2 = 0 → 4 ≤ rx.rxLen) :
    radioFrameDoorunitParse (rx.withTail snr tail) u = radioFrameDoorunitParse rx u := by
  unfold radioFrameDoorunitParse
  simp only [withTail_rxData (show 0 < rx.rxLen by omega), withTail_destAddr, withTail_sourceAddr,
    withTail_heartRecv, doorunitLearn_withTail h, doorunitValve_withTail h]
  by_cases hlearn : rx.rxData 0 = learnDeviceCmd
  · simp only [hlearn, (by decide : learnDeviceCmd ≠ heartUploadCmd),
      (by decide : learnDeviceCmd ≠ controlValveCmd), if_false]
  · simp only [hlearn, if_false]
    obtain ⟨hl, device, hdev⟩ | ⟨_, hnone | hdest⟩ := RxFrame.FromListed.cases rx u
    · simp only [hdev]
      by_cases hh : rx.rxData 0 = heartUploadCmd
      · simp only [hh, if_true, doorunitHeart_withTail h (hheart hl hh)]
      · simp only [hh, if_false]
    · simp only [hnone]
    · simp only [ne_eq, hdest, not_false_eq_true, if_true]

/-! Motion sensors. -/

theorem motionLearn_withTail (h : 3 ≤ rx.rxLen) :
    radioFrameMotionParseLearn (rx.withTail snr tail) u = radioFrameMotionParseLearn rx u := by
  simp only [radioFrameMotionParseLearn, withTail_rxData (show 2 < rx.rxLen by omega), withTail_destAddr,
    withTail_sourceAddr, withTail_rssiLevel, withTail_replyFrame]

theorem motionHeart_withTail (h : 3 ≤ rx.rxLen) (hc : 5 ≤ rx.rxLen ∨ aqGatewayFind u.storage = 0) :
    radioFrameMotionParseHeart (rx.withTail snr tail) device u = radioFrameMotionParseHeart rx device u := by
  simp only [radioFrameMotionParseHeart, withTail_rxData (show 2 < rx.rxLen by omega), withTail_replyFrame]
  rcases hc with hlen | hgw
  · rw [withTail_rxData (show 3 < rx.rxLen by omega), withTail_rxData (show 4 < rx.rxLen by omega)]
  · have hgw' : aqGatewayFind (radioEndunitCommandSend (replyFrame rx heartUploadCmd [] u) u).storage = 0 := hgw
    simp only [gatewayHeartMotionSensorUpload, gatewayUpload_of_no_gateway hgw']

/-- What the control handler does before it tells the gateway. -/
def motionControlBefore (rx : RxFrame) (device : Device) (u : MainUnit) : MainUnit :=
  let u := u.onStorage (deviceRssiLevelWrite device.deviceId rx.rssiLevel)
  let u := radioEndunitCommandSend (replyFrame rx controlValveCmd [rx.rxData 2] u) u
  if rx.rxData 2 ≠ 0 then (valveUnlock u).onCore fun c => (valveOpen c).2
  else u.onCore fun c => (valveClose c).2

theorem motionControl_eq (rx : RxFrame) (device : Device) {u : MainUnit} (hi : u.core.deviceStatus.Idle) :
    radioFrameMotionParseControl rx device u =
      gatewayControlMotionSensorControl rx.sourceAddr rx.rssiLevel (if rx.rxData 2 ≠ 0 then 1 else 0)
        (rx.rxData 3) (rx.rxData 4) (rx.rxData 5) (motionControlBefore rx device u) := by
  have hidle : (radioEndunitCommandSend
      (replyFrame rx controlValveCmd [rx.rxData 2]
        (u.onStorage (deviceRssiLevelWrite device.deviceId rx.rssiLevel)))
      (u.onStorage (deviceRssiLevelWrite device.deviceId rx.rssiLevel))).core.deviceStatus.Idle := hi
  unfold radioFrameMotionParseControl motionControlBefore
  dsimp only
  by_cases hv : rx.rxData 2 ≠ 0
  · simp only [if_pos hv, if_pos hidle]
  · simp only [if_neg hv, if_pos hidle]

theorem motionControlBefore_gatewayFind (rx : RxFrame) (device : Device) (u : MainUnit) :
    aqGatewayFind (motionControlBefore rx device u).storage = aqGatewayFind u.storage := by
  have hwrite := aqGatewayFind_rssiLevelWrite device.deviceId rx.rssiLevel u.storage
  unfold motionControlBefore
  dsimp only
  split_ifs
  · exact (aqGatewayFind_congr (valveUnlock_deviceList _)).trans hwrite
  · exact hwrite

theorem motionControl_withTail (h : 3 ≤ rx.rxLen)
    (hc : 6 ≤ rx.rxLen ∨ aqGatewayFind u.storage = 0 ∨ ¬ u.core.deviceStatus.Idle) :
    radioFrameMotionParseControl (rx.withTail snr tail) device u =
      radioFrameMotionParseControl rx device u := by
  by_cases hi : u.core.deviceStatus.Idle
  · have hbefore : motionControlBefore (rx.withTail snr tail) device u = motionControlBefore rx device u := by
      simp only [motionControlBefore, withTail_rxData (show 2 < rx.rxLen by omega), withTail_rssiLevel,
        withTail_replyFrame]
    rw [motionControl_eq _ _ hi, motionControl_eq _ _ hi, hbefore]
    rcases hc with hlen | hgw | hni
    · simp only [withTail_rxData (show 2 < rx.rxLen by omega), withTail_rxData (show 3 < rx.rxLen by omega),
        withTail_rxData (show 4 < rx.rxLen by omega), withTail_rxData (show 5 < rx.rxLen by omega),
        withTail_sourceAddr, withTail_rssiLevel]
    · have hgw' : aqGatewayFind (motionControlBefore rx device u).storage = 0 := by
        rw [motionControlBefore_gatewayFind, hgw]
      simp only [gatewayControlMotionSensorControl, gatewayUpload_of_no_gateway hgw']
    · exact absurd hi hni
  · have hcore : ∀ f : TxFormat, (radioEndunitCommandSend f
        (u.onStorage (deviceRssiLevelWrite device.deviceId rx.rssiLevel))).core.deviceStatus =
          u.core.deviceStatus := fun _ => rfl
    simp only [radioFrameMotionParseControl, withTail_rxData (show 2 < rx.rxLen by omega),
      withTail_rssiLevel, withTail_replyFrame, hcore, hi, if_false]

theorem motionParse_withTail (h : 3 ≤ rx.rxLen)
    (hheart : rx.FromListed u → rx.rxData 0 = heartUploadCmd →
      5 ≤ rx.rxLen ∨ aqGatewayFind u.storage = 0)
    (hcontrol : rx.FromListed u → rx.rxData 0 = controlValveCmd →
      6 ≤ rx.rxLen ∨ aqGatewayFind u.storage = 0 ∨ ¬ u.core.deviceStatus.Idle) :
    radioFrameMotionParse (rx.withTail snr tail) u = radioFrameMotionParse rx u := by
  unfold radioFrameMotionParse
  simp only [withTail_rxData (show 0 < rx.rxLen by omega), withTail_destAddr, withTail_sourceAddr,
    withTail_heartRecv, motionLearn_withTail h]
  by_cases hlearn : rx.rxData 0 = learnDeviceCmd
  · simp only [hlearn, (by decide : learnDeviceCmd ≠ heartUploadCmd),
      (by decide : learnDeviceCmd ≠ controlValveCmd), if_false]
  · simp only [hlearn, if_false]
    obtain ⟨hl, device, hdev⟩ | ⟨_, hnone | hdest⟩ := RxFrame.FromListed.cases rx u
    · simp only [hdev]
      by_cases hh : rx.rxData 0 = heartUploadCmd
      · simp only [hh, if_true, motionHeart_withTail h (hheart hl hh)]
      · by_cases hcv : rx.rxData 0 = controlValveCmd
        · simp only [hh, if_false, motionControl_withTail h (hcontrol hl hcv)]
        · simp only [hh, hcv, if_false]
    · simp only [hnone]
    · simp only [ne_eq, hdest, not_false_eq_true, if_true]

end

/-! Update packets. -/

section
variable {env : Env} {ota : Ota} {buf : List UInt8} {offset : Nat}

theorem loraOtaReceive_away (h : ota.updateFileCurSize ≠ offset) :
    loraOtaReceive env buf offset ota = (some .ackTransfer, ota) := if_pos h

theorem loraOtaReceive_fault (h : ota.updateFileCurSize = offset) (hp : ota.dlPart = false) :
    loraOtaReceive env buf offset ota = (none, { ota with fault := true }) := by
  rw [loraOtaReceive, if_neg (not_not.2 h), if_pos hp]

theorem loraOtaReceive_refused (h : ota.updateFileCurSize = offset) (hp : ota.dlPart = true)
    (hl : (ota.updateFileCurSize + buf.length) % 2 ^ 32 > downloadLen ∨ env.falPartitionWrite = false) :
    loraOtaReceive env buf offset ota = (none, ota) := by
  rw [loraOtaReceive, if_neg (not_not.2 h), if_neg (by rw [hp]; decide), if_pos hl]

/-- A packet is stored, whatever its end is in 32 bits. -/
theorem loraOtaReceive_stored (h : ota.updateFileCurSize = offset) (hp : ota.dlPart = true)
    (hl : (ota.updateFileCurSize + buf.length) % 2 ^ 32 ≤ downloadLen) (hw : env.falPartitionWrite = true) :
    loraOtaReceive env buf offset ota =
      (some .ackTransfer,
        { ota with
          download := writeDownload ota.updateFileCurSize buf ota.download
          updateFileCurSize := (ota.updateFileCurSize + buf.length) % 2 ^ 32 }) := by
  rw [loraOtaReceive, if_neg (not_not.2 h), if_neg (by rw [hp]; decide), if_neg]
  rintro (hgt | hfail)
  · omega
  · rw [hw] at hfail
    cases hfail

theorem loraOtaReceive_written (h : ota.updateFileCurSize = offset) (hp : ota.dlPart = true)
    (hl : ota.updateFileCurSize + buf.length ≤ downloadLen) (hw : env.falPartitionWrite = true) :
    loraOtaReceive env buf offset ota =
      (some .ackTransfer,
        { ota with
          download := writeDownload ota.updateFileCurSize buf ota.download
          updateFileCurSize := ota.updateFileCurSize + buf.length }) := by
  have hlen : downloadLen < 2 ^ 32 := by decide
  have hmod : (ota.updateFileCurSize + buf.length) % 2 ^ 32 = ota.updateFileCurSize + buf.length :=
    Nat.mod_eq_of_lt (by omega)
  rw [loraOtaReceive_stored h hp (by rw [hmod]; exact hl) hw, hmod]

end

/-- The bytes an update packet is said to carry. -/
def RxFrame.packet (rx : RxFrame) : List UInt8 :=
  (List.range (rx.rxData 7).toNat).map fun i => rx.rxData (8 + i)

@[simp] theorem length_packet (rx : RxFrame) : rx.packet.length = (rx.rxData 7).toNat := by
  simp [RxFrame.packet]

section
variable {rx : RxFrame} {snr : Int8} {tail : Nat → UInt8} {s : State}

theorem withTail_self (rx : RxFrame) : rx.withTail rx.snr rx.rxData = rx := by
  simp [RxFrame.withTail]

theorem withTail_packet (h : 8 + (rx.rxData 7).toNat ≤ rx.rxLen) :
    (rx.withTail snr tail).packet = rx.packet := by
  unfold RxFrame.packet
  rw [withTail_rxData (show 7 < rx.rxLen by omega)]
  refine List.map_congr_left fun i hi => withTail_rxData ?_
  have := List.mem_range.1 hi
  omega

/-- A reply to no gateway is no reply. -/
theorem ackTransfer_send_of_no_gateway {u : MainUnit} (h : aqGatewayFind u.storage = 0) :
    OtaReply.ackTransfer.send u = u := gatewayUpload_of_no_gateway h

theorem writeDownload_nil (addr : Nat) (download : Nat → UInt8) : writeDownload addr [] download = download := by
  funext i
  refine writeDownload_outside ?_
  rw [List.length_nil, Nat.add_zero]
  exact Nat.lt_or_ge i addr

/-- A full partition takes nothing. -/
theorem loraOtaReceive_full {env : Env} {ota : Ota} {buf : List UInt8} {offset : Nat}
    (hbuf : buf.length < 256) (hpart : ota.dlPart = true) (hcur : ota.updateFileCurSize = downloadLen) :
    (loraOtaReceive env buf offset ota).2 = ota ∧
      ((loraOtaReceive env buf offset ota).1 = some .ackTransfer ∨
        (loraOtaReceive env buf offset ota).1 = none) := by
  by_cases haway : ota.updateFileCurSize ≠ offset
  · rw [loraOtaReceive_away haway]
    exact ⟨rfl, Or.inl rfl⟩
  · have hat := not_not.1 haway
    by_cases hw : env.falPartitionWrite = true
    · cases buf with
      | nil =>
        rw [loraOtaReceive_written hat hpart (by rw [hcur]; exact Nat.le_refl _) hw]
        refine ⟨?_, Or.inl rfl⟩
        rw [writeDownload_nil, List.length_nil, Nat.add_zero]
      | cons b buf =>
        have hbig : (ota.updateFileCurSize + (b :: buf).length) % 2 ^ 32 > downloadLen := by
          have hlen : downloadLen = 524288 := rfl
          rw [hcur, hlen]
          rw [List.length_cons] at hbuf ⊢
          omega
        rw [loraOtaReceive_refused hat hpart (Or.inl hbig)]
        exact ⟨rfl, Or.inr rfl⟩
    · rw [loraOtaReceive_refused hat hpart (Or.inr (Bool.eq_false_of_not_eq_true hw))]
      exact ⟨rfl, Or.inr rfl⟩

/-- Nothing happens where, besides, no gateway is listed. -/
theorem onOta_receive_full (env : Env) {buf : List UInt8} (offset : Nat) (hbuf : buf.length < 256)
    (hpart : s.ota.dlPart = true) (hcur : s.ota.updateFileCurSize = downloadLen)
    (hgw : aqGatewayFind s.unit.storage = 0) : s.onOta (loraOtaReceive env buf offset) = s := by
  obtain ⟨hota, hreply⟩ := @loraOtaReceive_full env s.ota buf offset hbuf hpart hcur
  unfold State.onOta
  dsimp only
  rw [hota]
  rcases hreply with h | h
  · rw [h]
    dsimp only
    rw [State.onUnit, ackTransfer_send_of_no_gateway hgw]
  · rw [h]

theorem receive_withTail (env : Env) (hc : rx.PacketCovered s) (hcur : s.ota.updateFileCurSize ≤ downloadLen) :
    s.onOta (loraOtaReceive env (rx.withTail snr tail).packet (rx.withTail snr tail).word.toNat) =
      s.onOta (loraOtaReceive env rx.packet rx.word.toNat) := by
  have hsame : ∀ {r : Option OtaReply × Ota},
      loraOtaReceive env (rx.withTail snr tail).packet (rx.withTail snr tail).word.toNat s.ota = r →
      loraOtaReceive env rx.packet rx.word.toNat s.ota = r →
      s.onOta (loraOtaReceive env (rx.withTail snr tail).packet (rx.withTail snr tail).word.toNat) =
        s.onOta (loraOtaReceive env rx.packet rx.word.toNat) := by
    intro r h h'
    simp only [State.onOta, h, h']
  cases hc with
  | away haway =>
    have hself := haway rx.snr rx.rxData
    rw [withTail_self] at hself
    exact hsame (loraOtaReceive_away (haway snr tail).symm) (loraOtaReceive_away hself.symm)
  | noPartition hlen hpart =>
    by_cases haway : s.ota.updateFileCurSize ≠ rx.word.toNat
    · exact hsame (by rw [withTail_word hlen, loraOtaReceive_away haway]) (loraOtaReceive_away haway)
    · have hat := not_not.1 haway
      exact hsame (by rw [withTail_word hlen, loraOtaReceive_fault hat hpart]) (loraOtaReceive_fault hat hpart)
  | whole hlen => rw [withTail_word (show 7 ≤ rx.rxLen by omega), withTail_packet hlen]
  | tooLong hlen hlong =>
    have hword := @withTail_word rx snr tail (show 7 ≤ rx.rxLen by omega)
    have hsize : (rx.withTail snr tail).rxData 7 = rx.rxData 7 := withTail_rxData (by omega)
    have hbig : (s.ota.updateFileCurSize + (rx.rxData 7).toNat) % 2 ^ 32 > downloadLen := by
      have hlt := (rx.rxData 7).toNat_lt
      have hlen : downloadLen = 524288 := rfl
      omega
    by_cases haway : s.ota.updateFileCurSize ≠ rx.word.toNat
    · exact hsame (by rw [hword, loraOtaReceive_away haway]) (loraOtaReceive_away haway)
    · have hat := not_not.1 haway
      cases hpart : s.ota.dlPart with
      | false => exact hsame (by rw [hword, loraOtaReceive_fault hat hpart]) (loraOtaReceive_fault hat hpart)
      | true =>
        refine hsame ?_ (loraOtaReceive_refused hat hpart (Or.inl (by rw [length_packet]; exact hbig)))
        rw [hword, loraOtaReceive_refused hat hpart]
        rw [length_packet, hsize]
        exact Or.inl hbig
  | full hlen hpart hcur' hgw =>
    rw [onOta_receive_full env _ _ hpart hcur' hgw, onOta_receive_full env _ _ hpart hcur' hgw]
    · rw [length_packet]
      exact (rx.rxData 7).toNat_lt
    · rw [length_packet]
      exact ((rx.withTail snr tail).rxData 7).toNat_lt

/-! The gateway and the factory tool. -/

theorem gatewayParseOta_eq (rx : RxFrame) (s : State) :
    radioFrameGatewayParseOta rx s =
      if rx.rxData 2 = 1 then s.onOta (loraOtaBegin s.unit.env rx.word.toNat)
      else if rx.rxData 2 = 2 then s.onOta (loraOtaReceive s.unit.env rx.packet rx.word.toNat)
      else if rx.rxData 2 = 3 then loraOtaEnd s
      else s := rfl

theorem gatewayParseSync_eq (rx : RxFrame) (u : MainUnit) :
    radioFrameGatewayParseSync rx u =
      if rx.rxData 2 = 0 then gatewaySyncDeviceUpload u
      else if rx.rxData 2 = 1 then u.onStorage fun st => (aqDeviceDelete rx.word st).2
      else u := rfl

theorem aqDeviceDelete_of_not_listed {deviceId : UInt32} {st : Storage} (h : ¬ Listed deviceId st) :
    (aqDeviceDelete deviceId st).2 = st := by
  rw [aqDeviceDelete, aqDeviceFind_eq_none.2 h]

theorem RxFrame.PacketCovered.congr {s' : State} (h : rx.PacketCovered s) (hota : s'.ota = s.ota)
    (hgw : aqGatewayFind s'.unit.storage = aqGatewayFind s.unit.storage) : rx.PacketCovered s' := by
  cases h with
  | away h => exact .away (by rw [hota]; exact h)
  | noPartition hlen h => exact .noPartition hlen (by rw [hota]; exact h)
  | whole hlen => exact .whole hlen
  | tooLong hlen h => exact .tooLong hlen (by rw [hota]; exact h)
  | full hlen hpart hcur hgw' =>
    exact .full hlen (by rw [hota]; exact hpart) (by rw [hota]; exact hcur) (hgw.trans hgw')

theorem gatewaySync_withTail {u : MainUnit} (h : 3 ≤ rx.rxLen)
    (hc : rx.rxData 2 = 1 → 7 ≤ rx.rxLen ∨ ∀ snr tail, ¬ Listed (rx.withTail snr tail).word u.storage) :
    radioFrameGatewayParseSync (rx.withTail snr tail) u = radioFrameGatewayParseSync rx u := by
  rw [gatewayParseSync_eq, gatewayParseSync_eq, withTail_rxData (show 2 < rx.rxLen by omega)]
  by_cases hsub : rx.rxData 2 = 1
  · rcases hc hsub with hlen | hnone
    · rw [withTail_word hlen]
    · have hself := hnone rx.snr rx.rxData
      rw [withTail_self] at hself
      simp only [MainUnit.onStorage, aqDeviceDelete_of_not_listed (hnone snr tail),
        aqDeviceDelete_of_not_listed hself]
  · simp only [hsub, if_false]

theorem gatewayOta_withTail (h : 3 ≤ rx.rxLen) (hcur : s.ota.updateFileCurSize ≤ downloadLen)
    (hbegin : rx.rxData 2 = 1 → 7 ≤ rx.rxLen) (hreceive : rx.rxData 2 = 2 → rx.PacketCovered s) :
    radioFrameGatewayParseOta (rx.withTail snr tail) s = radioFrameGatewayParseOta rx s := by
  rw [gatewayParseOta_eq, gatewayParseOta_eq, withTail_rxData (show 2 < rx.rxLen by omega)]
  by_cases h₁ : rx.rxData 2 = 1
  · rw [if_pos h₁, if_pos h₁, withTail_word (hbegin h₁)]
  · rw [if_neg h₁, if_neg h₁]
    by_cases h₂ : rx.rxData 2 = 2
    · rw [if_pos h₂, if_pos h₂]
      exact receive_withTail s.unit.env (hreceive h₂) hcur
    · rw [if_neg h₂, if_neg h₂]

theorem gatewayParse_withTail (h : 3 ≤ rx.rxLen) (hcur : s.ota.updateFileCurSize ≤ downloadLen)
    (hc : rx.Covered s) (ht : rx.deviceType = deviceTypeGateway) :
    radioFrameGatewayParse (rx.withTail snr tail) s = radioFrameGatewayParse rx s := by
  have hlearn : radioFrameGatewayParseLearn (rx.withTail snr tail) = radioFrameGatewayParseLearn rx := by
    funext u
    unfold radioFrameGatewayParseLearn
    rw [withTail_rxData (show 2 < rx.rxLen by omega), withTail_destAddr, withTail_sourceAddr]
  have hcontrol : radioFrameGatewayParseControl (rx.withTail snr tail) = radioFrameGatewayParseControl rx := by
    funext u
    simp only [radioFrameGatewayParseControl, withTail_rxData (show 2 < rx.rxLen by omega)]
  unfold radioFrameGatewayParse
  simp only [withTail_rxData (show 0 < rx.rxLen by omega), withTail_destAddr, withTail_sourceAddr, hlearn,
    hcontrol]
  by_cases hl : rx.rxData 0 = learnDeviceCmd
  · simp only [hl, (by decide : learnDeviceCmd ≠ deviceSyncCmd),
      (by decide : learnDeviceCmd ≠ firmwareUpdateCmd), if_false]
  · simp only [hl, if_false]
    obtain ⟨hfrom, device, hdev⟩ | ⟨_, hnone | hdest⟩ := RxFrame.FromListed.cases rx s.unit
    · by_cases hsync : rx.rxData 0 = deviceSyncCmd
      · have hlisted : ∀ a, Listed a (aqDeviceRecvSet rx.sourceAddr 1 s.unit.storage) ↔
            Listed a s.unit.storage :=
          fun a => @RegOp.InPlace.listed (.recvSet rx.sourceAddr 1) trivial s.unit.storage a
        have hsame : radioFrameGatewayParseSync (rx.withTail snr tail)
              (s.unit.onStorage (aqDeviceRecvSet rx.sourceAddr 1)) =
            radioFrameGatewayParseSync rx (s.unit.onStorage (aqDeviceRecvSet rx.sourceAddr 1)) := by
          refine gatewaySync_withTail h fun hsub => ?_
          simp only [MainUnit.onStorage_storage, hlisted]
          exact hc.syncDelete hfrom ht hsync hsub
        simp only [State.onUnit, hsync, (by decide : deviceSyncCmd ≠ firmwareUpdateCmd), if_false, hsame]
      · by_cases hota : rx.rxData 0 = firmwareUpdateCmd
        · simp only [hsync, if_false]
          rw [gatewayOta_withTail h (by exact hcur) (hc.otaBegin hfrom ht hota)]
          intro hsub
          exact (hc.otaReceive hfrom ht hota hsub).congr rfl (aqGatewayFind_recvSet _ _ _)
        · simp only [hsync, hota, if_false]
    · simp only [hnone, Option.isNone_none, if_true]
    · simp only [ne_eq, hdest, not_false_eq_true, if_true]

theorem factoryParse_withTail (h : 3 ≤ rx.rxLen)
    (hc : ¬ (rx.rxData 0 = factoryRfTestCmd ∧ rx.destAddr = getLocalAddress s.unit ∧
      rx.sourceAddr = 99999999)) :
    radioFrameFactoryParse (rx.withTail snr tail) s = radioFrameFactoryParse rx s := by
  unfold radioFrameFactoryParse
  simp only [withTail_rxData (show 0 < rx.rxLen by omega), withTail_destAddr, withTail_sourceAddr]
  by_cases haddr : rx.destAddr ≠ getLocalAddress s.unit ∨ rx.sourceAddr ≠ 99999999
  · rw [if_pos haddr, if_pos haddr]
  · have hcmd : rx.rxData 0 ≠ factoryRfTestCmd := by
      intro hcmd
      obtain ⟨h₁, h₂⟩ := not_or.1 haddr
      exact hc ⟨hcmd, not_not.1 h₁, not_not.1 h₂⟩
    rw [if_neg haddr, if_neg haddr, if_neg hcmd, if_neg hcmd]

/-- **A covered frame** does the same whatever lies behind it. -/
theorem RxFrame.Covered.dispatch_withTail (hc : rx.Covered s) (h : 3 ≤ rx.rxLen)
    (hcur : s.ota.updateFileCurSize ≤ downloadLen) :
    radioFrameDispatch (rx.withTail snr tail) s = radioFrameDispatch rx s := by
  unfold radioFrameDispatch
  rw [withTail_deviceType]
  by_cases h₁ : rx.deviceType = deviceTypeMotionSensor
  · rw [if_pos h₁, if_pos h₁, State.onUnit, State.onUnit,
      motionParse_withTail h (fun hl => hc.motionHeart hl h₁) (fun hl => hc.motionControl hl h₁)]
  rw [if_neg h₁, if_neg h₁]
  by_cases h₂ : rx.deviceType = deviceTypeEndunit
  · rw [if_pos h₂, if_pos h₂, State.onUnit, State.onUnit,
      endunitParse_withTail h (fun hl => hc.endunitHeart hl h₂) (fun hl => hc.endunitWarn hl h₂)]
  rw [if_neg h₂, if_neg h₂]
  by_cases h₃ : rx.deviceType = deviceTypeDoorunit
  · rw [if_pos h₃, if_pos h₃, State.onUnit, State.onUnit,
      doorunitParse_withTail h (fun hl => hc.doorunitHeart hl h₃)]
  rw [if_neg h₃, if_neg h₃]
  by_cases h₄ : rx.deviceType = deviceTypeGateway
  · rw [if_pos h₄, if_pos h₄, gatewayParse_withTail h hcur hc h₄]
  rw [if_neg h₄, if_neg h₄]
  by_cases h₅ : rx.deviceType = deviceTypeFactoryTool
  · rw [if_pos h₅, if_pos h₅, factoryParse_withTail h fun hf => hc.factoryTest ⟨h₅, hf⟩]
  rw [if_neg h₅, if_neg h₅]

end

end Aqualarm
