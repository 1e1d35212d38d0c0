import Aqualarm.System

/-
  Which received frames are handled, the requests the properties are about, and
  the reports sent to the gateway.
-/

namespace Aqualarm

/-! Frames that pass the header checks. -/

/-- The checks of `radio_protocol_parse`. -/
def radioAccepted (cfg : Config) (data : Nat → UInt8) (len : Nat) : Prop :=
  14 ≤ len ∧ data 0 = frameStart ∧ data 1 >>> 4 = netRegionSelect ∧
    data 1 &&& (if 0x0F < networkVersion then 1 else 0) = 0 ∧
    data (len - 1) = cfg.crc ((List.range (len - 1)).map data)

instance (cfg : Config) (data : Nat → UInt8) (len : Nat) : Decidable (radioAccepted cfg data len) :=
  inferInstanceAs (Decidable (_ ∧ _ ∧ _ ∧ _ ∧ _))

theorem radioProtocolParseOn_eq (stackSnr : Int8) (rssi snr : Int) (data : Nat → UInt8) (len : Nat)
    (s : State) :
    radioProtocolParseOn stackSnr rssi snr data len s =
      if radioAccepted s.unit.cfg data len then radioFrameDispatch (rxFrameOf stackSnr rssi data len) s
      else s := by
  by_cases h : radioAccepted s.unit.cfg data len
  · obtain ⟨h₁, h₂, h₃, h₄, h₅⟩ := id h
    rw [if_pos h, radioProtocolParseOn, if_neg (by omega), if_neg (not_not.2 h₂), if_neg (not_not.2 h₃),
      if_neg (not_not.2 h₄), if_neg (not_not.2 h₅)]
  · rw [if_neg h]
    unfold radioProtocolParseOn
    unfold radioAccepted at h
    generalize (data 1 &&& if 0x0F < networkVersion then 1 else 0) = version at h ⊢
    split_ifs with h₁ h₂ h₃ h₄ h₅
    any_goals rfl
    exact absurd ⟨by omega, not_not.1 h₂, not_not.1 h₃, not_not.1 h₄, not_not.1 h₅⟩ h

theorem radioProtocolParse_eq (rssi snr : Int) (data : Nat → UInt8) (len : Nat) (s : State) :
    radioProtocolParse rssi snr data len s =
      if radioAccepted s.unit.cfg data len then
        radioFrameDispatch (rxFrameOf s.unit.env.stackSnr rssi data len) s
      else s :=
  radioProtocolParseOn_eq ..

/-- `e` is the arrival of a frame that passes the checks, and `rx` what the
handlers are given for it. -/
def Event.Frame (u : MainUnit) (e : Event) (rx : RxFrame) : Prop :=
  ∃ rssi snr data len, e = .radio rssi snr data len ∧ radioAccepted u.cfg data len ∧
    rx = rxFrameOf u.env.stackSnr rssi data len

/-! Requests. -/

/-- The sub-command 1 of a learn frame sent to this unit: add the source as a
device of the sender's type. -/
structure RxFrame.AddDevice (rx : RxFrame) (u : MainUnit) : Prop where
  command : rx.rxData 0 = learnDeviceCmd
  subCommand : rx.rxData 2 = 1
  toUnit : rx.destAddr = getLocalAddress u
  deviceType : rx.deviceType = deviceTypeMotionSensor ∨ rx.deviceType = deviceTypeEndunit ∨
    rx.deviceType = deviceTypeDoorunit ∨ rx.deviceType = deviceTypeGateway

/-- A command of a registered node or gateway to open the valve. -/
structure RxFrame.OpenValve (rx : RxFrame) (u : MainUnit) : Prop where
  command : rx.rxData 0 = controlValveCmd
  toUnit : rx.destAddr = getLocalAddress u
  registered : (aqDeviceFind rx.sourceAddr u.storage).isSome = true
  value : (rx.deviceType = deviceTypeEndunit ∨ rx.deviceType = deviceTypeMotionSensor) ∧ rx.rxData 2 ≠ 0 ∨
    (rx.deviceType = deviceTypeDoorunit ∨ rx.deviceType = deviceTypeGateway) ∧ rx.rxData 2 = 1

/-- The end of an update, from a registered source. -/
structure RxFrame.OtaEnd (rx : RxFrame) (u : MainUnit) : Prop where
  deviceType : rx.deviceType = deviceTypeGateway
  command : rx.rxData 0 = firmwareUpdateCmd
  subCommand : rx.rxData 2 = 3
  toUnit : rx.destAddr = getLocalAddress u
  registered : (aqDeviceFind rx.sourceAddr u.storage).isSome = true

/-- A remote command to open that is handled while `valve_valid` is 0: the valve
stays shut, and there is a gateway to report to. -/
structure RefusedOpen (u : MainUnit) (e : Event) : Prop where
  request : ∃ rx, e.Frame u rx ∧ rx.OpenValve u
  idle : u.core.deviceStatus.Idle
  valveValid : u.core.valveValid = false
  valveStatus : u.core.valveStatus = .valveStatusClose
  gateway : aqGatewayFind u.storage ≠ 0

/-- The events that end in a reset. -/
inductive Resets (u : MainUnit) : Event → Prop
  | reboot : Resets u .reboot
  | keyOn : Resets u .keyOnLongHold
  | keyOff : Resets u .keyOffLongHold
  | otaEnd {e : Event} {rx : RxFrame} (hf : e.Frame u rx) (h : rx.OtaEnd u) : Resets u e

/-! Valve reports. -/

/-- The valve value a frame to the gateway reports: byte 1 of the master's
report, byte 5 of an end unit's, a door unit's and a motion sensor's. -/
def TxFormat.valveReport (frame : TxFormat) : Option UInt8 :=
  if frame.msgType = msgConfirmedUplink ∧ frame.command = controlValveCmd then
    if frame.txData[0]? = some 0 then frame.txData[1]?
    else if frame.txData[0]? = some 1 ∨ frame.txData[0]? = some 2 ∨ frame.txData[0]? = some 4 then
      frame.txData[5]?
    else none
  else none

theorem TxFormat.valveReport_of_command {frame : TxFormat} (h : frame.command ≠ controlValveCmd) :
    frame.valveReport = none := by
  rw [TxFormat.valveReport, if_neg fun hc => h hc.2]

theorem TxFormat.valveReport_of_msgType {frame : TxFormat} (h : frame.msgType ≠ msgConfirmedUplink) :
    frame.valveReport = none := by
  rw [TxFormat.valveReport, if_neg fun hc => h hc.1]

/-- The report carries the valve's state at the time it was handed over. -/
def SendMsg.Truthful (m : SendMsg) : Prop :=
  ∀ v, m.frame.valveReport = some v → v = m.valveStatus.code

instance (m : SendMsg) : Decidable m.Truthful :=
  decidable_of_iff (m.frame.valveReport.all (fun v => v = m.valveStatus.code) = true) (by
    unfold SendMsg.Truthful
    cases m.frame.valveReport <;> simp)

end Aqualarm
