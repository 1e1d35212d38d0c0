import Aqualarm.RadioUnits
import Aqualarm.Modbus

/-
  radio_protocol.c with radio_protocol_gateway.c and radio_protocol_factory.c:
  the header checks, the dispatch on the device type, and the two handlers that
  reach past the shared variables.
-/

namespace Aqualarm

/-! The gateway. -/

def radioFrameGatewayParseSync (rx : RxFrame) (u : MainUnit) : MainUnit :=
  let subCommand := rx.rxData 2
  if subCommand = 0 then gatewaySyncDeviceUpload u
  else if subCommand = 1 then
    let deviceAddr := beWord (rx.rxData 3) (rx.rxData 4) (rx.rxData 5) (rx.rxData 6)
    u.onStorage fun st => (aqDeviceDelete deviceAddr st).2
  else u

/-- Sub-command 1 replaces the gateway whatever the learn mode. -/
def radioFrameGatewayParseLearn (rx : RxFrame) (u : MainUnit) : MainUnit :=
  if rx.destAddr = 0xFFFFFFFF ∧ u.core.allowAddDevice = true then
    gatewayLearnBroacastConfirm rx.sourceAddr u
  else if rx.destAddr = getLocalAddress u then
    if rx.rxData 2 = 1 then
      let u := u.onStorage aqGatewayDelete
      let r := aqDeviceCreate u.env.mallocDevice 0 deviceTypeGateway rx.sourceAddr u.storage
      let u := { u with storage := r.2 }
      if r.1.isNone then u
      else gatewayLearnAddUpload rx.sourceAddr (u.onCore radioRefreshLearnDevice)
    else u
  else u

def radioFrameGatewayParseControl (rx : RxFrame) (u : MainUnit) : MainUnit :=
  let subCommand := rx.rxData 2
  if subCommand = 0 then
    if u.core.deviceStatus.Idle then
      gatewayControlMasterControl 0 (u.onCore fun c => (valveClose c).2)
    else u
  else if subCommand = 1 then
    if u.core.deviceStatus.Idle then
      gatewayControlMasterControl 1 ((valveUnlock u).onCore fun c => (valveOpen c).2)
    else u
  else u

/-- The replies of lora_ota.c. -/
def OtaReply.send : OtaReply → MainUnit → MainUnit
  | .respStart => gatewayOtaRespStart
  | .ackTransfer => gatewayOtaAckTransfer
  | .respEnd => gatewayOtaRespEnd

/-- Runs a lora_ota.c function on the unit and sends its reply. -/
def State.onOta (f : Ota → Option OtaReply × Ota) (s : State) : State :=
  let r := f s.ota
  let s := { s with ota := r.2 }
  match r.1 with
  | some reply => s.onUnit reply.send
  | none => s

/-- `lora_ota_end`: the reply, then the reset. -/
def loraOtaEnd (s : State) : State := rtHwCpuReset (s.onUnit OtaReply.respEnd.send)

def radioFrameGatewayParseOta (rx : RxFrame) (s : State) : State :=
  let subCommand := rx.rxData 2
  if subCommand = 1 then
    let fwSize := beWord (rx.rxData 3) (rx.rxData 4) (rx.rxData 5) (rx.rxData 6)
    s.onOta (loraOtaBegin s.unit.env fwSize.toNat)
  else if subCommand = 2 then
    let fwOffset := beWord (rx.rxData 3) (rx.rxData 4) (rx.rxData 5) (rx.rxData 6)
    let pktSize := rx.rxData 7
    let buf := (List.range pktSize.toNat).map fun i => rx.rxData (8 + i)
    s.onOta (loraOtaReceive s.unit.env buf fwOffset.toNat)
  else if subCommand = 3 then loraOtaEnd s
  else s

def radioFrameGatewayParse (rx : RxFrame) (s : State) : State :=
  let device := aqDeviceFind rx.sourceAddr s.unit.storage
  let s := if rx.rxData 0 = learnDeviceCmd then s.onUnit (radioFrameGatewayParseLearn rx) else s
  if device.isNone then s
  else if rx.destAddr ≠ getLocalAddress s.unit then s
  else
    let s := s.onUnit (MainUnit.onStorage (aqDeviceRecvSet rx.sourceAddr 1))
    if rx.rxData 0 = controlValveCmd then s.onUnit (radioFrameGatewayParseControl rx)
    else if rx.rxData 0 = deviceSyncCmd then s.onUnit (radioFrameGatewayParseSync rx)
    else if rx.rxData 0 = confirmAckCmd then { s with rfAckSem := true }
    else if rx.rxData 0 = firmwareUpdateCmd then radioFrameGatewayParseOta rx s
    else s

/-! The factory tool. -/

def radioFrameFactoryParseHeart (rx : RxFrame) (s : State) : State :=
  { s with
    factory :=
      { factoryControllerRecvRssi := rx.rssi
        factoryControllerRecvSnr := rx.snr
        factoryGatewayRecvRssi := Int16.ofNat ((rx.rxData 2).toNat * 256 + (rx.rxData 3).toNat)
        factoryGatewayRecvSnr := Int8.ofNat (rx.rxData 4).toNat } }

def radioFrameFactoryParse (rx : RxFrame) (s : State) : State :=
  if rx.destAddr ≠ getLocalAddress s.unit ∨ rx.sourceAddr ≠ 99999999 then s
  else if rx.rxData 0 = factoryRfTestCmd then radioFrameFactoryParseHeart rx s
  else s

/-! radio_protocol_parse -/

def frameStart : UInt8 := 0xEF
def networkVersion : UInt8 := 0x01
def netRegionSelect : UInt8 := 0x03

/-- `rssi_level` from the received strength. -/
def rssiLevelOf (rssi : Int) : UInt8 :=
  if rssi < -89 then 0 else if rssi < -78 then 1 else 2

/-- `rx_frame` as the parser fills it in. Its `snr` is not assigned: it is
whatever the stack holds. -/
def rxFrameOf (stackSnr : Int8) (rssi : Int) (data : Nat → UInt8) (len : Nat) : RxFrame :=
  { rssi := Int16.ofInt rssi
    snr := stackSnr
    rssiLevel := rssiLevelOf rssi
    msgType := data 2 &&& 0x07
    deviceType := (data 2 &&& 0x78) >>> 3
    destAddr := beWord (data 3) (data 4) (data 5) (data 6)
    sourceAddr := beWord (data 7) (data 8) (data 9) (data 10)
    rxData := fun i => data (11 + i)
    rxLen := len - 11 }

/-- The dispatch on `rx_frame.device_type`. -/
def radioFrameDispatch (rx : RxFrame) (s : State) : State :=
  if rx.deviceType = deviceTypeMotionSensor then s.onUnit (radioFrameMotionParse rx)
  else if rx.deviceType = deviceTypeEndunit then s.onUnit (radioFrameEndunitParse rx)
  else if rx.deviceType = deviceTypeDoorunit then s.onUnit (radioFrameDoorunitParse rx)
  else if rx.deviceType = deviceTypeGateway then radioFrameGatewayParse rx s
  else if rx.deviceType = deviceTypeFactoryTool then radioFrameFactoryParse rx s
  else s

/-- `radio_protocol_parse`, on a stack that holds `stackSnr` where `rx_frame.snr`
lies. The version guard reads, by precedence, `data[1] & (0x0F <
NETWORK_VERSION)`. `snr` is not used. -/
def radioProtocolParseOn (stackSnr : Int8) (rssi _snr : Int) (data : Nat → UInt8) (len : Nat) (s : State) :
    State :=
  if len < 14 then s
  else if data 0 ≠ frameStart then s
  else if data 1 >>> 4 ≠ netRegionSelect then s
  else if data 1 &&& (if 0x0F < networkVersion then 1 else 0) ≠ 0 then s
  else if data (len - 1) ≠ s.unit.cfg.crc ((List.range (len - 1)).map data) then s
  else radioFrameDispatch (rxFrameOf stackSnr rssi data len) s

def radioProtocolParse (rssi snr : Int) (data : Nat → UInt8) (len : Nat) (s : State) : State :=
  radioProtocolParseOn s.unit.env.stackSnr rssi snr data len s

end Aqualarm
