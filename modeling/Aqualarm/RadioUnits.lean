import Aqualarm.State

/-
  radio_protocol_endunit.c, radio_protocol_doorunit.c and
  radio_protocol_motion.c: what the frames of the three kinds of node do.
-/

namespace Aqualarm

/-- The node a pointer from `aq_device_find` refers to. -/
def deviceAt (deviceId : UInt32) (st : Storage) : Device :=
  (aqDeviceFind deviceId st).getD { slot := 0, type := 0, deviceId }

/-- The answer to a node: a downlink to the frame's source. -/
def replyFrame (rx : RxFrame) (command : UInt8) (txData : List UInt8) (u : MainUnit) : TxFormat :=
  { msgAck := true, msgType := msgUnconfirmedDownlink, destAddr := rx.sourceAddr,
    sourceAddr := getLocalAddress u, command, txData }

/-! End units. -/

def radioFrameEndunitParseHeart (rx : RxFrame) (device : Device) (u : MainUnit) : MainUnit :=
  let battery := rx.rxData 2
  let warnStatus := rx.rxData 3
  let u := radioEndunitCommandSend (replyFrame rx heartUploadCmd [] u) u
  let u := u.onStorage (aqDeviceBatterySet device.deviceId battery)
  let u :=
    if (deviceAt device.deviceId u.storage).battery = 1 then warningEnable .slaverLowPower u
    else if (deviceAt device.deviceId u.storage).battery = 2 then warningEnable .slaverUltraLowPower u
    else u
  gatewayWarningEndunitHeart device.deviceId battery warnStatus
    (deviceAt device.deviceId u.storage).rssiLevel u

/-- Sub-command 1 adds the source whatever the learn mode; sub-command 2 toggles
the learn mode. -/
def radioFrameEndunitParseLearn (rx : RxFrame) (u : MainUnit) : MainUnit :=
  if rx.destAddr = 0xFFFFFFFF ∧ u.core.allowAddDevice = true then
    radioEndunitCommandSend (replyFrame rx learnDeviceCmd [0] u) u
  else if rx.destAddr = getLocalAddress u then
    let subCommand := rx.rxData 2
    let u := radioEndunitCommandSend (replyFrame rx learnDeviceCmd [subCommand] u) u
    if subCommand = 1 then
      let r := aqDeviceCreate u.env.mallocDevice rx.rssiLevel deviceTypeEndunit rx.sourceAddr u.storage
      let u := { u with storage := r.2 }
      if r.1.isNone then u
      else
        gatewaySyncDeviceAdd deviceTypeEndunit rx.sourceAddr rx.rssiLevel (u.onCore radioRefreshLearnDevice)
    else if subCommand = 2 then radioStartLearnDevice u
    else u
  else u

def radioFrameEndunitParseValve (rx : RxFrame) (device : Device) (u : MainUnit) : MainUnit :=
  let value := rx.rxData 2
  let u := u.onStorage (deviceRssiLevelWrite device.deviceId rx.rssiLevel)
  let u := radioEndunitCommandSend (replyFrame rx controlValveCmd [value] u) u
  if value ≠ 0 then
    if u.core.deviceStatus.Idle then
      let u := (valveUnlock u).onCore fun c => (valveOpen c).2
      gatewayControlSlaverControl rx.sourceAddr 1 rx.rssiLevel u
    else u
  else
    let u := u.onStorage (aqDeviceWaterleakSet device.deviceId 0)
    if u.core.deviceStatus = .slaverSensorLeak then
      if aqDeviceWaterleakFind u.storage = false then u.onCore warningAllClear else u
    else if u.core.deviceStatus.Idle then
      let u := (valveLock u).onCore fun c => (valveClose c).2
      gatewayControlSlaverControl rx.sourceAddr 0 rx.rssiLevel u
    else if u.core.deviceStatus = .slaverOffline then
      gatewayControlSlaverControl rx.sourceAddr 0 rx.rssiLevel u
    else u

def radioFrameEndunitParseWarn (rx : RxFrame) (device : Device) (u : MainUnit) : MainUnit :=
  let u := radioEndunitCommandSend (replyFrame rx warningUploadCmd [rx.rxData 2, rx.rxData 3] u) u
  if rx.rxData 2 = 0 then
    let u := u.onStorage (aqDeviceWaterleakSet device.deviceId (rx.rxData 3))
    let u :=
      if rx.rxData 3 ≠ 0 then warningEnable .slaverSensorLeak u
      else if u.core.deviceStatus = .slaverSensorLeak then
        if aqDeviceWaterleakFind u.storage = false then
          u.onCore fun c => (valveClose (warningAllClear c)).2
        else u
      else u
    gatewayWarningSlaverLeak device.deviceId (rx.rxData 3) (deviceAt device.deviceId u.storage).rssiLevel u
  else if rx.rxData 2 = 1 then
    let u := u.onStorage (aqDeviceWirelostSet device.deviceId (rx.rxData 3))
    let u :=
      if rx.rxData 3 ≠ 0 then warningEnable .slaverSensorLost u
      else if u.core.deviceStatus = .slaverSensorLost then
        if aqDeviceWirelostFind u.storage = false then u.onCore warningAllClear else u
      else u
    gatewayWarningSlaverLost device.deviceId (rx.rxData 3) (deviceAt device.deviceId u.storage).rssiLevel u
  else u

def radioFrameEndunitParse (rx : RxFrame) (u : MainUnit) : MainUnit :=
  let device := aqDeviceFind rx.sourceAddr u.storage
  let u := if rx.rxData 0 = learnDeviceCmd then radioFrameEndunitParseLearn rx u else u
  match device with
  | none => u
  | some device =>
    if rx.destAddr ≠ getLocalAddress u then u
    else
      let u :=
        if rx.rxData 0 = heartUploadCmd then radioFrameEndunitParseHeart rx device u
        else if rx.rxData 0 = controlValveCmd then radioFrameEndunitParseValve rx device u
        else if rx.rxData 0 = warningUploadCmd then radioFrameEndunitParseWarn rx device u
        else u
      warningOfflineCheck (u.onStorage fun st => (aqDeviceHeartRecv rx st).2)

/-! The door unit. -/

/-- `aq_doorunit_delete` (flashwork.c): the gateway is told of each removal. -/
def aqDoorunitDelete (u : MainUnit) : MainUnit :=
  (u.storage.deviceList.filter fun device => device.type = deviceTypeDoorunit).foldl
    (fun u device =>
      gatewaySyncDeviceDel device.deviceId (u.onStorage fun st => (aqDeviceDelete device.deviceId st).2))
    u

def radioFrameDoorunitParseHeart (rx : RxFrame) (device : Device) (u : MainUnit) : MainUnit :=
  let subCommand := rx.rxData 2
  let u := radioDoorunitCommandSend (replyFrame rx heartUploadCmd [subCommand] u) u
  if subCommand = 0 then
    let u := u.onStorage (aqDeviceBatterySet device.deviceId (rx.rxData 3))
    gatewayHeartDoorunitUpload device.deviceId (deviceAt device.deviceId u.storage).rssiLevel
      (deviceAt device.deviceId u.storage).battery u
  else u

def radioFrameDoorunitParseLearn (rx : RxFrame) (u : MainUnit) : MainUnit :=
  if rx.destAddr = 0xFFFFFFFF ∧ u.core.allowAddDevice = true then
    radioDoorunitCommandSend (replyFrame rx learnDeviceCmd [0] u) u
  else if rx.destAddr = getLocalAddress u then
    let subCommand := rx.rxData 2
    let u := radioDoorunitCommandSend (replyFrame rx learnDeviceCmd [subCommand] u) u
    if subCommand = 1 then
      let u := aqDoorunitDelete u
      let r := aqDeviceCreate u.env.mallocDevice rx.rssiLevel deviceTypeDoorunit rx.sourceAddr u.storage
      let u := { u with storage := r.2 }
      if r.1.isNone then u
      else
        gatewaySyncDeviceAdd deviceTypeDoorunit rx.sourceAddr rx.rssiLevel (u.onCore radioRefreshLearnDevice)
    else u
  else u

def radioFrameDoorunitParseValve (rx : RxFrame) (device : Device) (u : MainUnit) : MainUnit :=
  let subCommand := rx.rxData 2
  let u := u.onStorage (deviceRssiLevelWrite device.deviceId rx.rssiLevel)
  let u := radioDoorunitCommandSend (replyFrame rx controlValveCmd [subCommand] u) u
  if subCommand = 0 then
    if u.core.deviceStatus.Idle then
      let u := (valveLock u).onCore fun c => (valveClose c).2
      gatewayControlDoorControl rx.sourceAddr 0 rx.rssiLevel u
    else if u.core.deviceStatus = .slaverOffline then
      gatewayControlDoorControl rx.sourceAddr 0 rx.rssiLevel u
    else u
  else if subCommand = 1 then
    if u.core.deviceStatus.Idle then
      let u := (valveUnlock u).onCore fun c => (valveOpen c).2
      gatewayControlDoorControl rx.sourceAddr 1 rx.rssiLevel u
    else u
  else if subCommand = 2 then
    if u.core.deviceStatus.Idle then
      gatewayControlDoorDelay rx.sourceAddr 1 rx.rssiLevel (u.onCore (valveDelayControl true))
    else u
  else if subCommand = 3 then
    gatewayControlDoorDelay rx.sourceAddr 0 rx.rssiLevel (u.onCore (valveDelayControl false))
  else u

def radioFrameDoorunitParse (rx : RxFrame) (u : MainUnit) : MainUnit :=
  let device := aqDeviceFind rx.sourceAddr u.storage
  let u := if rx.rxData 0 = learnDeviceCmd then radioFrameDoorunitParseLearn rx u else u
  match device with
  | none => u
  | some device =>
    if rx.destAddr ≠ getLocalAddress u then u
    else
      let u :=
        if rx.rxData 0 = heartUploadCmd then radioFrameDoorunitParseHeart rx device u
        else if rx.rxData 0 = controlValveCmd then radioFrameDoorunitParseValve rx device u
        else u
      u.onStorage fun st => (aqDeviceHeartRecv rx st).2

/-! Motion sensors. -/

def radioFrameMotionParseHeart (rx : RxFrame) (device : Device) (u : MainUnit) : MainUnit :=
  let delayTimeLevel := rx.rxData 2
  let rangeTimeLevel := rx.rxData 3
  let humanDetected := rx.rxData 4
  let u := radioEndunitCommandSend (replyFrame rx heartUploadCmd [] u) u
  gatewayHeartMotionSensorUpload device.deviceId (deviceAt device.deviceId u.storage).rssiLevel
    delayTimeLevel rangeTimeLevel humanDetected u

def radioFrameMotionParseControl (rx : RxFrame) (device : Device) (u : MainUnit) : MainUnit :=
  let value := rx.rxData 2
  let u := u.onStorage (deviceRssiLevelWrite device.deviceId rx.rssiLevel)
  let u := radioEndunitCommandSend (replyFrame rx controlValveCmd [value] u) u
  if value ≠ 0 then
    if u.core.deviceStatus.Idle then
      let u := (valveUnlock u).onCore fun c => (valveOpen c).2
      gatewayControlMotionSensorControl rx.sourceAddr rx.rssiLevel 1 (rx.rxData 3) (rx.rxData 4)
        (rx.rxData 5) u
    else u
  else
    if u.core.deviceStatus.Idle then
      let u := u.onCore fun c => (valveClose c).2
      gatewayControlMotionSensorControl rx.sourceAddr rx.rssiLevel 0 (rx.rxData 3) (rx.rxData 4)
        (rx.rxData 5) u
    else u

def radioFrameMotionParseLearn (rx : RxFrame) (u : MainUnit) : MainUnit :=
  if rx.destAddr = 0xFFFFFFFF ∧ u.core.allowAddDevice = true then
    radioMotionCommandSend (replyFrame rx learnDeviceCmd [0] u) u
  else if rx.destAddr = getLocalAddress u then
    let subCommand := rx.rxData 2
    let u := radioMotionCommandSend (replyFrame rx learnDeviceCmd [subCommand] u) u
    if subCommand = 1 then
      let r := aqDeviceCreate u.env.mallocDevice rx.rssiLevel deviceTypeMotionSensor rx.sourceAddr u.storage
      let u := { u with storage := r.2 }
      if r.1.isNone then u
      else
        gatewaySyncDeviceAdd deviceTypeMotionSensor rx.sourceAddr rx.rssiLevel
          (u.onCore radioRefreshLearnDevice)
    else u
  else u

def radioFrameMotionParse (rx : RxFrame) (u : MainUnit) : MainUnit :=
  let device := aqDeviceFind rx.sourceAddr u.storage
  let u := if rx.rxData 0 = learnDeviceCmd then radioFrameMotionParseLearn rx u else u
  match device with
  | none => u
  | some device =>
    if rx.destAddr ≠ getLocalAddress u then u
    else
      let u :=
        if rx.rxData 0 = heartUploadCmd then radioFrameMotionParseHeart rx device u
        else if rx.rxData 0 = controlValveCmd then radioFrameMotionParseControl rx device u
        else u
      u.onStorage fun st => (aqDeviceHeartRecv rx st).2

/-! What the frames of the three nodes share. -/

/-- The learn part, then a listed source is served and heard. -/
def nodeParse (rx : RxFrame) (learn : MainUnit → MainUnit) (serve : Device → MainUnit → MainUnit)
    (heard : MainUnit → MainUnit) (u : MainUnit) : MainUnit :=
  let device := aqDeviceFind rx.sourceAddr u.storage
  let u := if rx.rxData 0 = learnDeviceCmd then learn u else u
  match device with
  | none => u
  | some device => if rx.destAddr ≠ getLocalAddress u then u else heard (serve device u)

def endunitServe (rx : RxFrame) (device : Device) (u : MainUnit) : MainUnit :=
  if rx.rxData 0 = heartUploadCmd then radioFrameEndunitParseHeart rx device u
  else if rx.rxData 0 = controlValveCmd then radioFrameEndunitParseValve rx device u
  else if rx.rxData 0 = warningUploadCmd then radioFrameEndunitParseWarn rx device u
  else u

def doorunitServe (rx : RxFrame) (device : Device) (u : MainUnit) : MainUnit :=
  if rx.rxData 0 = heartUploadCmd then radioFrameDoorunitParseHeart rx device u
  else if rx.rxData 0 = controlValveCmd then radioFrameDoorunitParseValve rx device u
  else u

def motionServe (rx : RxFrame) (device : Device) (u : MainUnit) : MainUnit :=
  if rx.rxData 0 = heartUploadCmd then radioFrameMotionParseHeart rx device u
  else if rx.rxData 0 = controlValveCmd then radioFrameMotionParseControl rx device u
  else u

section
variable {rx : RxFrame} {u : MainUnit}

theorem endunitParse_eq (rx : RxFrame) (u : MainUnit) :
    radioFrameEndunitParse rx u = nodeParse rx (radioFrameEndunitParseLearn rx) (endunitServe rx)
      (fun u => warningOfflineCheck (u.onStorage fun st => (aqDeviceHeartRecv rx st).2)) u := rfl

theorem doorunitParse_eq (rx : RxFrame) (u : MainUnit) :
    radioFrameDoorunitParse rx u = nodeParse rx (radioFrameDoorunitParseLearn rx) (doorunitServe rx)
      (MainUnit.onStorage fun st => (aqDeviceHeartRecv rx st).2) u := rfl

theorem motionParse_eq (rx : RxFrame) (u : MainUnit) :
    radioFrameMotionParse rx u = nodeParse rx (radioFrameMotionParseLearn rx) (motionServe rx)
      (MainUnit.onStorage fun st => (aqDeviceHeartRecv rx st).2) u := rfl

/-- A learn frame is served nothing more. -/
theorem endunitServe_learn (hl : rx.rxData 0 = learnDeviceCmd) (device : Device) (u : MainUnit) :
    endunitServe rx device u = u := by
  rw [endunitServe, hl, if_neg (by decide), if_neg (by decide), if_neg (by decide)]

theorem doorunitServe_learn (hl : rx.rxData 0 = learnDeviceCmd) (device : Device) (u : MainUnit) :
    doorunitServe rx device u = u := by
  rw [doorunitServe, hl, if_neg (by decide), if_neg (by decide)]

theorem motionServe_learn (hl : rx.rxData 0 = learnDeviceCmd) (device : Device) (u : MainUnit) :
    motionServe rx device u = u := by
  rw [motionServe, hl, if_neg (by decide), if_neg (by decide)]

variable {P : MainUnit → Prop} {learn heard : MainUnit → MainUnit} {serve : Device → MainUnit → MainUnit}

/-- A learn frame: the learn part, and a listed source is heard behind it. -/
theorem nodeParse_learn (hl : rx.rxData 0 = learnDeviceCmd) (hserve : ∀ device u, serve device u = u)
    (hlearn : aqDeviceFind rx.sourceAddr u.storage = none ∨ rx.destAddr ≠ getLocalAddress (learn u) → P (learn u))
    (hheard : ∀ device, aqDeviceFind rx.sourceAddr u.storage = some device →
      rx.destAddr = getLocalAddress (learn u) → P (heard (learn u))) : P (nodeParse rx learn serve heard u) := by
  unfold nodeParse
  simp only [if_pos hl, hserve]
  split
  · rename_i hnone
    exact hlearn (Or.inl hnone)
  · rename_i device hfind
    split
    · rename_i hd
      exact hlearn (Or.inr hd)
    · rename_i hd
      exact hheard device hfind (not_not.1 hd)

/-- Any other frame: a listed source is served and heard. -/
theorem nodeParse_command (hl : rx.rxData 0 ≠ learnDeviceCmd) (hu : P u)
    (hserve : ∀ device, aqDeviceFind rx.sourceAddr u.storage = some device → rx.destAddr = getLocalAddress u →
      P (heard (serve device u))) : P (nodeParse rx learn serve heard u) := by
  unfold nodeParse
  simp only [if_neg hl]
  split
  · exact hu
  · rename_i device hfind
    split
    · exact hu
    · rename_i hd
      exact hserve device hfind (not_not.1 hd)

end

end Aqualarm
