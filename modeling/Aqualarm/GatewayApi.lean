import Aqualarm.MainUnit

/-
  gateway_api.c: the messages to the gateway. Each is one frame whose
  destination is looked up in the device list when it is built.
-/

namespace Aqualarm

/-- The shape the messages share: a `tx_format` to `aq_gateway_find()`. -/
def gatewayUpload (msgAck : Bool) (msgType command : UInt8) (sendBuf : List UInt8) (u : MainUnit) :
    MainUnit :=
  radioGatewayCommandSend
    { msgAck, msgType, destAddr := aqGatewayFind u.storage, sourceAddr := getLocalAddress u, command,
      txData := sendBuf } u

section
variable (msgAck : Bool) (msgType command : UInt8) (sendBuf : List UInt8) (u : MainUnit)

@[simp] theorem gatewayUpload_cfg : (gatewayUpload msgAck msgType command sendBuf u).cfg = u.cfg := by
  simp [gatewayUpload]
@[simp] theorem gatewayUpload_env : (gatewayUpload msgAck msgType command sendBuf u).env = u.env := by
  simp [gatewayUpload]
@[simp] theorem gatewayUpload_core : (gatewayUpload msgAck msgType command sendBuf u).core = u.core := by
  simp [gatewayUpload]
@[simp] theorem gatewayUpload_storage :
    (gatewayUpload msgAck msgType command sendBuf u).storage = u.storage := by
  simp [gatewayUpload]
@[simp] theorem gatewayUpload_heart : (gatewayUpload msgAck msgType command sendBuf u).heart = u.heart := by
  simp [gatewayUpload]

end

/-! Warnings. -/

/-- The valve check result: 1 and 2 are a passed left and right check, 3 and 4 a
failed one. -/
@[simp] def gatewayWarningMasterValveCheck (value : UInt8) : MainUnit → MainUnit :=
  gatewayUpload true msgConfirmedUplink warningUploadCmd [3, value]

@[simp] def gatewayWarningMasterLeak (value : UInt8) : MainUnit → MainUnit :=
  gatewayUpload true msgConfirmedUplink warningUploadCmd [1, value]

@[simp] def gatewayWarningMasterLost (value : UInt8) : MainUnit → MainUnit :=
  gatewayUpload true msgConfirmedUplink warningUploadCmd [2, value]

/-- `mallocOk` is the outcome of `rt_malloc(255)`. -/
def gatewayWarningSlaverOffline (mallocOk : Bool) (u : MainUnit) : MainUnit :=
  if mallocOk then
    let upload := aqDeviceOfflineUpload u.storage
    gatewayUpload true msgConfirmedUplink warningUploadCmd (5 :: upload.1 :: upload.2) u
  else u

theorem offlineUpload_same (mallocOk : Bool) (u : MainUnit) :
    (gatewayWarningSlaverOffline mallocOk u).core = u.core ∧
      (gatewayWarningSlaverOffline mallocOk u).storage = u.storage := by
  unfold gatewayWarningSlaverOffline
  split
  · exact ⟨gatewayUpload_core .., gatewayUpload_storage ..⟩
  · exact ⟨rfl, rfl⟩

@[simp] def gatewayWarningEndunitHeart (slaverAddr : UInt32) (batteryLevel warnStatus rssiLevel : UInt8) :
    MainUnit → MainUnit :=
  gatewayUpload true msgConfirmedUplink warningUploadCmd
    (6 :: beBytes slaverAddr ++ [batteryLevel, warnStatus, rssiLevel])

@[simp] def gatewayWarningSlaverLeak (slaverAddr : UInt32) (leakLevel rssiLevel : UInt8) :
    MainUnit → MainUnit :=
  gatewayUpload true msgConfirmedUplink warningUploadCmd (7 :: beBytes slaverAddr ++ [leakLevel, rssiLevel])

@[simp] def gatewayWarningSlaverLost (slaverAddr : UInt32) (lostLevel rssiLevel : UInt8) :
    MainUnit → MainUnit :=
  gatewayUpload true msgConfirmedUplink warningUploadCmd (8 :: beBytes slaverAddr ++ [lostLevel, rssiLevel])

/-! Valve reports. None of them sets `msg_ack`. -/

@[simp] def gatewayControlMasterControl (value : UInt8) : MainUnit → MainUnit :=
  gatewayUpload false msgConfirmedUplink controlValveCmd [0, value]

@[simp] def gatewayControlSlaverControl (deviceAddr : UInt32) (value rssiLevel : UInt8) :
    MainUnit → MainUnit :=
  gatewayUpload false msgConfirmedUplink controlValveCmd (1 :: beBytes deviceAddr ++ [value, rssiLevel])

@[simp] def gatewayControlDoorControl (deviceAddr : UInt32) (value rssiLevel : UInt8) :
    MainUnit → MainUnit :=
  gatewayUpload false msgConfirmedUplink controlValveCmd (2 :: beBytes deviceAddr ++ [value, rssiLevel])

@[simp] def gatewayControlDoorDelay (deviceAddr : UInt32) (value rssiLevel : UInt8) :
    MainUnit → MainUnit :=
  gatewayUpload false msgConfirmedUplink controlValveCmd (3 :: beBytes deviceAddr ++ [value, rssiLevel])

@[simp] def gatewayControlMotionSensorControl (deviceAddr : UInt32)
    (rssiLevel value rangeTimeLevel delayTimeLevel humanDetected : UInt8) : MainUnit → MainUnit :=
  gatewayUpload false msgConfirmedUplink controlValveCmd
    (4 :: beBytes deviceAddr ++ [value, rssiLevel, rangeTimeLevel, delayTimeLevel, humanDetected])

/-! Learning. These go to the frame's source, not to the registered gateway. -/

def gatewayLearnBroacastConfirm (dstAddr : UInt32) (u : MainUnit) : MainUnit :=
  radioGatewayCommandSend
    { msgAck := true, msgType := msgUnconfirmedUplink, destAddr := dstAddr,
      sourceAddr := getLocalAddress u, command := learnDeviceCmd, txData := [0] } u

def fwMainVer : UInt8 := 0x00
def fwSubVer : UInt8 := 0x04

def gatewayLearnAddUpload (dstAddr : UInt32) (u : MainUnit) : MainUnit :=
  radioGatewayCommandSend
    { msgAck := true, msgType := msgUnconfirmedUplink, destAddr := dstAddr,
      sourceAddr := getLocalAddress u, command := learnDeviceCmd, txData := [1, fwMainVer, fwSubVer] } u

/-! Heartbeats. -/

def gatewayHeartUploadPoweron (u : MainUnit) : MainUnit :=
  gatewayUpload true msgUnconfirmedUplink heartUploadCmd
    [0, (warningStatusGet u).code, (getValveStatus u).code, fwMainVer, fwSubVer,
      aqDeviceSlaverCount u.storage] u

def gatewayHeartUploadMaster (u : MainUnit) : MainUnit :=
  gatewayUpload true msgUnconfirmedUplink heartUploadCmd
    [1, (warningStatusGet u).code, (getValveStatus u).code, fwMainVer, fwSubVer] u

@[simp] def gatewayHeartDoorunitUpload (deviceAddr : UInt32) (rssiLevel batLevel : UInt8) :
    MainUnit → MainUnit :=
  gatewayUpload true msgUnconfirmedUplink heartUploadCmd (2 :: beBytes deviceAddr ++ [rssiLevel, batLevel])

@[simp] def gatewayHeartMotionSensorUpload (deviceAddr : UInt32)
    (rssiLevel rangeTimeLevel delayTimeLevel humanDetected : UInt8) : MainUnit → MainUnit :=
  gatewayUpload true msgUnconfirmedUplink heartUploadCmd
    (3 :: beBytes deviceAddr ++ [rssiLevel, rangeTimeLevel, delayTimeLevel, humanDetected])

/-! Keeping the gateway's copy of the device list. -/

@[simp] def gatewaySyncDeviceAdd (deviceType : UInt8) (deviceAddr : UInt32) (rssiLevel : UInt8) :
    MainUnit → MainUnit :=
  gatewayUpload true msgConfirmedUplink deviceSyncCmd (0 :: beBytes deviceAddr ++ [rssiLevel, deviceType])

@[simp] def gatewaySyncDeviceDel (deviceAddr : UInt32) : MainUnit → MainUnit :=
  gatewayUpload true msgConfirmedUplink deviceSyncCmd (1 :: beBytes deviceAddr)

@[simp] def gatewaySyncDeviceReset : MainUnit → MainUnit :=
  gatewayUpload true msgConfirmedUplink deviceSyncCmd [2]

def gatewaySyncDeviceUpload (u : MainUnit) : MainUnit :=
  if u.env.mallocSync then
    let upload := aqDeviceCloneUpload u.storage
    gatewayUpload true msgConfirmedUplink deviceSyncCmd
      (3 :: (warningStatusGet u).code :: (getValveStatus u).code :: upload.1 :: upload.2) u
  else u

/-! Firmware update. -/

@[simp] def gatewayOtaRespStart : MainUnit → MainUnit :=
  gatewayUpload true msgUnconfirmedUplink firmwareUpdateCmd [1]

@[simp] def gatewayOtaAckTransfer : MainUnit → MainUnit :=
  gatewayUpload true msgUnconfirmedUplink firmwareUpdateCmd [2]

@[simp] def gatewayOtaRespEnd : MainUnit → MainUnit :=
  gatewayUpload true msgUnconfirmedUplink firmwareUpdateCmd [3]

end Aqualarm
