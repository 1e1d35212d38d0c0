import Aqualarm.ValveWork

/-
  water_work.c: the warning in force and its priority, the callbacks of the
  warnings, clearing, and the learn mode.
-/

namespace Aqualarm

/-! The callbacks `warning_init` binds. -/

def setDeviceStatus (status : DeviceStatus) : MainUnit → MainUnit :=
  MainUnit.onCore fun c => { c with deviceStatus := status }

def slaverLowPowerEventCallback : MainUnit → MainUnit := setDeviceStatus .slaverLowPower

def slaverUltraLowPowerEventCallback (u : MainUnit) : MainUnit :=
  setDeviceStatus .slaverUltraLowPower ((valveLock u).onCore fun c => (valveClose c).2)

def slaverSensorLeakEventCallback (u : MainUnit) : MainUnit :=
  if u.core.deviceStatus ≠ .slaverSensorLeak then
    setDeviceStatus .slaverSensorLeak ((valveLock u).onCore fun c => (valveClose c).2)
  else u

def slaverSensorLostEventCallback : MainUnit → MainUnit := setDeviceStatus .slaverSensorLost

def masterSensorLostEventCallback (u : MainUnit) : MainUnit :=
  gatewayWarningMasterLost 1 (setDeviceStatus .masterSensorLost u)

def masterSensorLeakEventCallback (u : MainUnit) : MainUnit :=
  gatewayWarningMasterLeak 1
    (setDeviceStatus .masterSensorLeak (u.onCore fun c => (valveClose c).2))

def masterLowTempEventCallback (u : MainUnit) : MainUnit :=
  setDeviceStatus .masterLowTemp (u.onCore fun c => (valveClose c).2)

def slaverOfflineEventCallback (u : MainUnit) : MainUnit :=
  if u.core.deviceStatus ≠ .slaverOffline then
    setDeviceStatus .slaverOffline (u.onCore fun c => (valveClose c).2)
  else u

def valveLeftFailEventCallback (u : MainUnit) : MainUnit :=
  gatewayWarningMasterValveCheck 3 (setDeviceStatus .valveLeftFail u)

def valveRightFailEventCallback (u : MainUnit) : MainUnit :=
  gatewayWarningMasterValveCheck 4 (setDeviceStatus .valveRightFail u)

/-- The callback each event is bound to. -/
def Warning.callback : Warning → MainUnit → MainUnit
  | .valveLeftFail => valveLeftFailEventCallback
  | .valveRightFail => valveRightFailEventCallback
  | .slaverLowPower => slaverLowPowerEventCallback
  | .slaverUltraLowPower => slaverUltraLowPowerEventCallback
  | .slaverSensorLeak => slaverSensorLeakEventCallback
  | .slaverSensorLost => slaverSensorLostEventCallback
  | .slaverOffline => slaverOfflineEventCallback
  | .masterSensorLost => masterSensorLostEventCallback
  | .masterSensorLeak => masterSensorLeakEventCallback
  | .masterLowTemp => masterLowTempEventCallback

/-- `warning_enable`: an event of lower priority than the one in force is
dropped. -/
def warningEnable (event : Warning) (u : MainUnit) : MainUnit :=
  if event.priority ≥ u.core.nowEvent.priority then
    event.callback (u.onCore fun c =>
      { c with nowEvent := { lastId := event.warningId, priority := event.priority,
                             callback := some event } })
  else u

/-! Clearing. -/

def warningAllClear (c : Core) : Core :=
  { c with deviceStatus := c.valveStatus.toDeviceStatus, nowEvent := {} }

def valvefailWarningDisable (c : Core) : Core :=
  if c.deviceStatus = .valveLeftFail ∨ c.deviceStatus = .valveRightFail then warningAllClear c else c

def warningOfflineCheck (u : MainUnit) : MainUnit :=
  if u.core.deviceStatus = .slaverOffline then
    if aqDeviceEndunitOfflineFind u.storage = false then u.onCore warningAllClear else u
  else u

/-! The learn mode. -/

/-- `gateway_connect_start` (heart.c). -/
def gatewayConnectStart (u : MainUnit) : MainUnit :=
  if aqGatewayFind u.storage ≠ 0 then
    let u := gatewayHeartUploadPoweron { u with heart := { u.heart with gatewayHeartRetry := 0 } }
    { u with heart := { u.heart with heartConnectTimer := true } }
  else u

/-- `radio_learn_timer_callback`. -/
def radioLearnTimerCallback (u : MainUnit) : MainUnit :=
  gatewayConnectStart (u.onCore fun c => warningAllClear { c with allowAddDevice := false })

def radioStartLearnDevice (u : MainUnit) : MainUnit :=
  if u.core.deviceStatus.Idle then
    u.onCore fun c =>
      { c with deviceStatus := .learnDevice, allowAddDevice := true, radioLearnTimer := true }
  else if u.core.deviceStatus = .learnDevice then
    gatewayConnectStart (u.onCore fun c =>
      warningAllClear { c with radioLearnTimer := false, allowAddDevice := false })
  else u

/-- `radio_refresh_learn_device` starts the learn timer, whatever the mode. -/
def radioRefreshLearnDevice (c : Core) : Core := { c with radioLearnTimer := true }

/-! `aq_device_heart_check` (flashwork.c) raises the offline warning. -/

def aqDeviceHeartCheck (u : MainUnit) : MainUnit :=
  let u := u.onStorage heartCheckMark
  let u :=
    if aqDeviceEndunitOfflineFind u.storage then
      warningEnable .slaverOffline (gatewayWarningSlaverOffline u.env.mallocEndunitOffline u)
    else u
  if aqDeviceDoorOfflineFind u.storage then gatewayWarningSlaverOffline u.env.mallocDoorOffline u else u

/-- The door units are only reported. -/
theorem deviceHeartCheck_core (u : MainUnit) :
    (aqDeviceHeartCheck u).core =
      (if aqDeviceEndunitOfflineFind (heartCheckMark u.storage) then
        warningEnable .slaverOffline (gatewayWarningSlaverOffline u.env.mallocEndunitOffline (u.onStorage heartCheckMark))
      else u.onStorage heartCheckMark).core := by
  have hdoor : ∀ u : MainUnit, (if aqDeviceDoorOfflineFind u.storage then
      gatewayWarningSlaverOffline u.env.mallocDoorOffline u else u).core = u.core := by
    intro u
    split
    · exact (offlineUpload_same _ _).1
    · rfl
  unfold aqDeviceHeartCheck
  dsimp only
  rw [hdoor]
  rfl

end Aqualarm
