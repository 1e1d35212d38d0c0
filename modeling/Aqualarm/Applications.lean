import Aqualarm.State

/-
  The local inputs: key.c, dry_contact.c, and the heart and RTC threads.
-/

namespace Aqualarm

/-! key.c -/

def keyOnClickHandle (u : MainUnit) : MainUnit :=
  match u.core.deviceStatus with
  | .valveClose | .slaverSensorLost => openAndReport u
  | .slaverLowPower => if getValveStatus u = .valveStatusClose then openAndReport u else u
  | .masterSensorLost => openAndReport u
  | _ => u

def keyOffClickHandle (u : MainUnit) : MainUnit :=
  match u.core.deviceStatus with
  | .valveOpen => closeAndReport u
  | .slaverLowPower => if getValveStatus u = .valveStatusOpen then closeAndReport u else u
  | .masterSensorLost => closeAndReport u
  | .masterSensorAbnormal => gatewayWarningMasterLeak 0 (u.onCore warningAllClear)
  | _ => u

/-- `key_on_off_long_click_handle`: both keys held erase the environment and
reset the unit. -/
def keyOnOffLongClickHandle (s : State) : State :=
  if s.key.keyOnCount > 3 ∧ s.key.keyOffCount > 3 then
    if s.key.keyOnOffFlag = false then
      let s := { s with key := { s.key with keyOnOffFlag := true } }
      let s := s.onUnit gatewaySyncDeviceReset
      let s := s.onUnit (MainUnit.onStorage fun st => { st with flash := Flash.default })
      rtHwCpuReset s
    else s
  else s

def keyOffLongHoldHandle (s : State) : State :=
  if s.key.keyOffCount < 4 then
    { s with key := { s.key with keyOffCount := s.key.keyOffCount + 1 } }
  else if s.key.keyOnCount ≠ 0 then keyOnOffLongClickHandle s
  else if s.key.keyOffLongClick = false then
    { s with key := { s.key with keyOffLongClick := true }, unit := radioStartLearnDevice s.unit }
  else s

def keyOffLongFreeHandle (s : State) : State :=
  { s with key := { s.key with keyOnOffFlag := false, keyOffCount := 0, keyOffLongClick := false } }

def keyOnLongHoldHandle (s : State) : State :=
  if s.key.keyOnCount < 4 then
    { s with key := { s.key with keyOnCount := s.key.keyOnCount + 1 } }
  else if s.key.keyOffCount ≠ 0 then keyOnOffLongClickHandle s
  else if s.key.keyOnLongClick = false then
    { s with
      key := { s.key with keyOnLongClick := true }
      unit := s.unit.onCore (valveCheckStart s.unit.env.fullyOpen) }
  else s

def keyOnLongFreeHandle (s : State) : State :=
  { s with key := { s.key with keyOnOffFlag := false, keyOnCount := 0, keyOnLongClick := false } }

/-! dry_contact.c -/

/-- The polling timer's callback, for the level it reads. -/
def dryContactPollingTimerCallback (level : PinLevel) (s : State) : State :=
  if s.dry.dryContactValveInputLevel ≠ some level then
    { s with dry := { dryContactValveInputLevel := some level }, unit := valveDryContactControl level s.unit }
  else s

/-! heart.c and rtc.c -/

def gatewayHeartCheck (u : MainUnit) : MainUnit :=
  if aqGatewayFind u.storage = 0 then u
  else if aqDeviceRecvFind (aqGatewayFind u.storage) u.storage ≠ 0 then
    u.onStorage (aqDeviceRecvSet (aqGatewayFind u.storage) 0)
  else u

def heartConnectTimerCallback (u : MainUnit) : MainUnit :=
  if aqDeviceRecvFind (aqGatewayFind u.storage) u.storage = 0 then
    if u.heart.gatewayHeartRetry < 3 then
      let u := { u with heart := { u.heart with gatewayHeartRetry := u.heart.gatewayHeartRetry + 1 } }
      let u := gatewayHeartUploadPoweron u
      { u with heart := { u.heart with heartConnectTimer := true } }
    else u
  else u

/-- The periodic message of `heart_thread_entry`. -/
def heartThreadUpload (u : MainUnit) : MainUnit :=
  if aqGatewayFind u.storage ≠ 0 then gatewayHeartUploadMaster u else u

end Aqualarm
