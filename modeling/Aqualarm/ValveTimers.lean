import Aqualarm.WaterWork

/-
  valve_work.c, the timer callbacks, the dry-contact command and `valve_init`.
  The callbacks of the two sides are one definition each with the side, its
  failure event and its report codes as parameters.
-/

namespace Aqualarm

def valveDetectOnceTimerCallback (u : MainUnit) : MainUnit :=
  u.onCore (valveCheckStart u.env.fullyOpen)

def valveDelayCloseTimerCallback (u : MainUnit) : MainUnit :=
  if u.core.deviceStatus.Idle then
    gatewayControlMasterControl 0 ((valveLock u).onCore fun c => (valveClose c).2)
  else u

/-- `if(valve_open() == RT_EOK) gateway_control_master_control(1)`, as the dry
contact and the keys command the valve. -/
def openAndReport (u : MainUnit) : MainUnit :=
  let r := valveOpen u.core
  let u := { u with core := r.2 }
  if r.1 = .rtEok then gatewayControlMasterControl 1 u else u

/-- `if(valve_close() == RT_EOK) gateway_control_master_control(0)`. -/
def closeAndReport (u : MainUnit) : MainUnit :=
  let r := valveClose u.core
  let u := { u with core := r.2 }
  if r.1 = .rtEok then gatewayControlMasterControl 0 u else u

/-- `valve_dry_contact_control`: level 1 closes and level 0 opens. -/
def valveDryContactControl (level : PinLevel) (u : MainUnit) : MainUnit :=
  if u.core.deviceStatus.Idle then
    match level with
    | .pinHigh => closeAndReport u
    | .pinLow => openAndReport u
  else u

/-! The two-stage valve check. -/

def Side.other : Side → Side
  | .left => .right
  | .right => .left

def Side.failEvent : Side → Warning
  | .left => .valveLeftFail
  | .right => .valveRightFail

/-- The value a passed check of the side reports. -/
def Side.passCode : Side → UInt8
  | .left => 1
  | .right => 2

/-- Stage 1: after being driven back, the side must have left the fully open
position; then it is driven open again and stage 2 is timed. -/
def turnBackTimerCallback (side : Side) (u : MainUnit) : MainUnit :=
  if u.env.fullyOpen side = .pinHigh then
    u.onCore fun c => c.setMotor side fun m =>
      { m with controlPin := .pinLow, mbValveControlState := true, turnCheckTimer := true }
  else
    warningEnable side.failEvent (u.onCore fun c =>
      { c.setMotor side fun m => { m with checkResult := true, mbValveCheckState := false } with
        valveValid := false })

def valveLeftTurnBackTimerCallback : MainUnit → MainUnit := turnBackTimerCallback .left

def valveRightTurnBackTimerCallback : MainUnit → MainUnit := turnBackTimerCallback .right

/-- Stage 2: the side must be fully open again. `valve_valid` is set only if the
other side's last result is good. -/
def turnCheckTimerCallback (side : Side) (u : MainUnit) : MainUnit :=
  let u := u.onCore fun c => c.setMotor side fun m => { m with mbValveCheckState := false }
  if u.env.fullyOpen side = .pinLow then
    let u :=
      if (u.core.motor side.other).checkResult = false then
        u.onCore fun c => valvefailWarningDisable { c with valveValid := true }
      else u
    gatewayWarningMasterValveCheck side.passCode
      (u.onCore fun c => c.setMotor side fun m => { m with checkResult := false })
  else
    warningEnable side.failEvent (u.onCore fun c =>
      { c.setMotor side fun m => { m with checkResult := true } with valveValid := false })

def valveLeftTurnCheckTimerCallback : MainUnit → MainUnit := turnCheckTimerCallback .left

def valveRightTurnCheckTimerCallback : MainUnit → MainUnit := turnCheckTimerCallback .right

/-- `valve_init`, after the reset values of the valve variables: both outputs
are driven high. -/
def valveInit (u : MainUnit) : MainUnit :=
  let u := u.onCore fun c =>
    { c with
      lockStatus := UInt8.ofNat (flashGetKey .valveLock u.storage).toNat
      motor := fun side => { c.motor side with controlPin := .pinHigh } }
  if aqDeviceWaterleakFind u.storage then warningEnable .slaverSensorLeak u else u

/-! What the second stage leaves. -/

section
variable {side : Side} {u : MainUnit}

theorem valvefailWarningDisable_setMotor (f : Motor → Motor) (c : Core) :
    valvefailWarningDisable (c.setMotor side f) = (valvefailWarningDisable c).setMotor side f := by
  unfold valvefailWarningDisable
  rw [Core.setMotor_deviceStatus]
  by_cases h : c.deviceStatus = .valveLeftFail ∨ c.deviceStatus = .valveRightFail
  · rw [if_pos h, if_pos h]
    rfl
  · rw [if_neg h, if_neg h]

theorem Core.setMotor_setMotor (f g : Motor → Motor) (c : Core) :
    (c.setMotor side f).setMotor side g = c.setMotor side fun m => g (f m) := by
  simp [Core.setMotor]

/-- Passed, the check is over, and with a good result on the other side the
valve counts as good. The report leaves the variables. -/
theorem turnCheck_passed (hp : u.env.fullyOpen side = .pinLow) :
    (turnCheckTimerCallback side u).core =
      (if (u.core.motor side.other).checkResult = false then valvefailWarningDisable { u.core with valveValid := true }
        else u.core).setMotor side fun m => { m with mbValveCheckState := false, checkResult := false } := by
  have hother : ((u.core.setMotor side fun m => { m with mbValveCheckState := false }).motor side.other).checkResult =
      (u.core.motor side.other).checkResult := by
    rw [Core.setMotor_motor]
    split <;> rfl
  have hvalid : valvefailWarningDisable
      { u.core.setMotor side fun m => { m with mbValveCheckState := false } with valveValid := true } =
        (valvefailWarningDisable { u.core with valveValid := true }).setMotor side fun m =>
          { m with mbValveCheckState := false } :=
    @valvefailWarningDisable_setMotor side (fun m => { m with mbValveCheckState := false })
      { u.core with valveValid := true }
  unfold turnCheckTimerCallback
  dsimp only
  rw [if_pos (show (u.onCore _).env.fullyOpen side = .pinLow from hp), gatewayWarningMasterValveCheck, gatewayUpload_core,
    MainUnit.onCore_core, MainUnit.onCore_core, hother]
  split
  · rw [MainUnit.onCore_core, MainUnit.onCore_core, hvalid, Core.setMotor_setMotor]
  · rw [MainUnit.onCore_core, Core.setMotor_setMotor]

/-- Failed, it is over as well, and the side's failure is raised. -/
theorem turnCheck_failed (hp : u.env.fullyOpen side ≠ .pinLow) :
    turnCheckTimerCallback side u = warningEnable side.failEvent (u.onCore fun c =>
      { c.setMotor side fun m => { m with mbValveCheckState := false, checkResult := true } with valveValid := false }) := by
  unfold turnCheckTimerCallback
  dsimp only
  rw [if_neg (show ¬ (u.onCore _).env.fullyOpen side = .pinLow from hp)]
  refine congrArg (fun c : Core => warningEnable side.failEvent { u with core := { c with valveValid := false } }) ?_
  rw [MainUnit.onCore_core, Core.setMotor_setMotor]

end

end Aqualarm
