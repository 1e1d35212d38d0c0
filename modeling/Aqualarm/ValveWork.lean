import Aqualarm.GatewayApi

/-
  valve_work.c, the part the other files call: opening and closing the valve,
  the lock, and starting a valve check. The timer callbacks follow the warnings
  they raise (`ValveTimers`).
-/

namespace Aqualarm

namespace Core

def setMotor (side : Side) (f : Motor → Motor) (c : Core) : Core :=
  { c with motor := Function.update c.motor side (f (c.motor side)) }

@[simp] theorem setMotor_motor (side s : Side) (f : Motor → Motor) (c : Core) :
    (c.setMotor side f).motor s = if s = side then f (c.motor s) else c.motor s := by
  by_cases h : s = side
  · subst h; simp [setMotor]
  · simp [setMotor, h]

section
variable (side : Side) (f : Motor → Motor) (c : Core)

@[simp] theorem setMotor_deviceStatus : (c.setMotor side f).deviceStatus = c.deviceStatus := rfl
@[simp] theorem setMotor_nowEvent : (c.setMotor side f).nowEvent = c.nowEvent := rfl
@[simp] theorem setMotor_allowAddDevice : (c.setMotor side f).allowAddDevice = c.allowAddDevice := rfl
@[simp] theorem setMotor_radioLearnTimer : (c.setMotor side f).radioLearnTimer = c.radioLearnTimer := rfl
@[simp] theorem setMotor_valveStatus : (c.setMotor side f).valveStatus = c.valveStatus := rfl
@[simp] theorem setMotor_lockStatus : (c.setMotor side f).lockStatus = c.lockStatus := rfl
@[simp] theorem setMotor_valveValid : (c.setMotor side f).valveValid = c.valveValid := rfl

end

end Core

/-- `valve_turn_control`: a negative direction closes both sides. -/
def valveTurnControl (dir : Int) (c : Core) : Core :=
  if dir < 0 then
    { c with
      valveStatus := .valveStatusClose
      motor := fun side => { c.motor side with mbValveControlState := false, controlPin := .pinHigh } }
  else
    { c with
      valveStatus := .valveStatusOpen
      motor := fun side => { c.motor side with mbValveControlState := true, controlPin := .pinLow } }

/-- The four `rt_timer_stop` calls on the check timers. -/
def stopTurnTimers (c : Core) : Core :=
  { c with motor := fun side => { c.motor side with turnBackTimer := false, turnCheckTimer := false } }

def valveOpen (c : Core) : RtErr × Core :=
  if c.lockStatus = 1 ∨ c.valveValid = false then (.rtError, c)
  else
    let c := valveTurnControl 1 { c with deviceStatus := .valveOpen }
    (.rtEok, { stopTurnTimers c with valveDelayCloseTimer := false, valveDetectOnceTimer := true })

/-- `valve_close`. With `valve_valid == 0` the outputs are switched but neither
`DeviceStatus` nor any timer is touched. -/
def valveClose (c : Core) : RtErr × Core :=
  if c.valveValid = false then (.rtError, valveTurnControl (-1) c)
  else
    let c := valveTurnControl (-1) { c with deviceStatus := .valveClose }
    (.rtEok, { stopTurnTimers c with valveDelayCloseTimer := false, valveDetectOnceTimer := false })

def valveLock (u : MainUnit) : MainUnit :=
  if u.core.lockStatus = 0 then
    (u.onCore fun c => { c with lockStatus := 1 }).onStorage (flashSetKey .valveLock 1)
  else u

def valveUnlock (u : MainUnit) : MainUnit :=
  if u.core.lockStatus = 1 then
    (u.onCore fun c => { c with lockStatus := 0 }).onStorage (flashSetKey .valveLock 0)
  else u

/-- One side of `valve_check_start`: a side whose `FULLY_OPEN` pin reads 0 is
driven back and its first-stage timer started. -/
def valveCheckStartSide (side : Side) (fullyOpen : PinLevel) (c : Core) : Core :=
  if fullyOpen = .pinLow then
    c.setMotor side fun m =>
      { m with
        turnCheckTimer := false, checkResult := false, mbValveCheckState := true,
        controlPin := .pinHigh, turnBackTimer := true }
  else c

def valveCheckStart (fullyOpen : Side → PinLevel) (c : Core) : Core :=
  if c.valveStatus = .valveStatusClose then c
  else valveCheckStartSide .right (fullyOpen .right) (valveCheckStartSide .left (fullyOpen .left) c)

/-- `valve_delay_control`. -/
def valveDelayControl (value : Bool) (c : Core) : Core := { c with valveDelayCloseTimer := value }

/-! What the operations do to each variable. -/

section
variable (c : Core)

@[simp] theorem valveClose_valveStatus : (valveClose c).2.valveStatus = .valveStatusClose := by
  unfold valveClose; split <;> rfl

@[simp] theorem valveClose_controlPin (side : Side) : ((valveClose c).2.motor side).controlPin = .pinHigh := by
  unfold valveClose; split <;> rfl

@[simp] theorem valveClose_lockStatus : (valveClose c).2.lockStatus = c.lockStatus := by
  unfold valveClose; split <;> rfl

@[simp] theorem valveClose_valveValid : (valveClose c).2.valveValid = c.valveValid := by
  unfold valveClose; split <;> rfl

@[simp] theorem valveClose_nowEvent : (valveClose c).2.nowEvent = c.nowEvent := by
  unfold valveClose; split <;> rfl

@[simp] theorem valveClose_allowAddDevice : (valveClose c).2.allowAddDevice = c.allowAddDevice := by
  unfold valveClose; split <;> rfl

/-- Closing either sets `ValveClose` or, refused, leaves the status. -/
theorem valveClose_deviceStatus :
    (valveClose c).2.deviceStatus = .valveClose ∨ (valveClose c).2.deviceStatus = c.deviceStatus := by
  unfold valveClose
  split
  · exact Or.inr rfl
  · exact Or.inl rfl

/-- `valve_open` either refuses and changes nothing, or is not locked and opens. -/
theorem valveOpen_cases :
    ((c.lockStatus = 1 ∨ c.valveValid = false) ∧ valveOpen c = (.rtError, c)) ∨
    (c.lockStatus ≠ 1 ∧ c.valveValid = true ∧ (valveOpen c).1 = .rtEok ∧
      (valveOpen c).2.deviceStatus = .valveOpen ∧ (valveOpen c).2.valveStatus = .valveStatusOpen) := by
  by_cases h : c.lockStatus = 1 ∨ c.valveValid = false
  · exact Or.inl ⟨h, by rw [valveOpen, if_pos h]⟩
  · right
    have hv : c.valveValid = true := by
      cases hv : c.valveValid with
      | false => exact absurd (Or.inr hv) h
      | true => rfl
    refine ⟨fun hl => h (Or.inl hl), hv, ?_, ?_, ?_⟩ <;> rw [valveOpen, if_neg h] <;> rfl

theorem valveCheckStart_alarm (fullyOpen : Side → PinLevel) :
    (valveCheckStart fullyOpen c).deviceStatus = c.deviceStatus ∧
      (valveCheckStart fullyOpen c).nowEvent = c.nowEvent ∧
      (valveCheckStart fullyOpen c).valveStatus = c.valveStatus ∧
      (valveCheckStart fullyOpen c).lockStatus = c.lockStatus := by
  have hside : ∀ side level (c : Core),
      (valveCheckStartSide side level c).deviceStatus = c.deviceStatus ∧
      (valveCheckStartSide side level c).nowEvent = c.nowEvent ∧
      (valveCheckStartSide side level c).valveStatus = c.valveStatus ∧
      (valveCheckStartSide side level c).lockStatus = c.lockStatus := by
    intro side level c
    unfold valveCheckStartSide
    split <;> exact ⟨rfl, rfl, rfl, rfl⟩
  unfold valveCheckStart
  split
  · exact ⟨rfl, rfl, rfl, rfl⟩
  · obtain ⟨h₁, h₂, h₃, h₄⟩ := hside .left (fullyOpen .left) c
    obtain ⟨g₁, g₂, g₃, g₄⟩ :=
      hside .right (fullyOpen .right) (valveCheckStartSide .left (fullyOpen .left) c)
    exact ⟨g₁.trans h₁, g₂.trans h₂, g₃.trans h₃, g₄.trans h₄⟩

/-- A check drives a side back or leaves it. -/
theorem valveCheckStart_controlPin (fullyOpen : Side → PinLevel) (side : Side) :
    ((valveCheckStart fullyOpen c).motor side).controlPin = (c.motor side).controlPin ∨
      ((valveCheckStart fullyOpen c).motor side).controlPin = .pinHigh := by
  have hside : ∀ s level (c : Core),
      ((valveCheckStartSide s level c).motor side).controlPin = (c.motor side).controlPin ∨
      ((valveCheckStartSide s level c).motor side).controlPin = .pinHigh := by
    intro s level c
    unfold valveCheckStartSide
    split
    · rw [Core.setMotor_motor]
      split
      · exact Or.inr rfl
      · exact Or.inl rfl
    · exact Or.inl rfl
  unfold valveCheckStart
  split
  · exact Or.inl rfl
  · rcases hside .right (fullyOpen .right) (valveCheckStartSide .left (fullyOpen .left) c) with h | h
    · rw [h]
      exact hside .left (fullyOpen .left) c
    · exact Or.inr h

@[simp] theorem valveOpen_lockStatus : (valveOpen c).2.lockStatus = c.lockStatus := by
  unfold valveOpen; split <;> rfl

@[simp] theorem valveOpen_nowEvent : (valveOpen c).2.nowEvent = c.nowEvent := by
  unfold valveOpen; split <;> rfl

end

end Aqualarm
