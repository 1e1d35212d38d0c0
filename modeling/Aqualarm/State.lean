import Aqualarm.LoraOta
import Aqualarm.ValveTimers

/-
  The whole unit: the shared variables, and the variables only one file uses.
  A reset clears all of them but the two flash contents, then runs the start-up
  sequence of main.c.
-/

namespace Aqualarm

/-- radio_protocol_factory.c. -/
structure Factory where
  factoryControllerRecvRssi : Int16 := 0
  factoryControllerRecvSnr : Int8 := 0
  factoryGatewayRecvRssi : Int16 := 0
  factoryGatewayRecvSnr : Int8 := 0
  deriving DecidableEq

/-- key.c. -/
structure Keys where
  keyOnCount : Nat := 0
  keyOffCount : Nat := 0
  keyOnOffFlag : Bool := false
  keyOnLongClick : Bool := false
  keyOffLongClick : Bool := false
  deriving DecidableEq

/-- dry_contact.c: the last level of the valve input, `none` for the initial -1. -/
structure DryContact where
  dryContactValveInputLevel : Option PinLevel := none
  deriving DecidableEq

/-- The coil and holding-register buffers of user_mb_app.c. -/
structure Modbus where
  ucSCoilBuf : Nat → UInt8 := fun _ => 0
  usSRegHoldBuf : Nat → UInt16 := fun _ => 0

/-- `rfAckSem` is whether `rf_ack_sem` has been completed since the sender
thread last initialised it. -/
structure State where
  unit : MainUnit
  ota : Ota
  rfAckSem : Bool := false
  factory : Factory := {}
  key : Keys := {}
  dry : DryContact := {}
  modbus : Modbus := {}

namespace State

def onUnit (f : MainUnit → MainUnit) (s : State) : State := { s with unit := f s.unit }

def onCore (f : Core → Core) (s : State) : State := s.onUnit (MainUnit.onCore f)

section
variable (f : MainUnit → MainUnit) (s : State)

@[simp] theorem onUnit_unit : (s.onUnit f).unit = f s.unit := rfl
@[simp] theorem onUnit_ota : (s.onUnit f).ota = s.ota := rfl
@[simp] theorem onUnit_rfAckSem : (s.onUnit f).rfAckSem = s.rfAckSem := rfl
@[simp] theorem onUnit_factory : (s.onUnit f).factory = s.factory := rfl
@[simp] theorem onUnit_key : (s.onUnit f).key = s.key := rfl
@[simp] theorem onUnit_dry : (s.onUnit f).dry = s.dry := rfl
@[simp] theorem onUnit_modbus : (s.onUnit f).modbus = s.modbus := rfl

end

end State

/-- Start-up: RAM at its initial values, `read_device_from_flash`, `valve_init`,
and the `aq_device_heart_recv_clear` the RTC thread begins with. -/
def MainUnit.boot (u : MainUnit) : MainUnit :=
  let storage := readDeviceFromFlash { u.storage with deviceList := [], totalSlot := 0 }
  let u := valveInit { cfg := u.cfg, env := u.env, storage := storage, tx := u.tx }
  u.onStorage aqDeviceHeartRecvClear

/-- `rt_hw_cpu_reset`, and any other reset. -/
def rtHwCpuReset (s : State) : State :=
  { unit := s.unit.boot, ota := { download := s.ota.download } }

end Aqualarm
