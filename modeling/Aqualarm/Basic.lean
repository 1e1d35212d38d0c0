import Mathlib.Algebra.Ring.Nat
import Mathlib.Logic.Function.Basic

/-
  The data the main unit works on: the alarm and valve variables of
  water_work.c and valve_work.c, radio frames in both directions, and what the
  environment decides about one event.

  Conventions. A C flag that is only ever assigned 0 and 1 is a `Bool`;
  `lock_status` keeps its byte because it is loaded from flash. A timer is
  modelled by whether it is armed. LEDs, the beeper and log lines drive nothing
  that is read back and are left out.
-/

namespace Aqualarm

/-- `enum Device_Status` (water_work.h). -/
inductive DeviceStatus where
  | valveClose | valveOpen | learnDevice | valveLeftFail | valveRightFail
  | slaverLowPower | slaverUltraLowPower | slaverSensorLeak | slaverSensorLost
  | slaverOffline | masterSensorLost | masterSensorLeak | masterSensorAbnormal
  | masterLowTemp
  deriving DecidableEq, Repr

/-- The enumerator's value, as `warning_status_get` reports it. -/
def DeviceStatus.code : DeviceStatus → UInt8
  | .valveClose => 0 | .valveOpen => 1 | .learnDevice => 2 | .valveLeftFail => 3
  | .valveRightFail => 4 | .slaverLowPower => 5 | .slaverUltraLowPower => 6
  | .slaverSensorLeak => 7 | .slaverSensorLost => 8 | .slaverOffline => 9
  | .masterSensorLost => 10 | .masterSensorLeak => 11 | .masterSensorAbnormal => 12
  | .masterLowTemp => 13

/-- `DeviceStatus == ValveClose || DeviceStatus == ValveOpen || DeviceStatus ==
SlaverSensorLost`, the guard the source repeats before a remote command. -/
def DeviceStatus.Idle (d : DeviceStatus) : Prop :=
  d = .valveClose ∨ d = .valveOpen ∨ d = .slaverSensorLost

instance (d : DeviceStatus) : Decidable d.Idle :=
  inferInstanceAs (Decidable (d = .valveClose ∨ d = .valveOpen ∨ d = .slaverSensorLost))

/-- `VALVE_STATUS_CLOSE`, `VALVE_STATUS_OPEN`. -/
inductive ValveStatus where
  | valveStatusClose | valveStatusOpen
  deriving DecidableEq, Repr

def ValveStatus.code : ValveStatus → UInt8
  | .valveStatusClose => 0
  | .valveStatusOpen => 1

/-- `DeviceStatus = get_valve_status()`: 0 is `ValveClose` and 1 is `ValveOpen`. -/
def ValveStatus.toDeviceStatus : ValveStatus → DeviceStatus
  | .valveStatusClose => .valveClose
  | .valveStatusOpen => .valveOpen

inductive PinLevel where
  | pinLow | pinHigh
  deriving DecidableEq, Repr

/-- `RT_EOK`, `RT_ERROR`. -/
inductive RtErr where
  | rtEok | rtError
  deriving DecidableEq, Repr

/-- The two motors. Their code is written out twice in the source. -/
inductive Side where
  | left | right
  deriving DecidableEq, Repr

/-! Warnings. -/

/-- The events `warning_init` binds. -/
inductive Warning where
  | valveLeftFail | valveRightFail | slaverLowPower | slaverUltraLowPower
  | slaverSensorLeak | slaverSensorLost | slaverOffline | masterSensorLost
  | masterSensorLeak | masterLowTemp
  deriving DecidableEq, Repr

def Warning.warningId : Warning → Nat
  | .valveLeftFail => 1 | .valveRightFail => 2 | .slaverLowPower => 3
  | .slaverUltraLowPower => 4 | .slaverSensorLeak => 5 | .slaverSensorLost => 10
  | .slaverOffline => 6 | .masterSensorLost => 7 | .masterSensorLeak => 8
  | .masterLowTemp => 9

def Warning.priority : Warning → Nat
  | .valveLeftFail => 4 | .valveRightFail => 4 | .slaverLowPower => 3
  | .slaverUltraLowPower => 6 | .slaverSensorLeak => 8 | .slaverSensorLost => 1
  | .slaverOffline => 5 | .masterSensorLost => 1 | .masterSensorLeak => 7
  | .masterLowTemp => 2

/-- `NowEvent`: the id, priority and callback of the warning in force. Its own
`warning_id` is never written after `warning_init` zeroes it. -/
structure NowEvent where
  lastId : Nat := 0
  priority : Nat := 0
  callback : Option Warning := none
  deriving DecidableEq, Repr

/-! Valve and alarm variables. -/

/-- One motor: the level of its control pin, its last check result (`true` is
"warning"), the two Modbus mirrors, and its two one-shot timers. -/
structure Motor where
  controlPin : PinLevel := .pinHigh
  checkResult : Bool := false
  mbValveControlState : Bool := false
  mbValveCheckState : Bool := false
  turnBackTimer : Bool := false
  turnCheckTimer : Bool := false
  deriving DecidableEq, Repr

/-- The static variables of water_work.c and valve_work.c, with the pins and
timers they drive. The defaults are the values after a reset. -/
structure Core where
  deviceStatus : DeviceStatus := .valveClose
  nowEvent : NowEvent := {}
  allowAddDevice : Bool := false
  radioLearnTimer : Bool := false
  valveStatus : ValveStatus := .valveStatusClose
  lockStatus : UInt8 := 0
  valveValid : Bool := true
  valveDelayCloseTimer : Bool := false
  valveDetectOnceTimer : Bool := false
  motor : Side → Motor := fun _ => {}

/-- `heart.c`: the retry counter and the connect timer. -/
structure Heart where
  gatewayHeartRetry : UInt8 := 0
  heartConnectTimer : Bool := false
  deriving DecidableEq, Repr

/-! Radio frames. -/

def deviceTypeEndunit : UInt8 := 0x00
def deviceTypeMainunit : UInt8 := 0x01
def deviceTypeGateway : UInt8 := 0x02
def deviceTypeDoorunit : UInt8 := 0x04
def deviceTypeMotionSensor : UInt8 := 0x06
def deviceTypeFactoryTool : UInt8 := 0x0E

def msgUnconfirmedUplink : UInt8 := 0x00
def msgConfirmedUplink : UInt8 := 0x01
def msgUnconfirmedDownlink : UInt8 := 0x02

def heartUploadCmd : UInt8 := 0x01
def learnDeviceCmd : UInt8 := 0x02
def controlValveCmd : UInt8 := 0x03
def warningUploadCmd : UInt8 := 0x04
def deviceSyncCmd : UInt8 := 0x05
def confirmAckCmd : UInt8 := 0x06
def firmwareUpdateCmd : UInt8 := 0x07
def factoryRfTestCmd : UInt8 := 0x01

/-- `rx_format`. `rxData` is the memory behind the pointer, so an index past the
frame reads what lies there. -/
structure RxFrame where
  rssi : Int16
  snr : Int8
  rssiLevel : UInt8
  msgType : UInt8
  deviceType : UInt8
  destAddr : UInt32
  sourceAddr : UInt32
  rxData : Nat → UInt8
  rxLen : Nat

/-- `tx_format`; `tx_len` is the length of `txData`. -/
structure TxFormat where
  msgAck : Bool
  msgType : UInt8
  destAddr : UInt32
  sourceAddr : UInt32
  command : UInt8
  txData : List UInt8 := []
  deriving DecidableEq, Repr

/-- A frame handed to `lora_tx_enqueue`, with the queue's `need_ack` and
`parameter`. `valveStatus` is not sent: it records the valve when the frame was
handed over. -/
structure SendMsg where
  frame : TxFormat
  needAck : Bool
  parameter : UInt8
  valveStatus : ValveStatus
  deriving DecidableEq, Repr

/-- `a >> 24 & 0xFF`, `a >> 16 & 0xFF`, `a >> 8 & 0xFF`, `a & 0xFF`. -/
def beBytes (a : UInt32) : List UInt8 :=
  [(a >>> 24).toUInt8, (a >>> 16).toUInt8, (a >>> 8).toUInt8, a.toUInt8]

/-- `b0 << 24 | b1 << 16 | b2 << 8 | b3`. -/
def beWord (b0 b1 b2 b3 : UInt8) : UInt32 :=
  b0.toUInt32 <<< 24 ||| b1.toUInt32 <<< 16 ||| b2.toUInt32 <<< 8 ||| b3.toUInt32

/-! What is fixed for a unit, and what the environment decides. -/

/-- The word at the fixed flash address, and the CRC peripheral. -/
structure Config where
  flashWord : UInt32
  crc : List UInt8 → UInt8

/-- `local_address` as `radio_encode_queue_init` sets it. -/
def Config.localAddress (cfg : Config) : UInt32 :=
  if cfg.flashWord = 0xFFFFFFFF ∨ cfg.flashWord = 0 then 10000000 else cfg.flashWord

theorem Config.localAddress_ne_broadcast (cfg : Config) : cfg.localAddress ≠ 0xFFFFFFFF := by
  unfold Config.localAddress
  split
  · decide
  · rename_i h
    exact fun hc => h (Or.inl hc)

/-- What the environment decides about one event: the readings of the
`FULLY_OPEN` pins, which allocations, flash writes and partition operations
succeed, and the byte the stack holds where `rx_frame.snr` lies. -/
structure Env where
  fullyOpen : Side → PinLevel
  mallocDevice : Bool
  mallocSync : Bool
  mallocEndunitOffline : Bool
  mallocDoorOffline : Bool
  efSetEnvBlob : Nat → Bool
  falPartitionFind : Bool
  falPartitionErase : Bool
  falPartitionWrite : Bool
  stackSnr : Int8

/-- Both motors read as fully open; every allocation, flash write and partition
operation succeeds. -/
def sampleEnv : Env :=
  { fullyOpen := fun _ => .pinLow
    mallocDevice := true, mallocSync := true, mallocEndunitOffline := true, mallocDoorOffline := true
    efSetEnvBlob := fun _ => true
    falPartitionFind := true, falPartitionErase := true, falPartitionWrite := true
    stackSnr := 0 }

end Aqualarm
