import Aqualarm.Basic
import Aqualarm.Lib.Bitmap
import Aqualarm.Lib.Decimal
import Aqualarm.Lib.FirstMatch

/-
  flashwork.c: the device list, the slot bitmap and the EasyFlash environment
  they are kept in.

  EasyFlash is a key-value map. The firmware uses two kinds of keys: named
  integers, stored as the text `%d` prints, and the records `index:<slot>`,
  stored as the bytes of an `aqualarm_device_t`; the two are kept apart here.
  Whether a write succeeds is the environment's choice (`writeOk`, by the number
  of the write), and every write attempted is logged in `writes`, which no code
  reads.

  A node the source holds a pointer to is the first one of its `device_id`, as
  `aq_device_find` returns it, or, in the loop of `aq_device_heart_check`, the one
  at the loop's position: stored records may list an id twice. The record's `snr`,
  `rssi`, `ack` and `rsvd` are only printed and are left out.
-/

namespace Aqualarm

open Lib (bit printInt atol mapFirst)

/-- `aqualarm_device_t`. -/
structure Device where
  slot : Nat
  rssiLevel : UInt8 := 0
  type : UInt8
  battery : UInt8 := 0
  waterleak : UInt8 := 0
  wirelost : UInt8 := 0
  online : UInt8 := 0
  recv : UInt8 := 0
  deviceId : UInt32
  deriving DecidableEq, Repr

/-! The EasyFlash environment. -/

/-- The names the firmware passes to `flash_get_key` and `flash_set_key`. -/
inductive KeyName where
  | slot | valveLock
  deriving DecidableEq, Repr

/-- One `ef_set_env_blob` call. -/
inductive FlashWrite where
  | key (name : KeyName) (text : List Char)
  | index (slot : Nat) (device : Device)
  deriving DecidableEq, Repr

structure Flash where
  key : KeyName → Option (List Char)
  index : Nat → Option Device

/-- The environment `ef_env_set_default` leaves: the firmware's keys are not in
the default set. -/
def Flash.default : Flash := { key := fun _ => none, index := fun _ => none }

def Flash.put (flash : Flash) : FlashWrite → Flash
  | .key name text => { flash with key := Function.update flash.key name (some text) }
  | .index slot device => { flash with index := Function.update flash.index slot (some device) }

/-- The variables of flashwork.c and the flash behind them. -/
structure Storage where
  deviceList : List Device := []
  totalSlot : BitVec 32 := 0
  flash : Flash
  writeOk : Nat → Bool
  writes : List FlashWrite := []

/-- One write: logged, and stored if the environment lets it succeed. No caller
looks at the result. -/
def efSetEnvBlob (w : FlashWrite) (st : Storage) : Storage :=
  { st with
    flash := if st.writeOk st.writes.length then st.flash.put w else st.flash
    writes := st.writes ++ [w] }

/-- `flash_get_key`: at most 32 bytes are read, into a zeroed buffer. -/
def flashGetKey (name : KeyName) (st : Storage) : BitVec 32 :=
  match st.flash.key name with
  | none => 0
  | some text =>
    let readValueTemp := text.take 32
    if 0 < readValueTemp.length then BitVec.ofInt 32 (atol readValueTemp) else 0

/-- `flash_set_key`: the value as `rt_sprintf("%d")` prints it. -/
def flashSetKey (name : KeyName) (value : BitVec 32) (st : Storage) : Storage :=
  efSetEnvBlob (.key name (printInt value.toInt)) st

/-! Slots. -/

def maxSlaverDevice : Nat := 12

/-- `read_device_from_flash`: the records whose slot bits are set, in slot
order; a set bit without a record is skipped. -/
def readDeviceFromFlash (st : Storage) : Storage :=
  let totalSlot := flashGetKey .slot st
  let loaded := (List.range 32).filterMap fun index =>
    if totalSlot &&& bit 32 index ≠ 0 then st.flash.index index else none
  { st with totalSlot := totalSlot, deviceList := st.deviceList ++ loaded }

/-- `get_free_device_slot`: the first clear bit below `MAX_SLAVER_DEVICE`, which
is set. -/
def getFreeDeviceSlot (st : Storage) : Option Nat × Storage :=
  match (List.range maxSlaverDevice).find? fun index => st.totalSlot &&& bit 32 index = 0 with
  | some index => (some index, { st with totalSlot := st.totalSlot ||| bit 32 index })
  | none => (none, st)

def deleteSelectDeviceSlot (index : Nat) (st : Storage) : Storage :=
  { st with totalSlot := st.totalSlot &&& ~~~(bit 32 index) }

def aqDeviceSave (device : Device) (st : Storage) : Storage :=
  efSetEnvBlob (.index device.slot device) st

/-! Looking devices up. -/

def aqDeviceFind (deviceId : UInt32) (st : Storage) : Option Device :=
  st.deviceList.find? fun device => device.deviceId = deviceId

def aqGatewayFind (st : Storage) : UInt32 :=
  match st.deviceList.find? fun device => device.type = deviceTypeGateway with
  | some device => device.deviceId
  | none => 0

def aqDeviceRecvFind (deviceAddr : UInt32) (st : Storage) : UInt8 :=
  match aqDeviceFind deviceAddr st with
  | some device => device.recv
  | none => 0

def aqDeviceWaterleakFind (st : Storage) : Bool :=
  st.deviceList.any fun device => device.waterleak ≠ 0

def aqDeviceWirelostFind (st : Storage) : Bool :=
  st.deviceList.any fun device => device.wirelost ≠ 0

def aqDeviceEndunitOfflineFind (st : Storage) : Bool :=
  st.deviceList.any fun device => device.online = 0 ∧ device.type = deviceTypeEndunit

def aqDeviceDoorOfflineFind (st : Storage) : Bool :=
  st.deviceList.any fun device => device.online = 0 ∧ device.type = deviceTypeDoorunit

/-! Creating and deleting. -/

/-- `aq_device_create`. A known id is returned as it is; the slot bit is taken
before the allocation that may fail; the bitmap is written before the record. -/
def aqDeviceCreate (mallocOk : Bool) (rssiLevel type : UInt8) (deviceId : UInt32) (st : Storage) :
    Option Device × Storage :=
  match aqDeviceFind deviceId st with
  | some checkDevice => (some checkDevice, st)
  | none =>
    if st.totalSlot.toNat > 4095 then (none, st)
    else
      match getFreeDeviceSlot st with
      | (none, st) => (none, st)
      | (some slot, st) =>
        if mallocOk then
          let device : Device := { slot, rssiLevel, type, online := 1, deviceId }
          let st := { st with deviceList := st.deviceList ++ [device] }
          let st := flashSetKey .slot st.totalSlot st
          (some device, aqDeviceSave device st)
        else (none, st)

/-- `aq_device_delete`: the bit is cleared and written; the record
`index:<slot>` stays. -/
def aqDeviceDelete (deviceId : UInt32) (st : Storage) : RtErr × Storage :=
  match aqDeviceFind deviceId st with
  | none => (.rtError, st)
  | some device =>
    let st := deleteSelectDeviceSlot device.slot st
    let st := flashSetKey .slot st.totalSlot st
    (.rtEok, { st with deviceList := st.deviceList.eraseP fun d => d.deviceId = deviceId })

/-- The loop of `aq_gateway_delete` and `aq_doorunit_delete`, which runs over
the nodes present when it starts. -/
def deleteByType (type : UInt8) (st : Storage) : Storage :=
  (st.deviceList.filter fun device => device.type = type).foldl
    (fun st device => (aqDeviceDelete device.deviceId st).2) st

def aqGatewayDelete (st : Storage) : Storage := deleteByType deviceTypeGateway st

/-! Changing one field. -/

/-- `f` applied to the nodes of `deviceId`. -/
def updateDevice (deviceId : UInt32) (f : Device → Device) (st : Storage) : Storage :=
  { st with deviceList := st.deviceList.map fun d => if d.deviceId = deviceId then f d else d }

/-- `f` applied to the first node of `deviceId`. -/
def updateFirst (deviceId : UInt32) (f : Device → Device) (st : Storage) : Storage :=
  { st with deviceList := mapFirst (fun d => d.deviceId = deviceId) f id st.deviceList }

/-- The loop of the `aq_device_*_set` functions: a matching node whose field
differs from `value` is changed and saved. -/
def setField (get : Device → UInt8) (put : UInt8 → Device → Device) (deviceId : UInt32)
    (value : UInt8) (st : Storage) : Storage :=
  (st.deviceList.filter fun d => d.deviceId = deviceId ∧ get d ≠ value).foldl
    (fun st d => aqDeviceSave (put value d) st)
    (updateDevice deviceId (fun d => if get d ≠ value then put value d else d) st)

def aqDeviceWaterleakSet : UInt32 → UInt8 → Storage → Storage :=
  setField Device.waterleak fun v d => { d with waterleak := v }

def aqDeviceWirelostSet : UInt32 → UInt8 → Storage → Storage :=
  setField Device.wirelost fun v d => { d with wirelost := v }

def aqDeviceBatterySet : UInt32 → UInt8 → Storage → Storage :=
  setField Device.battery fun v d => { d with battery := v }

def aqDeviceOnlineSet : UInt32 → UInt8 → Storage → Storage :=
  setField Device.online fun v d => { d with online := v }

def aqDeviceRssiLevelSet : UInt32 → UInt8 → Storage → Storage :=
  setField Device.rssiLevel fun v d => { d with rssiLevel := v }

/-- `aq_device_recv_set` saves nothing. -/
def aqDeviceRecvSet (deviceAddr : UInt32) (value : UInt8) : Storage → Storage :=
  updateDevice deviceAddr fun d => { d with recv := value }

/-- `device->rssi_level = rx_frame->rssi_level`, as three control handlers
write it: the node found is changed and not saved. -/
def deviceRssiLevelWrite (deviceId : UInt32) (rssiLevel : UInt8) : Storage → Storage :=
  updateFirst deviceId fun d => { d with rssiLevel }

/-- `device->recv = 1` in `aq_device_heart_recv`, on the node found. -/
def deviceRecvWrite (deviceId : UInt32) (value : UInt8) : Storage → Storage :=
  updateFirst deviceId fun d => { d with recv := value }

/-- `device->recv = 0` in `aq_device_heart_check`, on the node at position `node`. -/
def deviceRecvClear (node : Nat) (st : Storage) : Storage :=
  { st with deviceList := st.deviceList.modify node fun d => { d with recv := 0 } }

/-! Heartbeats. -/

def aqDeviceHeartRecvClear (st : Storage) : Storage :=
  { st with deviceList := st.deviceList.map fun d =>
      if d.type ≠ deviceTypeGateway then { d with recv := 0 } else d }

def aqDeviceHeartRecv (rx : RxFrame) (st : Storage) : RtErr × Storage :=
  match aqDeviceFind rx.sourceAddr st with
  | none => (.rtError, st)
  | some _ =>
    let st := deviceRecvWrite rx.sourceAddr 1 st
    let st := aqDeviceOnlineSet rx.sourceAddr 1 st
    (.rtEok, aqDeviceRssiLevelSet rx.sourceAddr rx.rssiLevel st)

/-- The turn of the loop of `aq_device_heart_check` at position `node`. -/
def heartCheckTurn (st : Storage) (node : Nat) : Storage :=
  match st.deviceList[node]? with
  | none => st
  | some device =>
    if device.type ≠ deviceTypeGateway then
      if device.recv ≠ 0 then deviceRecvClear node st
      else aqDeviceOnlineSet device.deviceId 0 st
    else st

/-- The marking loop of `aq_device_heart_check`. -/
def heartCheckMark (st : Storage) : Storage := (List.range st.deviceList.length).foldl heartCheckTurn st

/-! What the gateway is told about the list. -/

/-- `aq_device_offline_upload`: the count and the bytes. -/
def aqDeviceOfflineUpload (st : Storage) : UInt8 × List UInt8 :=
  let offline := st.deviceList.filter fun d => d.online = 0 ∧ d.type ≠ deviceTypeGateway
  (UInt8.ofNat offline.length, offline.flatMap fun d => beBytes d.deviceId)

/-- `aq_device_clone_upload`: the count and the bytes. -/
def aqDeviceCloneUpload (st : Storage) : UInt8 × List UInt8 :=
  let slaves := st.deviceList.filter fun d => d.type ≠ deviceTypeGateway
  (UInt8.ofNat slaves.length,
    slaves.flatMap fun d => beBytes d.deviceId ++ [d.type, d.online, d.rssiLevel, d.battery])

def aqDeviceSlaverCount (st : Storage) : UInt8 :=
  UInt8.ofNat (st.deviceList.filter fun d => d.type ≠ deviceTypeGateway).length

end Aqualarm
