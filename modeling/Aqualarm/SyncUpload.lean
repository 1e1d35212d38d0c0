import Aqualarm.SeatedRegistry
import Aqualarm.FrameRoundTrip
import Aqualarm.Lib.FixedWidth

/-
  The upload of the whole device list, as the gateway reads it.

  What is proved: `sync_upload_round_trip` — for the registry of any run from an
  empty store the groups of eight bytes are the devices, the count is their
  number, and the frame is enqueued whole. The counters are bytes and the queue
  takes 253 bytes; both suffice because twelve devices at most are listed.
-/

namespace Aqualarm

open Lib

/-- What a group of the upload says of a device. -/
structure SyncEntry where
  deviceId : UInt32
  type : UInt8
  online : UInt8
  rssiLevel : UInt8
  battery : UInt8
  deriving DecidableEq, Repr

def Device.syncEntry (d : Device) : SyncEntry :=
  { deviceId := d.deviceId, type := d.type, online := d.online, rssiLevel := d.rssiLevel, battery := d.battery }

/-- Eight bytes: the id, big-endian, and a byte for each field. -/
def readSyncEntry (l : List UInt8) : SyncEntry :=
  { deviceId := beWord (l.getD 0 0) (l.getD 1 0) (l.getD 2 0) (l.getD 3 0)
    type := l.getD 4 0, online := l.getD 5 0, rssiLevel := l.getD 6 0, battery := l.getD 7 0 }

/-- The devices but the gateways. -/
def slaves (st : Storage) : List Device := st.deviceList.filter fun d => d.type ≠ deviceTypeGateway

/-- The count byte of an upload. -/
def syncCount (frame : TxFormat) : Nat := (frame.txData.getD 3 0).toNat

/-- The frame is an upload of the list, and enqueued whole. -/
structure SyncsWhole (crc : List UInt8 → UInt8) (st : Storage) (frame : TxFormat) : Prop where
  command : frame.command = deviceSyncCmd
  subCommand : frame.txData.getD 0 0 = 3
  destAddr : frame.destAddr = aqGatewayFind st
  count : syncCount frame = (slaves st).length
  length : frame.txData.length = 4 + 8 * syncCount frame
  entries : readRecords 8 readSyncEntry (syncCount frame) (frame.txData.drop 4) = (slaves st).map Device.syncEntry
  fits : (frameBytes crc frame).length ≤ 253
  queued : frame.destAddr ≠ 0 → ∃ m, Enqueues crc .gateway frame m ∧ m.dataPtr = frameBytes crc frame ∧
    m.dataSize.toNat = (frameBytes crc frame).length

/-- The frame `gateway_sync_device_upload` builds. -/
def syncFrame (u : MainUnit) : TxFormat :=
  { msgAck := true, msgType := msgConfirmedUplink, destAddr := aqGatewayFind u.storage
    sourceAddr := getLocalAddress u, command := deviceSyncCmd
    txData := 3 :: (warningStatusGet u).code :: (getValveStatus u).code :: (aqDeviceCloneUpload u.storage).1 ::
      (aqDeviceCloneUpload u.storage).2 }

section
variable {st : Storage} {u : MainUnit}

theorem gatewaySyncDeviceUpload_eq (hm : u.env.mallocSync = true) :
    gatewaySyncDeviceUpload u = radioGatewayCommandSend (syncFrame u) u := by
  rw [gatewaySyncDeviceUpload, if_pos hm]
  rfl

theorem length_syncGroup (d : Device) :
    (beBytes d.deviceId ++ [d.type, d.online, d.rssiLevel, d.battery]).length = 8 := rfl

theorem readSyncEntry_eq (d : Device) :
    readSyncEntry (beBytes d.deviceId ++ [d.type, d.online, d.rssiLevel, d.battery]) = d.syncEntry := by
  have hid := beWord_beBytes d.deviceId
  simp [readSyncEntry, beBytes, Device.syncEntry, hid]

theorem length_cloneUpload (st : Storage) : (aqDeviceCloneUpload st).2.length = 8 * (slaves st).length :=
  length_flatMap_width length_syncGroup (slaves st)

/-- The counter of `aq_device_clone_upload` is a byte. -/
theorem cloneUpload_count (h : (slaves st).length < 256) : (aqDeviceCloneUpload st).1.toNat = (slaves st).length := by
  change (UInt8.ofNat (slaves st).length).toNat = _
  rw [UInt8.toNat_ofNat']
  exact Nat.mod_eq_of_lt h

theorem length_syncFrame (u : MainUnit) : (syncFrame u).txData.length = 4 + 8 * (slaves u.storage).length := by
  simp only [syncFrame, List.length_cons, length_cloneUpload]
  omega

/-- Any list that leaves the frame within the queue's 253 bytes is uploaded whole. -/
theorem syncFrame_whole (crc : List UInt8 → UInt8) (h : 18 + 8 * (slaves u.storage).length ≤ 253) :
    SyncsWhole crc u.storage (syncFrame u) := by
  have hcount : syncCount (syncFrame u) = (slaves u.storage).length := cloneUpload_count (by omega)
  refine ⟨rfl, rfl, rfl, hcount, ?_, ?_, ?_, ?_⟩
  · rw [hcount, length_syncFrame]
  · rw [hcount]
    exact readRecords_flatMap length_syncGroup readSyncEntry_eq (slaves u.storage)
  · rw [length_frameBytes, length_syncFrame]
    omega
  · intro hdest
    refine enqueues_bytes (fun hp => hdest hp.2) ?_
    rw [length_syncFrame]
    omega

end

/-- **The upload decodes to the registry**, and fits. -/
theorem sync_upload_round_trip (cfg : Config) (env : Env) (download : Nat → UInt8) (is : List (Env × Call)) (s : State)
    (hr : (registryCalls cfg).run (powerOn cfg env Flash.default download) is = some s) (u : MainUnit)
    (hl : u.storage.deviceList = s.unit.storage.deviceList) (hm : u.env.mallocSync = true) :
    ∃ frame, gatewaySyncDeviceUpload u = radioGatewayCommandSend frame u ∧ SyncsWhole cfg.crc u.storage frame := by
  have hseated : Seated s.unit.storage := registry_seated cfg env download is is s List.prefix_rfl hr
  have hslaves : (slaves u.storage).length ≤ 12 := by
    rw [slaves, hl]
    exact (List.length_filter_le ..).trans hseated.length_le
  exact ⟨syncFrame u, gatewaySyncDeviceUpload_eq hm, syncFrame_whole cfg.crc (by omega)⟩

/-- The upload of a full registry. -/
theorem sync_upload_sample :
    ∃ s frame, (registryCalls sampleConfig).run sampleStart sampleFull = some s ∧
      gatewaySyncDeviceUpload (s.unit.begin sampleEnv) = radioGatewayCommandSend frame (s.unit.begin sampleEnv) ∧
      SyncsWhole sampleConfig.crc (s.unit.begin sampleEnv).storage frame ∧ syncCount frame = 12 := by
  have hrun : ((registryCalls sampleConfig).run sampleStart sampleFull).any (fun s =>
      decide ((slaves (s.unit.begin sampleEnv).storage).length = 12)) = true := by decide +kernel
  obtain ⟨s, hr, hlength⟩ := (Option.any_eq_true _ _).1 hrun
  obtain ⟨frame, hframe, hwhole⟩ := sync_upload_round_trip sampleConfig sampleEnv (fun _ => 0xFF) sampleFull s hr
    (s.unit.begin sampleEnv) rfl rfl
  exact ⟨s, frame, hr, hframe, hwhole, hwhole.count.trans (of_decide_eq_true hlength)⟩

end Aqualarm
