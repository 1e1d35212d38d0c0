import Aqualarm.Flashwork

/-
  The operations of flashwork.c that change the device list, as one type, and
  what each does to the list, the bitmap and the flash.

  What is proved:
    1. `flashGetKey_flashSetKey` — a stored integer reads back.
    2. `aqDeviceCreate_cases`, `aqDeviceDelete_cases`, `replaceByType_deviceList`,
       `RegOp.InPlace.forall₂` — each operation written out.
    3. `RegOp.mem_apply`, `learnStorage_mem` — where the nodes after an operation
       come from.
    4. `RegOp.frame`, `learnStorage_frame` — the stored lock is left alone.
-/

namespace Aqualarm

open Lib (bit)

/-! Operations on the registry. -/

/-- The functions of flashwork.c that change the device list. -/
inductive RegOp where
  | create (mallocOk : Bool) (rssiLevel type : UInt8) (deviceId : UInt32)
  | delete (deviceId : UInt32)
  | gatewayDelete | doorunitDelete
  | waterleakSet (deviceId : UInt32) (value : UInt8)
  | wirelostSet (deviceId : UInt32) (value : UInt8)
  | batterySet (deviceId : UInt32) (value : UInt8)
  | onlineSet (deviceId : UInt32) (value : UInt8)
  | rssiLevelSet (deviceId : UInt32) (value : UInt8)
  | recvSet (deviceId : UInt32) (value : UInt8)
  | rssiLevelWrite (deviceId : UInt32) (value : UInt8)
  | recvWrite (deviceId : UInt32) (value : UInt8)
  | recvClear (node : Nat)
  | heartRecvClear
  deriving Repr

def RegOp.apply : RegOp → Storage → Storage
  | .create mallocOk rssiLevel type deviceId => fun st =>
    (aqDeviceCreate mallocOk rssiLevel type deviceId st).2
  | .delete deviceId => fun st => (aqDeviceDelete deviceId st).2
  | .gatewayDelete => aqGatewayDelete
  | .doorunitDelete => deleteByType deviceTypeDoorunit
  | .waterleakSet deviceId value => aqDeviceWaterleakSet deviceId value
  | .wirelostSet deviceId value => aqDeviceWirelostSet deviceId value
  | .batterySet deviceId value => aqDeviceBatterySet deviceId value
  | .onlineSet deviceId value => aqDeviceOnlineSet deviceId value
  | .rssiLevelSet deviceId value => aqDeviceRssiLevelSet deviceId value
  | .recvSet deviceId value => aqDeviceRecvSet deviceId value
  | .rssiLevelWrite deviceId value => deviceRssiLevelWrite deviceId value
  | .recvWrite deviceId value => deviceRecvWrite deviceId value
  | .recvClear node => deviceRecvClear node
  | .heartRecvClear => aqDeviceHeartRecvClear

/-- Neither adds a device nor records a leak or a lost sensor. -/
def RegOp.Quiet : RegOp → Prop
  | .create .. => False
  | .waterleakSet _ value | .wirelostSet _ value => value = 0
  | _ => True

/-- A gateway or a door unit to be added first replaces those listed. -/
def replaceByType (type : UInt8) (st : Storage) : Storage :=
  if type = deviceTypeGateway ∨ type = deviceTypeDoorunit then deleteByType type st else st

/-- What an accepted request to add a device does to the registry. -/
def learnStorage (mallocOk : Bool) (rssiLevel type : UInt8) (deviceId : UInt32) (st : Storage) :
    Option Device × Storage :=
  aqDeviceCreate mallocOk rssiLevel type deviceId (replaceByType type st)

theorem learnStorage_node {type : UInt8} (h : ¬ (type = deviceTypeGateway ∨ type = deviceTypeDoorunit))
    (mallocOk : Bool) (rssiLevel : UInt8) (deviceId : UInt32) (st : Storage) :
    learnStorage mallocOk rssiLevel type deviceId st = aqDeviceCreate mallocOk rssiLevel type deviceId st := by
  rw [learnStorage, replaceByType, if_neg h]

theorem learnStorage_replacing {type : UInt8} (h : type = deviceTypeGateway ∨ type = deviceTypeDoorunit)
    (mallocOk : Bool) (rssiLevel : UInt8) (deviceId : UInt32) (st : Storage) :
    learnStorage mallocOk rssiLevel type deviceId st =
      aqDeviceCreate mallocOk rssiLevel type deviceId (deleteByType type st) := by
  rw [learnStorage, replaceByType, if_pos h]

/-! Writing to flash. -/

section
variable (w : FlashWrite) (st : Storage)

@[simp] theorem efSetEnvBlob_deviceList : (efSetEnvBlob w st).deviceList = st.deviceList := rfl
@[simp] theorem efSetEnvBlob_totalSlot : (efSetEnvBlob w st).totalSlot = st.totalSlot := rfl
@[simp] theorem efSetEnvBlob_writeOk : (efSetEnvBlob w st).writeOk = st.writeOk := rfl
@[simp] theorem efSetEnvBlob_writes : (efSetEnvBlob w st).writes = st.writes ++ [w] := rfl

theorem efSetEnvBlob_key_of_ne {name : KeyName} (h : ∀ text, w ≠ .key name text) :
    (efSetEnvBlob w st).flash.key name = st.flash.key name := by
  unfold efSetEnvBlob
  dsimp only
  split
  · cases w with
    | key name' text =>
      have hn : name ≠ name' := fun hn => h text (by rw [hn])
      simp [Flash.put, hn]
    | index slot device => rfl
  · rfl

end

/-- The flash after a write that succeeds. -/
theorem efSetEnvBlob_flash {w : FlashWrite} {st : Storage} (h : st.writeOk st.writes.length = true) :
    (efSetEnvBlob w st).flash = st.flash.put w := by
  simp [efSetEnvBlob, h]

@[simp] theorem flashSetKey_deviceList (name : KeyName) (value : BitVec 32) (st : Storage) :
    (flashSetKey name value st).deviceList = st.deviceList := rfl

@[simp] theorem flashSetKey_totalSlot (name : KeyName) (value : BitVec 32) (st : Storage) :
    (flashSetKey name value st).totalSlot = st.totalSlot := rfl

@[simp] theorem flashSetKey_writeOk (name : KeyName) (value : BitVec 32) (st : Storage) :
    (flashSetKey name value st).writeOk = st.writeOk := rfl

theorem flashGetKey_congr {name : KeyName} {st st' : Storage}
    (h : st'.flash.key name = st.flash.key name) : flashGetKey name st' = flashGetKey name st := by
  simp only [flashGetKey, h]

/-- A stored text is read as the number printed. -/
theorem flashGetKey_of_text {name : KeyName} {value : BitVec 32} {st : Storage}
    (h : st.flash.key name = some (Lib.printInt value.toInt)) : flashGetKey name st = value := by
  have hlen : (Lib.printInt value.toInt).length ≤ 11 := by
    apply Lib.length_printInt_le
    have := value.isLt
    rw [BitVec.toInt_eq_toNat_cond]
    split <;> omega
  have htake : (Lib.printInt value.toInt).take 32 = Lib.printInt value.toInt :=
    List.take_of_length_le (by omega)
  have hpos : 0 < (Lib.printInt value.toInt).length :=
    List.length_pos_iff.2 (Lib.printInt_ne_nil _)
  simp only [flashGetKey, h, htake, if_pos hpos, Lib.atol_printInt, BitVec.ofInt_toInt]

/-- What is written under a name is read back under it. -/
theorem flashGetKey_flashSetKey {name : KeyName} {value : BitVec 32} {st : Storage}
    (h : st.writeOk st.writes.length = true) : flashGetKey name (flashSetKey name value st) = value := by
  apply flashGetKey_of_text
  rw [flashSetKey, efSetEnvBlob_flash h]
  simp [Flash.put]

/-- Writing under one name leaves what the other name reads. -/
theorem flashGetKey_flashSetKey_of_ne {name name' : KeyName} {value : BitVec 32} {st : Storage}
    (h : name' ≠ name) : flashGetKey name' (flashSetKey name value st) = flashGetKey name' st :=
  flashGetKey_congr (efSetEnvBlob_key_of_ne _ st fun _ hc => h (by cases hc; rfl))

/-- The records and the stored keys are apart. -/
theorem flashSetKey_index (name : KeyName) (value : BitVec 32) (st : Storage) :
    (flashSetKey name value st).flash.index = st.flash.index := by
  unfold flashSetKey efSetEnvBlob
  dsimp only
  split <;> rfl

theorem flashGetKey_aqDeviceSave (name : KeyName) (d : Device) (st : Storage) :
    flashGetKey name (aqDeviceSave d st) = flashGetKey name st :=
  flashGetKey_congr (efSetEnvBlob_key_of_ne _ st (by simp))

theorem aqDeviceSave_index {st : Storage} (h : st.writeOk st.writes.length = true) (d : Device) (i : Nat) :
    (aqDeviceSave d st).flash.index i = if i = d.slot then some d else st.flash.index i := by
  rw [aqDeviceSave, efSetEnvBlob_flash h, Flash.put]
  by_cases hi : i = d.slot <;> simp [hi]

/-! The setters. -/

/-- The change `setField` makes to a matching node. -/
def setDevice (get : Device → UInt8) (put : UInt8 → Device → Device) (deviceId : UInt32) (value : UInt8)
    (d : Device) : Device :=
  if d.deviceId = deviceId ∧ get d ≠ value then put value d else d

theorem foldl_save_deviceList {put : Device → Device} (l : List Device) (st : Storage) :
    (l.foldl (fun st d => aqDeviceSave (put d) st) st).deviceList = st.deviceList := by
  induction l generalizing st with
  | nil => rfl
  | cons d l ih => exact ih _

section
variable (get : Device → UInt8) (put : UInt8 → Device → Device) (deviceId : UInt32) (value : UInt8)
  (st : Storage)

theorem setField_deviceList :
    (setField get put deviceId value st).deviceList =
      st.deviceList.map (setDevice get put deviceId value) := by
  rw [setField, foldl_save_deviceList]
  unfold updateDevice setDevice
  refine List.map_congr_left fun d _ => ?_
  by_cases h₁ : d.deviceId = deviceId <;> by_cases h₂ : get d ≠ value <;> simp [h₁, h₂]

end

/-! Creating and deleting. -/

theorem getFreeDeviceSlot_cases (st : Storage) :
    (getFreeDeviceSlot st = (none, st) ∧ ∀ i, i < maxSlaverDevice → st.totalSlot.getLsbD i = true) ∨
    ∃ slot, slot < maxSlaverDevice ∧ st.totalSlot.getLsbD slot = false ∧
      getFreeDeviceSlot st = (some slot, { st with totalSlot := st.totalSlot ||| bit 32 slot }) := by
  have hlt : ∀ i, i < maxSlaverDevice → i < 32 := fun i hi => Nat.lt_trans hi (by decide)
  unfold getFreeDeviceSlot
  cases h : (List.range maxSlaverDevice).find? fun index => st.totalSlot &&& bit 32 index = 0 with
  | none =>
    refine Or.inl ⟨rfl, fun i hi => ?_⟩
    have := List.find?_eq_none.1 h i (List.mem_range.2 hi)
    rw [decide_eq_true_eq, Lib.and_bit_eq_zero (hlt i hi)] at this
    exact Bool.eq_true_of_not_eq_false this
  | some slot =>
    have hs := List.mem_range.1 (List.mem_of_find?_eq_some h)
    have hz := List.find?_some h
    rw [decide_eq_true_eq, Lib.and_bit_eq_zero (hlt slot hs)] at hz
    exact Or.inr ⟨slot, hs, hz, rfl⟩

/-- What `aq_device_create` adds. -/
def newDevice (slot : Nat) (rssiLevel type : UInt8) (deviceId : UInt32) : Device :=
  { slot, rssiLevel, type, online := 1, deviceId }

/-- `aq_device_create` finds the id; or refuses, with the list and the flash as
they were; or takes a free slot and writes the bitmap, then the record. -/
inductive Created (mallocOk : Bool) (rssiLevel type : UInt8) (deviceId : UInt32) (st : Storage) :
    Option Device × Storage → Prop
  | known (d : Device) (h : aqDeviceFind deviceId st = some d) :
      Created mallocOk rssiLevel type deviceId st (some d, st)
  | full (h : aqDeviceFind deviceId st = none)
      (hf : st.totalSlot.toNat > 4095 ∨ ∀ i, i < maxSlaverDevice → st.totalSlot.getLsbD i = true) :
      Created mallocOk rssiLevel type deviceId st (none, st)
  | noMemory (h : aqDeviceFind deviceId st = none) (hm : mallocOk = false) (slot : Nat) :
      Created mallocOk rssiLevel type deviceId st
        (none, { st with totalSlot := st.totalSlot ||| bit 32 slot })
  | added (h : aqDeviceFind deviceId st = none) (hm : mallocOk = true) (slot : Nat)
      (hs : slot < maxSlaverDevice) (hfree : st.totalSlot.getLsbD slot = false)
      (hle : st.totalSlot.toNat ≤ 4095) (hget : (getFreeDeviceSlot st).1 = some slot) :
      Created mallocOk rssiLevel type deviceId st
        (some (newDevice slot rssiLevel type deviceId),
          aqDeviceSave (newDevice slot rssiLevel type deviceId)
            (flashSetKey .slot (st.totalSlot ||| bit 32 slot)
              { st with
                totalSlot := st.totalSlot ||| bit 32 slot
                deviceList := st.deviceList ++ [newDevice slot rssiLevel type deviceId] }))

theorem aqDeviceCreate_cases (mallocOk : Bool) (rssiLevel type : UInt8) (deviceId : UInt32)
    (st : Storage) :
    Created mallocOk rssiLevel type deviceId st (aqDeviceCreate mallocOk rssiLevel type deviceId st) := by
  unfold aqDeviceCreate
  cases hfind : aqDeviceFind deviceId st with
  | some d => exact .known d hfind
  | none =>
    dsimp only
    by_cases hbig : st.totalSlot.toNat > 4095
    · rw [if_pos hbig]
      exact .full hfind (Or.inl hbig)
    · rw [if_neg hbig]
      obtain ⟨hnone, hall⟩ | ⟨slot, hs, hfree, hsome⟩ := getFreeDeviceSlot_cases st
      · rw [hnone]
        exact .full hfind (Or.inr hall)
      · rw [hsome]
        dsimp only
        cases mallocOk with
        | true => exact .added hfind rfl slot hs hfree (by omega) (by rw [hsome])
        | false => exact .noMemory hfind rfl slot

/-- `aq_device_delete` without the id changes nothing; with it, the node goes and
the bitmap without its slot is written. -/
theorem aqDeviceDelete_cases (deviceId : UInt32) (st : Storage) :
    (aqDeviceFind deviceId st = none ∧ aqDeviceDelete deviceId st = (.rtError, st)) ∨
    ∃ d, aqDeviceFind deviceId st = some d ∧
      aqDeviceDelete deviceId st =
        (.rtEok,
          flashSetKey .slot (st.totalSlot &&& ~~~(bit 32 d.slot))
            { st with
              totalSlot := st.totalSlot &&& ~~~(bit 32 d.slot)
              deviceList := st.deviceList.eraseP fun d => d.deviceId = deviceId }) := by
  unfold aqDeviceDelete
  cases h : aqDeviceFind deviceId st with
  | none => exact Or.inl ⟨rfl, rfl⟩
  | some d => exact Or.inr ⟨d, rfl, rfl⟩

theorem aqDeviceDelete_deviceList (deviceId : UInt32) (st : Storage) :
    (aqDeviceDelete deviceId st).2.deviceList = st.deviceList.eraseP fun d => d.deviceId = deviceId := by
  obtain ⟨hnone, h⟩ | ⟨d, _, h⟩ := aqDeviceDelete_cases deviceId st
  · rw [h, List.eraseP_of_forall_not fun d hd => List.find?_eq_none.1 hnone d hd]
  · rw [h]
    rfl

theorem aqDeviceDelete_sublist (deviceId : UInt32) (st : Storage) :
    (aqDeviceDelete deviceId st).2.deviceList.Sublist st.deviceList := by
  rw [aqDeviceDelete_deviceList]
  exact List.eraseP_sublist

theorem foldl_delete_sublist (l : List Device) (st : Storage) :
    (l.foldl (fun st device => (aqDeviceDelete device.deviceId st).2) st).deviceList.Sublist
      st.deviceList := by
  induction l generalizing st with
  | nil => exact .refl _
  | cons d l ih => exact (ih _).trans (aqDeviceDelete_sublist d.deviceId st)

theorem deleteByType_sublist (type : UInt8) (st : Storage) :
    (deleteByType type st).deviceList.Sublist st.deviceList :=
  foldl_delete_sublist _ st

theorem replaceByType_sublist (type : UInt8) (st : Storage) :
    (replaceByType type st).deviceList.Sublist st.deviceList := by
  unfold replaceByType
  split
  · exact deleteByType_sublist type st
  · exact .refl _

/-- The devices that a request to add one of the type leaves listed. A deletion by
id takes the first of the id, and there is one for each device of the type. -/
def Storage.staying (st : Storage) (type : UInt8) : List Device :=
  if type = deviceTypeGateway ∨ type = deviceTypeDoorunit then
    Lib.dropFirsts Device.deviceId (fun a => st.deviceList.countP fun d => d.type = type ∧ d.deviceId = a) st.deviceList
  else st.deviceList

theorem foldl_delete_deviceList (l : List Device) (st : Storage) :
    (l.foldl (fun st device => (aqDeviceDelete device.deviceId st).2) st).deviceList =
      (l.map Device.deviceId).foldl (fun l a => l.eraseP fun d => d.deviceId = a) st.deviceList := by
  induction l generalizing st with
  | nil => rfl
  | cons d l ih => rw [List.foldl_cons, ih, aqDeviceDelete_deviceList, List.map_cons, List.foldl_cons]

theorem replaceByType_deviceList (type : UInt8) (st : Storage) :
    (replaceByType type st).deviceList = st.staying type := by
  have hcount : ∀ a, ((st.deviceList.filter fun d => d.type = type).map Device.deviceId).count a =
      st.deviceList.countP fun d => d.type = type ∧ d.deviceId = a := by
    intro a
    rw [List.count, List.countP_map, List.countP_filter]
    exact List.countP_congr fun d _ => by simp [and_comm]
  unfold replaceByType Storage.staying
  split
  · -- the loop runs over the nodes of the type as they were, and deletes by their ids
    rw [deleteByType, foldl_delete_deviceList, Lib.foldl_eraseP, funext hcount]
  · rfl

/-- There is a slot for a device of the type, once those it replaces are gone. -/
structure Room (type : UInt8) (st : Storage) : Prop where
  bound : (replaceByType type st).totalSlot.toNat ≤ 4095
  free : ∃ slot, slot < maxSlaverDevice ∧ (replaceByType type st).totalSlot.getLsbD slot = false

theorem learnStorage_mem {mallocOk : Bool} {rssiLevel type : UInt8} {deviceId : UInt32} {st : Storage}
    {d : Device} (h : d ∈ (learnStorage mallocOk rssiLevel type deviceId st).2.deviceList) :
    d ∈ st.deviceList ∨
      (∃ slot, d = newDevice slot rssiLevel type deviceId) ∧ mallocOk = true ∧ Room type st := by
  unfold learnStorage at h
  have hsub := replaceByType_sublist type st
  generalize hr : aqDeviceCreate mallocOk rssiLevel type deviceId (replaceByType type st) = r at h
  cases hr ▸ aqDeviceCreate_cases mallocOk rssiLevel type deviceId (replaceByType type st) with
  | known => exact Or.inl (hsub.subset h)
  | full => exact Or.inl (hsub.subset h)
  | noMemory => exact Or.inl (hsub.subset h)
  | added hn hm slot hs hf hle =>
    rcases List.mem_append.1 h with h | h
    · exact Or.inl (hsub.subset h)
    · exact Or.inr ⟨⟨slot, List.mem_singleton.1 h⟩, hm, hle, slot, hs, hf⟩

/-! What every operation but a creation leaves of a node. -/

/-- The fields no operation changes. -/
structure Device.Same (d d' : Device) : Prop where
  slot : d'.slot = d.slot
  type : d'.type = d.type
  deviceId : d'.deviceId = d.deviceId

theorem Device.Same.refl (d : Device) : d.Same d := ⟨rfl, rfl, rfl⟩

theorem forall₂_same_map {f : Device → Device} (hf : ∀ d : Device, d.Same (f d)) (l : List Device) :
    List.Forall₂ Device.Same l (l.map f) :=
  List.forall₂_map_right_iff.2 (List.forall₂_same.2 fun d _ => hf d)

/-- Lists of the same nodes have the same ids, types and slots. -/
theorem map_eq_of_same {α : Type} {k : Device → α} (hk : ∀ d d' : Device, d.Same d' → k d' = k d) {l l' : List Device}
    (h : List.Forall₂ Device.Same l l') : l'.map k = l.map k :=
  Lib.map_eq_of_forall₂ hk h

theorem setDevice_same {get : Device → UInt8} {put : UInt8 → Device → Device} {deviceId : UInt32}
    {value : UInt8} (hput : ∀ v d, Device.Same d (put v d)) (d : Device) :
    d.Same (setDevice get put deviceId value d) := by
  unfold setDevice
  split
  · exact hput value d
  · exact .refl d

/-- The change an operation other than a creation or a deletion makes to a node that
it comes to. -/
def RegOp.change : RegOp → Device → Device
  | .waterleakSet deviceId value =>
    setDevice Device.waterleak (fun v d => { d with waterleak := v }) deviceId value
  | .wirelostSet deviceId value =>
    setDevice Device.wirelost (fun v d => { d with wirelost := v }) deviceId value
  | .batterySet deviceId value =>
    setDevice Device.battery (fun v d => { d with battery := v }) deviceId value
  | .onlineSet deviceId value =>
    setDevice Device.online (fun v d => { d with online := v }) deviceId value
  | .rssiLevelSet deviceId value =>
    setDevice Device.rssiLevel (fun v d => { d with rssiLevel := v }) deviceId value
  | .recvSet deviceId value => fun d => if d.deviceId = deviceId then { d with recv := value } else d
  | .rssiLevelWrite deviceId value => fun d =>
    if d.deviceId = deviceId then { d with rssiLevel := value } else d
  | .recvWrite deviceId value => fun d => if d.deviceId = deviceId then { d with recv := value } else d
  | .recvClear _ => fun d => { d with recv := 0 }
  | .heartRecvClear => fun d => if d.type ≠ deviceTypeGateway then { d with recv := 0 } else d
  | _ => id

theorem RegOp.change_same (op : RegOp) (d : Device) : d.Same (op.change d) := by
  cases op with
  | waterleakSet | wirelostSet | batterySet | onlineSet | rssiLevelSet =>
    unfold RegOp.change
    refine setDevice_same (fun _ _ => ?_) d
    exact ⟨rfl, rfl, rfl⟩
  | recvSet | rssiLevelWrite | recvWrite | heartRecvClear =>
    unfold RegOp.change
    dsimp only
    split <;> exact ⟨rfl, rfl, rfl⟩
  | recvClear => exact ⟨rfl, rfl, rfl⟩
  | create | delete | gatewayDelete | doorunitDelete => exact .refl d

theorem RegOp.change_waterleak {op : RegOp} (h : op.Quiet) (d : Device) :
    (op.change d).waterleak = d.waterleak ∨ (op.change d).waterleak = 0 := by
  cases op with
  | waterleakSet deviceId value =>
    obtain rfl : value = 0 := h
    unfold RegOp.change setDevice
    dsimp only
    split
    · exact Or.inr rfl
    · exact Or.inl rfl
  | wirelostSet | batterySet | onlineSet | rssiLevelSet =>
    left
    unfold RegOp.change setDevice
    dsimp only
    split <;> rfl
  | recvSet | rssiLevelWrite | recvWrite | heartRecvClear =>
    left
    unfold RegOp.change
    dsimp only
    split <;> rfl
  | recvClear => exact Or.inl rfl
  | create => cases h
  | delete | gatewayDelete | doorunitDelete => exact Or.inl rfl

/-- The operations that change nodes in place. -/
def RegOp.InPlace : RegOp → Prop
  | .create .. | .delete _ | .gatewayDelete | .doorunitDelete => False
  | _ => True

/-- Those that come to nodes by their ids. -/
def RegOp.ById : RegOp → Prop
  | .create .. | .delete _ | .gatewayDelete | .doorunitDelete | .recvClear _ => False
  | _ => True

theorem RegOp.ById.inPlace {op : RegOp} (h : op.ById) : op.InPlace := by
  cases op <;> trivial

/-- Those that come to every node of an id. -/
def RegOp.Everywhere (op : RegOp) : Prop :=
  op.InPlace ∧ match op with
    | .rssiLevelWrite .. | .recvWrite .. | .recvClear _ => False
    | _ => True

theorem RegOp.Everywhere.deviceList {op : RegOp} (h : op.Everywhere) (st : Storage) :
    (op.apply st).deviceList = st.deviceList.map op.change := by
  cases op with
  | waterleakSet | wirelostSet | batterySet | onlineSet | rssiLevelSet =>
    exact setField_deviceList _ _ _ _ st
  | recvSet | heartRecvClear => rfl
  | rssiLevelWrite | recvWrite | recvClear => exact absurd h.2 id
  | create | delete | gatewayDelete | doorunitDelete => exact absurd h.1 id

theorem updateFirst_forall₂ {deviceId : UInt32} {f g : Device → Device} (hg : ∀ d, d.deviceId = deviceId → g d = f d)
    (st : Storage) :
    List.Forall₂ (fun d d' => d' = d ∨ d' = g d) st.deviceList (updateFirst deviceId f st).deviceList := by
  refine (Lib.forall₂_mapFirst _ f id st.deviceList).imp fun d d' h => ?_
  rcases h with ⟨hid, rfl⟩ | rfl
  · exact Or.inr (hg d (of_decide_eq_true hid)).symm
  · exact Or.inl rfl

theorem modify_forall₂ {α : Type} (node : Nat) (f : α → α) (l : List α) :
    List.Forall₂ (fun a b => b = a ∨ b = f a) l (l.modify node f) := by
  induction l generalizing node with
  | nil => cases node <;> exact .nil
  | cons a l ih =>
    cases node with
    | zero => exact .cons (Or.inr rfl) (List.forall₂_same.2 fun _ _ => Or.inl rfl)
    | succ node => exact .cons (Or.inl rfl) (ih node)

/-- **A change in place**, node by node: an operation comes to a node or does not. -/
theorem RegOp.InPlace.forall₂ {op : RegOp} (h : op.InPlace) (st : Storage) :
    List.Forall₂ (fun d d' => d' = d ∨ d' = op.change d) st.deviceList (op.apply st).deviceList := by
  have hall : op.Everywhere →
      List.Forall₂ (fun d d' => d' = d ∨ d' = op.change d) st.deviceList (op.apply st).deviceList := by
    intro h
    rw [h.deviceList]
    exact List.forall₂_map_right_iff.2 (List.forall₂_same.2 fun _ _ => Or.inr rfl)
  cases op with
  | waterleakSet | wirelostSet | batterySet | onlineSet | rssiLevelSet | recvSet | heartRecvClear =>
    exact hall ⟨trivial, trivial⟩
  | rssiLevelWrite deviceId value | recvWrite deviceId value =>
    exact updateFirst_forall₂ (fun d hid => if_pos hid) st
  | recvClear node => exact modify_forall₂ node _ st.deviceList
  | create | delete | gatewayDelete | doorunitDelete => cases h

/-- What no operation changes stays, node by node. -/
theorem RegOp.InPlace.map_eq {α : Type} {op : RegOp} (h : op.InPlace) {k : Device → α}
    (hk : ∀ d, k (op.change d) = k d) (st : Storage) : (op.apply st).deviceList.map k = st.deviceList.map k := by
  refine Lib.map_eq_of_forall₂ (fun d d' hd => ?_) (h.forall₂ st)
  rcases hd with rfl | rfl
  · rfl
  · exact hk d

theorem RegOp.InPlace.same {op : RegOp} (h : op.InPlace) (st : Storage) :
    List.Forall₂ Device.Same st.deviceList (op.apply st).deviceList := by
  refine (h.forall₂ st).imp fun d d' hd => ?_
  rcases hd with rfl | rfl
  · exact .refl d'
  · exact op.change_same d

theorem RegOp.InPlace.mem {op : RegOp} (h : op.InPlace) {st : Storage} {d : Device}
    (hd : d ∈ (op.apply st).deviceList) : ∃ d₀ ∈ st.deviceList, d = d₀ ∨ d = op.change d₀ :=
  Lib.exists_mem_of_forall₂ (h.forall₂ st) hd

/-- The gateway is looked up by its type and reported by its id. -/
theorem aqGatewayFind_eq (st : Storage) :
    aqGatewayFind st = (((st.deviceList.map fun d => (d.deviceId, d.type)).find? fun k =>
      k.2 = deviceTypeGateway).map Prod.fst).getD 0 := by
  rw [List.find?_map]
  unfold aqGatewayFind
  change _ = (((st.deviceList.find? fun d => d.type = deviceTypeGateway).map _).map _).getD 0
  cases st.deviceList.find? fun d => d.type = deviceTypeGateway <;> rfl

theorem RegOp.InPlace.gatewayFind {op : RegOp} (h : op.InPlace) (st : Storage) :
    aqGatewayFind (op.apply st) = aqGatewayFind st := by
  rw [aqGatewayFind_eq, aqGatewayFind_eq, map_eq_of_same (fun d d' hd => by rw [hd.deviceId, hd.type]) (h.same st)]

/-- An operation other than a creation keeps a part of the list, changed in
place at most. -/
theorem RegOp.list_cases {op : RegOp} (h : ∀ mallocOk rssiLevel type deviceId,
    op ≠ .create mallocOk rssiLevel type deviceId) (st : Storage) :
    op.InPlace ∨ (op.apply st).deviceList.Sublist st.deviceList := by
  by_cases hi : op.InPlace
  · exact Or.inl hi
  · right
    cases op with
    | create mallocOk rssiLevel type deviceId => exact absurd rfl (h mallocOk rssiLevel type deviceId)
    | delete deviceId => exact aqDeviceDelete_sublist deviceId st
    | gatewayDelete => exact deleteByType_sublist deviceTypeGateway st
    | doorunitDelete => exact deleteByType_sublist deviceTypeDoorunit st
    | _ => exact absurd trivial hi

/-- A node after an operation that is no creation is one from before it, changed
in place at most. -/
theorem RegOp.mem_apply {op : RegOp} (hq : op.Quiet) {st : Storage} {d : Device}
    (h : d ∈ (op.apply st).deviceList) :
    ∃ d₀ ∈ st.deviceList, d₀.Same d ∧ (d.waterleak = d₀.waterleak ∨ d.waterleak = 0) := by
  have hcreate : ∀ mallocOk rssiLevel type deviceId, op ≠ .create mallocOk rssiLevel type deviceId := by
    rintro _ _ _ _ rfl
    exact hq
  rcases RegOp.list_cases hcreate st with hin | hsub
  · obtain ⟨d₀, hd₀, rfl | rfl⟩ := hin.mem h
    · exact ⟨d, hd₀, .refl d, Or.inl rfl⟩
    · exact ⟨d₀, hd₀, op.change_same d₀, op.change_waterleak hq d₀⟩
  · exact ⟨d, hsub.subset h, .refl d, Or.inl rfl⟩

/-- A turn of the marking loop is an operation in place, or nothing. -/
theorem heartCheckTurn_cases (st : Storage) (node : Nat) :
    heartCheckTurn st node = st ∨
      ∃ op : RegOp, (op = .recvClear node ∨ ∃ deviceId, op = .onlineSet deviceId 0) ∧
        heartCheckTurn st node = op.apply st := by
  unfold heartCheckTurn
  split
  · exact Or.inl rfl
  · rename_i device _
    split
    · split
      · exact Or.inr ⟨_, Or.inl rfl, rfl⟩
      · exact Or.inr ⟨_, Or.inr ⟨device.deviceId, rfl⟩, rfl⟩
    · exact Or.inl rfl

/-! Listed ids. -/

/-- `aq_device_find` finds the id. -/
def Listed (deviceId : UInt32) (st : Storage) : Prop := ∃ d ∈ st.deviceList, d.deviceId = deviceId

instance (deviceId : UInt32) (st : Storage) : Decidable (Listed deviceId st) :=
  inferInstanceAs (Decidable (∃ d ∈ st.deviceList, d.deviceId = deviceId))

theorem aqDeviceFind_isSome {deviceId : UInt32} {st : Storage} :
    (aqDeviceFind deviceId st).isSome = true ↔ Listed deviceId st := by
  simp [aqDeviceFind, Listed, List.find?_isSome]

theorem aqDeviceFind_eq_none {deviceId : UInt32} {st : Storage} :
    aqDeviceFind deviceId st = none ↔ ¬ Listed deviceId st := by
  rw [← aqDeviceFind_isSome, Option.not_isSome_iff_eq_none]

theorem RegOp.Quiet.listed {op : RegOp} (h : op.Quiet) {st : Storage} {deviceId : UInt32}
    (hl : Listed deviceId (op.apply st)) : Listed deviceId st := by
  obtain ⟨d, hd, hid⟩ := hl
  obtain ⟨d₀, hd₀, hsame, _⟩ := RegOp.mem_apply h hd
  exact ⟨d₀, hd₀, hsame.deviceId ▸ hid⟩

theorem updateFirst_find {deviceId : UInt32} {f : Device → Device} (hf : ∀ d : Device, (f d).deviceId = d.deviceId)
    (a : UInt32) (st : Storage) :
    aqDeviceFind a (updateFirst deviceId f st) =
      (aqDeviceFind a st).map fun d => if d.deviceId = deviceId then f d else d := by
  have hkeep : ∀ (b : UInt32) (d : Device), decide ((f d).deviceId = b) = decide (d.deviceId = b) := fun b d => by rw [hf]
  unfold aqDeviceFind updateFirst
  dsimp only
  by_cases ha : deviceId = a
  · subst ha
    refine (Lib.find?_mapFirst (hkeep deviceId) (fun _ => rfl) st.deviceList).trans ?_
    refine Option.map_congr fun d hd => (if_pos ?_).symm
    simpa using List.find?_some hd
  · have hother : ∀ d : Device, decide (d.deviceId = deviceId) = true → decide (d.deviceId = a) = false := by
      intro d hd
      rw [of_decide_eq_true hd]
      exact decide_eq_false ha
    refine (Lib.find?_mapFirst_of_other (hkeep a) hother st.deviceList).trans ?_
    refine ((Option.map_congr (g := id) fun d hd => if_neg ?_).trans Option.map_id_apply).symm
    have hid : d.deviceId = a := by simpa using List.find?_some hd
    rw [hid]
    exact Ne.symm ha

/-- A search by the id finds the node changed. -/
theorem RegOp.ById.find {op : RegOp} (h : op.ById) (a : UInt32) (st : Storage) :
    aqDeviceFind a (op.apply st) = (aqDeviceFind a st).map op.change := by
  have hall : op.Everywhere → aqDeviceFind a (op.apply st) = (aqDeviceFind a st).map op.change := by
    intro h
    have hid : (fun d : Device => decide (d.deviceId = a)) ∘ op.change = fun d => decide (d.deviceId = a) := by
      funext d
      simp only [Function.comp, (op.change_same d).deviceId]
    unfold aqDeviceFind
    rw [h.deviceList, List.find?_map, hid]
  cases op with
  | waterleakSet | wirelostSet | batterySet | onlineSet | rssiLevelSet | recvSet | heartRecvClear =>
    exact hall ⟨trivial, trivial⟩
  | rssiLevelWrite deviceId value =>
    exact @updateFirst_find _ (fun d => { d with rssiLevel := value }) (fun _ => rfl) a st
  | recvWrite deviceId value => exact @updateFirst_find _ (fun d => { d with recv := value }) (fun _ => rfl) a st
  | create | delete | gatewayDelete | doorunitDelete | recvClear => cases h

theorem RegOp.InPlace.listed {op : RegOp} (h : op.InPlace) {st : Storage} {deviceId : UInt32} :
    Listed deviceId (op.apply st) ↔ Listed deviceId st := by
  have hids := h.map_eq (k := Device.deviceId) (fun d => (op.change_same d).deviceId) st
  have hmem : ∀ l : List Device, (∃ d ∈ l, d.deviceId = deviceId) ↔ deviceId ∈ l.map Device.deviceId :=
    fun l => List.mem_map.symm
  unfold Listed
  rw [hmem, hmem, hids]

theorem learnStorage_listed {mallocOk : Bool} {rssiLevel type : UInt8} {deviceId a : UInt32}
    {st : Storage} (h : Listed a (learnStorage mallocOk rssiLevel type deviceId st).2) :
    Listed a st ∨ a = deviceId ∧ mallocOk = true ∧ Room type st := by
  obtain ⟨d, hd, hid⟩ := h
  rcases learnStorage_mem hd with hd | ⟨⟨slot, rfl⟩, hm, hroom⟩
  · exact Or.inl ⟨d, hd, hid⟩
  · exact Or.inr ⟨hid.symm, hm, hroom⟩

/-- With memory and room the id is listed. -/
theorem learnStorage_adds {rssiLevel type : UInt8} {deviceId : UInt32} {st : Storage}
    (hroom : Room type st) : Listed deviceId (learnStorage true rssiLevel type deviceId st).2 := by
  obtain ⟨hle, slot, hs, hf⟩ := hroom
  unfold learnStorage
  generalize hr : aqDeviceCreate true rssiLevel type deviceId (replaceByType type st) = r
  cases hr ▸ aqDeviceCreate_cases true rssiLevel type deviceId (replaceByType type st) with
  | known d h => exact aqDeviceFind_isSome.1 (by rw [h]; rfl)
  | full h hfull =>
    rcases hfull with hbig | hall
    · omega
    · rw [hall slot hs] at hf
      cases hf
  | noMemory h hm => cases hm
  | added h hm slot => exact ⟨_, List.mem_append_right _ (List.mem_singleton.2 rfl), rfl⟩

/-! Leaks. -/

theorem aqDeviceWaterleakFind_eq_true {st : Storage} :
    aqDeviceWaterleakFind st = true ↔ ∃ d ∈ st.deviceList, d.waterleak ≠ 0 := by
  simp [aqDeviceWaterleakFind, List.any_eq_true]

theorem RegOp.Quiet.waterleakFind {op : RegOp} (h : op.Quiet) {st : Storage}
    (hl : aqDeviceWaterleakFind (op.apply st) = true) : aqDeviceWaterleakFind st = true := by
  obtain ⟨d, hd, hw⟩ := aqDeviceWaterleakFind_eq_true.1 hl
  obtain ⟨d₀, hd₀, _, h | h⟩ := RegOp.mem_apply h hd
  · exact aqDeviceWaterleakFind_eq_true.2 ⟨d₀, hd₀, h ▸ hw⟩
  · exact absurd h hw

theorem learnStorage_waterleakFind {mallocOk : Bool} {rssiLevel type : UInt8} {deviceId : UInt32}
    {st : Storage}
    (h : aqDeviceWaterleakFind (learnStorage mallocOk rssiLevel type deviceId st).2 = true) :
    aqDeviceWaterleakFind st = true := by
  obtain ⟨d, hd, hw⟩ := aqDeviceWaterleakFind_eq_true.1 h
  rcases learnStorage_mem hd with hd | ⟨⟨slot, rfl⟩, _⟩
  · exact aqDeviceWaterleakFind_eq_true.2 ⟨d, hd, hw⟩
  · exact absurd rfl hw

theorem wirelostSet_waterleakFind (deviceId : UInt32) (value : UInt8) (st : Storage) :
    aqDeviceWaterleakFind (aqDeviceWirelostSet deviceId value st) = aqDeviceWaterleakFind st := by
  have h : (RegOp.wirelostSet deviceId value).Everywhere := ⟨trivial, trivial⟩
  unfold aqDeviceWaterleakFind
  rw [show (aqDeviceWirelostSet deviceId value st).deviceList = _ from h.deviceList st, List.any_map]
  refine congrArg st.deviceList.any (funext fun d => ?_)
  unfold RegOp.change setDevice
  simp only [Function.comp]
  split <;> rfl

theorem heartRecvClear_waterleakFind (st : Storage) :
    aqDeviceWaterleakFind (aqDeviceHeartRecvClear st) = aqDeviceWaterleakFind st := by
  unfold aqDeviceWaterleakFind aqDeviceHeartRecvClear
  rw [List.any_map]
  refine congrArg st.deviceList.any (funext fun d => ?_)
  simp only [Function.comp]
  split <;> rfl

/-! The frame. -/

/-- What the operations on the list leave alone: which writes succeed, and the
stored lock. -/
structure Storage.Frame (st st' : Storage) : Prop where
  writeOk : st'.writeOk = st.writeOk
  valveLock : st'.flash.key .valveLock = st.flash.key .valveLock

theorem Storage.Frame.refl (st : Storage) : st.Frame st := ⟨rfl, rfl⟩

theorem Storage.Frame.trans {a b c : Storage} (h : a.Frame b) (h' : b.Frame c) : a.Frame c :=
  ⟨h'.writeOk.trans h.writeOk, h'.valveLock.trans h.valveLock⟩

theorem efSetEnvBlob_frame {w : FlashWrite} (h : ∀ text, w ≠ .key .valveLock text) (st : Storage) :
    st.Frame (efSetEnvBlob w st) := ⟨rfl, efSetEnvBlob_key_of_ne w st h⟩

theorem aqDeviceSave_frame (d : Device) (st : Storage) : st.Frame (aqDeviceSave d st) :=
  efSetEnvBlob_frame (by simp) st

theorem flashSetKey_slot_frame (value : BitVec 32) (st : Storage) :
    st.Frame (flashSetKey .slot value st) :=
  efSetEnvBlob_frame (by simp) st

theorem foldl_frame {α : Type} {f : Storage → α → Storage} (hf : ∀ (st : Storage) (a : α), st.Frame (f st a)) (l : List α)
    (st : Storage) : st.Frame (l.foldl f st) := by
  induction l generalizing st with
  | nil => exact .refl st
  | cons a l ih => exact (hf st a).trans (ih (f st a))

theorem setField_frame (get : Device → UInt8) (put : UInt8 → Device → Device) (deviceId : UInt32)
    (value : UInt8) (st : Storage) : st.Frame (setField get put deviceId value st) := by
  unfold setField
  generalize hu : updateDevice deviceId _ st = st₁
  have h₁ : st.Frame st₁ := hu ▸ ⟨rfl, rfl⟩
  exact h₁.trans (foldl_frame (fun st d => aqDeviceSave_frame (put value d) st) _ _)

theorem aqDeviceCreate_frame (mallocOk : Bool) (rssiLevel type : UInt8) (deviceId : UInt32)
    (st : Storage) : st.Frame (aqDeviceCreate mallocOk rssiLevel type deviceId st).2 := by
  generalize hr : aqDeviceCreate mallocOk rssiLevel type deviceId st = r
  cases hr ▸ aqDeviceCreate_cases mallocOk rssiLevel type deviceId st with
  | known => exact .refl st
  | full => exact .refl st
  | noMemory => exact ⟨rfl, rfl⟩
  | added =>
    exact ⟨rfl, (aqDeviceSave_frame _ _).valveLock.trans (flashSetKey_slot_frame _ _).valveLock⟩

theorem aqDeviceDelete_frame (deviceId : UInt32) (st : Storage) :
    st.Frame (aqDeviceDelete deviceId st).2 := by
  obtain ⟨_, h⟩ | ⟨d, _, h⟩ := aqDeviceDelete_cases deviceId st
  · rw [h]
    exact .refl st
  · rw [h]
    exact ⟨rfl, (flashSetKey_slot_frame _ _).valveLock⟩

theorem deleteByType_frame (type : UInt8) (st : Storage) : st.Frame (deleteByType type st) := by
  unfold deleteByType
  exact foldl_frame (fun st (d : Device) => aqDeviceDelete_frame d.deviceId st) _ st

theorem RegOp.frame (op : RegOp) (st : Storage) : st.Frame (op.apply st) := by
  cases op with
  | create => exact aqDeviceCreate_frame _ _ _ _ st
  | delete => exact aqDeviceDelete_frame _ st
  | gatewayDelete => exact deleteByType_frame _ st
  | doorunitDelete => exact deleteByType_frame _ st
  | waterleakSet | wirelostSet | batterySet | onlineSet | rssiLevelSet =>
    simp only [RegOp.apply]
    exact setField_frame _ _ _ _ st
  | recvSet | rssiLevelWrite | recvWrite | recvClear | heartRecvClear => exact ⟨rfl, rfl⟩

theorem learnStorage_frame (mallocOk : Bool) (rssiLevel type : UInt8) (deviceId : UInt32)
    (st : Storage) : st.Frame (learnStorage mallocOk rssiLevel type deviceId st).2 := by
  unfold learnStorage replaceByType
  refine Storage.Frame.trans ?_ (aqDeviceCreate_frame _ _ _ _ _)
  split
  · exact deleteByType_frame type st
  · exact .refl st

end Aqualarm
