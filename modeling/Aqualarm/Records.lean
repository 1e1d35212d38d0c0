import Aqualarm.RegistryRuns

/-
  The stored record of each listed device against its node in RAM.

  What is proved:
    1. `setField_index`, `RegOp.InPlace.index` — which records an operation
       writes, and with what.
    2. `SaveStep.saved` — every operation but the bare assignment of
       `rssi_level` keeps node and record equal, and so does a reset.
    3. `records_foldl` — a chain of operations in place, node by node and record
       by record.
-/

namespace Aqualarm

open Lib Relation

/-! Nodes and their records. -/

/-- Node and record agree on all that is kept; `recv` is not. -/
structure Device.Agrees (d r : Device) : Prop where
  deviceId : r.deviceId = d.deviceId
  type : r.type = d.type
  slot : r.slot = d.slot
  battery : r.battery = d.battery
  waterleak : r.waterleak = d.waterleak
  wirelost : r.wirelost = d.wirelost
  online : r.online = d.online
  rssiLevel : r.rssiLevel = d.rssiLevel

theorem Device.agrees_iff {d r : Device} : d.Agrees r ↔ { r with recv := d.recv } = d := by
  constructor
  · rintro ⟨h₁, h₂, h₃, h₄, h₅, h₆, h₇, h₈⟩
    cases d
    cases r
    simp_all
  · intro h
    rw [← h]
    exact ⟨rfl, rfl, rfl, rfl, rfl, rfl, rfl, rfl⟩

instance (d r : Device) : Decidable (d.Agrees r) := decidable_of_iff _ Device.agrees_iff.symm

theorem Device.Agrees.refl (d : Device) : d.Agrees d := ⟨rfl, rfl, rfl, rfl, rfl, rfl, rfl, rfl⟩

/-- `recv` may change. -/
theorem Device.Agrees.recv {d r : Device} (h : d.Agrees r) (value : UInt8) : { d with recv := value }.Agrees r :=
  ⟨h.deviceId, h.type, h.slot, h.battery, h.waterleak, h.wirelost, h.online, h.rssiLevel⟩

/-- Every listed device has a record in its slot that agrees with it. -/
def Saved (st : Storage) : Prop := ∀ d ∈ st.deviceList, ∃ r ∈ st.flash.index d.slot, d.Agrees r

instance : DecidablePred Saved := fun st =>
  inferInstanceAs (Decidable (∀ d ∈ st.deviceList, ∃ r ∈ st.flash.index d.slot, d.Agrees r))

/-- Records agree, and a reset restores what they hold. -/
structure WriteThrough (st : Storage) : Prop where
  saved : Saved st
  restored : ∀ d ∈ st.deviceList, ∃ r ∈ (reloaded st).deviceList, d.Agrees r

theorem SlotInv.writeThrough {st : Storage} (h : SlotInv st) (hs : Saved st) : WriteThrough st := by
  refine ⟨hs, fun d hd => ?_⟩
  obtain ⟨r, hr, hagree⟩ := hs d hd
  refine ⟨r, mem_reloaded.2 ⟨d.slot, Nat.lt_trans (h.below d hd) (by decide), ?_, hr⟩, hagree⟩
  rw [h.stored]
  exact (h.bits d.slot).2 ⟨d, hd, rfl⟩

/-! What the setters store. -/

section
variable {st st' : Storage}

/-- Saving nodes in different slots stores each, and nothing else. -/
theorem foldl_save_index {put : Device → Device} (hput : ∀ d, (put d).slot = d.slot) :
    ∀ (l : List Device) (st : Storage), st.WritesOk → (l.map Device.slot).Nodup →
      (∀ d ∈ l, (l.foldl (fun st d => aqDeviceSave (put d) st) st).flash.index d.slot = some (put d)) ∧
      ∀ i, i ∉ l.map Device.slot →
        (l.foldl (fun st d => aqDeviceSave (put d) st) st).flash.index i = st.flash.index i := by
  intro l
  induction l with
  | nil => exact fun st _ _ => ⟨fun _ hd => absurd hd List.not_mem_nil, fun _ _ => rfl⟩
  | cons x l ih =>
    intro st hw hnd
    rw [List.map_cons, List.nodup_cons] at hnd
    obtain ⟨hin, hout⟩ := ih (aqDeviceSave (put x) st) hw hnd.2
    refine ⟨fun d hd => ?_, fun i hi => ?_⟩
    · rcases List.mem_cons.1 hd with rfl | hd
      · -- the later saves are in other slots
        rw [List.foldl_cons, hout _ hnd.1, aqDeviceSave_index (hw _), if_pos (hput d).symm]
      · exact hin d hd
    · rw [List.map_cons, List.mem_cons, not_or] at hi
      rw [List.foldl_cons, hout i hi.2, aqDeviceSave_index (hw _), if_neg (hput x ▸ hi.1)]

theorem setField_index {get : Device → UInt8} {put : UInt8 → Device → Device}
    (hput : ∀ v d, (put v d).slot = d.slot) (h : SlotInv st) (hw : st.WritesOk) (deviceId : UInt32) (value : UInt8)
    {d : Device} (hd : d ∈ st.deviceList) :
    (setField get put deviceId value st).flash.index d.slot =
      if d.deviceId = deviceId ∧ get d ≠ value then some (put value d) else st.flash.index d.slot := by
  have hfilter := (List.filter_sublist (l := st.deviceList)
    (p := fun d => decide (d.deviceId = deviceId ∧ get d ≠ value)))
  obtain ⟨hin, hout⟩ := @foldl_save_index (put value) (hput value)
    (st.deviceList.filter fun d => d.deviceId = deviceId ∧ get d ≠ value)
    (updateDevice deviceId (fun d => if get d ≠ value then put value d else d) st) hw
    ((hfilter.map _).nodup h.slots)
  unfold setField
  split
  · rename_i hmatch
    exact hin d (List.mem_filter.2 ⟨hd, by simpa using hmatch⟩)
  · rename_i hmatch
    refine hout d.slot fun hmem => ?_
    obtain ⟨x, hx, hslot⟩ := List.mem_map.1 hmem
    obtain ⟨hx, hmatch'⟩ := List.mem_filter.1 hx
    rw [h.unique hx hd hslot] at hmatch'
    exact hmatch (by simpa using hmatch')

/-- The operations that save the nodes they change. -/
def RegOp.Saving : RegOp → Prop
  | .waterleakSet .. | .wirelostSet .. | .batterySet .. | .onlineSet .. | .rssiLevelSet .. => True
  | _ => False

instance : DecidablePred RegOp.Saving := fun op => by
  cases op <;> unfold RegOp.Saving <;> infer_instance

theorem RegOp.Saving.everywhere {op : RegOp} (h : op.Saving) : op.Everywhere := by
  cases op with
  | waterleakSet | wirelostSet | batterySet | onlineSet | rssiLevelSet => exact ⟨trivial, trivial⟩
  | create | delete | gatewayDelete | doorunitDelete | recvSet | rssiLevelWrite | recvWrite | recvClear
  | heartRecvClear => cases h

/-- A node that an operation in place changes is stored as it then is, if the
operation saves. -/
theorem RegOp.InPlace.index {op : RegOp} (hi : op.InPlace) (h : SlotInv st) (hw : st.WritesOk) {d : Device}
    (hd : d ∈ st.deviceList) :
    (op.apply st).flash.index d.slot =
      if op.Saving ∧ op.change d ≠ d then some (op.change d) else st.flash.index d.slot := by
  have hset : ∀ {get : Device → UInt8} {put : UInt8 → Device → Device} {deviceId : UInt32} {value : UInt8},
      (∀ v d, (put v d).slot = d.slot) → (∀ d, put value d = d → get d = value) →
      (setField get put deviceId value st).flash.index d.slot =
        if setDevice get put deviceId value d ≠ d then some (setDevice get put deviceId value d)
        else st.flash.index d.slot := by
    intro get put deviceId value hslot hget
    rw [setField_index hslot h hw deviceId value hd]
    unfold setDevice
    split
    · rename_i hmatch
      rw [if_pos fun hput => hmatch.2 (hget d hput)]
    · rw [if_neg (not_not.2 rfl)]
  cases op with
  | waterleakSet | wirelostSet | batterySet | onlineSet | rssiLevelSet =>
    simp only [RegOp.Saving, true_and]
    refine hset (fun _ _ => rfl) fun d hput => ?_
    rw [← hput]
  | recvSet | rssiLevelWrite | recvWrite | recvClear | heartRecvClear => exact (if_neg fun hc => hc.1).symm
  | create | delete | gatewayDelete | doorunitDelete => exact absurd hi id

/-- Deleting writes no record. -/
theorem aqDeviceDelete_index (deviceId : UInt32) (st : Storage) :
    (aqDeviceDelete deviceId st).2.flash.index = st.flash.index := by
  obtain ⟨_, h⟩ | ⟨d, _, h⟩ := aqDeviceDelete_cases deviceId st
  · rw [h]
  · rw [h]
    exact flashSetKey_index ..

theorem Saved.congr (h : Saved st) (hl : st'.deviceList = st.deviceList) (hf : st'.flash.index = st.flash.index) :
    Saved st' := by
  unfold Saved
  rw [hl, hf]
  exact h

theorem Saved.sublist (h : Saved st) (hl : st'.deviceList.Sublist st.deviceList)
    (hf : st'.flash.index = st.flash.index) : Saved st' := by
  intro d hd
  rw [hf]
  exact h d (hl.subset hd)

/-- Every operation but the bare assignment of `rssi_level`. -/
def RegOp.KeepsRecords : RegOp → Prop
  | .rssiLevelWrite .. => False
  | _ => True

theorem Saved.inPlace (h : Saved st) (hi : SlotInv st) (hw : st.WritesOk) {op : RegOp} (hop : op.InPlace)
    (hk : op.KeepsRecords) : Saved (op.apply st) := by
  intro d' hd'
  by_cases hsaving : op.Saving
  · rw [hsaving.everywhere.deviceList, List.mem_map] at hd'
    obtain ⟨d, hd, rfl⟩ := hd'
    rw [(op.change_same d).slot, hop.index hi hw hd]
    split
    · exact ⟨op.change d, rfl, .refl _⟩
    · -- not saved: the node is as it was
      rename_i hsave
      rw [not_and_not_right.1 hsave hsaving]
      exact h d hd
  · -- nothing is saved: the node is as it was, but for `recv`
    obtain ⟨d, hd, hd'⟩ := hop.mem hd'
    obtain ⟨r, hr, hagree⟩ := h d hd
    have hslot : d'.slot = d.slot := by
      rcases hd' with rfl | rfl
      · rfl
      · exact (op.change_same d).slot
    rw [hslot, hop.index hi hw hd, if_neg fun hc => hsaving hc.1]
    refine ⟨r, hr, ?_⟩
    rcases hd' with rfl | rfl
    · exact hagree
    · cases op with
      | recvSet | recvWrite | heartRecvClear =>
        unfold RegOp.change
        dsimp only
        split
        · exact hagree.recv _
        · exact hagree
      | recvClear => exact hagree.recv 0
      | rssiLevelWrite => exact absurd hk id
      | waterleakSet | wirelostSet | batterySet | onlineSet | rssiLevelSet => exact absurd trivial hsaving
      | create | delete | gatewayDelete | doorunitDelete => exact absurd hop id

theorem Saved.delete (h : Saved st) (deviceId : UInt32) : Saved (aqDeviceDelete deviceId st).2 :=
  h.sublist (aqDeviceDelete_sublist deviceId st) (aqDeviceDelete_index deviceId st)

theorem Saved.deleteByType (h : Saved st) (type : UInt8) : Saved (deleteByType type st) := by
  unfold Aqualarm.deleteByType
  generalize st.deviceList.filter (fun device => device.type = type) = l
  induction l generalizing st with
  | nil => exact h
  | cons d l ih => exact ih (h.delete d.deviceId)

theorem Saved.create (h : Saved st) (hi : SlotInv st) (hw : st.WritesOk) (rssiLevel type : UInt8)
    (deviceId : UInt32) : Saved (aqDeviceCreate true rssiLevel type deviceId st).2 := by
  generalize hr : aqDeviceCreate true rssiLevel type deviceId st = r
  cases hr ▸ aqDeviceCreate_cases true rssiLevel type deviceId st with
  | known => exact h
  | full => exact h
  | noMemory _ hm => cases hm
  | added _ _ slot hs hfree =>
    intro d hd
    change d ∈ st.deviceList ++ [newDevice slot rssiLevel type deviceId] at hd
    set st₁ : Storage :=
      { st with
        totalSlot := st.totalSlot ||| bit 32 slot
        deviceList := st.deviceList ++ [newDevice slot rssiLevel type deviceId] }
    have hw₁ : (flashSetKey .slot (st.totalSlot ||| bit 32 slot) st₁).WritesOk := hw
    dsimp only
    rw [aqDeviceSave_index (hw₁ _), flashSetKey_index, show (newDevice slot rssiLevel type deviceId).slot = slot from rfl]
    rcases List.mem_append.1 hd with hd | hd
    · -- the slot was free, so the other nodes are in other slots
      rw [if_neg (hi.unused hfree d hd)]
      exact h d hd
    · rw [List.mem_singleton.1 hd]
      exact ⟨_, if_pos rfl, .refl _⟩

theorem Saved.replaceByType (h : Saved st) (type : UInt8) : Saved (Aqualarm.replaceByType type st) := by
  unfold Aqualarm.replaceByType
  split
  · exact h.deleteByType type
  · exact h

/-- A reset loads the records themselves. -/
theorem SlotInv.saved_reloaded (h : SlotInv st) : Saved (reloaded st) := by
  intro r hr
  obtain ⟨i, _, _, hrec⟩ := mem_reloaded.1 hr
  refine ⟨r, ?_, .refl r⟩
  rw [h.keyed i r hrec]
  exact hrec

/-! Steps that keep the records. -/

/-- The storage steps without the bare assignment. -/
inductive SaveStep : Storage → Storage → Prop
  | op (st : Storage) (op : RegOp) (hc : ∀ mallocOk rssiLevel type deviceId,
      op ≠ .create mallocOk rssiLevel type deviceId) (hk : op.KeepsRecords) : SaveStep st (op.apply st)
  | learn (st : Storage) (rssiLevel type : UInt8) (deviceId : UInt32) :
      SaveStep st (learnStorage true rssiLevel type deviceId st).2
  | lock (st : Storage) (value : BitVec 32) : SaveStep st (flashSetKey .valveLock value st)
  | reload (st : Storage) : SaveStep st (reloaded st)
  | erase (st : Storage) : SaveStep st (reloaded { st with flash := Flash.default })

abbrev SavePath : Storage → Storage → Prop := ReflTransGen SaveStep

theorem SaveStep.storageStep (h : SaveStep st st') : StorageStep true st st' := by
  cases h with
  | op op hc => exact .op st op hc
  | learn rssiLevel type deviceId => exact .learn st rssiLevel type deviceId
  | lock value => exact .lock st value
  | reload => exact .reload st
  | erase => exact .erase st

theorem SaveStep.saved (h : SaveStep st st') (hw : st.WritesOk) (hi : SlotInv st) (hs : Saved st) : Saved st' := by
  cases h with
  | op op hc hk =>
    by_cases hin : op.InPlace
    · exact hs.inPlace hi hw hin hk
    · cases op with
      | create mallocOk rssiLevel type deviceId => exact absurd rfl (hc mallocOk rssiLevel type deviceId)
      | delete deviceId => exact hs.delete deviceId
      | gatewayDelete => exact hs.deleteByType deviceTypeGateway
      | doorunitDelete => exact hs.deleteByType deviceTypeDoorunit
      | _ => exact absurd trivial hin
  | learn rssiLevel type deviceId =>
    have hw' : (replaceByType type st).WritesOk := by
      rw [Storage.WritesOk, replaceByType_writeOk]
      exact hw
    exact (hs.replaceByType type).create (hi.replaceByType hw type) hw' rssiLevel type deviceId
  | lock value => exact hs.congr rfl (flashSetKey_index ..)
  | reload => exact hi.saved_reloaded
  | erase => exact fun r hr => absurd hr (by rw [(reloaded_default st).2]; exact List.not_mem_nil)

theorem Saved.path (hs : Saved st) (hw : st.WritesOk) (hi : SlotInv st) (hp : SavePath st st') : Saved st' :=
  (closed_of_path (P := fun st => st.WritesOk ∧ SlotInv st ∧ Saved st)
    (fun _ _ h ⟨hw, hi, hs⟩ => ⟨fun n => by rw [h.storageStep.writeOk]; exact hw n,
      h.storageStep.slotInv hw hi, h.saved hw hi hs⟩)
    hp ⟨hw, hi, hs⟩).2.2

/-! Chains of operations in place. -/

/-- The nodes, each with the record in its slot. -/
def Storage.records (st : Storage) : List (Device × Option Device) :=
  st.deviceList.map fun d => (d, st.flash.index d.slot)

theorem saved_iff : Saved st ↔ ∀ p ∈ st.records, ∃ r ∈ p.2, p.1.Agrees r := by
  simp only [Saved, Storage.records, List.forall_mem_map]

theorem records_congr (hl : st'.deviceList = st.deviceList) (hf : st'.flash.index = st.flash.index) :
    st'.records = st.records := by
  unfold Storage.records
  rw [hl, hf]

/-- A node and its record under an operation in place. -/
def RegOp.track (op : RegOp) (p : Device × Option Device) : Device × Option Device :=
  (op.change p.1, if op.Saving ∧ op.change p.1 ≠ p.1 then some (op.change p.1) else p.2)

theorem RegOp.ById.records {op : RegOp} (hop : op.ById) (hi : RegInv st) (hw : st.WritesOk) :
    (op.apply st).records = st.records.map op.track := by
  unfold Storage.records
  rw [hop.deviceList hi.ids, List.map_map, List.map_map]
  refine List.map_congr_left fun d hd => ?_
  simp only [Function.comp, RegOp.track, (op.change_same d).slot, hop.inPlace.index hi.slots hw hd]

theorem RegInv.inPlace {op : RegOp} (hop : op.InPlace) (hi : RegInv st) (hw : st.WritesOk) : RegInv (op.apply st) :=
  ⟨hi.slots.inPlace hop hw, hi.ids.of_same (hop.same st)⟩

/-- After a chain, node by node. -/
theorem records_foldl {ops : List RegOp} (hops : ∀ op ∈ ops, op.ById) (hi : RegInv st) (hw : st.WritesOk) :
    (ops.foldl (fun st op => op.apply st) st).records =
      st.records.map fun p => ops.foldl (fun p op => op.track p) p := by
  induction ops generalizing st with
  | nil => exact (List.map_id' _).symm
  | cons op ops ih =>
    have hop : op.ById := hops op (List.mem_cons_self ..)
    rw [List.foldl_cons, ih (fun o ho => hops o (List.mem_cons_of_mem _ ho)) (hi.inPlace hop.inPlace hw)
      (fun n => by rw [(op.frame st).writeOk]; exact hw n), hop.records hi hw, List.map_map]
    rfl

/-- A setter saves what it changes. -/
theorem track_setter {op : RegOp} {get : Device → UInt8} {put : UInt8 → Device → Device} {deviceId : UInt32}
    {value : UInt8} (hc : op.change = setDevice get put deviceId value) (hs : op.Saving)
    (hget : ∀ d, put value d = d → get d = value) (p : Device × Option Device) :
    op.track p =
      if p.1.deviceId = deviceId ∧ get p.1 ≠ value then (put value p.1, some (put value p.1)) else p := by
  unfold RegOp.track
  rw [hc]
  unfold setDevice
  split
  · rename_i hmatch
    rw [if_pos ⟨hs, fun hput => hmatch.2 (hget _ hput)⟩]
  · rw [if_neg fun h => h.2 rfl]

end

end Aqualarm
