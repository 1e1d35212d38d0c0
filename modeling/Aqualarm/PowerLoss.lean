import Aqualarm.RegistryRuns

/-
  Losing power in the middle of `aq_device_create` or `aq_device_delete`.

  What is proved: `power_loss_atomic_iff` — where allocations and flash writes
  succeed, what the next start loads is the registry before the call or after
  it, exactly when no creation is cut between its two writes while the slot it
  takes holds no record, or the record of some other device deleted from it.

  The bitmap is written before the record, and a deletion leaves its record
  behind. The invariant is `SlotInv`, without distinct ids: a stale record of a
  device that is listed again in another slot is loaded as a second node of the
  same id and type, which the set does not see.
-/

namespace Aqualarm

open Lib Relation

/-! What is compared. -/

/-- The (id, type) pairs of the list. -/
def HasDevice (deviceId : UInt32) (type : UInt8) (st : Storage) : Prop :=
  ∃ d ∈ st.deviceList, d.deviceId = deviceId ∧ d.type = type

/-- The same set of (id, type) pairs. -/
def SameDevices (st st' : Storage) : Prop :=
  ∀ deviceId type, HasDevice deviceId type st ↔ HasDevice deviceId type st'

/-- Every slot taken in the bitmap has a device. -/
def SlotsUsed (st : Storage) : Prop :=
  ∀ i, st.totalSlot.getLsbD i = true → ∃ d ∈ st.deviceList, d.slot = i

/-- The calls a loss of power should not split. -/
def RegOp.Splittable : RegOp → Prop
  | .create .. | .delete _ => True
  | _ => False

/-- After a loss of power in a creation or a deletion, the unit starts with the
devices before the call or those after it, and no slot is taken for none. -/
def Atomic (s : State) (i : Env × Call) (s' : State) : Prop :=
  ∀ op writes, i.2 = .powerLoss op writes → op.Splittable →
    (SameDevices s'.unit.storage s.unit.storage ∨
      SameDevices s'.unit.storage (op.apply (s.unit.begin i.1).storage)) ∧
    SlotsUsed s'.unit.storage

/-- `aq_device_create` adds a node in `slot`. -/
def AddsIn (deviceId : UInt32) (st : Storage) (slot : Nat) : Prop :=
  ¬ Listed deviceId st ∧ (getFreeDeviceSlot st).1 = some slot

/-- The record left in a slot is of the device now added there, or of one listed
in another slot. -/
def StaleMatches (deviceId : UInt32) (type : UInt8) (st : Storage) (slot : Nat) : Prop :=
  ∃ r, st.flash.index slot = some r ∧
    (r.deviceId = deviceId ∧ r.type = type ∨ HasDevice r.deviceId r.type st)

/-- No creation is cut between its writes over a record that does not match. -/
def CutsMatch (s : State) (i : Env × Call) : Prop :=
  ∀ mallocOk rssiLevel type deviceId slot,
    i.2 = .powerLoss (.create mallocOk rssiLevel type deviceId) 1 →
      AddsIn deviceId s.unit.storage slot → StaleMatches deviceId type s.unit.storage slot

/-! Sets of devices. -/

section
variable {st st' st₁ : Storage}

theorem SameDevices.trans (h : SameDevices st st') (h' : SameDevices st' st₁) : SameDevices st st₁ :=
  fun a t => (h a t).trans (h' a t)

theorem SameDevices.symm (h : SameDevices st st') : SameDevices st' st := fun a t => (h a t).symm

theorem SameDevices.of_map {f : Device → Device} (hf : ∀ d : Device, d.Same (f d))
    (hl : st'.deviceList = st.deviceList.map f) : SameDevices st' st := by
  intro a t
  unfold HasDevice
  rw [hl]
  simp only [List.mem_map, exists_exists_and_eq_and, (hf _).deviceId, (hf _).type]

/-- A reset loads the devices listed. -/
theorem SlotInv.sameDevices_reloaded (h : SlotInv st) : SameDevices (reloaded st) st := by
  intro a t
  constructor
  · rintro ⟨r, hr, hid, ht⟩
    obtain ⟨d, hd, hsame⟩ := h.of_reloaded hr
    exact ⟨d, hd, hsame.deviceId ▸ hid, hsame.type ▸ ht⟩
  · rintro ⟨d, hd, hid, ht⟩
    obtain ⟨r, hr, hsame⟩ := h.to_reloaded hd
    exact ⟨r, hr, hsame.deviceId.trans hid, hsame.type.trans ht⟩

theorem SlotInv.slotsUsed (h : SlotInv st) : SlotsUsed st := fun i hi => (h.bits i).1 hi

/-! What a reset makes of the storage. -/

/-- Only the flash counts. -/
theorem reloaded_list_congr (h : st'.flash = st.flash) :
    (reloaded st').deviceList = (reloaded st).deviceList ∧
      (reloaded st').totalSlot = (reloaded st).totalSlot := by
  unfold reloaded readDeviceFromFlash flashGetKey
  dsimp only
  rw [h]
  exact ⟨rfl, rfl⟩

theorem boot_list (u : MainUnit) :
    u.boot.storage.deviceList = (reloaded u.storage).deviceList.map RegOp.heartRecvClear.change ∧
      u.boot.storage.totalSlot = (reloaded u.storage).totalSlot := by
  unfold MainUnit.boot
  dsimp only
  rw [MainUnit.onStorage_storage, ← reloaded]
  unfold valveInit
  dsimp only
  split
  · rcases warningEnable_storage_cases .slaverSensorLeak _ with h | h
    · rw [h]
      exact ⟨rfl, rfl⟩
    · rw [h]
      exact ⟨rfl, rfl⟩
  · exact ⟨rfl, rfl⟩

/-! Storage a reset can load, whichever writes of a call were made. -/

/-- Every slot taken, in RAM or stored, has a record, and records name their
slots. -/
structure Backed (st : Storage) : Prop where
  ram : ∀ i, st.totalSlot.getLsbD i = true → i < maxSlaverDevice ∧ ∃ r, st.flash.index i = some r
  stored : ∀ i, (flashGetKey .slot st).getLsbD i = true → i < maxSlaverDevice ∧ ∃ r, st.flash.index i = some r
  keyed : ∀ i r, st.flash.index i = some r → r.slot = i

theorem SlotInv.backed (h : SlotInv st) : Backed st := by
  have hram : ∀ i, st.totalSlot.getLsbD i = true → i < maxSlaverDevice ∧ ∃ r, st.flash.index i = some r := by
    intro i hi
    obtain ⟨d, hd, rfl⟩ := (h.bits i).1 hi
    obtain ⟨r, hr, _⟩ := h.record d hd
    exact ⟨h.below d hd, r, hr⟩
  exact ⟨hram, fun i hi => hram i (h.stored ▸ hi), h.keyed⟩

theorem Backed.reload (h : Backed st) : SlotInv (reloaded st) := reloaded_slotInv h.keyed h.stored

theorem Backed.congr (h : Backed st) (ht : st'.totalSlot = st.totalSlot) (hf : st'.flash = st.flash) :
    Backed st' := by
  have hk : flashGetKey .slot st' = flashGetKey .slot st := flashGetKey_congr (by rw [hf])
  exact ⟨by rw [ht, hf]; exact h.ram, by rw [hk, hf]; exact h.stored, by rw [hf]; exact h.keyed⟩

/-- A write of the bitmap in RAM, made or not. -/
theorem Backed.writeSlot (h : Backed st) : Backed (flashSetKey .slot st.totalSlot st) := by
  by_cases hw : st.writeOk st.writes.length = true
  · have hindex : (flashSetKey .slot st.totalSlot st).flash.index = st.flash.index := by
      rw [flashSetKey, efSetEnvBlob_flash hw]
      rfl
    refine ⟨by rw [hindex]; exact h.ram, ?_, by rw [hindex]; exact h.keyed⟩
    rw [flashGetKey_flashSetKey hw, hindex]
    exact h.ram
  · refine h.congr rfl ?_
    simp [flashSetKey, efSetEnvBlob, hw]

/-- Saving a record, or failing to. -/
theorem Backed.save (h : Backed st) (d : Device) : Backed (aqDeviceSave d st) := by
  by_cases hw : st.writeOk st.writes.length = true
  · have hindex := aqDeviceSave_index hw d
    have hsome : ∀ i, (∃ r, st.flash.index i = some r) → ∃ r, (aqDeviceSave d st).flash.index i = some r := by
      intro i hr
      rw [hindex]
      split
      · exact ⟨d, rfl⟩
      · exact hr
    refine ⟨fun i hi => ⟨(h.ram i hi).1, hsome i (h.ram i hi).2⟩, fun i hi => ?_, fun i r hr => ?_⟩
    · rw [flashGetKey_aqDeviceSave] at hi
      exact ⟨(h.stored i hi).1, hsome i (h.stored i hi).2⟩
    · rw [hindex] at hr
      split at hr
      · rename_i hi
        rw [hi, ← Option.some.inj hr]
      · exact h.keyed i r hr
  · refine h.congr rfl ?_
    simp [aqDeviceSave, efSetEnvBlob, hw]

theorem Backed.delete (h : Backed st) (deviceId : UInt32) : Backed (aqDeviceDelete deviceId st).2 := by
  obtain ⟨_, he⟩ | ⟨d, _, he⟩ := aqDeviceDelete_cases deviceId st
  · rwa [he]
  · have hcleared : Backed { st with
        totalSlot := st.totalSlot &&& ~~~(bit 32 d.slot)
        deviceList := st.deviceList.eraseP fun d => d.deviceId = deviceId } := by
      refine ⟨fun i hi => h.ram i ?_, h.stored, h.keyed⟩
      rw [BitVec.getLsbD_and, Bool.and_eq_true] at hi
      exact hi.1
    rw [he]
    exact hcleared.writeSlot

theorem Backed.op (h : Backed st) {op : RegOp} (hop : ∀ mallocOk rssiLevel type deviceId,
    op ≠ .create mallocOk rssiLevel type deviceId) : Backed (op.apply st) := by
  have htype : ∀ type, Backed (deleteByType type st) := by
    intro type
    unfold deleteByType
    generalize st.deviceList.filter (fun device => device.type = type) = l
    induction l generalizing st with
    | nil => exact h
    | cons d l ih => exact ih (h.delete d.deviceId)
  have hfield : ∀ get put deviceId value, Backed (setField get put deviceId value st) := by
    intro get put deviceId value
    have hsave : ∀ (l : List Device) (st : Storage), Backed st →
        Backed (l.foldl (fun st d => aqDeviceSave (put value d) st) st) := by
      intro l
      induction l with
      | nil => exact fun _ h => h
      | cons d l ih => exact fun st h => ih _ (h.save (put value d))
    exact hsave _ _ (h.congr rfl rfl)
  cases op with
  | create mallocOk rssiLevel type deviceId => exact absurd rfl (hop mallocOk rssiLevel type deviceId)
  | delete deviceId => exact h.delete deviceId
  | gatewayDelete => exact htype deviceTypeGateway
  | doorunitDelete => exact htype deviceTypeDoorunit
  | waterleakSet | wirelostSet | batterySet | onlineSet | rssiLevelSet =>
    simp only [RegOp.apply]
    exact hfield ..
  | recvSet | rssiLevelWrite | recvWrite | recvClear | heartRecvClear => exact h.congr rfl rfl

end

/-! What is stored after a cut. -/

section
variable {st : Storage} {deviceId : UInt32} {slot : Nat}

theorem getFreeDeviceSlot_fst (st : Storage) :
    (getFreeDeviceSlot st).1 =
      (List.range maxSlaverDevice).find? fun index => st.totalSlot &&& bit 32 index = 0 := by
  unfold getFreeDeviceSlot
  split
  · rename_i h
    rw [h]
  · rename_i h
    rw [h]

theorem addsIn_congr (st st' : Storage) (hl : st'.deviceList = st.deviceList)
    (ht : st'.totalSlot = st.totalSlot) : AddsIn deviceId st' slot ↔ AddsIn deviceId st slot := by
  unfold AddsIn
  rw [listed_congr hl, getFreeDeviceSlot_fst, getFreeDeviceSlot_fst, ht]

theorem addsIn_powered {writes : Nat} : AddsIn deviceId (st.powered writes) slot ↔ AddsIn deviceId st slot :=
  addsIn_congr st (st.powered writes) rfl rfl

theorem addsIn_begin {env : Env} {u : MainUnit} :
    AddsIn deviceId (u.begin env).storage slot ↔ AddsIn deviceId u.storage slot :=
  addsIn_congr u.storage (u.begin env).storage rfl rfl

/-- With memory, `aq_device_create` either adds in the slot or changes nothing. -/
theorem aqDeviceCreate_adds_cases (hle : st.totalSlot.toNat ≤ 4095) (rssiLevel type : UInt8)
    (deviceId : UInt32) :
    ((∀ slot, ¬ AddsIn deviceId st slot) ∧ (aqDeviceCreate true rssiLevel type deviceId st).2 = st) ∨
    ∃ slot, AddsIn deviceId st slot ∧ slot < maxSlaverDevice ∧ st.totalSlot.getLsbD slot = false ∧
      (aqDeviceCreate true rssiLevel type deviceId st).2 =
        aqDeviceSave (newDevice slot rssiLevel type deviceId)
          (flashSetKey .slot (st.totalSlot ||| bit 32 slot)
            { st with
              totalSlot := st.totalSlot ||| bit 32 slot
              deviceList := st.deviceList ++ [newDevice slot rssiLevel type deviceId] }) := by
  generalize hr : aqDeviceCreate true rssiLevel type deviceId st = r
  cases hr ▸ aqDeviceCreate_cases true rssiLevel type deviceId st with
  | known d h =>
    refine Or.inl ⟨fun slot hadd => hadd.1 (aqDeviceFind_isSome.1 ?_), rfl⟩
    rw [h]
    rfl
  | full h hf =>
    refine Or.inl ⟨fun slot hadd => ?_, rfl⟩
    obtain ⟨hnone, _⟩ | ⟨slot', hs, hfree, _⟩ := getFreeDeviceSlot_cases st
    · rw [AddsIn, hnone] at hadd
      exact absurd hadd.2 (by simp)
    · rcases hf with hbig | hall
      · omega
      · rw [hall slot' hs] at hfree
        cases hfree
  | noMemory _ hm => cases hm
  | added h _ slot hs hfree _ hget =>
    exact Or.inr ⟨slot, ⟨aqDeviceFind_eq_none.1 h, hget⟩, hs, hfree, rfl⟩

theorem cutShort_flash (op : RegOp) (writes : Nat) (st : Storage) :
    (op.cutShort writes st).flash = (op.apply (st.powered writes)).flash := rfl

/-- The bitmap with the new slot, as the first of the two writes stores it. -/
def slotWrite (st : Storage) (slot : Nat) : FlashWrite :=
  .key .slot (printInt (st.totalSlot ||| bit 32 slot).toInt)

theorem create_cut_of_not_adds (hle : st.totalSlot.toNat ≤ 4095) (hno : ∀ slot, ¬ AddsIn deviceId st slot)
    (rssiLevel type : UInt8) (writes : Nat) :
    ((RegOp.create true rssiLevel type deviceId).cutShort writes st).flash = st.flash := by
  simp only [cutShort_flash, RegOp.apply]
  obtain ⟨_, h⟩ | ⟨slot, hadd, _⟩ := @aqDeviceCreate_adds_cases (st.powered writes) hle rssiLevel type deviceId
  · rw [h]
    rfl
  · exact absurd (addsIn_powered.1 hadd) (hno slot)

theorem create_cut (hle : st.totalSlot.toNat ≤ 4095) (hw : st.WritesOk) (hadd : AddsIn deviceId st slot)
    (rssiLevel type : UInt8) (writes : Nat) :
    ((RegOp.create true rssiLevel type deviceId).cutShort writes st).flash =
      match writes with
      | 0 => st.flash
      | 1 => st.flash.put (slotWrite st slot)
      | _ + 2 => (st.flash.put (slotWrite st slot)).put (.index slot (newDevice slot rssiLevel type deviceId)) := by
  simp only [cutShort_flash, RegOp.apply]
  obtain ⟨hno, _⟩ | ⟨slot', hadd', _, _, h⟩ :=
    @aqDeviceCreate_adds_cases (st.powered writes) hle rssiLevel type deviceId
  · exact absurd (addsIn_powered.2 hadd) (hno slot)
  · have hslot : slot' = slot := by
      have := (addsIn_powered.1 hadd').2
      rw [hadd.2] at this
      exact (Option.some.inj this).symm
    subst hslot
    rw [h]
    obtain _ | _ | n := writes
    · simp [aqDeviceSave, flashSetKey, efSetEnvBlob, Storage.powered]
    · simp [aqDeviceSave, flashSetKey, efSetEnvBlob, Storage.powered, slotWrite, hw _]
    · simp [aqDeviceSave, flashSetKey, efSetEnvBlob, Storage.powered, slotWrite, newDevice, hw _]

theorem delete_cut (hw : st.WritesOk) (deviceId : UInt32) (writes : Nat) :
    ((RegOp.delete deviceId).cutShort writes st).flash = st.flash ∨
      ((RegOp.delete deviceId).cutShort writes st).flash = (aqDeviceDelete deviceId st).2.flash := by
  simp only [cutShort_flash, RegOp.apply]
  obtain ⟨hf, h⟩ | ⟨d, hf, h⟩ := aqDeviceDelete_cases deviceId (st.powered writes)
  · rw [h]
    exact Or.inl rfl
  · obtain ⟨hf', _⟩ | ⟨d', hf', h'⟩ := aqDeviceDelete_cases deviceId st
    · cases hf.symm.trans hf'
    · obtain rfl : d = d' := Option.some.inj (hf.symm.trans hf')
      rw [h, h']
      by_cases hz : writes = 0
      · left
        simp [flashSetKey, efSetEnvBlob, Storage.powered, hz]
      · right
        simp [flashSetKey, efSetEnvBlob, Storage.powered, hw _, Nat.pos_of_ne_zero hz]

/-! What the next start loads. -/

/-- The flash of a registry loads as that registry. -/
theorem SlotInv.of_flash {c : Storage} (h : SlotInv st) (hf : c.flash = st.flash) :
    SlotInv (reloaded c) ∧ SameDevices (reloaded c) st := by
  obtain ⟨hl, ht⟩ := reloaded_list_congr hf
  refine ⟨h.reload.congr hl ht hf, ?_⟩
  exact (SameDevices.of_map Device.Same.refl (by rw [hl, List.map_id'])).trans h.sameDevices_reloaded

/-- What is loaded after a cut is the registry before the call or after it. -/
def Survives (op : RegOp) (c st : Storage) : Prop :=
  (SameDevices (reloaded c) st ∨ SameDevices (reloaded c) (op.apply st)) ∧ SlotsUsed (reloaded c)

theorem Survives.before {op : RegOp} {c : Storage} (h : SlotInv st) (hf : c.flash = st.flash) :
    Survives op c st :=
  ⟨Or.inl (h.of_flash hf).2, (h.of_flash hf).1.slotsUsed⟩

theorem Survives.after {op : RegOp} {c : Storage} (h : SlotInv (op.apply st))
    (hf : c.flash = (op.apply st).flash) : Survives op c st :=
  ⟨Or.inr (h.of_flash hf).2, (h.of_flash hf).1.slotsUsed⟩

/-- The bitmap is written and the record is not. -/
structure CutBetween (st : Storage) (slot : Nat) (c : Storage) : Prop where
  key : flashGetKey .slot c = st.totalSlot ||| bit 32 slot
  index : c.flash.index = st.flash.index

theorem CutBetween.of_flash {c : Storage} (hw : st.WritesOk)
    (hf : c.flash = st.flash.put (slotWrite st slot)) : CutBetween st slot c := by
  have hset : (flashSetKey .slot (st.totalSlot ||| bit 32 slot) st).flash = st.flash.put (slotWrite st slot) :=
    efSetEnvBlob_flash (hw _)
  refine ⟨?_, by rw [hf]; rfl⟩
  rw [← @flashGetKey_flashSetKey .slot (st.totalSlot ||| bit 32 slot) st (hw _)]
  exact flashGetKey_congr (by rw [hf, hset])

section
variable {c : Storage} (h : SlotInv st) (hs : slot < maxSlaverDevice) (hc : CutBetween st slot c)
include h hs hc

/-- The nodes before the call are loaded, and the record left in the slot. -/
theorem CutBetween.hasDevice {a : UInt32} {t : UInt8} :
    HasDevice a t (reloaded c) ↔
      HasDevice a t st ∨ ∃ r, st.flash.index slot = some r ∧ r.deviceId = a ∧ r.type = t := by
  have h32 : slot < 32 := Nat.lt_trans hs (by decide)
  have hmem : ∀ r, r ∈ (reloaded c).deviceList ↔
      r ∈ (reloaded st).deviceList ∨ st.flash.index slot = some r := by
    intro r
    simp only [mem_reloaded, hc.key, hc.index, h.stored, getLsbD_or_bit h32, Bool.or_eq_true,
      decide_eq_true_eq]
    constructor
    · rintro ⟨i, hi, hbit | rfl, hr⟩
      · exact Or.inl ⟨i, hi, hbit, hr⟩
      · exact Or.inr hr
    · rintro (⟨i, hi, hbit, hr⟩ | hr)
      · exact ⟨i, hi, Or.inl hbit, hr⟩
      · exact ⟨slot, h32, Or.inr rfl, hr⟩
  rw [← h.sameDevices_reloaded a t]
  simp only [HasDevice, hmem, or_and_right, exists_or]

theorem CutBetween.slotInv {r : Device} (hr : st.flash.index slot = some r) : SlotInv (reloaded c) := by
  have h32 : slot < 32 := Nat.lt_trans hs (by decide)
  refine reloaded_slotInv (by rw [hc.index]; exact h.keyed) fun i hi => ?_
  rw [hc.key, getLsbD_or_bit h32, Bool.or_eq_true, decide_eq_true_eq] at hi
  rw [hc.index]
  rcases hi with hi | rfl
  · exact h.backed.ram i hi
  · exact ⟨hs, r, hr⟩

/-- A slot taken for nothing shows. -/
theorem CutBetween.record (hused : SlotsUsed (reloaded c)) : ∃ r, st.flash.index slot = some r := by
  have h32 : slot < 32 := Nat.lt_trans hs (by decide)
  have hbit : (reloaded c).totalSlot.getLsbD slot = true := by
    show (flashGetKey .slot c).getLsbD slot = true
    rw [hc.key, getLsbD_or_bit h32]
    simp
  obtain ⟨r, hr, hrs⟩ := hused slot hbit
  obtain ⟨i, _, _, hi⟩ := mem_reloaded.1 hr
  rw [hc.index] at hi
  have hri := h.keyed i r hi
  rw [hrs] at hri
  exact ⟨r, hri ▸ hi⟩

/-- Cut between its writes, a creation is undone or completed by the record it finds. -/
theorem CutBetween.survives_iff {op : RegOp} {deviceId : UInt32} {type : UInt8}
    (hop : ∀ a t, HasDevice a t (op.apply st) ↔ HasDevice a t st ∨ deviceId = a ∧ type = t)
    (hnot : ¬ HasDevice deviceId type st) : Survives op c st ↔ StaleMatches deviceId type st slot := by
  have hloaded : ∀ {r : Device}, st.flash.index slot = some r → ∀ a t, HasDevice a t (reloaded c) ↔
      HasDevice a t st ∨ r.deviceId = a ∧ r.type = t := by
    intro r hr a t
    rw [hc.hasDevice h hs]
    simp [hr]
  constructor
  · rintro ⟨hsame, hused⟩
    obtain ⟨r, hr⟩ := hc.record h hs hused
    refine ⟨r, hr, ?_⟩
    rcases hsame with hbefore | hafter
    · exact Or.inr ((hbefore _ _).1 ((hloaded hr _ _).2 (Or.inr ⟨rfl, rfl⟩)))
    · have hnew := (hloaded hr _ _).1 ((hafter _ _).2 ((hop _ _).2 (Or.inr ⟨rfl, rfl⟩)))
      exact Or.inl (hnew.resolve_left hnot)
  · rintro ⟨r, hr, hmatch⟩
    refine ⟨?_, (hc.slotInv h hs hr).slotsUsed⟩
    rcases hmatch with ⟨rfl, rfl⟩ | hlisted
    · right
      intro a t
      rw [hloaded hr, hop]
    · left
      intro a t
      rw [hloaded hr]
      refine or_iff_left_of_imp ?_
      rintro ⟨rfl, rfl⟩
      exact hlisted

end

/-- A creation cut anywhere loads the registry before or after it exactly when,
cut between its writes, it leaves a record that matches. -/
theorem create_survives_iff (h : SlotInv st) (hw : st.WritesOk) (rssiLevel type : UInt8) (writes : Nat) :
    Survives (.create true rssiLevel type deviceId)
        ((RegOp.create true rssiLevel type deviceId).cutShort writes st) st ↔
      (writes = 1 → ∀ slot, AddsIn deviceId st slot → StaleMatches deviceId type st slot) := by
  obtain ⟨hno, _⟩ | ⟨slot, hadd, hs, hfree, hcreate⟩ :=
    aqDeviceCreate_adds_cases h.totalSlot_le rssiLevel type deviceId
  · refine iff_of_true (.before h ?_) fun _ slot hadd => absurd hadd (hno slot)
    exact create_cut_of_not_adds h.totalSlot_le hno rssiLevel type writes
  · have hcut := create_cut h.totalSlot_le hw hadd rssiLevel type writes
    have hafter : SlotInv ((RegOp.create true rssiLevel type deviceId).apply st) :=
      h.create hw rssiLevel type deviceId
    match writes, hcut with
    | 0, hcut => exact iff_of_true (.before h hcut) fun h01 => absurd h01 (by decide)
    | n + 2, hcut =>
      refine iff_of_true (.after hafter ?_) fun hn => absurd hn (by omega)
      simp only [RegOp.apply, hcreate]
      rw [hcut]
      simp [aqDeviceSave, flashSetKey, efSetEnvBlob, slotWrite, newDevice, hw _]
    | 1, hcut =>
      have hcreated : ∀ a t, HasDevice a t ((RegOp.create true rssiLevel type deviceId).apply st) ↔
          HasDevice a t st ∨ deviceId = a ∧ type = t := by
        intro a t
        simp only [RegOp.apply, hcreate, HasDevice]
        simp [aqDeviceSave, newDevice, or_and_right, exists_or]
      have hnot : ¬ HasDevice deviceId type st := by
        rintro ⟨d, hd, hid, _⟩
        exact hadd.1 ⟨d, hd, hid⟩
      rw [(CutBetween.of_flash hw hcut).survives_iff h hs hcreated hnot]
      constructor
      · intro hstale _ slot' hadd'
        obtain rfl : slot' = slot := Option.some.inj (hadd'.2.symm.trans hadd.2)
        exact hstale
      · exact fun hstale => hstale rfl slot hadd

/-- A deletion cut anywhere loads the registry before or after it. -/
theorem delete_survives (h : SlotInv st) (hw : st.WritesOk) (deviceId : UInt32) (writes : Nat) :
    Survives (.delete deviceId) ((RegOp.delete deviceId).cutShort writes st) st := by
  rcases delete_cut hw deviceId writes with hf | hf
  · exact .before h hf
  · exact .after (h.delete hw deviceId) hf

/-- What is loaded after any call is cut satisfies the invariant, if a creation
cut between its writes leaves a record. -/
theorem cutShort_slotInv (h : SlotInv st) (hw : st.WritesOk) {op : RegOp} (hm : op.MemoryOk) {writes : Nat}
    (hcut : ∀ rssiLevel type deviceId slot, op = .create true rssiLevel type deviceId → writes = 1 →
      AddsIn deviceId st slot → ∃ r, st.flash.index slot = some r) :
    SlotInv (reloaded (op.cutShort writes st)) := by
  by_cases hop : ∃ mallocOk rssiLevel type deviceId, op = .create mallocOk rssiLevel type deviceId
  · obtain ⟨mallocOk, rssiLevel, type, deviceId, rfl⟩ := hop
    obtain rfl : mallocOk = true := hm
    obtain ⟨hno, _⟩ | ⟨slot, hadd, hs, hfree, hcreate⟩ :=
      aqDeviceCreate_adds_cases h.totalSlot_le rssiLevel type deviceId
    · exact (h.of_flash (create_cut_of_not_adds h.totalSlot_le hno rssiLevel type writes)).1
    · have hflash := create_cut h.totalSlot_le hw hadd rssiLevel type writes
      match writes, hflash with
      | 0, hflash => exact (h.of_flash hflash).1
      | 1, hflash =>
        obtain ⟨r, hr⟩ := hcut rssiLevel type deviceId slot rfl rfl hadd
        exact (CutBetween.of_flash hw hflash).slotInv h hs hr
      | n + 2, hflash =>
        refine ((h.create hw rssiLevel type deviceId).of_flash ?_).1
        rw [hflash, hcreate]
        simp [aqDeviceSave, flashSetKey, efSetEnvBlob, slotWrite, newDevice, hw _]
  · have hne : ∀ mallocOk rssiLevel type deviceId, op ≠ .create mallocOk rssiLevel type deviceId :=
      fun m r t d he => hop ⟨m, r, t, d, he⟩
    have hpowered : Backed (st.powered writes) := h.backed.congr rfl rfl
    have hbacked : Backed (op.cutShort writes st) := (hpowered.op hne).congr rfl rfl
    exact hbacked.reload

end

/-! Runs. -/

section
variable {cfg : Config} {s s' : State} {i : Env × Call}

/-- A start loads what the flash holds, and then changes no slot, type or id. -/
theorem boot_slotInv {u : MainUnit} (h : SlotInv (reloaded u.storage)) (hw : u.storage.WritesOk) :
    SlotInv u.boot.storage :=
  h.path hw (boot_storage true rfl)

theorem boot_sameDevices (u : MainUnit) : SameDevices u.boot.storage (reloaded u.storage) :=
  .of_map RegOp.heartRecvClear.change_same (boot_list u).1

theorem boot_slotsUsed (u : MainUnit) : SlotsUsed u.boot.storage ↔ SlotsUsed (reloaded u.storage) := by
  unfold SlotsUsed
  rw [(boot_list u).1, (boot_list u).2]
  simp only [List.mem_map, exists_exists_and_eq_and, (RegOp.heartRecvClear.change_same _).slot]

/-- A loss of power is atomic when what the cut leaves survives. -/
theorem atomic_iff_survives (hn : (registryCalls cfg).next s i = some s') :
    Atomic s i s' ↔ ∀ op writes, i.2 = .powerLoss op writes → op.Splittable →
      Survives op (op.cutShort writes (s.unit.begin i.1).storage) (s.unit.begin i.1).storage := by
  refine forall_congr' fun op => forall_congr' fun writes => forall_congr' fun hcall => ?_
  have hs' := registryCalls_next hn
  rw [hcall] at hs'
  refine imp_congr_right fun _ => ?_
  set c := op.cutShort writes (s.unit.begin i.1).storage with hc
  have hunit : s'.unit = ((s.unit.begin i.1).onStorage (op.cutShort writes)).boot := by
    rw [← hs']
    rfl
  have hsame : SameDevices s'.unit.storage (reloaded c) := by
    rw [hunit]
    exact boot_sameDevices _
  have hused : SlotsUsed s'.unit.storage ↔ SlotsUsed (reloaded c) := by
    rw [hunit]
    exact boot_slotsUsed _
  unfold Survives
  rw [hused]
  refine and_congr_left fun _ => or_congr ?_ ?_
  · exact ⟨hsame.symm.trans, hsame.trans⟩
  · exact ⟨hsame.symm.trans, hsame.trans⟩

theorem begin_slotInv (h : SlotInv s.unit.storage) (env : Env) : SlotInv (s.unit.begin env).storage :=
  h.congr rfl rfl rfl

/-- **One loss of power** is atomic exactly when the record it leaves matches. -/
theorem atomic_iff (h : SlotInv s.unit.storage) (hs : Succeeds i)
    (hn : (registryCalls cfg).next s i = some s') : Atomic s i s' ↔ CutsMatch s i := by
  have hbegin := begin_slotInv h i.1
  obtain ⟨hwrites, _, hmem⟩ := hs
  rw [atomic_iff_survives hn]
  constructor
  · intro hall mallocOk rssiLevel type deviceId slot hcall hadd
    rw [hcall] at hmem
    obtain rfl : mallocOk = true := hmem
    exact (create_survives_iff hbegin hwrites rssiLevel type 1).1 (hall _ _ hcall trivial) rfl slot
      (addsIn_begin.2 hadd)
  · intro hcut op writes hcall hsplit
    rw [hcall] at hmem
    cases op with
    | create mallocOk rssiLevel type deviceId =>
      obtain rfl : mallocOk = true := hmem
      refine (create_survives_iff hbegin hwrites rssiLevel type writes).2 ?_
      rintro rfl slot hadd
      exact hcut true rssiLevel type deviceId slot hcall (addsIn_begin.1 hadd)
    | delete deviceId => exact delete_survives hbegin hwrites deviceId writes
    | _ => exact hsplit.elim

/-- Steps whose cuts match keep the registry. -/
theorem SlotInv.next (h : SlotInv s.unit.storage) (hs : Succeeds i) (hcut : CutsMatch s i)
    (hn : (registryCalls cfg).next s i = some s') : SlotInv s'.unit.storage := by
  have hbegin := begin_slotInv h i.1
  by_cases hpower : ∃ op writes, i.2 = .powerLoss op writes
  · obtain ⟨op, writes, hcall⟩ := hpower
    obtain ⟨hwrites, _, hmem⟩ := hs
    have hs' := registryCalls_next hn
    rw [hcall] at hs' hmem
    rw [← hs']
    refine boot_slotInv (cutShort_slotInv hbegin hwrites hmem ?_) ?_
    · rintro rssiLevel type deviceId slot rfl rfl hadd
      obtain ⟨r, hr, _⟩ := hcut true rssiLevel type deviceId slot hcall (addsIn_begin.1 hadd)
      exact ⟨r, hr⟩
    · exact hwrites
  · have hu : Undisturbed i := ⟨hs, fun op writes hc => hpower ⟨op, writes, hc⟩⟩
    rcases hu.next hn with ⟨rssiLevel, type, deviceId, _, hs'⟩ | ⟨_, hpath⟩
    · rw [hs']
      exact hbegin.create hs.1 rssiLevel type deviceId
    · exact hbegin.path hs.1 hpath

end

/-- **A loss of power keeps the registry whole**, in every run whose allocations
and flash writes succeed and whose cuts match; and in a run whose allocations
and writes succeed, only then. -/
theorem power_loss_atomic_iff (cfg : Config) (env : Env) (download : Nat → UInt8)
    (is : List (Env × Call)) :
    ((registryCalls cfg).Steps (fun s i _ => Succeeds i ∧ CutsMatch s i)
        (powerOn cfg env Flash.default download) is →
      (registryCalls cfg).Steps Atomic (powerOn cfg env Flash.default download) is) ∧
    ((∀ i ∈ is, Succeeds i) →
      ((registryCalls cfg).Steps Atomic (powerOn cfg env Flash.default download) is ↔
        (registryCalls cfg).Steps (fun s i _ => CutsMatch s i)
          (powerOn cfg env Flash.default download) is)) := by
  obtain ⟨_, hl, ht, hf⟩ := powerOn_default cfg env download
  have hstart : SlotInv (powerOn cfg env Flash.default download).unit.storage := .empty hl ht hf
  have hiff : (registryCalls cfg).Steps (fun s i s' => Succeeds i ∧ Atomic s i s')
        (powerOn cfg env Flash.default download) is ↔
      (registryCalls cfg).Steps (fun s i _ => Succeeds i ∧ CutsMatch s i)
        (powerOn cfg env Flash.default download) is :=
    @Machine.steps_iff_of_inv _ _ (registryCalls cfg) (fun s => SlotInv s.unit.storage) _ _ _ hstart
      (fun _ _ _ h hok hn => h.next hok.1 hok.2 hn)
      (fun _ _ _ h hn => and_congr_right fun hs => atomic_iff h hs hn) is
  constructor
  · intro hok pre i s₁ s₂ hpre hr hn
    exact (hiff.2 hok pre i s₁ s₂ hpre hr hn).2
  · intro hs
    rw [Machine.steps_and_label hs, Machine.steps_and_label (Q := fun s i _ => CutsMatch s i) hs] at hiff
    exact hiff

/-- The first device is added, and power lost after the bitmap is written: the
next start takes slot 0 for no device. -/
theorem power_loss_atomic_fails :
    ¬ ∀ (cfg : Config) (env : Env) (download : Nat → UInt8) (is : List (Env × Call)),
      (∀ i ∈ is, Succeeds i) →
        (registryCalls cfg).Steps Atomic (powerOn cfg env Flash.default download) is := by
  intro h
  have hstep : ∃ s', (registryCalls sampleConfig).next sampleStart
        (sampleEnv, .powerLoss (.create true 3 deviceTypeEndunit 7) 1) = some s' ∧
      s'.unit.storage.totalSlot.getLsbD 0 = true ∧ s'.unit.storage.deviceList = [] := by
    refine ⟨_, rfl, ?_⟩
    decide +kernel
  obtain ⟨s', hn, hbit, hl⟩ := hstep
  have hatomic := h sampleConfig sampleEnv (fun _ => 0xFF)
    [(sampleEnv, .powerLoss (.create true 3 deviceTypeEndunit 7) 1)]
    (by simp [Succeeds, RegOp.MemoryOk, sampleEnv]) [] _ sampleStart s' List.prefix_rfl rfl hn _ _ rfl trivial
  obtain ⟨d, hd, _⟩ := hatomic.2 0 hbit
  rw [hl] at hd
  exact absurd hd List.not_mem_nil

end Aqualarm
