import Aqualarm.Enrolment
import Mathlib.Data.List.Nodup

/-
  The three representations of the registry: the device list, the bitmap and the
  flash records.

  What is proved:
    1. `SlotInv` and its closure under every operation and reset, where
       allocation and flash writes succeed. It allows an id to be listed twice.
    2. `reloaded_slotInv` — what a reset loads satisfies it as soon as every
       stored slot bit has a record.
    3. `Ids` — the ids are distinct, and with that the list after a deletion is
       the list without the id.
-/

namespace Aqualarm

open Lib (bit)

/-- Every write succeeds. -/
def Storage.WritesOk (st : Storage) : Prop := ∀ n, st.writeOk n = true

/-- The list, the bitmap and the flash describe one set of slots. -/
structure SlotInv (st : Storage) : Prop where
  slots : (st.deviceList.map Device.slot).Nodup
  below : ∀ d ∈ st.deviceList, d.slot < maxSlaverDevice
  bits : ∀ i, st.totalSlot.getLsbD i = true ↔ ∃ d ∈ st.deviceList, d.slot = i
  stored : flashGetKey .slot st = st.totalSlot
  record : ∀ d ∈ st.deviceList, ∃ r, st.flash.index d.slot = some r ∧ d.Same r
  /-- A record names the slot it is stored under, deleted ones too. -/
  keyed : ∀ i r, st.flash.index i = some r → r.slot = i

theorem Device.Same.symm {d d' : Device} (h : d.Same d') : d'.Same d :=
  ⟨h.slot.symm, h.type.symm, h.deviceId.symm⟩

theorem Device.Same.trans {a b c : Device} (h : a.Same b) (h' : b.Same c) : a.Same c :=
  ⟨h'.slot.trans h.slot, h'.type.trans h.type, h'.deviceId.trans h.deviceId⟩

theorem SlotInv.unique {st : Storage} (h : SlotInv st) {d d' : Device} (hd : d ∈ st.deviceList)
    (hd' : d' ∈ st.deviceList) (hs : d.slot = d'.slot) : d = d' :=
  List.inj_on_of_nodup_map h.slots hd hd' hs

theorem SlotInv.totalSlot_le {st : Storage} (h : SlotInv st) : st.totalSlot.toNat ≤ 4095 := by
  have : st.totalSlot.toNat < 2 ^ 12 := by
    apply Lib.toNat_lt_of_bits
    intro i hi
    obtain ⟨d, hd, rfl⟩ := (h.bits i).1 hi
    exact h.below d hd
  omega

/-! Changes in place. -/

/-- The same flash, and nodes that keep slot, type and id. -/
theorem SlotInv.of_same {st st' : Storage} (h : SlotInv st)
    (hl : List.Forall₂ Device.Same st.deviceList st'.deviceList) (ht : st'.totalSlot = st.totalSlot)
    (hfl : st'.flash = st.flash) : SlotInv st' := by
  have hslot := map_eq_of_same (fun d d' hd => hd.slot) hl
  refine ⟨?_, ?_, ?_, ?_, ?_, ?_⟩
  · rw [hslot]
    exact h.slots
  · intro d' hd'
    obtain ⟨d, hd, hsame⟩ := Lib.exists_mem_of_forall₂ hl hd'
    rw [hsame.slot]
    exact h.below d hd
  · intro i
    have hmem : ∀ l : List Device, (∃ d ∈ l, d.slot = i) ↔ i ∈ l.map Device.slot := fun l => List.mem_map.symm
    rw [ht, h.bits i, hmem, hmem, hslot]
  · rw [ht, ← h.stored]
    exact flashGetKey_congr (by rw [hfl])
  · intro d' hd'
    obtain ⟨d, hd, hdd⟩ := Lib.exists_mem_of_forall₂ hl hd'
    obtain ⟨r, hr, hsame⟩ := h.record d hd
    exact ⟨r, by rw [hfl, hdd.slot, hr], hdd.symm.trans hsame⟩
  · intro i r hr
    rw [hfl] at hr
    exact h.keyed i r hr

/-- Only the list, the bitmap and the flash count. -/
theorem SlotInv.congr {st st' : Storage} (h : SlotInv st) (hl : st'.deviceList = st.deviceList)
    (ht : st'.totalSlot = st.totalSlot) (hfl : st'.flash = st.flash) : SlotInv st' :=
  h.of_same (hl ▸ List.forall₂_same.2 fun d _ => .refl d) ht hfl

/-- The stored lock is none of the registry's business. -/
theorem SlotInv.lock {st : Storage} (h : SlotInv st) (value : BitVec 32) :
    SlotInv (flashSetKey .valveLock value st) := by
  refine ⟨h.slots, h.below, h.bits, ?_, ?_, ?_⟩
  · rw [flashGetKey_flashSetKey_of_ne (by simp)]
    exact h.stored
  · rw [flashSetKey_index]
    exact h.record
  · rw [flashSetKey_index]
    exact h.keyed

/-- Saving a node that agrees with a listed one on slot, type and id. -/
theorem SlotInv.save {st : Storage} (h : SlotInv st) (hw : st.WritesOk) {d d' : Device}
    (hd : d ∈ st.deviceList) (hs : d.Same d') : SlotInv (aqDeviceSave d' st) := by
  have hindex := aqDeviceSave_index (hw _) d'
  refine ⟨h.slots, h.below, h.bits, ?_, ?_, ?_⟩
  · exact (flashGetKey_aqDeviceSave .slot d' st).trans h.stored
  · intro x hx
    rw [hindex]
    by_cases hi : x.slot = d'.slot
    · obtain rfl : x = d := h.unique hx hd (hi.trans hs.slot)
      exact ⟨d', if_pos hi, hs⟩
    · rw [if_neg hi]
      exact h.record x hx
  · intro i r hr
    rw [hindex] at hr
    split at hr
    · rename_i hi
      rw [hi, ← Option.some.inj hr]
    · exact h.keyed i r hr

theorem SlotInv.setField {get : Device → UInt8} {put : UInt8 → Device → Device} {deviceId : UInt32}
    {value : UInt8} {st : Storage} (h : SlotInv st) (hw : st.WritesOk)
    (hput : ∀ v d, Device.Same d (put v d)) :
    SlotInv (Aqualarm.setField get put deviceId value st) := by
  have hsave : ∀ (l : List Device) (st : Storage), SlotInv st → st.WritesOk →
      (∀ d ∈ l, ∃ x ∈ st.deviceList, x.Same (put value d)) →
      SlotInv (l.foldl (fun st d => aqDeviceSave (put value d) st) st) := by
    intro l
    induction l with
    | nil => exact fun st h _ _ => h
    | cons d l ih =>
      intro st h hw hl
      obtain ⟨x, hx, hs⟩ := hl d (List.mem_cons_self ..)
      exact ih _ (h.save hw hx hs) hw fun d hd => hl d (List.mem_cons_of_mem _ hd)
  have hupd : ∀ d, Device.Same d
      (if d.deviceId = deviceId then if get d ≠ value then put value d else d else d) := by
    intro d
    split
    · split
      · exact hput value d
      · exact .refl d
    · exact .refl d
  unfold Aqualarm.setField
  refine hsave _ _ (h.of_same (forall₂_same_map hupd _) rfl rfl) hw fun d hd => ?_
  have hmem := (List.mem_filter.1 hd).1
  exact ⟨_, List.mem_map_of_mem hmem, (hupd d).symm.trans (hput value d)⟩

theorem SlotInv.inPlace {op : RegOp} (hi : op.InPlace) {st : Storage} (h : SlotInv st) (hw : st.WritesOk) :
    SlotInv (op.apply st) := by
  cases op with
  | waterleakSet | wirelostSet | batterySet | onlineSet | rssiLevelSet =>
    simp only [RegOp.apply]
    exact h.setField hw fun _ _ => ⟨rfl, rfl, rfl⟩
  | recvSet | rssiLevelWrite | recvWrite | recvClear | heartRecvClear => exact h.of_same (hi.same st) rfl rfl
  | create | delete | gatewayDelete | doorunitDelete => cases hi

/-! Creating. -/

theorem SlotInv.unused {st : Storage} (h : SlotInv st) {slot : Nat} (hfree : st.totalSlot.getLsbD slot = false) :
    ∀ x ∈ st.deviceList, x.slot ≠ slot := by
  intro x hx hc
  have hbit := (h.bits slot).2 ⟨x, hx, hc⟩
  rw [hfree] at hbit
  cases hbit

/-- Adding a node in a free slot: bitmap first, then the record. -/
theorem SlotInv.added {st : Storage} (h : SlotInv st) (hw : st.WritesOk) {slot : Nat}
    (hs : slot < maxSlaverDevice) (hfree : st.totalSlot.getLsbD slot = false) (rssiLevel type : UInt8)
    (deviceId : UInt32) :
    SlotInv
      (aqDeviceSave (newDevice slot rssiLevel type deviceId)
        (flashSetKey .slot (st.totalSlot ||| bit 32 slot)
          { st with
            totalSlot := st.totalSlot ||| bit 32 slot
            deviceList := st.deviceList ++ [newDevice slot rssiLevel type deviceId] })) := by
  set d := newDevice slot rssiLevel type deviceId with hd
  have hds : d.slot = slot := rfl
  have h32 : slot < 32 := Nat.lt_trans hs (by decide)
  have hunused := h.unused hfree
  set st₁ : Storage :=
    { st with totalSlot := st.totalSlot ||| bit 32 slot, deviceList := st.deviceList ++ [d] } with hst₁
  have hw₁ : (flashSetKey .slot (st.totalSlot ||| bit 32 slot) st₁).WritesOk := hw
  have hindex : ∀ i, (aqDeviceSave d (flashSetKey .slot (st.totalSlot ||| bit 32 slot) st₁)).flash.index i =
      if i = slot then some d else st.flash.index i := by
    intro i
    rw [aqDeviceSave_index (hw₁ _), flashSetKey_index, hds]
  refine ⟨?_, ?_, ?_, ?_, ?_, ?_⟩
  · show ((st.deviceList ++ [d]).map Device.slot).Nodup
    rw [List.map_append, List.nodup_append]
    refine ⟨h.slots, List.nodup_singleton _, ?_⟩
    intro a ha b hb hab
    obtain ⟨x, hx, rfl⟩ := List.mem_map.1 ha
    rw [List.map_singleton, List.mem_singleton] at hb
    exact hunused x hx (hab.trans (hb.trans hds))
  · intro x hx
    rcases List.mem_append.1 hx with hx | hx
    · exact h.below x hx
    · rw [List.mem_singleton.1 hx]
      exact hs
  · intro i
    show (st.totalSlot ||| bit 32 slot).getLsbD i = true ↔ ∃ x ∈ st.deviceList ++ [d], x.slot = i
    rw [Lib.getLsbD_or_bit h32, Bool.or_eq_true, h.bits i, decide_eq_true_eq]
    simp only [List.mem_append, List.mem_singleton, or_and_right, exists_or, exists_eq_left, hds]
  · exact (flashGetKey_aqDeviceSave .slot d _).trans (flashGetKey_flashSetKey (hw _))
  · intro x hx
    rw [hindex]
    rcases List.mem_append.1 hx with hx | hx
    · rw [if_neg (hunused x hx)]
      exact h.record x hx
    · rw [List.mem_singleton.1 hx]
      exact ⟨d, if_pos hds, .refl d⟩
  · intro i r hr
    rw [hindex] at hr
    split at hr
    · rename_i hi
      rw [hi, ← Option.some.inj hr]
      exact hds
    · exact h.keyed i r hr

theorem SlotInv.create {st : Storage} (h : SlotInv st) (hw : st.WritesOk) (rssiLevel type : UInt8)
    (deviceId : UInt32) : SlotInv (aqDeviceCreate true rssiLevel type deviceId st).2 := by
  generalize hr : aqDeviceCreate true rssiLevel type deviceId st = r
  cases hr ▸ aqDeviceCreate_cases true rssiLevel type deviceId st with
  | known => exact h
  | full => exact h
  | noMemory _ hm => cases hm
  | added _ _ slot hs hfree => exact h.added hw hs hfree rssiLevel type deviceId

/-! Deleting. -/

/-- The node `aq_device_delete` removes is the one `aq_device_find` finds. -/
theorem aqDeviceFind_split {deviceId : UInt32} {st : Storage} {d : Device}
    (h : aqDeviceFind deviceId st = some d) :
    ∃ l₁ l₂, st.deviceList = l₁ ++ d :: l₂ ∧
      (st.deviceList.eraseP fun d => d.deviceId = deviceId) = l₁ ++ l₂ := by
  obtain ⟨hp, l₁, l₂, hl, hbefore⟩ := List.find?_eq_some_iff_append.1 h
  refine ⟨l₁, l₂, hl, ?_⟩
  rw [hl, List.eraseP_append_right _ fun b hb => ?_]
  · exact congrArg (l₁ ++ ·) (List.eraseP_cons_of_pos hp)
  · simpa using hbefore b hb

theorem SlotInv.deleted {st : Storage} (h : SlotInv st) (hw : st.WritesOk) {deviceId : UInt32} {d : Device}
    (hd : aqDeviceFind deviceId st = some d) :
    SlotInv
      (flashSetKey .slot (st.totalSlot &&& ~~~(bit 32 d.slot))
        { st with
          totalSlot := st.totalSlot &&& ~~~(bit 32 d.slot)
          deviceList := st.deviceList.eraseP fun d => d.deviceId = deviceId }) := by
  obtain ⟨l₁, l₂, hl, herase⟩ := aqDeviceFind_split hd
  have hmem : d ∈ st.deviceList := by
    rw [hl]
    simp
  have h32 : d.slot < 32 := Nat.lt_trans (h.below d hmem) (by decide)
  have hsub : ∀ x ∈ l₁ ++ l₂, x ∈ st.deviceList := by
    intro x hx
    rw [hl]
    rcases List.mem_append.1 hx with hx | hx
    · exact List.mem_append_left _ hx
    · exact List.mem_append_right _ (List.mem_cons_of_mem _ hx)
  have hnodup : ((l₁ ++ d :: l₂).map Device.slot).Nodup := hl ▸ h.slots
  have hne : ∀ x ∈ l₁ ++ l₂, x.slot ≠ d.slot := by
    rw [List.map_append, List.map_cons, List.nodup_middle, List.nodup_cons, ← List.map_append] at hnodup
    intro x hx hc
    exact hnodup.1 (List.mem_map.2 ⟨x, hx, hc⟩)
  rw [herase]
  refine ⟨?_, fun x hx => h.below x (hsub x hx), ?_, ?_, ?_, ?_⟩
  · show ((l₁ ++ l₂).map Device.slot).Nodup
    rw [List.map_append, List.map_cons, List.nodup_middle, List.nodup_cons, ← List.map_append] at hnodup
    exact hnodup.2
  · intro i
    show (st.totalSlot &&& ~~~(bit 32 d.slot)).getLsbD i = true ↔ ∃ x ∈ l₁ ++ l₂, x.slot = i
    rw [Lib.getLsbD_and_not_bit h32, Bool.and_eq_true, h.bits i, Bool.not_eq_true', decide_eq_false_iff_not]
    constructor
    · rintro ⟨⟨x, hx, rfl⟩, hi⟩
      rw [hl] at hx
      rcases List.mem_append.1 hx with hx | hx
      · exact ⟨x, List.mem_append_left _ hx, rfl⟩
      · rcases List.mem_cons.1 hx with rfl | hx
        · exact absurd rfl hi
        · exact ⟨x, List.mem_append_right _ hx, rfl⟩
    · rintro ⟨x, hx, rfl⟩
      exact ⟨⟨x, hsub x hx, rfl⟩, (hne x hx).symm⟩
  · exact flashGetKey_flashSetKey (hw _)
  · intro x hx
    rw [flashSetKey_index]
    exact h.record x (hsub x hx)
  · intro i r hr
    rw [flashSetKey_index] at hr
    exact h.keyed i r hr

theorem SlotInv.delete {st : Storage} (h : SlotInv st) (hw : st.WritesOk) (deviceId : UInt32) :
    SlotInv (aqDeviceDelete deviceId st).2 := by
  obtain ⟨_, he⟩ | ⟨d, hd, he⟩ := aqDeviceDelete_cases deviceId st
  · rwa [he]
  · rw [he]
    exact h.deleted hw hd

theorem SlotInv.deleteByType {st : Storage} (h : SlotInv st) (hw : st.WritesOk) (type : UInt8) :
    SlotInv (Aqualarm.deleteByType type st) := by
  unfold Aqualarm.deleteByType
  generalize st.deviceList.filter (fun device => device.type = type) = l
  induction l generalizing st with
  | nil => exact h
  | cons d l ih =>
    refine ih (h.delete hw d.deviceId) fun n => ?_
    rw [(aqDeviceDelete_frame d.deviceId st).writeOk]
    exact hw n

/-! Resetting. -/

theorem mem_reloaded {st : Storage} {r : Device} :
    r ∈ (reloaded st).deviceList ↔
      ∃ i, i < 32 ∧ (flashGetKey .slot st).getLsbD i = true ∧ st.flash.index i = some r := by
  simp only [reloaded, readDeviceFromFlash, List.nil_append, List.mem_filterMap, List.mem_range]
  constructor
  · rintro ⟨i, hi, hr⟩
    split at hr
    · rename_i hb
      rw [Ne, Lib.and_bit_eq_zero hi, Bool.not_eq_false] at hb
      exact ⟨i, hi, hb, hr⟩
    · cases hr
  · rintro ⟨i, hi, hb, hr⟩
    refine ⟨i, hi, ?_⟩
    rw [if_pos]
    · exact hr
    · rw [Ne, Lib.and_bit_eq_zero hi, Bool.not_eq_false]
      exact hb

/-- The loaded nodes are in distinct slots: each is in the slot of its key. -/
theorem reloaded_slots {st : Storage} (hk : ∀ i r, st.flash.index i = some r → r.slot = i) :
    ((reloaded st).deviceList.map Device.slot).Nodup := by
  simp only [reloaded, readDeviceFromFlash, List.nil_append, List.map_filterMap]
  refine List.Nodup.filterMap ?_ List.nodup_range
  intro i j s hi hj
  have hslot : ∀ i, s ∈ ((if flashGetKey .slot st &&& bit 32 i ≠ 0 then st.flash.index i else none).map
      Device.slot) → s = i := by
    intro i hi
    obtain ⟨r, hr, rfl⟩ := Option.mem_map.1 hi
    split at hr
    · exact hk i r hr
    · cases hr
  exact (hslot i hi).symm.trans (hslot j hj)

/-- What a reset loads, where every stored slot bit has a record. -/
theorem reloaded_slotInv {st : Storage} (hk : ∀ i r, st.flash.index i = some r → r.slot = i)
    (hb : ∀ i, (flashGetKey .slot st).getLsbD i = true →
      i < maxSlaverDevice ∧ ∃ r, st.flash.index i = some r) : SlotInv (reloaded st) := by
  refine ⟨reloaded_slots hk, ?_, ?_, rfl, ?_, hk⟩
  · intro r hr
    obtain ⟨i, _, hbit, hr⟩ := mem_reloaded.1 hr
    rw [hk i r hr]
    exact (hb i hbit).1
  · intro i
    constructor
    · intro hbit
      obtain ⟨hi, r, hr⟩ := hb i hbit
      exact ⟨r, mem_reloaded.2 ⟨i, Nat.lt_trans hi (by decide), hbit, hr⟩, hk i r hr⟩
    · rintro ⟨r, hr, rfl⟩
      obtain ⟨i, _, hbit, hr⟩ := mem_reloaded.1 hr
      rw [hk i r hr]
      exact hbit
  · intro r hr
    obtain ⟨i, _, _, hr⟩ := mem_reloaded.1 hr
    exact ⟨r, by rw [hk i r hr]; exact hr, .refl r⟩

/-- A node loaded by a reset is the record of a listed one. -/
theorem SlotInv.of_reloaded {st : Storage} (h : SlotInv st) {r : Device} (hr : r ∈ (reloaded st).deviceList) :
    ∃ d ∈ st.deviceList, d.Same r := by
  obtain ⟨i, _, hbit, hr⟩ := mem_reloaded.1 hr
  rw [h.stored] at hbit
  obtain ⟨d, hd, rfl⟩ := (h.bits i).1 hbit
  obtain ⟨r', hr', hsame⟩ := h.record d hd
  rw [hr'] at hr
  cases hr
  exact ⟨d, hd, hsame⟩

/-- And every listed one is loaded. -/
theorem SlotInv.to_reloaded {st : Storage} (h : SlotInv st) {d : Device} (hd : d ∈ st.deviceList) :
    ∃ r ∈ (reloaded st).deviceList, d.Same r := by
  obtain ⟨r, hr, hsame⟩ := h.record d hd
  refine ⟨r, mem_reloaded.2 ⟨d.slot, Nat.lt_trans (h.below d hd) (by decide), ?_, hr⟩, hsame⟩
  rw [h.stored]
  exact (h.bits d.slot).2 ⟨d, hd, rfl⟩

theorem SlotInv.reload {st : Storage} (h : SlotInv st) : SlotInv (reloaded st) := by
  refine reloaded_slotInv h.keyed fun i hbit => ?_
  rw [h.stored] at hbit
  obtain ⟨d, hd, rfl⟩ := (h.bits i).1 hbit
  obtain ⟨r, hr, _⟩ := h.record d hd
  exact ⟨h.below d hd, r, hr⟩

/-- Nothing stored, nothing loaded. -/
theorem reloaded_default (st : Storage) :
    SlotInv (reloaded { st with flash := Flash.default }) ∧
      (reloaded { st with flash := Flash.default }).deviceList = [] := by
  have hindex : ∀ i r, ({ st with flash := Flash.default } : Storage).flash.index i = some r → False := by
    intro i r hr
    cases hr
  constructor
  · refine reloaded_slotInv (fun i r hr => (hindex i r hr).elim) fun i hbit => ?_
    have hzero : flashGetKey .slot ({ st with flash := Flash.default } : Storage) = 0 := rfl
    rw [hzero] at hbit
    simp at hbit
  · refine List.eq_nil_iff_forall_not_mem.2 fun r hr => ?_
    obtain ⟨i, _, _, hr⟩ := mem_reloaded.1 hr
    exact hindex i r hr

/-! Distinct ids, and one device of a type. -/

/-- No id is listed twice. -/
def Ids (st : Storage) : Prop := (st.deviceList.map Device.deviceId).Nodup

instance (st : Storage) : Decidable (Ids st) := inferInstanceAs (Decidable (List.Nodup _))

/-- At most one device of the type is listed. -/
def OneOfType (type : UInt8) (st : Storage) : Prop :=
  ∀ d ∈ st.deviceList, ∀ d' ∈ st.deviceList, d.type = type → d'.type = type → d = d'

instance (type : UInt8) (st : Storage) : Decidable (OneOfType type st) :=
  inferInstanceAs (Decidable (∀ d ∈ st.deviceList, ∀ d' ∈ st.deviceList, _))

section
variable {st st' : Storage} {type : UInt8}

theorem Ids.of_same (h : Ids st) (hl : List.Forall₂ Device.Same st.deviceList st'.deviceList) : Ids st' := by
  unfold Ids
  rw [map_eq_of_same (fun d d' hd => hd.deviceId) hl]
  exact h

/-- Where ids are distinct, the node found is the only one. -/
theorem RegOp.ById.deviceList {op : RegOp} (hop : op.ById) (h : Ids st) :
    (op.apply st).deviceList = st.deviceList.map op.change := by
  have hone : ∀ a : UInt32, st.deviceList.Pairwise fun d d' =>
      decide (d.deviceId = a) = true → decide (d'.deviceId = a) = false := by
    intro a
    refine (List.pairwise_map.1 h).imp fun {d d'} hne hd => decide_eq_false fun hd' => ?_
    exact hne ((of_decide_eq_true hd).trans hd'.symm)
  have hfirst : ∀ (a : UInt32) (f : Device → Device),
      (updateFirst a f st).deviceList = st.deviceList.map fun d => if d.deviceId = a then f d else d := by
    intro a f
    refine (Lib.mapFirst_eq_map (hone a)).trans (List.map_congr_left fun d _ => ?_)
    simp only [decide_eq_true_eq, id_eq]
  cases op with
  | waterleakSet | wirelostSet | batterySet | onlineSet | rssiLevelSet | recvSet | heartRecvClear =>
    refine RegOp.Everywhere.deviceList ?_ st
    exact ⟨trivial, trivial⟩
  | rssiLevelWrite | recvWrite => exact hfirst _ _
  | create | delete | gatewayDelete | doorunitDelete | recvClear => cases hop

theorem Ids.sublist (h : Ids st) (hl : st'.deviceList.Sublist st.deviceList) : Ids st' :=
  List.Nodup.sublist (hl.map Device.deviceId) h

theorem Ids.create (h : Ids st) (mallocOk : Bool) (rssiLevel type : UInt8) (deviceId : UInt32) :
    Ids (aqDeviceCreate mallocOk rssiLevel type deviceId st).2 := by
  generalize hr : aqDeviceCreate mallocOk rssiLevel type deviceId st = r
  cases hr ▸ aqDeviceCreate_cases mallocOk rssiLevel type deviceId st with
  | known => exact h
  | full => exact h
  | noMemory => exact h
  | added hnone =>
    show ((st.deviceList ++ [_]).map Device.deviceId).Nodup
    rw [List.map_append, List.nodup_append]
    refine ⟨h, List.nodup_singleton _, ?_⟩
    rintro a ha b hb rfl
    obtain ⟨d, hd, hid⟩ := List.mem_map.1 ha
    rw [List.map_singleton, List.mem_singleton] at hb
    exact aqDeviceFind_eq_none.1 hnone ⟨d, hd, hid.trans hb⟩

theorem Ids.reload (h : Ids st) (hs : SlotInv st) : Ids (reloaded st) := by
  have hnodup : (reloaded st).deviceList.Nodup := List.Nodup.of_map Device.slot (reloaded_slots hs.keyed)
  refine hnodup.map_on fun r hr r' hr' hid => ?_
  obtain ⟨d, hd, hdr⟩ := hs.of_reloaded hr
  obtain ⟨d', hd', hdr'⟩ := hs.of_reloaded hr'
  have hdd : d.deviceId = d'.deviceId := by rw [← hdr.deviceId, ← hdr'.deviceId, hid]
  obtain rfl : d = d' := List.inj_on_of_nodup_map h hd hd' hdd
  exact hs.reload.unique hr hr' (by rw [hdr.slot, hdr'.slot])

/-- Where ids are distinct, a deleted id is no longer listed. -/
theorem Ids.not_listed_delete (h : Ids st) (deviceId : UInt32) :
    ¬ Listed deviceId (aqDeviceDelete deviceId st).2 := by
  obtain ⟨hnone, he⟩ | ⟨d, hd, he⟩ := aqDeviceDelete_cases deviceId st
  · rw [he]
    exact aqDeviceFind_eq_none.1 hnone
  · obtain ⟨l₁, l₂, hl, herase⟩ := aqDeviceFind_split hd
    have hid : d.deviceId = deviceId := by simpa using List.find?_some hd
    have hnodup : ((l₁ ++ d :: l₂).map Device.deviceId).Nodup := hl ▸ h
    rw [List.map_append, List.map_cons, List.nodup_middle, List.nodup_cons, ← List.map_append] at hnodup
    rw [he]
    rintro ⟨x, hx, hxid⟩
    change x ∈ st.deviceList.eraseP _ at hx
    rw [herase] at hx
    exact hnodup.1 (List.mem_map.2 ⟨x, hx, hxid.trans hid.symm⟩)

/-- And after `aq_gateway_delete` no gateway is, nor a door unit after
`aq_doorunit_delete`. -/
theorem Ids.no_type_deleteByType (h : Ids st) (type : UInt8) :
    ∀ d ∈ (deleteByType type st).deviceList, d.type ≠ type := by
  have hfold : ∀ (l : List Device) (st : Storage), Ids st → ∀ d ∈ l,
      ¬ Listed d.deviceId (l.foldl (fun st d => (aqDeviceDelete d.deviceId st).2) st) := by
    intro l
    induction l with
    | nil => exact fun _ _ d hd => absurd hd List.not_mem_nil
    | cons x l ih =>
      intro st h d hd
      rw [List.foldl_cons]
      rcases List.mem_cons.1 hd with rfl | hd
      · -- gone after its own turn, and the later turns add nothing
        rintro ⟨y, hy, hid⟩
        exact h.not_listed_delete d.deviceId ⟨y, (foldl_delete_sublist l _).subset hy, hid⟩
      · exact ih _ (h.sublist (aqDeviceDelete_sublist x.deviceId st)) d hd
  intro d hd ht
  have hmem := (deleteByType_sublist type st).subset hd
  exact hfold _ st h d (List.mem_filter.2 ⟨hmem, by simpa using ht⟩) ⟨d, hd, rfl⟩

theorem OneOfType.sublist (h : OneOfType type st) (hl : st'.deviceList.Sublist st.deviceList) :
    OneOfType type st' :=
  fun d hd d' hd' => h d (hl.subset hd) d' (hl.subset hd')

/-- A node is changed in place without the others of its type: their slots tell them
apart. -/
theorem OneOfType.of_same (h : OneOfType type st) (hs : (st.deviceList.map Device.slot).Nodup)
    (hl : List.Forall₂ Device.Same st.deviceList st'.deviceList) : OneOfType type st' := by
  have hs' : (st'.deviceList.map Device.slot).Nodup := by rwa [map_eq_of_same (fun d d' hd => hd.slot) hl]
  intro d hd d' hd' ht ht'
  obtain ⟨e, he, hed⟩ := Lib.exists_mem_of_forall₂ hl hd
  obtain ⟨e', he', hed'⟩ := Lib.exists_mem_of_forall₂ hl hd'
  obtain rfl : e = e' := h e he e' he' (hed.type ▸ ht) (hed'.type ▸ ht')
  exact List.inj_on_of_nodup_map hs' hd hd' (hed.slot.trans hed'.slot.symm)

theorem OneOfType.reload (h : OneOfType type st) (hs : SlotInv st) : OneOfType type (reloaded st) := by
  intro r hr r' hr' ht ht'
  obtain ⟨d, hd, hdr⟩ := hs.of_reloaded hr
  obtain ⟨d', hd', hdr'⟩ := hs.of_reloaded hr'
  obtain rfl : d = d' := h d hd d' hd' (hdr.type ▸ ht) (hdr'.type ▸ ht')
  exact hs.reload.unique hr hr' (by rw [hdr.slot, hdr'.slot])

/-- Creating a device of another type, or the first of this one. -/
theorem OneOfType.create (h : OneOfType type st) {mallocOk : Bool} {rssiLevel newType : UInt8}
    {deviceId : UInt32} (hnew : newType = type → Listed deviceId st ∨ ∀ d ∈ st.deviceList, d.type ≠ type) :
    OneOfType type (aqDeviceCreate mallocOk rssiLevel newType deviceId st).2 := by
  generalize hr : aqDeviceCreate mallocOk rssiLevel newType deviceId st = r
  cases hr ▸ aqDeviceCreate_cases mallocOk rssiLevel newType deviceId st with
  | known => exact h
  | full => exact h
  | noMemory => exact h
  | added hnone hm slot =>
    intro d hd d' hd' ht ht'
    change d ∈ st.deviceList ++ [newDevice slot rssiLevel newType deviceId] at hd
    change d' ∈ st.deviceList ++ [newDevice slot rssiLevel newType deviceId] at hd'
    have hfirst : newType = type → ∀ d ∈ st.deviceList, d.type ≠ type := fun hn =>
      (hnew hn).resolve_left (aqDeviceFind_eq_none.1 hnone)
    simp only [List.mem_append, List.mem_singleton] at hd hd'
    rcases hd with hd | rfl <;> rcases hd' with hd' | rfl
    · exact h d hd d' hd' ht ht'
    · exact absurd ht (hfirst ht' d hd)
    · exact absurd ht' (hfirst ht d' hd')
    · rfl

end

end Aqualarm
