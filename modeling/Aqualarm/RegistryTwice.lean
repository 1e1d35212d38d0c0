import Aqualarm.RegistryRuns
import Aqualarm.Repeats

/-
  A request to add a device, met twice by the registry.

  What is proved:
    1. `timesListed_*` — how often an address is listed, operation by operation:
       replacing a device takes its address off the list once, and nothing but
       adding it puts one on.
    2. `enrolled_again_*` — the second request against the first, by what
       `aq_device_create` did the first time.
    3. `enrolled_agrees_iff` — when the second request changes nothing.

  The two requests differ in what they find: the first may add the source, and
  the second then replaces what the first added.
-/

namespace Aqualarm

open Lib (bit)

/-! A request to add, as a function of the registry. -/

/-- What marks the source as heard behind the learn part. -/
def RxFrame.marks (rx : RxFrame) : List RegOp :=
  if rx.deviceType = deviceTypeGateway then [.recvSet rx.sourceAddr 1] else heardOps rx

/-- The level a gateway is added with is always 0. -/
def RxFrame.addLevel (rx : RxFrame) : UInt8 :=
  if rx.deviceType = deviceTypeGateway then 0 else rx.rssiLevel

/-- The registry after a request to add the source: a source that was listed
before is marked as heard. -/
def RxFrame.enrolled (rx : RxFrame) (mallocOk : Bool) (st : Storage) : Storage :=
  let learned := (learnStorage mallocOk rx.addLevel rx.deviceType rx.sourceAddr st).2
  if Listed rx.sourceAddr st then rx.marks.foldl (fun st op => op.apply st) learned else learned

/-- The storage as the next event finds it. -/
def Storage.begin (ok : Nat → Bool) (st : Storage) : Storage := { st with writeOk := ok, writes := [] }

/-- The registry and what is stored of it. -/
structure Storage.Agrees (st st' : Storage) : Prop where
  deviceList : st'.deviceList = st.deviceList
  totalSlot : st'.totalSlot = st.totalSlot
  flash : st'.flash = st.flash

/-! How often an address is listed. -/

def timesListed (a : UInt32) (st : Storage) : Nat := st.deviceList.countP fun d => d.deviceId = a

section
variable {a b : UInt32} {st st' : Storage} {type : UInt8}

theorem timesListed_pos : 0 < timesListed a st ↔ Listed a st := by
  simp [timesListed, Listed, List.countP_pos_iff]

theorem timesListed_of_same (h : List.Forall₂ Device.Same st.deviceList st'.deviceList) :
    timesListed a st' = timesListed a st := by
  have hcount : ∀ l : List Device, (l.countP fun d => d.deviceId = a) = (l.map Device.deviceId).countP fun b => b = a := by
    intro l
    rw [List.countP_map]
    rfl
  unfold timesListed
  rw [hcount, hcount, map_eq_of_same (fun _ _ hd => hd.deviceId) h]

/-- A deletion takes the address off the list once, if it is there. -/
theorem timesListed_delete (a b : UInt32) (st : Storage) :
    timesListed a (aqDeviceDelete b st).2 = timesListed a st - if a = b then 1 else 0 := by
  obtain ⟨hnone, h⟩ | ⟨d, hd, h⟩ := aqDeviceDelete_cases b st
  · rw [h]
    by_cases hab : a = b
    · have hzero : timesListed a st = 0 := by
        have := mt timesListed_pos.1 (aqDeviceFind_eq_none.1 hnone)
        rw [hab]
        omega
      rw [hzero, Nat.zero_sub]
    · rw [if_neg hab, Nat.sub_zero]
  · have hid : d.deviceId = b := by simpa using List.find?_some hd
    obtain ⟨l₁, l₂, hl, herase⟩ := aqDeviceFind_split hd
    have hafter : (aqDeviceDelete b st).2.deviceList = l₁ ++ l₂ := by rw [h]; exact herase
    unfold timesListed
    rw [hafter, hl, List.countP_append, List.countP_append, List.countP_cons]
    by_cases hab : a = b
    · rw [if_pos hab, if_pos (by simpa [hid] using hab.symm)]
      omega
    · rw [if_neg hab, if_neg (by simpa [hid] using fun h => hab h.symm)]
      omega

theorem timesListed_foldl_delete (a : UInt32) (l : List Device) (st : Storage) :
    timesListed a (l.foldl (fun st d => (aqDeviceDelete d.deviceId st).2) st) ≤ timesListed a st := by
  induction l generalizing st with
  | nil => exact Nat.le_refl _
  | cons d l ih =>
    refine (ih _).trans ?_
    rw [timesListed_delete]
    exact Nat.sub_le _ _

/-- A device that is replaced is listed once less. -/
theorem timesListed_deleteByType {x : Device} (hx : x ∈ st.deviceList) (ht : x.type = type) :
    timesListed x.deviceId (deleteByType type st) < timesListed x.deviceId st := by
  have hfold : ∀ (l : List Device) (st : Storage), x ∈ l → 0 < timesListed x.deviceId st →
      timesListed x.deviceId (l.foldl (fun st d => (aqDeviceDelete d.deviceId st).2) st) <
        timesListed x.deviceId st := by
    intro l
    induction l with
    | nil => exact fun _ hmem => absurd hmem List.not_mem_nil
    | cons d l ih =>
      intro st hmem hpos
      have hdelete := timesListed_delete x.deviceId d.deviceId st
      have hrest := timesListed_foldl_delete x.deviceId l (aqDeviceDelete d.deviceId st).2
      rw [List.foldl_cons]
      by_cases hid : x.deviceId = d.deviceId
      · -- its own turn, or that of another device under its address
        rw [if_pos hid] at hdelete
        omega
      · rw [if_neg hid, Nat.sub_zero] at hdelete
        have hmem' : x ∈ l := (List.mem_cons.1 hmem).resolve_left fun h => hid (by rw [h])
        have := ih (aqDeviceDelete d.deviceId st).2 hmem' (by omega)
        omega
  exact hfold _ st (List.mem_filter.2 ⟨hx, by simpa using ht⟩) (timesListed_pos.2 ⟨x, hx, rfl⟩)

/-- Only an address that was not listed is put on the list, once. -/
theorem timesListed_create (mallocOk : Bool) (rssiLevel type : UInt8) :
    timesListed a (aqDeviceCreate mallocOk rssiLevel type b st).2 = timesListed a st ∨
      a = b ∧ timesListed a st = 0 ∧ timesListed a (aqDeviceCreate mallocOk rssiLevel type b st).2 = 1 := by
  generalize hr : aqDeviceCreate mallocOk rssiLevel type b st = r
  cases hr ▸ aqDeviceCreate_cases mallocOk rssiLevel type b st with
  | known | full | noMemory => exact Or.inl rfl
  | added hnone hm slot =>
    have hadded : timesListed a (aqDeviceSave (newDevice slot rssiLevel type b)
        (flashSetKey .slot (st.totalSlot ||| bit 32 slot)
          { st with
            totalSlot := st.totalSlot ||| bit 32 slot
            deviceList := st.deviceList ++ [newDevice slot rssiLevel type b] })) =
        timesListed a st + if b = a then 1 else 0 := by
      unfold timesListed
      change List.countP _ (st.deviceList ++ [newDevice slot rssiLevel type b]) = _
      rw [List.countP_append, List.countP_singleton]
      refine congrArg _ (if_congr ?_ rfl rfl)
      exact decide_eq_true_iff
    by_cases hab : a = b
    · have hzero : timesListed a st = 0 := by
        have := mt timesListed_pos.1 (aqDeviceFind_eq_none.1 hnone)
        rw [hab]
        omega
      refine Or.inr ⟨hab, hzero, ?_⟩
      rw [hadded, hzero, if_pos hab.symm]
    · refine Or.inl ?_
      rw [hadded, if_neg fun h => hab h.symm, Nat.add_zero]

end

/-! The marks. -/

section
variable (rx : RxFrame) {st : Storage}

theorem marks_of : ∀ op ∈ rx.marks, op.Of rx.sourceAddr := by
  unfold RxFrame.marks
  split
  · simp [RegOp.Of]
  · exact heardOps_of rx

theorem marks_settle : Settles rx.marks := by
  refine settles_of_assigned (marks_of rx) ?_
  unfold RxFrame.marks
  split <;> simp [heardOps, RegOp.assigned, RegOp.assignedAs, RegOp.onlyFirst]

theorem marks_deviceList : (rx.marks.foldl (fun st op => op.apply st) st).deviceList =
    chainedList rx.sourceAddr rx.marks st.deviceList :=
  after_deviceList (marks_of rx) st

/-- A list that was marked is not changed by the marks. -/
theorem marks_again {st' : Storage} (h : st'.deviceList = chainedList rx.sourceAddr rx.marks st.deviceList) :
    rx.marks.foldl (fun st op => op.apply st) st' = st' :=
  settled_after (marks_of rx) (marks_settle rx) h fun _ => id

/-- The node found is marked as heard. -/
theorem marks_recv {d : Device} (hd : d.deviceId = rx.sourceAddr) : (chained true rx.marks d).recv = 1 := by
  rw [chained_eq (marks_of rx), if_pos hd]
  unfold RxFrame.marks
  split <;> rfl

end

/-! Slots. -/

/-- There is a slot to take. -/
structure Free (totalSlot : BitVec 32) : Prop where
  bound : totalSlot.toNat ≤ 4095
  free : ∃ slot, slot < maxSlaverDevice ∧ totalSlot.getLsbD slot = false

theorem room_iff {type : UInt8} {st : Storage} : Room type st ↔ Free (replaceByType type st).totalSlot :=
  ⟨fun h => ⟨h.bound, h.free⟩, fun h => ⟨h.bound, h.free⟩⟩

/-- There are two slots to take. -/
structure TwoFree (totalSlot : BitVec 32) : Prop where
  bound : totalSlot.toNat ≤ 4095
  free : ∃ i j, i ≠ j ∧ i < maxSlaverDevice ∧ j < maxSlaverDevice ∧ totalSlot.getLsbD i = false ∧
    totalSlot.getLsbD j = false

theorem or_bit_le {totalSlot : BitVec 32} {slot : Nat} (h : totalSlot.toNat ≤ 4095) (hs : slot < maxSlaverDevice) :
    (totalSlot ||| bit 32 slot).toNat ≤ 4095 := by
  have hbits : (totalSlot ||| bit 32 slot).toNat < 2 ^ 12 := by
    refine Lib.toNat_lt_of_bits fun i hi => ?_
    rw [Lib.getLsbD_or_bit (Nat.lt_trans hs (by decide)), Bool.or_eq_true, decide_eq_true_eq] at hi
    rcases hi with hi | rfl
    · by_contra hge
      have hlt : totalSlot.toNat < 2 ^ 12 := by omega
      have hzero : totalSlot.toNat < 2 ^ i :=
        Nat.lt_of_lt_of_le hlt (Nat.pow_le_pow_right Nat.two_pos (Nat.not_lt.1 hge))
      rw [BitVec.getLsbD, Nat.testBit_lt_two_pow hzero] at hi
      cases hi
    · exact hs
  exact Nat.le_of_lt_succ hbits

/-- Once one slot is taken there is another exactly if there were two. -/
theorem free_or_bit {totalSlot : BitVec 32} {slot : Nat} (h : totalSlot.toNat ≤ 4095) (hs : slot < maxSlaverDevice)
    (hfree : totalSlot.getLsbD slot = false) : Free (totalSlot ||| bit 32 slot) ↔ TwoFree totalSlot := by
  have h32 : slot < 32 := Nat.lt_trans hs (by decide)
  have hbit : ∀ i, (totalSlot ||| bit 32 slot).getLsbD i = false ↔ totalSlot.getLsbD i = false ∧ i ≠ slot := by
    intro i
    rw [Lib.getLsbD_or_bit h32, Bool.or_eq_false_iff, decide_eq_false_iff_not, ne_comm]
  constructor
  · rintro ⟨_, i, hi, hf⟩
    obtain ⟨hf, hne⟩ := (hbit i).1 hf
    exact ⟨h, i, slot, hne, hi, hs, hf, hfree⟩
  · rintro ⟨_, i, j, hij, hi, hj, hfi, hfj⟩
    refine ⟨or_bit_le h hs, ?_⟩
    by_cases his : i = slot
    · exact ⟨j, hj, (hbit j).2 ⟨hfj, fun hjs => hij (his.trans hjs.symm)⟩⟩
    · exact ⟨i, hi, (hbit i).2 ⟨hfi, his⟩⟩

/-- `get_free_device_slot` looks at the bitmap only. -/
theorem getFreeDeviceSlot_congr {st st' : Storage} (h : st'.totalSlot = st.totalSlot) :
    (getFreeDeviceSlot st').1 = (getFreeDeviceSlot st).1 := by
  unfold getFreeDeviceSlot
  rw [h]
  cases (List.range maxSlaverDevice).find? fun index => st.totalSlot &&& bit 32 index = 0 <;> rfl

/-- `aq_device_create` for an address that is not listed. -/
theorem aqDeviceCreate_unlisted {mallocOk : Bool} {rssiLevel type : UInt8} {deviceId : UInt32} {st : Storage}
    (hn : ¬ Listed deviceId st) :
    ¬ Free st.totalSlot ∧ aqDeviceCreate mallocOk rssiLevel type deviceId st = (none, st) ∨
      ∃ slot, slot < maxSlaverDevice ∧ st.totalSlot.getLsbD slot = false ∧ st.totalSlot.toNat ≤ 4095 ∧
        (getFreeDeviceSlot st).1 = some slot ∧
        aqDeviceCreate mallocOk rssiLevel type deviceId st =
          if mallocOk then
            (some (newDevice slot rssiLevel type deviceId),
              aqDeviceSave (newDevice slot rssiLevel type deviceId)
                (flashSetKey .slot (st.totalSlot ||| bit 32 slot)
                  { st with
                    totalSlot := st.totalSlot ||| bit 32 slot
                    deviceList := st.deviceList ++ [newDevice slot rssiLevel type deviceId] }))
          else (none, { st with totalSlot := st.totalSlot ||| bit 32 slot }) := by
  have hfind := aqDeviceFind_eq_none.2 hn
  unfold aqDeviceCreate
  rw [hfind]
  dsimp only
  by_cases hbig : st.totalSlot.toNat > 4095
  · rw [if_pos hbig]
    exact Or.inl ⟨fun h => absurd h.bound (Nat.not_le.2 hbig), rfl⟩
  · rw [if_neg hbig]
    obtain ⟨hnone, hall⟩ | ⟨slot, hs, hfree, hsome⟩ := getFreeDeviceSlot_cases st
    · rw [hnone]
      refine Or.inl ⟨?_, rfl⟩
      rintro ⟨_, i, hi, hf⟩
      rw [hall i hi] at hf
      cases hf
    · rw [hsome]
      exact Or.inr ⟨slot, hs, hfree, Nat.not_lt.1 hbig, rfl, rfl⟩

/-! Replacing. -/

/-- None of the devices a request would replace is listed. -/
def NoneOf (type : UInt8) (st : Storage) : Prop :=
  type = deviceTypeGateway ∨ type = deviceTypeDoorunit → ∀ d ∈ st.deviceList, d.type ≠ type

section
variable {type : UInt8} {st : Storage}

theorem replaceByType_noneOf (h : NoneOf type st) : replaceByType type st = st := by
  unfold replaceByType
  split
  · rename_i ht
    have hfilter : (st.deviceList.filter fun d => d.type = type) = [] :=
      List.filter_eq_nil_iff.2 fun d hd => by simpa using h ht d hd
    rw [deleteByType, hfilter, List.foldl_nil]
  · rfl

theorem NoneOf.of_same {st' : Storage} (h : NoneOf type st)
    (hl : List.Forall₂ Device.Same st.deviceList st'.deviceList) : NoneOf type st' := by
  intro ht d hd
  obtain ⟨d₀, hd₀, hsame⟩ := Lib.exists_mem_of_forall₂ hl hd
  rw [hsame.type]
  exact h ht d₀ hd₀

theorem listed_of_replaced {a : UInt32} (h : Listed a (replaceByType type st)) : Listed a st := by
  obtain ⟨d, hd, hid⟩ := h
  exact ⟨d, (replaceByType_sublist type st).subset hd, hid⟩

end

/-! The second request. -/

section
variable {rx : RxFrame} {mallocOk : Bool} {ok : Nat → Bool} {st : Storage}

theorem learnStorage_of_noneOf {rssiLevel type : UInt8} {deviceId : UInt32} (h : NoneOf type st) :
    learnStorage mallocOk rssiLevel type deviceId st = aqDeviceCreate mallocOk rssiLevel type deviceId st := by
  rw [learnStorage, replaceByType_noneOf h]

theorem aqDeviceCreate_listed {rssiLevel type : UInt8} {deviceId : UInt32} (h : Listed deviceId st) :
    (aqDeviceCreate mallocOk rssiLevel type deviceId st).2 = st := by
  obtain ⟨d, hd⟩ := Option.isSome_iff_exists.1 (aqDeviceFind_isSome.2 h)
  rw [aqDeviceCreate, hd]

/-- The source stays listed when those it replaces are gone: the second request
finds it, and nothing to replace. -/
theorem enrolled_again_known (hk : Listed rx.sourceAddr (replaceByType rx.deviceType st))
    (hnone : NoneOf rx.deviceType (replaceByType rx.deviceType st)) :
    (rx.enrolled mallocOk st).Agrees (rx.enrolled mallocOk ((rx.enrolled mallocOk st).begin ok)) := by
  have hfirst : rx.enrolled mallocOk st =
      rx.marks.foldl (fun st op => op.apply st) (replaceByType rx.deviceType st) := by
    rw [RxFrame.enrolled, if_pos (listed_of_replaced hk), learnStorage, aqDeviceCreate_listed hk]
  rw [hfirst]
  generalize hst₁ : rx.marks.foldl (fun st op => op.apply st) (replaceByType rx.deviceType st) = st₁
  have hlist : (st₁.begin ok).deviceList =
      chainedList rx.sourceAddr rx.marks (replaceByType rx.deviceType st).deviceList := by
    rw [← hst₁]
    exact marks_deviceList rx
  have hsame : List.Forall₂ Device.Same (replaceByType rx.deviceType st).deviceList (st₁.begin ok).deviceList :=
    hlist ▸ chainedList_same rx.sourceAddr rx.marks _
  have hlisted : Listed rx.sourceAddr (st₁.begin ok) := (listed_of_same hsame).2 hk
  have hsecond : rx.enrolled mallocOk (st₁.begin ok) = st₁.begin ok := by
    rw [RxFrame.enrolled, if_pos hlisted, learnStorage_of_noneOf (hnone.of_same hsame), aqDeviceCreate_listed hlisted]
    exact marks_again rx hlist
  rw [hsecond]
  exact ⟨rfl, rfl, rfl⟩

/-- A source that is not added is not marked either. -/
theorem enrolled_refused {st' : Storage}
    (hlearn : (learnStorage mallocOk rx.addLevel rx.deviceType rx.sourceAddr st).2 = st')
    (hu : ¬ Listed rx.sourceAddr st') : rx.enrolled mallocOk st = st' := by
  unfold RxFrame.enrolled
  dsimp only
  rw [hlearn, after_unlisted (marks_of rx) hu, ite_self]

/-- There is no slot for the source: nor is there one the second time. -/
theorem enrolled_again_full (hu : ¬ Listed rx.sourceAddr (replaceByType rx.deviceType st))
    (hnone : NoneOf rx.deviceType (replaceByType rx.deviceType st))
    (hfull : ¬ Free (replaceByType rx.deviceType st).totalSlot) :
    (rx.enrolled mallocOk st).Agrees (rx.enrolled mallocOk ((rx.enrolled mallocOk st).begin ok)) := by
  have hrefused : ∀ st', ¬ Listed rx.sourceAddr st' → ¬ Free st'.totalSlot →
      (aqDeviceCreate mallocOk rx.addLevel rx.deviceType rx.sourceAddr st').2 = st' := by
    intro st' hn hf
    obtain ⟨_, h⟩ | ⟨slot, hs, hfree, hle, _⟩ :=
      @aqDeviceCreate_unlisted mallocOk rx.addLevel rx.deviceType rx.sourceAddr st' hn
    · rw [h]
    · exact absurd ⟨hle, slot, hs, hfree⟩ hf
  have hfirst : rx.enrolled mallocOk st = replaceByType rx.deviceType st :=
    enrolled_refused (hrefused _ hu hfull) hu
  rw [hfirst]
  generalize replaceByType rx.deviceType st = st₁ at hu hnone hfull
  have hsecond : rx.enrolled mallocOk (st₁.begin ok) = st₁.begin ok := by
    refine enrolled_refused ?_ hu
    rw [learnStorage_of_noneOf (show NoneOf rx.deviceType (st₁.begin ok) from hnone)]
    exact hrefused _ hu hfull
  rw [hsecond]
  exact ⟨rfl, rfl, rfl⟩

/-- Without memory for the device the slot is taken all the same: the second
request takes another if there is one. -/
theorem enrolled_again_noMemory (hu : ¬ Listed rx.sourceAddr (replaceByType rx.deviceType st))
    (hnone : NoneOf rx.deviceType (replaceByType rx.deviceType st))
    (hfree : Free (replaceByType rx.deviceType st).totalSlot) :
    (rx.enrolled false st).Agrees (rx.enrolled false ((rx.enrolled false st).begin ok)) ↔
      ¬ TwoFree (replaceByType rx.deviceType st).totalSlot := by
  obtain ⟨hnot, _⟩ | ⟨slot, hs, hslot, hle, _, hcreate⟩ :=
    @aqDeviceCreate_unlisted false rx.addLevel rx.deviceType rx.sourceAddr _ hu
  · exact absurd hfree hnot
  have hfirst : rx.enrolled false st =
      { replaceByType rx.deviceType st with
        totalSlot := (replaceByType rx.deviceType st).totalSlot ||| bit 32 slot } := by
    refine enrolled_refused ?_ hu
    rw [learnStorage, hcreate]
    rfl
  rw [hfirst, ← free_or_bit hle hs hslot]
  generalize replaceByType rx.deviceType st = st₁ at hu hnone
  -- the registry the second request finds, with the slot taken
  generalize hst₂ : ({ st₁ with totalSlot := st₁.totalSlot ||| bit 32 slot } : Storage) = st₂
  have htotal : st₁.totalSlot ||| bit 32 slot = st₂.totalSlot := by rw [← hst₂]
  have hu₂ : ¬ Listed rx.sourceAddr st₂ := by rwa [← hst₂]
  have hnone₂ : NoneOf rx.deviceType (st₂.begin ok) := by rwa [← hst₂]
  rw [htotal]
  obtain ⟨hnot, hagain⟩ | ⟨slot', hs', hslot', hle', _, hagain⟩ :=
    @aqDeviceCreate_unlisted false rx.addLevel rx.deviceType rx.sourceAddr (st₂.begin ok) hu₂
  · have hsecond : rx.enrolled false (st₂.begin ok) = st₂.begin ok :=
      enrolled_refused (by rw [learnStorage_of_noneOf hnone₂, hagain]) hu₂
    rw [hsecond]
    exact iff_of_true ⟨rfl, rfl, rfl⟩ hnot
  · refine iff_of_false (fun h => ?_) fun h => h ⟨hle', slot', hs', hslot'⟩
    have hsecond : rx.enrolled false (st₂.begin ok) =
        { st₂.begin ok with totalSlot := st₂.totalSlot ||| bit 32 slot' } := by
      refine enrolled_refused ?_ hu₂
      rw [learnStorage_of_noneOf hnone₂, hagain]
      rfl
    have hbit : (st₂.totalSlot ||| bit 32 slot').getLsbD slot' = false := by
      have htaken := h.totalSlot
      rw [hsecond] at htaken
      rw [show st₂.totalSlot ||| bit 32 slot' = st₂.totalSlot from htaken]
      exact hslot'
    rw [Lib.getLsbD_or_bit (Nat.lt_trans hs' (by decide)), Bool.or_eq_false_iff] at hbit
    simp at hbit

end

/-! Replacing one device. -/

/-- A write, if it succeeds. -/
def storeIf (ok : Bool) (w : FlashWrite) (flash : Flash) : Flash := if ok then flash.put w else flash

/-- What replacing one device by `device` stores: the bitmap without its slot,
the bitmap with it, the record. -/
def replacedFlash (ok : Nat → Bool) (totalSlot : BitVec 32) (device : Device) (flash : Flash) : Flash :=
  storeIf (ok 2) (.index device.slot device)
    (storeIf (ok 1) (.key .slot (Lib.printInt (totalSlot ||| bit 32 device.slot).toInt))
      (storeIf (ok 0) (.key .slot (Lib.printInt totalSlot.toInt)) flash))

section
variable (ok : Nat → Bool) (totalSlot : BitVec 32) (device : Device) (flash : Flash)

/-- Whichever of the three writes fail, the same three fail again. -/
theorem replacedFlash_again :
    replacedFlash ok totalSlot device (replacedFlash ok totalSlot device flash) =
      replacedFlash ok totalSlot device flash := by
  unfold replacedFlash
  cases ok 0 <;> cases ok 1 <;> cases ok 2 <;> simp [storeIf, Flash.put]

variable {ok totalSlot device flash} in
theorem replacedFlash_stored (hok : ∀ n, ok n = true)
    (hkey : flash.key .slot = some (Lib.printInt (totalSlot ||| bit 32 device.slot).toInt))
    (hrecord : flash.index device.slot = some device) : replacedFlash ok totalSlot device flash = flash := by
  unfold replacedFlash storeIf
  generalize Lib.printInt (totalSlot ||| bit 32 device.slot).toInt = text at hkey ⊢
  simp [hok, Flash.put, ← hkey, ← hrecord]

end

section
variable {type rssiLevel : UInt8} {a : UInt32} {st : Storage}

/-- What `aq_device_create` leaves when it adds the device. -/
theorem learnStorage_added (hu : ¬ Listed a (replaceByType type st)) (hfree : Free (replaceByType type st).totalSlot) :
    ∃ slot, slot < maxSlaverDevice ∧ (replaceByType type st).totalSlot.getLsbD slot = false ∧
      (getFreeDeviceSlot (replaceByType type st)).1 = some slot ∧
      (learnStorage true rssiLevel type a st).2 =
        aqDeviceSave (newDevice slot rssiLevel type a)
          (flashSetKey .slot ((replaceByType type st).totalSlot ||| bit 32 slot)
            { replaceByType type st with
              totalSlot := (replaceByType type st).totalSlot ||| bit 32 slot
              deviceList := (replaceByType type st).deviceList ++ [newDevice slot rssiLevel type a] }) := by
  obtain ⟨hnot, _⟩ | ⟨slot, hs, hslot, _, hget, hcreate⟩ := @aqDeviceCreate_unlisted true rssiLevel type a _ hu
  · exact absurd hfree hnot
  · refine ⟨slot, hs, hslot, hget, ?_⟩
    rw [learnStorage, hcreate]
    rfl

/-- The only device of the type, deleted. -/
theorem replaceByType_one {x : Device} (ht : type = deviceTypeGateway ∨ type = deviceTypeDoorunit)
    (hone : (st.deviceList.filter fun d => d.type = type) = [x]) :
    replaceByType type st = (aqDeviceDelete x.deviceId st).2 := by
  rw [replaceByType, if_pos ht, deleteByType, hone]
  rfl

/-- One device replaced: the three writes. -/
theorem learnStorage_replacedOne {x : Device} (ht : type = deviceTypeGateway ∨ type = deviceTypeDoorunit)
    (hone : (st.deviceList.filter fun d => d.type = type) = [x]) (hw : st.writes = []) {slot : Nat}
    (hadded : (learnStorage true rssiLevel type a st).2 =
      aqDeviceSave (newDevice slot rssiLevel type a)
        (flashSetKey .slot ((replaceByType type st).totalSlot ||| bit 32 slot)
          { replaceByType type st with
            totalSlot := (replaceByType type st).totalSlot ||| bit 32 slot
            deviceList := (replaceByType type st).deviceList ++ [newDevice slot rssiLevel type a] })) :
    (learnStorage true rssiLevel type a st).2.flash =
      replacedFlash st.writeOk (replaceByType type st).totalSlot (newDevice slot rssiLevel type a) st.flash := by
  have hx : x ∈ st.deviceList := (List.mem_filter.1 (hone ▸ List.mem_singleton.2 rfl)).1
  obtain ⟨hnone, _⟩ | ⟨d, _, hdelete⟩ := aqDeviceDelete_cases x.deviceId st
  · exact absurd ⟨x, hx, rfl⟩ (aqDeviceFind_eq_none.1 hnone)
  · have hreplaced := (replaceByType_one ht hone).trans (congrArg Prod.snd hdelete)
    have hwrites : (replaceByType type st).writes.length = 1 := by
      rw [hreplaced, flashSetKey, efSetEnvBlob_writes, hw]
      rfl
    have hwriteOk : (replaceByType type st).writeOk = st.writeOk := by rw [hreplaced, flashSetKey_writeOk]
    have hflash : (replaceByType type st).flash =
        storeIf (st.writeOk 0) (.key .slot (Lib.printInt (replaceByType type st).totalSlot.toInt)) st.flash := by
      rw [hreplaced, flashSetKey, efSetEnvBlob]
      dsimp only
      rw [hw]
      rfl
    rw [hadded, replacedFlash, ← hflash]
    unfold aqDeviceSave flashSetKey efSetEnvBlob storeIf
    simp only [hwrites, hwriteOk, List.length_append, List.length_singleton]
    rfl

/-- All writes succeed: the bitmap and the record are there. -/
theorem added_stored {slot : Nat} {value : BitVec 32} {st' : Storage} (hok : ∀ n, st.writeOk n = true)
    (hadded : (learnStorage true rssiLevel type a st).2 =
      aqDeviceSave (newDevice slot rssiLevel type a) (flashSetKey .slot value st'))
    (hwriteOk : st'.writeOk = st.writeOk) :
    (learnStorage true rssiLevel type a st).2.flash.key .slot = some (Lib.printInt value.toInt) ∧
      (learnStorage true rssiLevel type a st).2.flash.index slot = some (newDevice slot rssiLevel type a) := by
  have hok' : ∀ n, st'.writeOk n = true := fun n => by rw [hwriteOk]; exact hok n
  have hkey : (flashSetKey .slot value st').flash = st'.flash.put (.key .slot (Lib.printInt value.toInt)) :=
    efSetEnvBlob_flash (hok' _)
  have hrecord : ∀ d : Device, (aqDeviceSave d (flashSetKey .slot value st')).flash =
      (flashSetKey .slot value st').flash.put (.index d.slot d) :=
    fun d => efSetEnvBlob_flash (hok' _)
  rw [hadded, hrecord, hkey]
  simp only [Flash.put, newDevice, Function.update_self, and_self]

end

section
variable {rx : RxFrame} {st : Storage}

/-- A device just added has nothing to be marked with but that it is heard. -/
theorem marks_new {l : List Device} {d : Device} (hl : st.deviceList = l ++ [d])
    (hnotin : ∀ d ∈ l, d.deviceId ≠ rx.sourceAddr) (hid : d.deviceId = rx.sourceAddr) (hon : d.online = 1)
    (hlevel : d.rssiLevel = rx.addLevel) :
    rx.marks.foldl (fun st op => op.apply st) st = { st with deviceList := l ++ [{ d with recv := 1 }] } := by
  have hrest : ∀ x ∈ l, ¬ decide (x.deviceId = rx.sourceAddr) = true := fun x hx hc =>
    hnotin x hx (of_decide_eq_true hc)
  unfold RxFrame.marks
  by_cases ht : rx.deviceType = deviceTypeGateway
  · rw [if_pos ht]
    simp only [List.foldl_cons, List.foldl_nil, RegOp.apply, aqDeviceRecvSet, updateDevice]
    rw [hl, List.map_append, map_of_fixed fun x hx => if_neg (hnotin x hx), List.map_singleton, if_pos hid]
  · rw [if_neg ht]
    have hlevel : d.rssiLevel = rx.rssiLevel := hlevel.trans (if_neg ht)
    have hheard : (RegOp.recvWrite rx.sourceAddr 1).apply st = { st with deviceList := l ++ [{ d with recv := 1 }] } := by
      simp only [RegOp.apply, deviceRecvWrite, updateFirst]
      rw [hl, Lib.mapFirst_append hrest, List.map_id, Lib.mapFirst, if_pos (decide_eq_true hid), List.map_nil]
    rw [heardOps, List.foldl_cons, hheard]
    refine after_of_fixed fun op hop => ?_
    have hof : op.Of rx.sourceAddr := by
      rcases List.mem_pair.1 hop with rfl | rfl <;> rfl
    have hfixed : ∀ x ∈ l ++ [{ d with recv := 1 }], op.change x = x := by
      intro x hx
      rw [hof.change]
      rcases List.mem_append.1 hx with hx | hx
      · exact if_neg (hnotin x hx)
      · obtain rfl := List.mem_singleton.1 hx
        rw [if_pos hid]
        rcases List.mem_pair.1 hop with rfl | rfl
        · rw [RegOp.assigned, ← hon]
        · rw [RegOp.assigned, ← hlevel]
    exact hof.apply_of_fixed (fun x hx => hfixed x (List.mem_of_find?_eq_some hx)) fun _ => hfixed

/-- The device a request adds. -/
def RxFrame.added (rx : RxFrame) (slot : Nat) : Device := newDevice slot rx.addLevel rx.deviceType rx.sourceAddr

/-- What a request leaves that replaces devices, the source among them, by the
source in `slot`. -/
structure Readded (rx : RxFrame) (st : Storage) (slot : Nat) (st' : Storage) : Prop where
  below : slot < maxSlaverDevice
  free : (replaceByType rx.deviceType st).totalSlot.getLsbD slot = false
  got : (getFreeDeviceSlot (replaceByType rx.deviceType st)).1 = some slot
  deviceList : st'.deviceList = (replaceByType rx.deviceType st).deviceList ++ [{ rx.added slot with recv := 1 }]
  totalSlot : st'.totalSlot = (replaceByType rx.deviceType st).totalSlot ||| bit 32 slot
  replacedOne : ∀ x, (st.deviceList.filter fun d => d.type = rx.deviceType) = [x] → st.writes = [] →
    st'.flash = replacedFlash st.writeOk (replaceByType rx.deviceType st).totalSlot (rx.added slot) st.flash
  stored : (∀ n, st.writeOk n = true) →
    st'.flash.key .slot =
        some (Lib.printInt ((replaceByType rx.deviceType st).totalSlot ||| bit 32 slot).toInt) ∧
      st'.flash.index slot = some (rx.added slot)

/-- What is replaced is of a type of which there is one. -/
theorem replaces_of_listed (hl : Listed rx.sourceAddr st) (hu : ¬ Listed rx.sourceAddr (replaceByType rx.deviceType st)) :
    rx.deviceType = deviceTypeGateway ∨ rx.deviceType = deviceTypeDoorunit := by
  by_contra hne
  rw [replaceByType, if_neg hne] at hu
  exact hu hl

theorem enrolled_readded (hl : Listed rx.sourceAddr st)
    (hu : ¬ Listed rx.sourceAddr (replaceByType rx.deviceType st))
    (hfree : Free (replaceByType rx.deviceType st).totalSlot) : ∃ slot, Readded rx st slot (rx.enrolled true st) := by
  have ht := replaces_of_listed hl hu
  obtain ⟨slot, hs, hslot, hget, hadded⟩ := @learnStorage_added _ rx.addLevel _ _ hu hfree
  have hnotin : ∀ d ∈ (replaceByType rx.deviceType st).deviceList, d.deviceId ≠ rx.sourceAddr :=
    fun d hd hid => hu ⟨d, hd, hid⟩
  have hlist : (learnStorage true rx.addLevel rx.deviceType rx.sourceAddr st).2.deviceList =
      (replaceByType rx.deviceType st).deviceList ++ [rx.added slot] := by
    rw [hadded]
    rfl
  have hmarked : rx.enrolled true st =
      { (learnStorage true rx.addLevel rx.deviceType rx.sourceAddr st).2 with
        deviceList := (replaceByType rx.deviceType st).deviceList ++ [{ rx.added slot with recv := 1 }] } := by
    rw [RxFrame.enrolled, if_pos hl]
    exact marks_new hlist hnotin rfl rfl rfl
  refine ⟨slot, hs, hslot, hget, ?_, ?_, fun x hx hw => ?_, fun hok => ?_⟩
  · rw [hmarked]
  · rw [hmarked, hadded]
    rfl
  · rw [hmarked]
    exact learnStorage_replacedOne ht hx hw hadded
  · rw [hmarked]
    exact added_stored hok hadded (replaceByType_writeOk _ st)

/-- Replaced again, nothing but what was added goes. -/
theorem replaced_again {slot : Nat} {st' : Storage} (hs : slot < maxSlaverDevice)
    (hfree : (replaceByType rx.deviceType st).totalSlot.getLsbD slot = false)
    (hlist : st'.deviceList = (replaceByType rx.deviceType st).deviceList ++ [{ rx.added slot with recv := 1 }])
    (htotal : st'.totalSlot = (replaceByType rx.deviceType st).totalSlot ||| bit 32 slot)
    (ht : rx.deviceType = deviceTypeGateway ∨ rx.deviceType = deviceTypeDoorunit)
    (hu : ¬ Listed rx.sourceAddr (replaceByType rx.deviceType st))
    (hnone : NoneOf rx.deviceType (replaceByType rx.deviceType st)) :
    (st'.deviceList.filter fun d => d.type = rx.deviceType) = [{ rx.added slot with recv := 1 }] ∧
      (replaceByType rx.deviceType st').deviceList = (replaceByType rx.deviceType st).deviceList ∧
      (replaceByType rx.deviceType st').totalSlot = (replaceByType rx.deviceType st).totalSlot := by
  have hnotin : ∀ d ∈ (replaceByType rx.deviceType st).deviceList, d.deviceId ≠ rx.sourceAddr :=
    fun d hd hid => hu ⟨d, hd, hid⟩
  have hone : (st'.deviceList.filter fun d => d.type = rx.deviceType) = [{ rx.added slot with recv := 1 }] := by
    have hold : ((replaceByType rx.deviceType st).deviceList.filter fun d => d.type = rx.deviceType) = [] :=
      List.filter_eq_nil_iff.2 fun d hd => by simpa using hnone ht d hd
    rw [hlist, List.filter_append, hold, List.nil_append]
    exact List.filter_cons_of_pos (decide_eq_true rfl)
  have hmem : { rx.added slot with recv := 1 } ∈ st'.deviceList :=
    (List.mem_filter.1 (hone ▸ List.mem_singleton.2 rfl)).1
  have hdeleted : replaceByType rx.deviceType st' = (aqDeviceDelete rx.sourceAddr st').2 := replaceByType_one ht hone
  refine ⟨hone, ?_⟩
  rw [hdeleted]
  obtain ⟨hnot, _⟩ | ⟨d, hd, hdelete⟩ := aqDeviceDelete_cases rx.sourceAddr st'
  · exact absurd ⟨_, hmem, rfl⟩ (aqDeviceFind_eq_none.1 hnot)
  · have hid : d.deviceId = rx.sourceAddr := by simpa using List.find?_some hd
    have hd' := List.mem_of_find?_eq_some hd
    rw [hlist, List.mem_append, List.mem_singleton] at hd'
    obtain rfl := hd'.resolve_left fun hd => hnotin d hd hid
    rw [hdelete]
    constructor
    · change st'.deviceList.eraseP _ = _
      rw [hlist, List.eraseP_append_right _ fun d hd => by simpa using hnotin d hd,
        List.eraseP_cons_of_pos (by simpa using hid), List.append_nil]
    · change st'.totalSlot &&& ~~~(bit 32 slot) = _
      rw [htotal]
      refine BitVec.eq_of_getLsbD_eq fun i _ => ?_
      rw [Lib.getLsbD_and_not_bit (Nat.lt_trans hs (by decide)), Lib.getLsbD_or_bit (Nat.lt_trans hs (by decide))]
      by_cases hi : slot = i
      · rw [← hi, hfree]
        simp
      · simp [hi]

/-- The source itself is replaced, and so again: it is the same device in the
same slot. The flash is as it was if one device was replaced, or if no write
fails. -/
theorem enrolled_again_replaced (hl : Listed rx.sourceAddr st)
    (hu : ¬ Listed rx.sourceAddr (replaceByType rx.deviceType st))
    (hnone : NoneOf rx.deviceType (replaceByType rx.deviceType st))
    (hfree : Free (replaceByType rx.deviceType st).totalSlot) (hw : st.writes = [])
    (hstore : (st.deviceList.filter fun d => d.type = rx.deviceType).length ≤ 1 ∨ ∀ n, st.writeOk n = true) :
    (rx.enrolled true st).Agrees (rx.enrolled true ((rx.enrolled true st).begin st.writeOk)) := by
  have ht := replaces_of_listed hl hu
  obtain ⟨slot, hfirst⟩ := enrolled_readded hl hu hfree
  generalize rx.enrolled true st = st₁ at hfirst
  -- the second request finds what the first added, and none other to replace
  obtain ⟨hone, hlist, htotal⟩ := @replaced_again rx st slot (st₁.begin st.writeOk) hfirst.below hfirst.free
    hfirst.deviceList hfirst.totalSlot ht hu hnone
  have hl₁ : Listed rx.sourceAddr (st₁.begin st.writeOk) :=
    ⟨{ rx.added slot with recv := 1 }, (List.mem_filter.1 (hone ▸ List.mem_singleton.2 rfl)).1, rfl⟩
  have hu₁ : ¬ Listed rx.sourceAddr (replaceByType rx.deviceType (st₁.begin st.writeOk)) := by
    unfold Listed
    rwa [hlist]
  obtain ⟨slot₁, hsecond⟩ := enrolled_readded hl₁ hu₁ (htotal ▸ hfree)
  obtain rfl : slot = slot₁ := by
    have hgot := hsecond.got
    rw [getFreeDeviceSlot_congr htotal, hfirst.got] at hgot
    exact Option.some.inj hgot
  generalize rx.enrolled true (st₁.begin st.writeOk) = st₂ at hsecond
  refine ⟨?_, ?_, ?_⟩
  · rw [hsecond.deviceList, hlist, hfirst.deviceList]
  · rw [hsecond.totalSlot, htotal, hfirst.totalSlot]
  · have hflash := hsecond.replacedOne _ hone rfl
    rw [htotal] at hflash
    rw [hflash]
    change replacedFlash st.writeOk _ _ st₁.flash = st₁.flash
    rcases hstore with hlen | hok
    · obtain ⟨x, hx⟩ : ∃ x, (st.deviceList.filter fun d => d.type = rx.deviceType) = [x] := by
        refine List.length_eq_one_iff.1 (Nat.le_antisymm hlen (Nat.pos_of_ne_zero fun hzero => ?_))
        have hnoneOf : replaceByType rx.deviceType st = st := by
          rw [replaceByType, if_pos ht, deleteByType, List.length_eq_zero_iff.1 hzero, List.foldl_nil]
        rw [hnoneOf] at hu
        exact hu hl
      rw [hfirst.replacedOne x hx hw, replacedFlash_again]
    · obtain ⟨hkey, hrecord⟩ := hfirst.stored hok
      exact replacedFlash_stored hok hkey hrecord

end

/-! Requests that act again. -/

section
variable {rx : RxFrame} {mallocOk : Bool} {ok : Nat → Bool} {st : Storage}

/-- A stranger is added unmarked, and marked the second time. -/
theorem enrolled_again_stranger (hu : ¬ Listed rx.sourceAddr st) (hfree : Free (replaceByType rx.deviceType st).totalSlot) :
    (rx.enrolled true ((rx.enrolled true st).begin ok)).deviceList ≠ (rx.enrolled true st).deviceList := by
  have hu' : ¬ Listed rx.sourceAddr (replaceByType rx.deviceType st) := fun h => hu (listed_of_replaced h)
  obtain ⟨slot, _, _, _, hadded⟩ := @learnStorage_added _ rx.addLevel _ _ hu' hfree
  have hlist : (rx.enrolled true st).deviceList = (replaceByType rx.deviceType st).deviceList ++ [rx.added slot] := by
    rw [RxFrame.enrolled, if_neg hu, hadded]
    rfl
  have hfound : aqDeviceFind rx.sourceAddr (rx.enrolled true st) = some (rx.added slot) := by
    rw [aqDeviceFind, hlist, List.find?_append, ← aqDeviceFind, aqDeviceFind_eq_none.2 hu', Option.none_or]
    exact List.find?_cons_of_pos (decide_eq_true rfl)
  generalize rx.enrolled true st = st₁ at hfound
  have hl : Listed rx.sourceAddr (st₁.begin ok) := aqDeviceFind_isSome.1 (by
    rw [show aqDeviceFind rx.sourceAddr (st₁.begin ok) = _ from hfound]
    rfl)
  intro h
  rw [RxFrame.enrolled, if_pos hl, marks_deviceList] at h
  -- the first entry of the source is marked now, and the new one was not
  rw [aqDeviceFind, ← h, chainedList_find] at hfound
  obtain ⟨d, hd, hadded⟩ := Option.map_eq_some_iff.1 hfound
  have hrecv := marks_recv rx (d := d) (by simpa using List.find?_some hd)
  rw [hadded] at hrecv
  exact absurd hrecv (by decide : (0 : UInt8) ≠ 1)

theorem timesListed_enrolled (a : UInt32) (mallocOk : Bool) (st : Storage) :
    timesListed a (rx.enrolled mallocOk st) =
      timesListed a (learnStorage mallocOk rx.addLevel rx.deviceType rx.sourceAddr st).2 := by
  unfold RxFrame.enrolled
  split
  · refine timesListed_of_same ?_
    rw [marks_deviceList]
    exact chainedList_same ..
  · rfl

/-- A device that should be replaced and is left over: its address was listed
twice. -/
def LeftOver (rx : RxFrame) (st : Storage) (x : Device) : Prop :=
  (rx.deviceType = deviceTypeGateway ∨ rx.deviceType = deviceTypeDoorunit) ∧
    x ∈ (replaceByType rx.deviceType st).deviceList ∧ x.type = rx.deviceType

/-- It is replaced the second time, unless it is the source's only entry. -/
theorem enrolled_again_leftOver {x : Device} (hx : LeftOver rx st x)
    (hother : x.deviceId ≠ rx.sourceAddr ∨ 2 ≤ timesListed rx.sourceAddr (replaceByType rx.deviceType st)) :
    (rx.enrolled mallocOk ((rx.enrolled mallocOk st).begin ok)).deviceList ≠ (rx.enrolled mallocOk st).deviceList := by
  obtain ⟨ht, hmem, htype⟩ := hx
  -- it is still there for the second request
  obtain ⟨y, hy, hid, hytype⟩ : ∃ y ∈ ((rx.enrolled mallocOk st).begin ok).deviceList,
      y.deviceId = x.deviceId ∧ y.type = rx.deviceType := by
    have hkept : x ∈ (learnStorage mallocOk rx.addLevel rx.deviceType rx.sourceAddr st).2.deviceList := by
      rw [learnStorage]
      generalize hr : aqDeviceCreate mallocOk rx.addLevel rx.deviceType rx.sourceAddr _ = r
      cases hr ▸ aqDeviceCreate_cases mallocOk rx.addLevel rx.deviceType rx.sourceAddr _ with
      | known | full | noMemory => exact hmem
      | added => exact List.mem_append_left _ hmem
    change ∃ y ∈ (rx.enrolled mallocOk st).deviceList, _
    unfold RxFrame.enrolled
    split
    · rw [marks_deviceList]
      obtain ⟨y, hy, hsame⟩ := Lib.exists_mem_of_forall₂_left (chainedList_same rx.sourceAddr rx.marks _) hkept
      exact ⟨y, hy, hsame.deviceId, hsame.type.trans htype⟩
    · exact ⟨x, hkept, rfl, htype⟩
  have hfirst : timesListed x.deviceId ((rx.enrolled mallocOk st).begin ok) =
      timesListed x.deviceId (aqDeviceCreate mallocOk rx.addLevel rx.deviceType rx.sourceAddr
        (replaceByType rx.deviceType st)).2 := timesListed_enrolled _ _ _
  intro h
  change _ = ((rx.enrolled mallocOk st).begin ok).deviceList at h
  generalize (rx.enrolled mallocOk st).begin ok = st₁ at hy hfirst h
  have hsecond : timesListed x.deviceId st₁ =
      timesListed x.deviceId (aqDeviceCreate mallocOk rx.addLevel rx.deviceType rx.sourceAddr
        (replaceByType rx.deviceType st₁)).2 := by
    have hcount := @timesListed_enrolled rx x.deviceId mallocOk st₁
    rw [timesListed, h] at hcount
    exact hcount
  have hless : timesListed x.deviceId (replaceByType rx.deviceType st₁) < timesListed x.deviceId st₁ := by
    rw [replaceByType, if_pos ht, ← hid]
    exact timesListed_deleteByType hy hytype
  rcases @timesListed_create x.deviceId rx.sourceAddr (replaceByType rx.deviceType st₁) mallocOk rx.addLevel
    rx.deviceType with hsame | ⟨hsource, _, hone⟩
  · omega
  · -- put back once, but it was there twice
    have htwice := hother.resolve_left fun hne => hne hsource
    rw [← hsource] at htwice
    rcases @timesListed_create x.deviceId rx.sourceAddr (replaceByType rx.deviceType st) mallocOk rx.addLevel
      rx.deviceType with hkept | ⟨_, hzero, _⟩
    · omega
    · omega

end

/-! The two requests compared. -/

/-- The second request changes the registry again. -/
inductive RxFrame.AddsTwice (rx : RxFrame) (mallocOk : Bool) (st : Storage) : Prop
  /-- A stranger is added, and heard only the second time. -/
  | stranger (hu : ¬ Listed rx.sourceAddr st) (hm : mallocOk = true) (hroom : Room rx.deviceType st)
  /-- There is no memory for the device, and a slot is lost each time. -/
  | noMemory (hu : ¬ Listed rx.sourceAddr (replaceByType rx.deviceType st)) (hm : mallocOk = false)
      (htwo : TwoFree (replaceByType rx.deviceType st).totalSlot)
  /-- A device is left over that the second request replaces. -/
  | leftOver (x : Device) (hx : LeftOver rx st x)
      (h : x.deviceId ≠ rx.sourceAddr ∨ 2 ≤ timesListed rx.sourceAddr (replaceByType rx.deviceType st))

/-- A list with an address or a type it should not have twice, where it hangs on
what exactly is stored whether the second request changes anything. -/
inductive RxFrame.AddsDoubtful (rx : RxFrame) (mallocOk : Bool) (st : Storage) : Prop
  /-- The source's own entry is left over, is deleted the second time and is
  added anew. -/
  | renewed (x : Device) (hx : LeftOver rx st x) (hid : x.deviceId = rx.sourceAddr)
      (honce : timesListed rx.sourceAddr (replaceByType rx.deviceType st) = 1)
  /-- More than one device is replaced the first time, and some write fails. -/
  | rewritten (hl : Listed rx.sourceAddr st) (hu : ¬ Listed rx.sourceAddr (replaceByType rx.deviceType st))
      (hm : mallocOk = true) (hroom : Room rx.deviceType st)
      (htwo : 2 ≤ (st.deviceList.filter fun d => d.type = rx.deviceType).length)
      (hfail : ∃ n, st.writeOk n = false)

section
variable {rx : RxFrame} {mallocOk : Bool} {st : Storage}

theorem exists_leftOver (h : ¬ NoneOf rx.deviceType (replaceByType rx.deviceType st)) : ∃ x, LeftOver rx st x := by
  unfold NoneOf at h
  push Not at h
  obtain ⟨ht, x, hx, htype⟩ := h
  exact ⟨x, ht, hx, htype⟩

/-- **A request to add, twice.** -/
theorem enrolled_agrees_iff (hw : st.writes = []) (hsure : ¬ rx.AddsDoubtful mallocOk st) :
    (rx.enrolled mallocOk st).Agrees (rx.enrolled mallocOk ((rx.enrolled mallocOk st).begin st.writeOk)) ↔
      ¬ rx.AddsTwice mallocOk st := by
  constructor
  · intro hagrees htwice
    cases htwice with
    | stranger hu hm hroom =>
      subst hm
      exact enrolled_again_stranger hu (room_iff.1 hroom) hagrees.deviceList
    | noMemory hu hm htwo =>
      subst hm
      by_cases hnone : NoneOf rx.deviceType (replaceByType rx.deviceType st)
      · have hfree : Free (replaceByType rx.deviceType st).totalSlot := by
          obtain ⟨hle, i, _, _, hi, _, hfi, _⟩ := htwo
          exact ⟨hle, i, hi, hfi⟩
        exact (enrolled_again_noMemory hu hnone hfree).1 hagrees htwo
      · obtain ⟨x, hx⟩ := exists_leftOver hnone
        exact enrolled_again_leftOver hx (Or.inl fun hid => hu ⟨x, hx.2.1, hid⟩) hagrees.deviceList
    | leftOver x hx hother => exact enrolled_again_leftOver hx hother hagrees.deviceList
  · intro hnot
    have hnone : NoneOf rx.deviceType (replaceByType rx.deviceType st) := by
      by_contra hnone
      obtain ⟨x, hx⟩ := exists_leftOver hnone
      by_cases hid : x.deviceId = rx.sourceAddr
      · have hpos : 0 < timesListed rx.sourceAddr (replaceByType rx.deviceType st) :=
          timesListed_pos.2 ⟨x, hx.2.1, hid⟩
        rcases Nat.lt_or_ge (timesListed rx.sourceAddr (replaceByType rx.deviceType st)) 2 with hlt | hge
        · exact hsure (.renewed x hx hid (by omega))
        · exact hnot (.leftOver x hx (Or.inr hge))
      · exact hnot (.leftOver x hx (Or.inl hid))
    by_cases hk : Listed rx.sourceAddr (replaceByType rx.deviceType st)
    · exact enrolled_again_known hk hnone
    by_cases hfree : Free (replaceByType rx.deviceType st).totalSlot
    · cases mallocOk with
      | false => exact (enrolled_again_noMemory hk hnone hfree).2 fun htwo => hnot (.noMemory hk rfl htwo)
      | true =>
        by_cases hl : Listed rx.sourceAddr st
        · refine enrolled_again_replaced hl hk hnone hfree hw ?_
          by_contra hstore
          push Not at hstore
          obtain ⟨hlen, n, hn⟩ := hstore
          exact hsure (.rewritten hl hk rfl (room_iff.2 hfree) hlen ⟨n, by simpa using hn⟩)
        · exact absurd (.stranger hl rfl (room_iff.2 hfree)) hnot
    · exact enrolled_again_full hk hnone hfree

end

end Aqualarm
