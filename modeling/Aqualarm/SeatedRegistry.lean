import Aqualarm.TwiceEnrolled

/-
  What the registry keeps when flash writes and allocations fail and power is
  lost: `Seated`, which the twelve slots rest on.

  What is proved:
    1. `registry_seated` — from an empty store every state of every run has
       its devices in distinct slots below 12, each taken in the bitmap, and
       the stored bitmap names no other slots.
    2. `refused_enrolment` — a request to add a gateway or a door unit that
       `aq_device_create` refuses for lack of a slot leaves everything as it was:
       a device deleted before would have left its own slot to take.
-/

namespace Aqualarm

open Lib (bit)

/-- The listed devices are in slots of their own, which the bitmap has taken, and
no bitmap or record in the flash can break this at the next start. -/
structure Seated (st : Storage) : Prop where
  slots : (st.deviceList.map Device.slot).Nodup
  taken : ∀ d ∈ st.deviceList, st.totalSlot.getLsbD d.slot = true
  bound : ∀ i, st.totalSlot.getLsbD i = true → i < maxSlaverDevice
  stored : ∀ i, (flashGetKey .slot st).getLsbD i = true → i < maxSlaverDevice
  keyed : ∀ i r, st.flash.index i = some r → r.slot = i

/-- The writes the registry makes: bitmaps of the twelve slots, and records under
their own slot. -/
def FlashWrite.Fits : FlashWrite → Prop
  | .key .slot text => ∃ v : BitVec 32, text = Lib.printInt v.toInt ∧ ∀ i, v.getLsbD i = true → i < maxSlaverDevice
  | .key .valveLock _ => True
  | .index slot d => d.slot = slot

section
variable {st st' : Storage}

theorem Seated.below (h : Seated st) {d : Device} (hd : d ∈ st.deviceList) : d.slot < maxSlaverDevice :=
  h.bound _ (h.taken d hd)

theorem Seated.totalSlot_le (h : Seated st) : st.totalSlot.toNat ≤ 4095 := by
  have hlt : st.totalSlot.toNat < 2 ^ 12 := Lib.toNat_lt_of_bits h.bound
  omega

/-- At most twelve devices are listed. -/
theorem Seated.length_le (h : Seated st) : st.deviceList.length ≤ maxSlaverDevice := by
  have hsub : st.deviceList.map Device.slot ⊆ List.range maxSlaverDevice := by
    intro i hi
    obtain ⟨d, hd, rfl⟩ := List.mem_map.1 hi
    exact List.mem_range.2 (h.below hd)
  have hle := (List.subperm_of_subset h.slots hsub).length_le
  rwa [List.length_map, List.length_range] at hle

/-! Writes, whether they succeed or not. -/

theorem Seated.write (h : Seated st) {w : FlashWrite} (hw : w.Fits) : Seated (efSetEnvBlob w st) := by
  by_cases hok : st.writeOk st.writes.length = true
  · have hflash := @efSetEnvBlob_flash w st hok
    refine ⟨h.slots, h.taken, h.bound, ?_, ?_⟩
    · intro i hi
      cases w with
      | key name text =>
        cases name with
        | slot =>
          obtain ⟨v, rfl, hv⟩ := hw
          rw [show flashGetKey .slot (efSetEnvBlob _ st) = v from flashGetKey_flashSetKey hok] at hi
          exact hv i hi
        | valveLock =>
          rw [flashGetKey_congr (efSetEnvBlob_key_of_ne _ st (by simp))] at hi
          exact h.stored i hi
      | index slot d =>
        rw [flashGetKey_congr (efSetEnvBlob_key_of_ne _ st (by simp))] at hi
        exact h.stored i hi
    · intro i r hr
      rw [hflash] at hr
      cases w with
      | key name text => exact h.keyed i r hr
      | index slot d =>
        by_cases hi : i = slot
        · subst hi
          obtain rfl : d = r := by simpa [Flash.put] using hr
          exact hw
        · exact h.keyed i r (by simpa [Flash.put, hi] using hr)
  · have hflash : (efSetEnvBlob w st).flash = st.flash := if_neg hok
    refine ⟨h.slots, h.taken, h.bound, ?_, ?_⟩
    · intro i hi
      rw [flashGetKey_congr (congrArg (fun f => f.key .slot) hflash)] at hi
      exact h.stored i hi
    · rw [hflash]
      exact h.keyed

/-- The same flash, and nodes that keep their slots. -/
theorem Seated.of_same (h : Seated st) (hl : List.Forall₂ Device.Same st.deviceList st'.deviceList)
    (ht : st'.totalSlot = st.totalSlot) (hfl : st'.flash = st.flash) : Seated st' := by
  have hslot := map_eq_of_same (fun d d' hd => hd.slot) hl
  refine ⟨by rw [hslot]; exact h.slots, ?_, by rw [ht]; exact h.bound, ?_, by rw [hfl]; exact h.keyed⟩
  · rw [ht]
    intro d' hd'
    obtain ⟨d, hd, hsame⟩ := Lib.exists_mem_of_forall₂ hl hd'
    rw [hsame.slot]
    exact h.taken d hd
  · rw [show flashGetKey .slot st' = flashGetKey .slot st from flashGetKey_congr (by rw [hfl])]
    exact h.stored

/-- Only the list, the bitmap and the flash count. -/
theorem Seated.congr (h : Seated st) (hl : st'.deviceList = st.deviceList) (ht : st'.totalSlot = st.totalSlot)
    (hfl : st'.flash = st.flash) : Seated st' :=
  h.of_same (hl ▸ List.forall₂_same.2 fun d _ => .refl d) ht hfl

theorem Seated.save (h : Seated st) (d : Device) : Seated (aqDeviceSave d st) := h.write (w := .index d.slot d) rfl

theorem Seated.setField {get : Device → UInt8} {put : UInt8 → Device → Device} {deviceId : UInt32} {value : UInt8}
    (h : Seated st) (hput : ∀ v d, Device.Same d (put v d)) :
    Seated (Aqualarm.setField get put deviceId value st) := by
  have hupd : Seated (updateDevice deviceId (fun d => if get d ≠ value then put value d else d) st) := by
    refine h.of_same (forall₂_same_map (fun d => ?_) _) rfl rfl
    split
    · dsimp only
      split
      · exact hput value d
      · exact .refl d
    · exact .refl d
  unfold Aqualarm.setField
  generalize (st.deviceList.filter fun d => d.deviceId = deviceId ∧ get d ≠ value) = l
  revert hupd
  generalize updateDevice _ _ _ = st₁
  intro hupd
  induction l generalizing st₁ with
  | nil => exact hupd
  | cons d l ih => exact ih _ (hupd.save _)

/-! Creating and deleting. -/

/-- Slot `slot` is taken as well. -/
theorem Seated.bound_or (h : Seated st) {slot : Nat} (hs : slot < maxSlaverDevice) {i : Nat}
    (hi : (st.totalSlot ||| bit 32 slot).getLsbD i = true) : i < maxSlaverDevice := by
  rw [Lib.getLsbD_or_bit (Nat.lt_trans hs (by decide)), Bool.or_eq_true, decide_eq_true_eq] at hi
  rcases hi with hi | rfl
  · exact h.bound i hi
  · exact hs

theorem Seated.create (h : Seated st) (mallocOk : Bool) (rssiLevel type : UInt8) (deviceId : UInt32) :
    Seated (aqDeviceCreate mallocOk rssiLevel type deviceId st).2 := by
  by_cases hl : Listed deviceId st
  · rwa [aqDeviceCreate_listed hl]
  obtain ⟨_, hr⟩ | ⟨slot, hs, hfree, _, _, hr⟩ := @aqDeviceCreate_unlisted mallocOk rssiLevel type deviceId st hl
  · rwa [hr]
  have htaken : ∀ i, st.totalSlot.getLsbD i = true → (st.totalSlot ||| bit 32 slot).getLsbD i = true := by
    intro i hi
    rw [Lib.getLsbD_or_bit (Nat.lt_trans hs (by decide)), hi, Bool.true_or]
  rw [hr]
  cases mallocOk with
  | false => exact ⟨h.slots, fun d hd => htaken _ (h.taken d hd), fun i hi => h.bound_or hs hi, h.stored, h.keyed⟩
  | true =>
    have hadded : Seated { st with
        totalSlot := st.totalSlot ||| bit 32 slot
        deviceList := st.deviceList ++ [newDevice slot rssiLevel type deviceId] } := by
      refine ⟨?_, ?_, fun i hi => h.bound_or hs hi, h.stored, h.keyed⟩
      · rw [List.map_append, List.nodup_append]
        refine ⟨h.slots, List.nodup_singleton _, ?_⟩
        -- the slot was free, and those of listed devices are taken
        rintro i hi j hj rfl
        obtain ⟨d, hd, rfl⟩ := List.mem_map.1 hi
        have hslot : d.slot = slot := List.mem_singleton.1 hj
        rw [← hslot, h.taken d hd] at hfree
        cases hfree
      · intro d hd
        rcases List.mem_append.1 hd with hd | hd
        · exact htaken _ (h.taken d hd)
        · rw [List.mem_singleton.1 hd]
          exact Lib.getLsbD_or_bit_self (Nat.lt_trans hs (by decide)) _
    exact (hadded.write (w := .key .slot _) ⟨_, rfl, fun i hi => h.bound_or hs hi⟩).save _

theorem Seated.delete (h : Seated st) (deviceId : UInt32) : Seated (aqDeviceDelete deviceId st).2 := by
  obtain ⟨_, hr⟩ | ⟨d, hd, hr⟩ := aqDeviceDelete_cases deviceId st
  · rwa [hr]
  rw [hr]
  obtain ⟨l₁, l₂, hl, herase⟩ := aqDeviceFind_split hd
  have hmem : d ∈ st.deviceList := List.mem_of_find?_eq_some hd
  have h32 : d.slot < 32 := Nat.lt_trans (h.below hmem) (by decide)
  have hbound : ∀ i, (st.totalSlot &&& ~~~(bit 32 d.slot)).getLsbD i = true → i < maxSlaverDevice := by
    intro i hi
    rw [Lib.getLsbD_and_not_bit h32, Bool.and_eq_true] at hi
    exact h.bound i hi.1
  have hnodup : ((l₁ ++ d :: l₂).map Device.slot).Nodup := hl ▸ h.slots
  rw [List.map_append, List.map_cons, List.nodup_middle, List.nodup_cons, ← List.map_append] at hnodup
  have hdeleted : Seated { st with
      totalSlot := st.totalSlot &&& ~~~(bit 32 d.slot)
      deviceList := st.deviceList.eraseP fun d => d.deviceId = deviceId } := by
    refine ⟨?_, ?_, hbound, h.stored, h.keyed⟩
    · rw [herase]
      exact hnodup.2
    · rw [herase]
      intro x hx
      have hne : d.slot ≠ x.slot := fun hc => hnodup.1 (List.mem_map.2 ⟨x, hx, hc.symm⟩)
      refine Lib.getLsbD_and_not_bit_of_ne (h.taken x ?_) hne
      rw [hl]
      exact List.mem_append.2 ((List.mem_append.1 hx).imp id (List.mem_cons_of_mem _))
  exact hdeleted.write (w := .key .slot _) ⟨_, rfl, hbound⟩

theorem Seated.deleteByType (h : Seated st) (type : UInt8) : Seated (deleteByType type st) := by
  unfold Aqualarm.deleteByType
  generalize (st.deviceList.filter fun d => d.type = type) = l
  induction l generalizing st with
  | nil => exact h
  | cons d l ih => exact ih (h.delete d.deviceId)

theorem Seated.inPlace (h : Seated st) {op : RegOp} (hi : op.InPlace) : Seated (op.apply st) := by
  cases op with
  | waterleakSet | wirelostSet | batterySet | onlineSet | rssiLevelSet =>
    simp only [RegOp.apply]
    exact h.setField fun _ _ => ⟨rfl, rfl, rfl⟩
  | recvSet | rssiLevelWrite | recvWrite | recvClear | heartRecvClear => exact h.of_same (hi.same st) rfl rfl
  | create | delete | gatewayDelete | doorunitDelete => cases hi

theorem Seated.apply (h : Seated st) (op : RegOp) : Seated (op.apply st) := by
  by_cases hi : op.InPlace
  · exact h.inPlace hi
  · cases op with
    | create mallocOk rssiLevel type deviceId => exact h.create mallocOk rssiLevel type deviceId
    | delete deviceId => exact h.delete deviceId
    | gatewayDelete => exact h.deleteByType deviceTypeGateway
    | doorunitDelete => exact h.deleteByType deviceTypeDoorunit
    | _ => exact absurd trivial hi

/-! Resets and runs. -/

theorem Seated.reload (h : Seated st) : Seated (reloaded st) := by
  refine ⟨reloaded_slots h.keyed, ?_, h.stored, h.stored, h.keyed⟩
  intro r hr
  obtain ⟨i, _, hbit, hr⟩ := mem_reloaded.1 hr
  rw [h.keyed i r hr]
  exact hbit

theorem SlotInv.seated (h : SlotInv st) : Seated st := by
  have hbound : ∀ i, st.totalSlot.getLsbD i = true → i < maxSlaverDevice := by
    intro i hi
    obtain ⟨d, hd, rfl⟩ := (h.bits i).1 hi
    exact h.below d hd
  exact ⟨h.slots, fun d hd => (h.bits _).2 ⟨d, hd, rfl⟩, hbound, by rw [h.stored]; exact hbound, h.keyed⟩

theorem StorageStep.seated {mallocOk : Bool} (hs : StorageStep mallocOk st st') (h : Seated st) : Seated st' := by
  cases hs with
  | op op => exact h.apply op
  | learn rssiLevel type deviceId =>
    refine Seated.create ?_ mallocOk rssiLevel type deviceId
    unfold replaceByType
    split
    · exact h.deleteByType type
    · exact h
  | lock value => exact h.write (w := .key .valveLock _) trivial
  | reload => exact h.reload
  | erase => exact (reloaded_default st).1.seated

theorem Seated.path {mallocOk : Bool} (h : Seated st) (hp : StoragePath mallocOk st st') : Seated st' :=
  Lib.closed_of_path (fun _ _ hs hi => hs.seated hi) hp h

end

theorem Seated.next {cfg : Config} {s s' : State} {i : Env × Call} (h : Seated s.unit.storage)
    (hn : (registryCalls cfg).next s i = some s') : Seated s'.unit.storage := by
  rw [← registryCalls_next hn]
  obtain ⟨env, call⟩ := i
  have hbegin : Seated (s.unit.begin env).storage := h.congr rfl rfl rfl
  cases call with
  | direct op => exact hbegin.apply op
  | event e => exact hbegin.path (e.handle_storage (s.onUnit (MainUnit.begin env)))
  | powerLoss op writes =>
    have hpowered : Seated ((s.unit.begin env).storage.powered writes) := hbegin.congr rfl rfl rfl
    have hcut : Seated (op.cutShort writes (s.unit.begin env).storage) := (hpowered.apply op).congr rfl rfl rfl
    exact hcut.path (.head (.reload _) (boot_storage true rfl))

/-- **The registry stays seated**, in every run from an empty store. -/
theorem registry_seated (cfg : Config) (env : Env) (download : Nat → UInt8) (is : List (Env × Call)) :
    (registryCalls cfg).Always (fun s => Seated s.unit.storage) (powerOn cfg env Flash.default download) is := by
  obtain ⟨_, hl, ht, hf⟩ := powerOn_default cfg env download
  exact @Lib.Machine.always_of_inv _ _ (registryCalls cfg) (fun s => Seated s.unit.storage) _
    (SlotInv.empty hl ht hf).seated (fun _ _ _ h hn => h.next hn) is

/-! A refused enrolment. -/

section
variable {st : Storage} {type : UInt8}

/-- With a free slot and memory a device is created, or known already. -/
theorem aqDeviceCreate_of_free (hfree : Free st.totalSlot) (rssiLevel type : UInt8) (deviceId : UInt32) :
    (aqDeviceCreate true rssiLevel type deviceId st).1 ≠ none := by
  by_cases hl : Listed deviceId st
  · obtain ⟨d, hd⟩ := Option.isSome_iff_exists.1 (aqDeviceFind_isSome.2 hl)
    rw [aqDeviceCreate, hd]
    exact Option.some_ne_none _
  · obtain ⟨hfull, _⟩ | ⟨slot, _, _, _, _, hr⟩ := @aqDeviceCreate_unlisted true rssiLevel type deviceId st hl
    · exact absurd hfree hfull
    · rw [hr]
      exact Option.some_ne_none _

/-- A refusal with memory leaves everything as it was, and the id unlisted. -/
theorem aqDeviceCreate_refused {rssiLevel : UInt8} {deviceId : UInt32}
    (hnull : (aqDeviceCreate true rssiLevel type deviceId st).1 = none) :
    ¬ Listed deviceId st ∧ aqDeviceCreate true rssiLevel type deviceId st = (none, st) := by
  have hl : ¬ Listed deviceId st := by
    intro hl
    obtain ⟨d, hd⟩ := Option.isSome_iff_exists.1 (aqDeviceFind_isSome.2 hl)
    rw [aqDeviceCreate, hd] at hnull
    cases hnull
  obtain ⟨_, hr⟩ | ⟨_, _, _, _, _, hr⟩ := @aqDeviceCreate_unlisted true rssiLevel type deviceId st hl
  · exact ⟨hl, hr⟩
  · rw [hr] at hnull
    cases hnull

/-- A deletion takes no slot. -/
theorem aqDeviceDelete_clear {i : Nat} (hi : st.totalSlot.getLsbD i = false) (deviceId : UInt32) :
    (aqDeviceDelete deviceId st).2.totalSlot.getLsbD i = false := by
  obtain ⟨_, hr⟩ | ⟨d, _, hr⟩ := aqDeviceDelete_cases deviceId st
  · rwa [hr]
  · rw [hr]
    change (st.totalSlot &&& ~~~(bit 32 d.slot)).getLsbD i = false
    rw [BitVec.getLsbD_and, hi, Bool.false_and]

/-- Deleting the devices of a type frees the slot of the first. -/
theorem Seated.freed (h : Seated st) {d : Device} (hd : d ∈ st.deviceList) (ht : d.type = type) :
    Free (Aqualarm.deleteByType type st).totalSlot := by
  have hmem : d ∈ st.deviceList.filter fun d => d.type = type := List.mem_filter.2 ⟨hd, by simpa using ht⟩
  refine ⟨(h.deleteByType type).totalSlot_le, ?_⟩
  unfold Aqualarm.deleteByType
  obtain ⟨x, l, hl⟩ := List.exists_cons_of_ne_nil (List.ne_nil_of_mem hmem)
  have hx : Listed x.deviceId st := ⟨x, (List.mem_filter.1 (hl ▸ List.mem_cons_self)).1, rfl⟩
  obtain ⟨y, hy⟩ := Option.isSome_iff_exists.1 (aqDeviceFind_isSome.2 hx)
  have hbelow := h.below (List.mem_of_find?_eq_some hy)
  rw [hl, List.foldl_cons]
  refine ⟨y.slot, hbelow, ?_⟩
  have hfirst : (aqDeviceDelete x.deviceId st).2.totalSlot.getLsbD y.slot = false := by
    rw [aqDeviceDelete, hy]
    change (st.totalSlot &&& ~~~(bit 32 y.slot)).getLsbD y.slot = false
    rw [Lib.getLsbD_and_not_bit (Nat.lt_trans hbelow (by decide)), decide_eq_true rfl, Bool.not_true, Bool.and_false]
  clear hl
  generalize (aqDeviceDelete x.deviceId st).2 = st₁ at hfirst ⊢
  -- the deletions after the first keep its slot free
  induction l generalizing st₁ with
  | nil => exact hfirst
  | cons z l ih => exact ih _ (aqDeviceDelete_clear hfirst z.deviceId)

/-- What is refused had nothing to replace. -/
theorem Seated.refused (h : Seated st) {rssiLevel : UInt8} {deviceId : UInt32}
    (hnull : (aqDeviceCreate true rssiLevel type deviceId (Aqualarm.deleteByType type st)).1 = none) : NoneOf type st :=
  fun _ _ hd ht => aqDeviceCreate_of_free (h.freed hd ht) rssiLevel type deviceId hnull

end

/-- **A refused enrolment keeps the old devices**, the bitmap and the flash. -/
theorem refused_enrolment (cfg : Config) (env₀ : Env) (download : Nat → UInt8) (is : List (Env × Call)) (s : State)
    (hr : (registryCalls cfg).run (powerOn cfg env₀ Flash.default download) is = some s) (env : Env) (e : Event)
    (rx : RxFrame) (s' : State) (hmem : env.mallocDevice = true) (hf : e.Frame (s.unit.begin env) rx)
    (ha : rx.AddDevice (s.unit.begin env)) (ht : rx.deviceType = deviceTypeGateway ∨ rx.deviceType = deviceTypeDoorunit)
    (hnull : (aqDeviceCreate true rx.addLevel rx.deviceType rx.sourceAddr
      (deleteByType rx.deviceType (s.unit.begin env).storage)).1 = none)
    (hn : (registryCalls cfg).next s (env, .event e) = some s') : s.unit.storage.Agrees s'.unit.storage := by
  have hseated : Seated (s.unit.begin env).storage :=
    Seated.congr (registry_seated cfg env₀ download is is s List.prefix_rfl hr) rfl rfl rfl
  have hnone : NoneOf rx.deviceType (s.unit.begin env).storage := hseated.refused hnull
  rw [← learnStorage_replacing ht, learnStorage_of_noneOf hnone] at hnull
  obtain ⟨hunlisted, hrefused⟩ := aqDeviceCreate_refused hnull
  have hhandle : e.handle (s.onUnit (MainUnit.begin env)) = s' := registryCalls_next hn
  have henrolled : s'.unit.storage = rx.enrolled env.mallocDevice (s.unit.begin env).storage := by
    rw [← hhandle, Event.Frame.handle (s := s.onUnit (MainUnit.begin env)) hf]
    exact (addDevice_enrols (s := s.onUnit (MainUnit.begin env)) ha).storage
  rw [RxFrame.enrolled, if_neg hunlisted, hmem, learnStorage_of_noneOf hnone, hrefused] at henrolled
  rw [henrolled]
  exact ⟨rfl, rfl, rfl⟩

/-- Twelve end units. -/
def sampleFull : List (Env × Call) :=
  (List.range maxSlaverDevice).map fun n =>
    (sampleEnv, .direct (.create true 3 deviceTypeEndunit (UInt32.ofNat (n + 1))))

/-- A gateway asks to be added to them. -/
theorem refused_enrolment_sample :
    ∃ s s', (registryCalls sampleConfig).run sampleStart sampleFull = some s ∧
      (registryCalls sampleConfig).next s
        (sampleEnv, .event (sampleFrame deviceTypeGateway 99 [learnDeviceCmd, 1, 1])) = some s' ∧
      s.unit.storage.Agrees s'.unit.storage := by
  obtain ⟨data, hdata⟩ : ∃ data : Nat → UInt8,
      data = fun i => (sampleBytes deviceTypeGateway 99 [learnDeviceCmd, 1, 1]).getD i 0 := ⟨_, rfl⟩
  obtain ⟨s, s', hr, hn, hp⟩ := @Lib.Machine.exists_step_of_run _ _ (registryCalls sampleConfig) sampleStart sampleFull
    (sampleEnv, .event (sampleFrame deviceTypeGateway 99 [learnDeviceCmd, 1, 1]))
    (fun s _ => radioAccepted s.unit.cfg
        (fun i => (sampleBytes deviceTypeGateway 99 [learnDeviceCmd, 1, 1]).getD i 0) 15 ∧
      s.unit.cfg.localAddress = 10000001 ∧
      (aqDeviceCreate true 0 deviceTypeGateway 99 (deleteByType deviceTypeGateway
        (s.unit.begin sampleEnv).storage)).1 = none) (by decide +kernel)
  obtain ⟨hacc, haddr, hnull⟩ := of_decide_eq_true hp
  rw [← hdata] at hacc
  have hrx : (rxFrameOf 0 (-60) data 15).rxData 0 = learnDeviceCmd ∧ (rxFrameOf 0 (-60) data 15).rxData 2 = 1 ∧
      (rxFrameOf 0 (-60) data 15).destAddr = 10000001 ∧ (rxFrameOf 0 (-60) data 15).sourceAddr = 99 ∧
      (rxFrameOf 0 (-60) data 15).deviceType = deviceTypeGateway := by
    rw [hdata]
    decide +kernel
  have hf : (sampleFrame deviceTypeGateway 99 [learnDeviceCmd, 1, 1]).Frame (s.unit.begin sampleEnv)
      (rxFrameOf 0 (-60) data 15) := ⟨-60, 5, data, 15, by rw [hdata]; rfl, hacc, rfl⟩
  generalize rxFrameOf 0 (-60) data 15 = rx at hrx hf
  obtain ⟨hcommand, hsub, hdest, hsource, htype⟩ := hrx
  refine ⟨s, s', hr, hn, refused_enrolment sampleConfig sampleEnv (fun _ => 0xFF) sampleFull s hr sampleEnv _ rx s' rfl
    hf ⟨hcommand, hsub, hdest.trans haddr.symm, Or.inr (Or.inr (Or.inr htype))⟩ (Or.inl htype) ?_ hn⟩
  rw [RxFrame.addLevel, if_pos htype, htype, hsource]
  exact hnull

end Aqualarm
