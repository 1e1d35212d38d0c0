import Aqualarm.RegistryTwice

/-
  `aq_device_create` returning NULL.

  What is proved:
    1. `failed_create_iff` — the call leaves nothing behind exactly where there
       was no slot to take. `get_free_device_slot` sets the bit before the
       allocation, and nothing clears it when that fails.
    2. `lost_slot_kept` — the bit is then of no device and no later operation
       clears it; the next write of the bitmap stores it.
-/

namespace Aqualarm

open Lib (bit)

/-- Nothing tells that the operation was called: the list, the bitmap and the
flash are as before, and so is every run that follows. -/
structure LeavesNothing (cfg : Config) (op : RegOp) (s : State) : Prop where
  agrees : s.unit.storage.Agrees (op.apply s.unit.storage)
  later : ∀ is, (registryCalls cfg).run (s.onUnit (MainUnit.onStorage op.apply)) is = (registryCalls cfg).run s is

/-- A bit that is set for no device. -/
structure LostSlot (slot : Nat) (st : Storage) : Prop where
  below : slot < maxSlaverDevice
  taken : st.totalSlot.getLsbD slot = true
  unused : ∀ d ∈ st.deviceList, d.slot ≠ slot

section
variable {mallocOk : Bool} {rssiLevel type : UInt8} {deviceId : UInt32} {st st' : Storage} {slot : Nat}

/-- A call that returns NULL changes nothing, or has set a free bit. -/
theorem failed_create_cases (hnull : (aqDeviceCreate mallocOk rssiLevel type deviceId st).1 = none) :
    ¬ Free st.totalSlot ∧ (aqDeviceCreate mallocOk rssiLevel type deviceId st).2 = st ∨
      ∃ slot, slot < maxSlaverDevice ∧ st.totalSlot.getLsbD slot = false ∧ st.totalSlot.toNat ≤ 4095 ∧
        (aqDeviceCreate mallocOk rssiLevel type deviceId st).2 =
          { st with totalSlot := st.totalSlot ||| bit 32 slot } := by
  have hn : ¬ Listed deviceId st := by
    intro hl
    obtain ⟨d, hd⟩ := Option.isSome_iff_exists.1 (aqDeviceFind_isSome.2 hl)
    rw [aqDeviceCreate, hd] at hnull
    cases hnull
  obtain ⟨hfull, h⟩ | ⟨slot, hs, hfree, hle, _, h⟩ := @aqDeviceCreate_unlisted mallocOk rssiLevel type deviceId st hn
  · exact Or.inl ⟨hfull, by rw [h]⟩
  · cases mallocOk with
    | true =>
      rw [h] at hnull
      cases hnull
    | false => exact Or.inr ⟨slot, hs, hfree, hle, by rw [h]; rfl⟩

/-- A failed allocation leaves a bit behind. -/
theorem failed_create_lost (hnull : (aqDeviceCreate mallocOk rssiLevel type deviceId st).1 = none)
    (hfree : Free st.totalSlot) (hbits : ∀ d ∈ st.deviceList, st.totalSlot.getLsbD d.slot = true) :
    ∃ slot, LostSlot slot (aqDeviceCreate mallocOk rssiLevel type deviceId st).2 := by
  obtain ⟨hfull, _⟩ | ⟨slot, hs, hbit, _, h⟩ := failed_create_cases hnull
  · exact absurd hfree hfull
  · refine ⟨slot, ?_⟩
    rw [h]
    refine ⟨hs, Lib.getLsbD_or_bit_self (Nat.lt_trans hs (by decide)) _, fun d hd hds => ?_⟩
    have hd := hbits d hd
    rw [hds, hbit] at hd
    cases hd

/-! No operation gives the bit back. -/

theorem foldl_save_totalSlot {put : Device → Device} (l : List Device) (st : Storage) :
    (l.foldl (fun st d => aqDeviceSave (put d) st) st).totalSlot = st.totalSlot := by
  induction l generalizing st with
  | nil => rfl
  | cons d l ih => exact ih _

theorem RegOp.InPlace.totalSlot {op : RegOp} (h : op.InPlace) (st : Storage) :
    (op.apply st).totalSlot = st.totalSlot := by
  cases op with
  | waterleakSet | wirelostSet | batterySet | onlineSet | rssiLevelSet =>
    exact foldl_save_totalSlot _ _
  | recvSet | rssiLevelWrite | recvWrite | recvClear | heartRecvClear => rfl
  | create | delete | gatewayDelete | doorunitDelete => cases h

theorem LostSlot.of_list (h : LostSlot slot st) (ht : st'.totalSlot = st.totalSlot)
    (hl : ∀ d' ∈ st'.deviceList, ∃ d ∈ st.deviceList, d'.slot = d.slot) : LostSlot slot st' := by
  refine ⟨h.below, ht ▸ h.taken, fun d' hd' => ?_⟩
  obtain ⟨d, hd, hslot⟩ := hl d' hd'
  rw [hslot]
  exact h.unused d hd

theorem LostSlot.create (h : LostSlot slot st) : LostSlot slot (aqDeviceCreate mallocOk rssiLevel type deviceId st).2 := by
  have htaken : ∀ i, i < maxSlaverDevice → (st.totalSlot ||| bit 32 i).getLsbD slot = true := by
    intro i hi
    rw [Lib.getLsbD_or_bit (Nat.lt_trans hi (by decide)), h.taken, Bool.true_or]
  by_cases hl : Listed deviceId st
  · obtain ⟨d, hd⟩ := Option.isSome_iff_exists.1 (aqDeviceFind_isSome.2 hl)
    rw [aqDeviceCreate, hd]
    exact h
  · obtain ⟨_, hr⟩ | ⟨i, hi, hfree, _, _, hr⟩ := @aqDeviceCreate_unlisted mallocOk rssiLevel type deviceId st hl
    · rw [hr]
      exact h
    · rw [hr]
      cases mallocOk with
      | false => exact ⟨h.below, htaken i hi, h.unused⟩
      | true =>
        refine ⟨h.below, htaken i hi, fun d hd => ?_⟩
        rcases List.mem_append.1 hd with hd | hd
        · exact h.unused d hd
        · -- the new device takes a free bit
          obtain rfl := List.mem_singleton.1 hd
          rintro rfl
          exact absurd (hfree.symm.trans h.taken) Bool.false_ne_true

theorem LostSlot.delete (h : LostSlot slot st) (deviceId : UInt32) : LostSlot slot (aqDeviceDelete deviceId st).2 := by
  have hsub := (aqDeviceDelete_sublist deviceId st).subset
  refine ⟨h.below, ?_, fun d hd => h.unused d (hsub hd)⟩
  obtain ⟨_, hr⟩ | ⟨d, hd, hr⟩ := aqDeviceDelete_cases deviceId st
  · rw [hr]
    exact h.taken
  · have hne : d.slot ≠ slot := h.unused d (List.mem_of_find?_eq_some hd)
    rw [hr]
    exact Lib.getLsbD_and_not_bit_of_ne h.taken hne

theorem LostSlot.deleteByType (h : LostSlot slot st) (type : UInt8) : LostSlot slot (deleteByType type st) := by
  unfold Aqualarm.deleteByType
  generalize (st.deviceList.filter fun d => d.type = type) = l
  induction l generalizing st with
  | nil => exact h
  | cons d l ih => exact ih (h.delete d.deviceId)

theorem LostSlot.apply (h : LostSlot slot st) (op : RegOp) : LostSlot slot (op.apply st) := by
  by_cases hi : op.InPlace
  · refine h.of_list (hi.totalSlot st) fun d' hd' => ?_
    obtain ⟨d, hd, hsame⟩ := Lib.exists_mem_of_forall₂ (hi.same st) hd'
    exact ⟨d, hd, hsame.slot⟩
  · cases op with
    | create => exact h.create
    | delete deviceId => exact h.delete deviceId
    | gatewayDelete => exact h.deleteByType deviceTypeGateway
    | doorunitDelete => exact h.deleteByType deviceTypeDoorunit
    | _ => exact absurd trivial hi

/-- **A lost slot stays lost**, whatever operations follow. -/
theorem lost_slot_kept (h : LostSlot slot st) (ops : List RegOp) :
    LostSlot slot (ops.foldl (fun st op => op.apply st) st) := by
  induction ops generalizing st with
  | nil => exact h
  | cons op ops ih => exact ih (h.apply op)

end

/-- **A failed creation, exactly.** -/
theorem failed_create_iff (cfg : Config) (s : State) (mallocOk : Bool) (rssiLevel type : UInt8) (deviceId : UInt32)
    (hnull : (aqDeviceCreate mallocOk rssiLevel type deviceId s.unit.storage).1 = none) :
    LeavesNothing cfg (.create mallocOk rssiLevel type deviceId) s ↔ ¬ Free s.unit.storage.totalSlot := by
  constructor
  · intro h hfree
    obtain ⟨hfull, _⟩ | ⟨slot, hs, hbit, _, hr⟩ := failed_create_cases hnull
    · exact hfull hfree
    · have htotal : (aqDeviceCreate mallocOk rssiLevel type deviceId s.unit.storage).2.totalSlot =
        s.unit.storage.totalSlot := h.agrees.totalSlot
      rw [hr] at htotal
      have hset := Lib.getLsbD_or_bit_self (Nat.lt_trans hs (by decide)) s.unit.storage.totalSlot
      rw [show s.unit.storage.totalSlot ||| bit 32 slot = _ from htotal, hbit] at hset
      cases hset
  · intro hfull
    obtain ⟨_, hr⟩ | ⟨slot, hs, hbit, hle, _⟩ := failed_create_cases hnull
    · have hsame : s.onUnit (MainUnit.onStorage (RegOp.create mallocOk rssiLevel type deviceId).apply) = s := by
        have hr : (RegOp.create mallocOk rssiLevel type deviceId).apply s.unit.storage = s.unit.storage := hr
        unfold State.onUnit MainUnit.onStorage
        rw [hr]
      refine ⟨?_, fun is => by rw [hsame]⟩
      exact ⟨congrArg Storage.deviceList hr, congrArg Storage.totalSlot hr, congrArg Storage.flash hr⟩
    · exact absurd ⟨hle, slot, hs, hbit⟩ hfull

/-- The first allocation fails. -/
theorem failed_create_sample :
    LeavesNothing sampleConfig (.create false 3 deviceTypeEndunit 7) sampleStart ↔
      ¬ Free sampleStart.unit.storage.totalSlot :=
  failed_create_iff _ _ _ _ _ _ (by decide +kernel)

/-- End unit 7 is added and deleted. An allocation fails for end unit 8, which
takes the slot that was 7's; end unit 9 is added, which stores the bitmap; and
the reset loads 7 again. -/
theorem failed_create_fails :
    ¬ ∀ (cfg : Config) (s : State), (registryCalls cfg).Reachable s →
      ∀ mallocOk rssiLevel type deviceId, (aqDeviceCreate mallocOk rssiLevel type deviceId s.unit.storage).1 = none →
        LeavesNothing cfg (.create mallocOk rssiLevel type deviceId) s := by
  intro h
  have hlost : ((registryCalls sampleConfig).run sampleStart
      [(sampleEnv, .direct (.create true 3 deviceTypeEndunit 7)), (sampleEnv, .direct (.delete 7))]).any (fun s =>
        (aqDeviceCreate false 3 deviceTypeEndunit 8 s.unit.storage).1.isNone &&
        (((registryCalls sampleConfig).run
          (s.onUnit (MainUnit.onStorage (RegOp.create false 3 deviceTypeEndunit 8).apply))
          [(sampleEnv, .direct (.create true 3 deviceTypeEndunit 9)), (sampleEnv, .event .reboot)]).map fun s =>
            (aqDeviceFind 7 s.unit.storage).isSome) !=
        (((registryCalls sampleConfig).run s
          [(sampleEnv, .direct (.create true 3 deviceTypeEndunit 9)), (sampleEnv, .event .reboot)]).map fun s =>
            (aqDeviceFind 7 s.unit.storage).isSome)) = true := by decide +kernel
  obtain ⟨s, hr, hlost⟩ := (Option.any_eq_true _ _).1 hlost
  obtain ⟨hnull, hne⟩ := Bool.and_eq_true_iff.1 hlost
  have hleaves := h sampleConfig s ⟨sampleStart, _, ⟨_, _, _, rfl⟩, hr⟩ false 3 deviceTypeEndunit 8
    (Option.isNone_iff_eq_none.1 hnull)
  rw [hleaves.later, bne_self_eq_false] at hne
  cases hne

end Aqualarm
