import Aqualarm.RegistryInvariant

/-
  The registry over whole runs: calls of the operations in any order, between
  them the unit's events, resets, and losses of power in the middle of a call.

  What is proved:
    1. `Effect.storage` — every effect of an event changes the storage by steps
       of a few kinds (`StorageStep`).
    2. `registry_well_formed` — where allocations and flash writes succeed, list,
       bitmap and flash describe one registry in every state. Two gateways or
       two door units are listed only if `aq_device_create` is called for a
       second one without the deletion the learn handlers do first.
-/

namespace Aqualarm

open Lib Relation

/-! What an event does to the storage. -/

inductive StorageStep (mallocOk : Bool) : Storage → Storage → Prop
  | op (st : Storage) (op : RegOp) (h : ∀ mallocOk rssiLevel type deviceId,
      op ≠ .create mallocOk rssiLevel type deviceId) : StorageStep mallocOk st (op.apply st)
  | learn (st : Storage) (rssiLevel type : UInt8) (deviceId : UInt32) :
      StorageStep mallocOk st (learnStorage mallocOk rssiLevel type deviceId st).2
  | lock (st : Storage) (value : BitVec 32) : StorageStep mallocOk st (flashSetKey .valveLock value st)
  | reload (st : Storage) : StorageStep mallocOk st (reloaded st)
  /-- The environment erased, then the reset. -/
  | erase (st : Storage) : StorageStep mallocOk st (reloaded { st with flash := Flash.default })

/-- Storage steps in a row. -/
abbrev StoragePath (mallocOk : Bool) : Storage → Storage → Prop :=
  ReflTransGen (StorageStep mallocOk)

section
variable {mallocOk : Bool} {u u' : MainUnit}

theorem valveLock_storage (mallocOk : Bool) {u : MainUnit} {st : Storage} (hs : u.storage = st) :
    StoragePath mallocOk st (valveLock u).storage := by
  subst hs
  unfold valveLock
  split
  · exact .single (.lock _ _)
  · exact .refl

theorem valveUnlock_storage (mallocOk : Bool) (u : MainUnit) :
    StoragePath mallocOk u.storage (valveUnlock u).storage := by
  unfold valveUnlock
  split
  · exact .single (.lock _ _)
  · exact .refl

/-- A warning stores the lock, or nothing. -/
theorem warningEnable_storage_cases (w : Warning) (u : MainUnit) :
    (warningEnable w u).storage = u.storage ∨
      (warningEnable w u).storage = flashSetKey .valveLock 1 u.storage := by
  obtain ⟨_, h⟩ | ⟨_, h⟩ := warningEnable_cases w u
  · exact Or.inl (by rw [h])
  · generalize warningEnable w u = u' at h
    cases h with
    | shown _ hs => exact Or.inl hs
    | closed u₁ h₁ _ hs =>
      rw [hs]
      rcases h₁ with rfl | rfl
      · exact Or.inl rfl
      · unfold valveLock
        split
        · exact Or.inr rfl
        · exact Or.inl rfl
    | already h => exact Or.inl (by rw [h]; rfl)

theorem warningEnable_storage (mallocOk : Bool) (w : Warning) {u : MainUnit} {st : Storage}
    (hs : u.storage = st) : StoragePath mallocOk st (warningEnable w u).storage := by
  subst hs
  rcases warningEnable_storage_cases w u with h | h
  · rw [h]
  · rw [h]
    exact .single (.lock _ _)

theorem boot_storage (mallocOk : Bool) {u : MainUnit} {st : Storage} (hs : reloaded u.storage = st) :
    StoragePath mallocOk st u.boot.storage := by
  subst hs
  unfold MainUnit.boot
  dsimp only
  rw [MainUnit.onStorage_storage, ← reloaded]
  refine ReflTransGen.tail ?_ (.op _ .heartRecvClear (by simp))
  unfold valveInit
  dsimp only
  split
  · exact warningEnable_storage mallocOk _ rfl
  · exact .refl

theorem Effect.storage {u₀ : MainUnit} {e : Event} (h : Effect u₀ e u u') :
    StoragePath u₀.env.mallocDevice u.storage u'.storage := by
  have hop : ∀ (st : Storage) (op : RegOp), op.InPlace →
      StoragePath u₀.env.mallocDevice st (op.apply st) := by
    intro st op hi
    refine .single (.op st op ?_)
    rintro _ _ _ _ rfl
    exact hi
  cases h with
  | heart | send | clear | closeValve | openValve | learnStart | learnStop | learnTimeout | learnRefresh
  | delayControl | checkStart | turnBackPass | turnBackFail | turnCheckStart | turnCheckValid
  | turnCheckPass | turnCheckFail => exact .refl
  | registry op hq =>
    refine .single (.op _ op ?_)
    rintro _ _ _ _ rfl
    exact hq
  | enrol rx _ _ _ rssiLevel => exact .single (.learn _ rssiLevel _ _)
  | leak deviceId value =>
    exact (hop _ (.waterleakSet deviceId value) trivial).trans (warningEnable_storage _ _ rfl)
  | lost deviceId value =>
    exact (hop _ (.wirelostSet deviceId value) trivial).trans (warningEnable_storage _ _ rfl)
  | raise w => exact warningEnable_storage _ w rfl
  | lockClose => exact valveLock_storage _ rfl
  | unlockOpen => exact valveUnlock_storage _ u
  | disarm t => rw [(disarm_alarm t u).2.2.2.2]
  | boot => exact ReflTransGen.head (.reload _) (boot_storage _ rfl)
  | factoryReset => exact ReflTransGen.head (.erase _) (boot_storage _ rfl)

end

/-- An event changes the storage by storage steps. -/
theorem Event.handle_storage (e : Event) (s : State) :
    StoragePath s.unit.env.mallocDevice s.unit.storage (e.handle s).unit.storage :=
  closed_of_path (P := fun u => StoragePath s.unit.env.mallocDevice s.unit.storage u.storage)
    (fun _ _ he hp => hp.trans he.storage) (path_handle e s) .refl

/-! What the steps keep. -/

section
variable {mallocOk : Bool} {st st' : Storage}

theorem StorageStep.writeOk (h : StorageStep mallocOk st st') : st'.writeOk = st.writeOk := by
  cases h with
  | op op => exact (op.frame st).writeOk
  | learn => exact (learnStorage_frame _ _ _ _ st).writeOk
  | lock | reload | erase => rfl

theorem SlotInv.replaceByType (h : SlotInv st) (hw : st.WritesOk) (type : UInt8) :
    SlotInv (Aqualarm.replaceByType type st) := by
  unfold Aqualarm.replaceByType
  split
  · exact h.deleteByType hw type
  · exact h

theorem replaceByType_writeOk (type : UInt8) (st : Storage) :
    (replaceByType type st).writeOk = st.writeOk := by
  unfold replaceByType
  split
  · exact (deleteByType_frame type st).writeOk
  · rfl

theorem StorageStep.slotInv (h : StorageStep true st st') (hw : st.WritesOk) (hi : SlotInv st) :
    SlotInv st' := by
  cases h with
  | op op hop =>
    by_cases hin : op.InPlace
    · exact hi.inPlace hin hw
    · cases op with
      | create mallocOk rssiLevel type deviceId => exact absurd rfl (hop mallocOk rssiLevel type deviceId)
      | delete deviceId => exact hi.delete hw deviceId
      | gatewayDelete => exact hi.deleteByType hw deviceTypeGateway
      | doorunitDelete => exact hi.deleteByType hw deviceTypeDoorunit
      | _ => exact absurd trivial hin
  | learn rssiLevel type deviceId =>
    exact (hi.replaceByType hw type).create (by rw [Storage.WritesOk, replaceByType_writeOk]; exact hw) ..
  | lock value => exact hi.lock value
  | reload => exact hi.reload
  | erase => exact (reloaded_default st).1

theorem StorageStep.ids (h : StorageStep true st st') (hs : SlotInv st) (hi : Ids st) : Ids st' := by
  cases h with
  | op op hop =>
    rcases RegOp.list_cases hop st with hl | hl
    · exact hi.of_same (hl.same st)
    · exact hi.sublist hl
  | learn rssiLevel type deviceId => exact (hi.sublist (replaceByType_sublist type st)).create ..
  | lock => exact hi
  | reload => exact hi.reload hs
  | erase =>
    unfold Ids
    rw [(reloaded_default st).2]
    exact List.nodup_nil

/-- The learn handlers delete the gateway before they create one, and so for the
door unit. -/
theorem StorageStep.oneOfType {type : UInt8} (ht : type = deviceTypeGateway ∨ type = deviceTypeDoorunit)
    (h : StorageStep true st st') (hs : SlotInv st) (hi : Ids st) (hone : OneOfType type st) :
    OneOfType type st' := by
  cases h with
  | op op hop =>
    rcases RegOp.list_cases hop st with hl | hl
    · exact hone.of_same hs.slots (hl.same st)
    · exact hone.sublist hl
  | learn rssiLevel newType deviceId =>
    refine (hone.sublist (replaceByType_sublist newType st)).create fun hn => Or.inr ?_
    rw [hn, replaceByType, if_pos ht]
    exact hi.no_type_deleteByType type
  | lock => exact hone
  | reload => exact hone.reload hs
  | erase =>
    unfold OneOfType
    rw [(reloaded_default st).2]
    exact fun _ hd => absurd hd List.not_mem_nil

end

/-! Calls. -/

/-- What is done to a unit: an operation called directly, an event, or an operation cut
short by a loss of power once it has made `writes` flash writes. A handler cut
short is here the calls it made, then the one it was in. -/
inductive Call where
  | direct (op : RegOp)
  | event (e : Event)
  | powerLoss (op : RegOp) (writes : Nat)

/-- The storage with power for `writes` more flash writes. -/
def Storage.powered (writes : Nat) (st : Storage) : Storage :=
  { st with writeOk := fun n => n < st.writes.length + writes && st.writeOk n }

/-- The operation as far as its first `writes` flash writes get. -/
def RegOp.cutShort (op : RegOp) (writes : Nat) (st : Storage) : Storage :=
  { op.apply (st.powered writes) with writeOk := st.writeOk }

def Call.enabled : Call → State → Bool
  | .event e => e.enabled
  | .direct _ | .powerLoss .. => fun s => !s.ota.fault

def Call.perform : Call → State → State
  | .direct op => State.onUnit (MainUnit.onStorage op.apply)
  | .event e => e.handle
  | .powerLoss op writes => fun s => rtHwCpuReset (s.onUnit (MainUnit.onStorage (op.cutShort writes)))

/-- The unit as a machine over calls. -/
def registryCalls (cfg : Config) : Machine State (Env × Call) where
  start s := ∃ env flash download, s = powerOn cfg env flash download
  next s i := if i.2.enabled s then some (i.2.perform (s.onUnit (MainUnit.begin i.1))) else none

theorem registryCalls_next {cfg : Config} {s s' : State} {i : Env × Call}
    (h : (registryCalls cfg).next s i = some s') :
    i.2.perform (s.onUnit (MainUnit.begin i.1)) = s' := by
  simp only [registryCalls] at h
  split at h
  · exact Option.some.inj h
  · cases h

def RegOp.MemoryOk : RegOp → Prop
  | .create mallocOk .. => mallocOk = true
  | _ => True

/-- Allocations and flash writes succeed, until a loss of power. -/
def Succeeds (i : Env × Call) : Prop :=
  (∀ n, i.1.efSetEnvBlob n = true) ∧ i.1.mallocDevice = true ∧
    match i.2 with
    | .direct op | .powerLoss op _ => op.MemoryOk
    | .event _ => True

/-- Succeeds, and power is not lost in the middle of the call. -/
def Undisturbed (i : Env × Call) : Prop := Succeeds i ∧ ∀ op writes, i.2 ≠ .powerLoss op writes

/-! The invariant of undisturbed calls. -/

/-- One registry, with distinct ids. -/
structure RegInv (st : Storage) : Prop where
  slots : SlotInv st
  ids : Ids st

section
variable {st st' : Storage}

theorem SlotInv.empty (hl : st.deviceList = []) (ht : st.totalSlot = 0) (hf : st.flash = Flash.default) :
    SlotInv st := by
  have hnone : ∀ i, st.flash.index i = none := by
    intro i
    rw [hf]
    rfl
  have hstored : flashGetKey .slot st = 0 := by
    rw [flashGetKey, hf]
    rfl
  refine ⟨?_, ?_, ?_, hstored.trans ht.symm, ?_, ?_⟩
  · rw [hl]
    exact List.nodup_nil
  · simp [hl]
  · simp [hl, ht]
  · simp [hl]
  · simp [hnone]

theorem RegInv.empty (hl : st.deviceList = []) (ht : st.totalSlot = 0) (hf : st.flash = Flash.default) :
    RegInv st := by
  refine ⟨.empty hl ht hf, ?_⟩
  unfold Ids
  rw [hl]
  exact List.nodup_nil

theorem SlotInv.path (h : SlotInv st) (hw : st.WritesOk) (hp : StoragePath true st st') : SlotInv st' :=
  (closed_of_path (P := fun st => st.WritesOk ∧ SlotInv st)
    (fun _ _ hs hi => ⟨fun n => by rw [hs.writeOk]; exact hi.1 n, hs.slotInv hi.1 hi.2⟩) hp ⟨hw, h⟩).2

theorem RegInv.path (h : RegInv st) (hw : st.WritesOk) (hp : StoragePath true st st') : RegInv st' :=
  (closed_of_path (P := fun st => st.WritesOk ∧ RegInv st)
    (fun _ _ hs hi => ⟨fun n => by rw [hs.writeOk]; exact hi.1 n, hs.slotInv hi.1 hi.2.slots,
      hs.ids hi.2.slots hi.2.ids⟩)
    hp ⟨hw, h⟩).2

theorem OneOfType.path {type : UInt8} (ht : type = deviceTypeGateway ∨ type = deviceTypeDoorunit)
    (h : OneOfType type st) (hi : RegInv st) (hw : st.WritesOk) (hp : StoragePath true st st') :
    OneOfType type st' :=
  (closed_of_path (P := fun st => st.WritesOk ∧ RegInv st ∧ OneOfType type st)
    (fun _ _ hs ⟨hw, hi, hone⟩ => ⟨fun n => by rw [hs.writeOk]; exact hw n,
      ⟨hs.slotInv hw hi.slots, hs.ids hi.slots hi.ids⟩, hs.oneOfType ht hi.slots hi.ids hone⟩)
    hp ⟨hw, hi, h⟩).2.2

theorem begin_regInv {env : Env} {u : MainUnit} (h : RegInv u.storage) : RegInv (u.begin env).storage :=
  ⟨h.slots.congr rfl rfl rfl, h.ids⟩

/-- An undisturbed call is a direct creation or makes storage steps. -/
theorem Undisturbed.next {cfg : Config} {s s' : State} {i : Env × Call} (hi : Undisturbed i)
    (hn : (registryCalls cfg).next s i = some s') :
    (∃ rssiLevel type deviceId, i.2 = .direct (.create true rssiLevel type deviceId) ∧
      s'.unit.storage = (aqDeviceCreate true rssiLevel type deviceId (s.unit.begin i.1).storage).2) ∨
    (∀ mallocOk rssiLevel type deviceId, i.2 ≠ .direct (.create mallocOk rssiLevel type deviceId)) ∧
      StoragePath true (s.unit.begin i.1).storage s'.unit.storage := by
  obtain ⟨⟨_, hdev, hmem⟩, hpower⟩ := hi
  rw [← registryCalls_next hn]
  obtain ⟨env, call⟩ := i
  cases call with
  | direct op =>
    by_cases hc : ∃ mallocOk rssiLevel type deviceId, op = .create mallocOk rssiLevel type deviceId
    · obtain ⟨mallocOk, rssiLevel, type, deviceId, rfl⟩ := hc
      obtain rfl : mallocOk = true := hmem
      exact Or.inl ⟨rssiLevel, type, deviceId, rfl, rfl⟩
    · have hne : ∀ mallocOk rssiLevel type deviceId, op ≠ .create mallocOk rssiLevel type deviceId :=
        fun m r t d h => hc ⟨m, r, t, d, h⟩
      exact Or.inr ⟨fun m r t d h => hne m r t d (Call.direct.inj h), .single (.op _ op hne)⟩
  | event e =>
    have hpath := e.handle_storage (s.onUnit (MainUnit.begin env))
    rw [show (s.onUnit (MainUnit.begin env)).unit.env.mallocDevice = true from hdev] at hpath
    exact Or.inr ⟨by simp, hpath⟩
  | powerLoss op writes => exact absurd rfl (hpower op writes)

end

section
variable {cfg : Config} {s s' : State} {i : Env × Call}

theorem RegInv.next (h : RegInv s.unit.storage) (hi : Undisturbed i)
    (hn : (registryCalls cfg).next s i = some s') : RegInv s'.unit.storage := by
  have hbegin : RegInv (s.unit.begin i.1).storage := begin_regInv h
  rcases hi.next hn with ⟨rssiLevel, type, deviceId, _, hs'⟩ | ⟨_, hpath⟩
  · rw [hs']
    exact ⟨hbegin.slots.create hi.1.1 .., hbegin.ids.create ..⟩
  · exact hbegin.path hi.1.1 hpath

/-! The registry as it should be. -/

/-- List, bitmap and flash describe one registry, which is full at 12 devices. -/
structure WellFormed (st : Storage) : Prop where
  ids : (st.deviceList.map Device.deviceId).Nodup
  slots : (st.deviceList.map Device.slot).Nodup
  below : ∀ d ∈ st.deviceList, d.slot < maxSlaverDevice
  bits : ∀ i, st.totalSlot.getLsbD i = true ↔ ∃ d ∈ st.deviceList, d.slot = i
  stored : flashGetKey .slot st = st.totalSlot
  record : ∀ d ∈ st.deviceList, ∃ r, st.flash.index d.slot = some r ∧
    r.deviceId = d.deviceId ∧ r.type = d.type ∧ r.slot = d.slot
  full : ∀ rssiLevel type deviceId, ¬ Listed deviceId st →
    ((aqDeviceCreate true rssiLevel type deviceId st).1 = none ↔ st.deviceList.length = maxSlaverDevice)

theorem SlotInv.full_iff {st : Storage} (h : SlotInv st) :
    (∀ i, i < maxSlaverDevice → st.totalSlot.getLsbD i = true) ↔ st.deviceList.length = maxSlaverDevice := by
  have hbelow : ∀ i ∈ st.deviceList.map Device.slot, i < maxSlaverDevice := by
    simpa using h.below
  rw [← List.length_map Device.slot, ← full_iff_length h.slots hbelow]
  simp only [h.bits, List.mem_map]

/-- `aq_device_create` refuses an unlisted id exactly when 12 are listed. -/
theorem SlotInv.create_none {st : Storage} (h : SlotInv st) {rssiLevel type : UInt8} {deviceId : UInt32}
    (hl : ¬ Listed deviceId st) :
    (aqDeviceCreate true rssiLevel type deviceId st).1 = none ↔ st.deviceList.length = maxSlaverDevice := by
  rw [← h.full_iff]
  generalize hr : aqDeviceCreate true rssiLevel type deviceId st = r
  cases hr ▸ aqDeviceCreate_cases true rssiLevel type deviceId st with
  | known d hd => exact absurd (aqDeviceFind_isSome.1 (by rw [hd]; rfl)) hl
  | full _ hf =>
    have hall := hf.resolve_left (by have := h.totalSlot_le; omega)
    exact ⟨fun _ => hall, fun _ => rfl⟩
  | noMemory _ hm => cases hm
  | added _ _ slot hs hfree =>
    constructor
    · intro hc
      cases hc
    · intro hall
      rw [hall slot hs] at hfree
      cases hfree

/-- Creating keeps one device of a type, unless it adds a second. -/
theorem OneOfType.create_iff {st : Storage} {type : UInt8} (h : OneOfType type st) (hs : SlotInv st)
    {rssiLevel newType : UInt8} {deviceId : UInt32} :
    OneOfType type (aqDeviceCreate true rssiLevel newType deviceId st).2 ↔
      ¬ (newType = type ∧ ¬ Listed deviceId st ∧ st.deviceList.length ≠ maxSlaverDevice ∧
        ∃ d ∈ st.deviceList, d.type = type) := by
  constructor
  · rintro hone ⟨rfl, hl, hroom, d, hd, hdt⟩
    have hnone := (@SlotInv.create_none st hs rssiLevel newType deviceId hl).not.2 hroom
    generalize hr : aqDeviceCreate true rssiLevel newType deviceId st = r at hone hnone
    cases hr ▸ aqDeviceCreate_cases true rssiLevel newType deviceId st with
    | known x hx => exact hl (aqDeviceFind_isSome.1 (by rw [hx]; rfl))
    | full => exact hnone rfl
    | noMemory => exact hnone rfl
    | added hx _ slot =>
      have hmem := List.mem_append_right st.deviceList
        (List.mem_singleton.2 (Eq.refl (newDevice slot rssiLevel newType deviceId)))
      have heq := hone d (List.mem_append_left _ hd) _ hmem hdt rfl
      exact hl ⟨d, hd, by rw [heq]; rfl⟩
  · intro hno
    by_cases hlisted : Listed deviceId st
    · exact h.create fun _ => Or.inl hlisted
    · by_cases hfull : st.deviceList.length = maxSlaverDevice
      · have hnone := (@SlotInv.create_none st hs rssiLevel newType deviceId hlisted).2 hfull
        generalize hr : aqDeviceCreate true rssiLevel newType deviceId st = r at hnone
        cases hr ▸ aqDeviceCreate_cases true rssiLevel newType deviceId st with
        | known | full | noMemory => exact h
        | added => cases hnone
      · exact h.create fun hnew => Or.inr fun d hd hdt => hno ⟨hnew, hlisted, hfull, d, hd, hdt⟩

theorem RegInv.wellFormed {st : Storage} (h : RegInv st) : WellFormed st := by
  refine ⟨h.ids, h.slots.slots, h.slots.below, h.slots.bits, h.slots.stored, ?_, ?_⟩
  · intro d hd
    obtain ⟨r, hr, hsame⟩ := h.slots.record d hd
    exact ⟨r, hr, hsame.deviceId, hsame.type, hsame.slot⟩
  · exact fun _ _ _ hl => h.slots.create_none hl

/-- At most one gateway and one door unit. -/
def OneOfEach (st : Storage) : Prop := OneOfType deviceTypeGateway st ∧ OneOfType deviceTypeDoorunit st

/-- A direct creation of an unlisted id, with room, while one of the type is
listed. -/
def AddsSecond (type : UInt8) (s : State) (i : Env × Call) : Prop :=
  ∃ mallocOk rssiLevel deviceId, i.2 = .direct (.create mallocOk rssiLevel type deviceId) ∧
    ¬ Listed deviceId s.unit.storage ∧ s.unit.storage.deviceList.length ≠ maxSlaverDevice ∧
    ∃ d ∈ s.unit.storage.deviceList, d.type = type

/-- No direct creation adds a second gateway or door unit. -/
def NoSecond (s : State) (i : Env × Call) : Prop :=
  ¬ AddsSecond deviceTypeGateway s i ∧ ¬ AddsSecond deviceTypeDoorunit s i

theorem OneOfType.next {type : UInt8} (ht : type = deviceTypeGateway ∨ type = deviceTypeDoorunit)
    (h : OneOfType type s.unit.storage) (hi : RegInv s.unit.storage) (hu : Undisturbed i)
    (hn : (registryCalls cfg).next s i = some s') :
    OneOfType type s'.unit.storage ↔ ¬ AddsSecond type s i := by
  have hbegin : RegInv (s.unit.begin i.1).storage := begin_regInv hi
  have hone : OneOfType type (s.unit.begin i.1).storage := h
  rcases hu.next hn with ⟨rssiLevel, newType, deviceId, hcall, hs'⟩ | ⟨hne, hpath⟩
  · rw [hs', hone.create_iff hbegin.slots, AddsSecond, hcall]
    simp only [Call.direct.injEq, RegOp.create.injEq]
    constructor
    · rintro hno ⟨_, _, _, ⟨_, _, rfl, rfl⟩, h⟩
      exact hno ⟨rfl, h⟩
    · rintro hno ⟨rfl, h⟩
      exact hno ⟨true, rssiLevel, deviceId, ⟨rfl, rfl, rfl, rfl⟩, h⟩
  · refine iff_of_true (hone.path ht hbegin hu.1.1 hpath) ?_
    rintro ⟨_, _, _, hcall, _⟩
    exact hne _ _ _ _ hcall

/-- **The registry is well formed** in every state of an undisturbed run, and
lists one gateway and one door unit at most exactly when no direct creation adds
a second. -/
theorem registry_well_formed (cfg : Config) (env : Env) (download : Nat → UInt8)
    (is : List (Env × Call)) (hok : ∀ i ∈ is, Undisturbed i) :
    (registryCalls cfg).Always (fun s => WellFormed s.unit.storage)
        (powerOn cfg env Flash.default download) is ∧
      ((registryCalls cfg).Always (fun s => OneOfEach s.unit.storage)
          (powerOn cfg env Flash.default download) is ↔
        (registryCalls cfg).Steps (fun s i _ => NoSecond s i)
          (powerOn cfg env Flash.default download) is) := by
  obtain ⟨_, hl, ht, hf⟩ := powerOn_default cfg env download
  have hstart : RegInv (powerOn cfg env Flash.default download).unit.storage := .empty hl ht hf
  have hone : OneOfEach (powerOn cfg env Flash.default download).unit.storage := by
    simp [OneOfEach, OneOfType, hl]
  constructor
  · have hinv : (registryCalls cfg).Always (fun s => RegInv s.unit.storage)
        (powerOn cfg env Flash.default download) is :=
      @Machine.always_of_steps _ _ (registryCalls cfg) _ (fun _ i _ => Undisturbed i) _ hstart
        (fun _ _ _ h hu hn => h.next hu hn) is
        fun pre i _ _ hpre _ _ =>
          hok i (hpre.subset (List.mem_append_right _ (List.mem_singleton.2 rfl)))
    exact hinv.mono fun _ h => h.wellFormed
  · rw [Machine.always_iff_start_steps, ← Machine.steps_and_label hok, and_iff_right hone,
      ← Machine.steps_and_label (M := registryCalls cfg) (Q := fun s i _ => NoSecond s i) hok]
    refine @Machine.steps_iff_of_inv _ _ (registryCalls cfg)
      (fun s => RegInv s.unit.storage ∧ OneOfEach s.unit.storage) _ _ _ ⟨hstart, hone⟩ ?_ ?_ is
    · rintro s i s' ⟨hi, hg, hd⟩ ⟨hu, hng, hnd⟩ hn
      exact ⟨hi.next hu hn, (hg.next (Or.inl rfl) hi hu hn).2 hng, (hd.next (Or.inr rfl) hi hu hn).2 hnd⟩
    · rintro s i s' ⟨hi, hg, hd⟩ hn
      refine and_congr_right fun hu => ?_
      exact and_congr (hg.next (Or.inl rfl) hi hu hn) (hd.next (Or.inr rfl) hi hu hn)

/-- A node, then a gateway by its learn frame, the node deleted, a reset. -/
def sampleCalls : List (Env × Call) :=
  [(sampleEnv, .direct (.create true 3 deviceTypeEndunit 7)),
    (sampleEnv, .event (sampleFrame deviceTypeGateway 9 [learnDeviceCmd, 1, 1])),
    (sampleEnv, .direct (.delete 7)), (sampleEnv, .event .reboot)]

theorem registry_well_formed_sample :
    (registryCalls sampleConfig).Always (fun s => WellFormed s.unit.storage) sampleStart sampleCalls ∧
      ((registryCalls sampleConfig).Always (fun s => OneOfEach s.unit.storage) sampleStart sampleCalls ↔
        (registryCalls sampleConfig).Steps (fun s i _ => NoSecond s i) sampleStart sampleCalls) :=
  registry_well_formed sampleConfig sampleEnv (fun _ => 0xFF) sampleCalls
    (by simp [sampleCalls, Undisturbed, Succeeds, RegOp.MemoryOk, sampleEnv])

/-- `aq_device_create` itself does not look for another gateway. -/
theorem one_of_each_fails :
    ¬ ∀ (cfg : Config) (env : Env) (download : Nat → UInt8) (is : List (Env × Call)),
      (∀ i ∈ is, Undisturbed i) →
        (registryCalls cfg).Always (fun s => WellFormed s.unit.storage ∧ OneOfEach s.unit.storage)
          (powerOn cfg env Flash.default download) is := by
  intro h
  have hrun := h sampleConfig sampleEnv (fun _ => 0xFF)
    [(sampleEnv, .direct (.create true 0 deviceTypeGateway 9)),
      (sampleEnv, .direct (.create true 0 deviceTypeGateway 10))]
    (by simp [Undisturbed, Succeeds, RegOp.MemoryOk, sampleEnv])
  have hone := Machine.Always.mono (fun _ hs => hs.2.1) hrun
  exact Machine.not_always_of_run _ _ (by decide +kernel) hone

end

end Aqualarm
