import Aqualarm.ValveDrive

/-
  The lock, over runs in which every flash write succeeds.

  What is proved: `locked_valve_shut` — between any two events, resets included,
  a locked valve is shut and the stored lock reads back as `lock_status`.

  Locking is always paired with closing and unlocking with opening, so the
  invariant (`LockInv`) is of the pairs, not of the single calls.
-/

namespace Aqualarm

open Lib

/-- The lock is 0 or 1, and stored. -/
structure LockStored (u : MainUnit) : Prop where
  binary : u.core.lockStatus = 0 ∨ u.core.lockStatus = 1
  stored : flashGetKey .valveLock u.storage = BitVec.ofNat 32 u.core.lockStatus.toNat

/-- A locked valve is shut, and the stored key is the lock. -/
structure LockKept (u : MainUnit) : Prop where
  shut : u.core.lockStatus = 1 → u.core.valveStatus = .valveStatusClose
  stored : (flashGetKey .valveLock u.storage).toNat = u.core.lockStatus.toNat

/-- What holds within an event. -/
structure LockInv (u : MainUnit) : Prop where
  writes : ∀ n, u.storage.writeOk n = true
  lock : LockStored u
  shut : u.core.lockStatus = 1 → u.core.valveStatus = .valveStatusClose

theorem LockStored.congr {u u' : MainUnit} (h : LockStored u) (hl : u'.core.lockStatus = u.core.lockStatus)
    (hk : u'.storage.flash.key .valveLock = u.storage.flash.key .valveLock) : LockStored u' :=
  ⟨hl ▸ h.binary, by rw [flashGetKey_congr hk, hl, h.stored]⟩

/-- A change of the registry and of other variables. -/
theorem LockInv.of_frame {u u' : MainUnit} (h : LockInv u) (hf : u.storage.Frame u'.storage)
    (hl : u'.core.lockStatus = u.core.lockStatus)
    (hv : u'.core.lockStatus = 1 → u.core.valveStatus = .valveStatusClose →
      u'.core.valveStatus = .valveStatusClose) : LockInv u' :=
  ⟨fun n => by rw [hf.writeOk]; exact h.writes n, h.lock.congr hl hf.valveLock,
    fun h1 => hv h1 (h.shut (hl ▸ h1))⟩

theorem valveLock_spec {u : MainUnit} (hw : ∀ n, u.storage.writeOk n = true) (h : LockStored u) :
    (valveLock u).core.lockStatus = 1 ∧ LockStored (valveLock u) ∧
      (valveLock u).storage.writeOk = u.storage.writeOk := by
  unfold valveLock
  split
  · exact ⟨rfl, ⟨Or.inr rfl, flashGetKey_flashSetKey (hw _)⟩, rfl⟩
  · rename_i h0
    exact ⟨h.binary.resolve_left h0, h, rfl⟩

theorem valveUnlock_spec {u : MainUnit} (hw : ∀ n, u.storage.writeOk n = true) (h : LockStored u) :
    (valveUnlock u).core.lockStatus = 0 ∧ LockStored (valveUnlock u) ∧
      (valveUnlock u).storage.writeOk = u.storage.writeOk := by
  unfold valveUnlock
  split
  · exact ⟨rfl, ⟨Or.inl rfl, flashGetKey_flashSetKey (hw _)⟩, rfl⟩
  · rename_i h1
    exact ⟨h.binary.resolve_right h1, h, rfl⟩

theorem Raised.lockInv {w : Warning} {u u' : MainUnit} (h : Raised w u u') (hi : LockInv u) :
    LockInv u' := by
  cases h with
  | shown hc hs =>
    refine hi.of_frame ⟨by rw [hs], by rw [hs]⟩ (by rw [hc]) fun _ hv => ?_
    rw [hc]
    exact hv
  | closed u₁ h₁ hc hs =>
    have hu₁ : LockStored u₁ ∧ u₁.storage.writeOk = u.storage.writeOk := by
      rcases h₁ with rfl | rfl
      · exact ⟨hi.lock, rfl⟩
      · exact (valveLock_spec hi.writes hi.lock).2
    have hlock : u'.core.lockStatus = u₁.core.lockStatus := by
      rw [hc]
      exact valveClose_lockStatus u₁.core
    refine ⟨fun n => ?_, hu₁.1.congr hlock (by rw [hs]), fun _ => ?_⟩
    · rw [hs, hu₁.2]
      exact hi.writes n
    · rw [hc]
      exact valveClose_valveStatus u₁.core
  | already h => exact h ▸ hi

theorem warningEnable_lockInv (w : Warning) {u : MainUnit} (hi : LockInv u) :
    LockInv (warningEnable w u) := by
  obtain ⟨_, h⟩ | ⟨_, hr⟩ := warningEnable_cases w u
  · rwa [h]
  · exact hr.lockInv ⟨hi.writes, ⟨hi.lock.binary, hi.lock.stored⟩, hi.shut⟩

/-- A reset reads the lock back and starts with the valve shut. -/
theorem boot_lockInv {u : MainUnit} (hw : ∀ n, u.storage.writeOk n = true)
    (hk : flashGetKey .valveLock u.storage = 0 ∨ flashGetKey .valveLock u.storage = 1) :
    LockInv u.boot := by
  have hinit : ∀ st : Storage, st.writeOk = u.storage.writeOk → st.flash = u.storage.flash →
      LockInv (valveInit { cfg := u.cfg, env := u.env, storage := st, tx := u.tx }) := by
    intro st hst hf
    have hkey : flashGetKey .valveLock st = flashGetKey .valveLock u.storage :=
      flashGetKey_congr (by rw [hf])
    have hbase : LockInv
        (MainUnit.onCore
          (fun c => { c with
            lockStatus := UInt8.ofNat (flashGetKey .valveLock st).toNat
            motor := fun side => { c.motor side with controlPin := .pinHigh } })
          { cfg := u.cfg, env := u.env, storage := st, tx := u.tx }) := by
      refine ⟨fun n => ?_, ⟨?_, ?_⟩, fun _ => rfl⟩
      · show st.writeOk n = true
        rw [hst]
        exact hw n
      · show UInt8.ofNat (flashGetKey .valveLock st).toNat = 0 ∨
          UInt8.ofNat (flashGetKey .valveLock st).toNat = 1
        rw [hkey]
        rcases hk with h | h <;> rw [h]
        · exact Or.inl rfl
        · exact Or.inr rfl
      · show flashGetKey .valveLock st =
          BitVec.ofNat 32 (UInt8.ofNat (flashGetKey .valveLock st).toNat).toNat
        rw [hkey]
        rcases hk with h | h <;> rw [h] <;> rfl
    unfold valveInit
    dsimp only
    split
    · exact warningEnable_lockInv _ hbase
    · exact hbase
  have h := hinit (readDeviceFromFlash { u.storage with deviceList := [], totalSlot := 0 }) rfl rfl
  exact ⟨h.writes, ⟨h.lock.binary, h.lock.stored⟩, h.shut⟩

theorem LockStored.key {u : MainUnit} (h : LockStored u) :
    flashGetKey .valveLock u.storage = 0 ∨ flashGetKey .valveLock u.storage = 1 := by
  rw [h.stored]
  rcases h.binary with hb | hb <;> rw [hb]
  · exact Or.inl rfl
  · exact Or.inr rfl

section
variable {u₀ u u' : MainUnit} {e : Event}

theorem Effect.lockInv (h : Effect u₀ e u u') (hi : LockInv u) : LockInv u' := by
  cases h with
  | heart | send | clear | learnStart | learnStop | learnTimeout | learnRefresh | delayControl
  | turnBackPass | turnBackFail | turnCheckStart | turnCheckPass | turnCheckFail =>
    exact hi.of_frame (.refl _) rfl fun _ hv => hv
  | registry op => exact hi.of_frame (op.frame u.storage) rfl fun _ hv => hv
  | enrol => exact hi.of_frame (learnStorage_frame _ _ _ _ _) rfl fun _ hv => hv
  | leak deviceId value =>
    exact warningEnable_lockInv _
      (hi.of_frame (RegOp.frame (.waterleakSet deviceId value) u.storage) rfl fun _ hv => hv)
  | lost deviceId value =>
    exact warningEnable_lockInv _
      (hi.of_frame (RegOp.frame (.wirelostSet deviceId value) u.storage) rfl fun _ hv => hv)
  | raise w => exact warningEnable_lockInv w hi
  | closeValve =>
    exact hi.of_frame (.refl _) (valveClose_lockStatus u.core) fun _ _ => valveClose_valveStatus u.core
  | lockClose =>
    obtain ⟨_, hs, hw⟩ := valveLock_spec hi.writes hi.lock
    refine ⟨fun n => ?_, hs.congr (valveClose_lockStatus _) rfl, fun _ => valveClose_valveStatus _⟩
    rw [MainUnit.onCore_storage, hw]
    exact hi.writes n
  | openValve =>
    refine hi.of_frame (.refl _) (valveOpen_lockStatus u.core) fun h1 hv => ?_
    rw [MainUnit.onCore_core, valveOpen_lockStatus] at h1
    obtain ⟨_, he⟩ | ⟨hl, _⟩ := valveOpen_cases u.core
    · rw [MainUnit.onCore_core, he]
      exact hv
    · exact absurd h1 hl
  | unlockOpen =>
    obtain ⟨h0, hs, hw⟩ := valveUnlock_spec hi.writes hi.lock
    refine ⟨fun n => ?_, hs.congr (valveOpen_lockStatus _) rfl, fun h1 => ?_⟩
    · rw [MainUnit.onCore_storage, hw]
      exact hi.writes n
    · rw [MainUnit.onCore_core, valveOpen_lockStatus, h0] at h1
      cases h1
  | checkStart =>
    obtain ⟨_, _, hv, hl⟩ := valveCheckStart_alarm u.core u.env.fullyOpen
    exact hi.of_frame (.refl _) hl fun _ h => hv.trans h
  | disarm t =>
    obtain ⟨_, _, hv, hl, hs⟩ := disarm_alarm t u
    exact hi.of_frame ⟨by rw [hs], by rw [hs]⟩ hl fun _ h => hv.trans h
  | turnCheckValid side =>
    have hvalve : (valvefailWarningDisable { u.core with valveValid := true }).lockStatus =
          u.core.lockStatus ∧
        (valvefailWarningDisable { u.core with valveValid := true }).valveStatus = u.core.valveStatus := by
      obtain h | ⟨h, _⟩ := valvefailWarningDisable_cases { u.core with valveValid := true } <;> rw [h] <;>
        exact ⟨rfl, rfl⟩
    exact hi.of_frame (.refl _) hvalve.1 fun _ h => hvalve.2.trans h
  | boot => exact boot_lockInv hi.writes hi.lock.key
  | factoryReset => exact boot_lockInv hi.writes (Or.inl rfl)

end

/-- **Locked implies closed.** -/
theorem locked_valve_shut (cfg : Config) (env : Env) (download : Nat → UInt8) (is : List (Env × Event))
    (hw : ∀ i ∈ is, ∀ n, i.1.efSetEnvBlob n = true) :
    (system cfg).Always (fun s => LockKept s.unit) (powerOn cfg env Flash.default download) is := by
  have hstep : ∀ s i s', (LockStored s.unit ∧
        (s.unit.core.lockStatus = 1 → s.unit.core.valveStatus = .valveStatusClose)) →
      (∀ n, i.1.efSetEnvBlob n = true) → (system cfg).next s i = some s' →
      (LockStored s'.unit ∧
        (s'.unit.core.lockStatus = 1 → s'.unit.core.valveStatus = .valveStatusClose)) := by
    intro s i s' hs hok hn
    have hbegin : LockInv (s.unit.begin i.1) := ⟨hok, ⟨hs.1.binary, hs.1.stored⟩, hs.2⟩
    have h : LockInv s'.unit := closed_of_path (P := LockInv) (fun _ _ he => he.lockInv) (path_next hn) hbegin
    exact ⟨h.lock, h.shut⟩
  have hsteps : (system cfg).Steps (fun _ i _ => ∀ n, i.1.efSetEnvBlob n = true)
      (powerOn cfg env Flash.default download) is := by
    intro pre i _ _ hpre _ _
    exact hw i (hpre.subset (by simp))
  obtain ⟨hlock, _, _, hflash⟩ := powerOn_default cfg env download
  have hkey : flashGetKey .valveLock (powerOn cfg env Flash.default download).unit.storage = 0 := by
    rw [flashGetKey, hflash]
    rfl
  refine (@Machine.always_of_steps _ _ (system cfg) (fun s => LockStored s.unit ∧
    (s.unit.core.lockStatus = 1 → s.unit.core.valveStatus = .valveStatusClose)) _ _
    ⟨⟨Or.inl hlock, by rw [hkey, hlock]; rfl⟩, fun _ => (boot_spec _).1⟩ hstep _ hsteps).mono fun s hs => ⟨hs.2, ?_⟩
  rw [hs.1.stored, BitVec.toNat_ofNat]
  exact Nat.mod_eq_of_lt (Nat.lt_trans s.unit.core.lockStatus.toNat_lt (by decide))

/-- An end unit is enrolled and reports a leak, which locks the valve. -/
theorem locked_valve_shut_sample :
    (∀ i ∈ [(sampleEnv, sampleFrame deviceTypeEndunit 7 [learnDeviceCmd, 1, 1]),
        (sampleEnv, sampleFrame deviceTypeEndunit 7 [warningUploadCmd, 2, 0, 1])],
      ∀ n, i.1.efSetEnvBlob n = true) ∧
    (system sampleConfig).Always (fun s => LockKept s.unit)
      (powerOn sampleConfig sampleEnv Flash.default fun _ => 0xFF)
      [(sampleEnv, sampleFrame deviceTypeEndunit 7 [learnDeviceCmd, 1, 1]),
        (sampleEnv, sampleFrame deviceTypeEndunit 7 [warningUploadCmd, 2, 0, 1])] := by
  have hw : ∀ i ∈ [(sampleEnv, sampleFrame deviceTypeEndunit 7 [learnDeviceCmd, 1, 1]),
      (sampleEnv, sampleFrame deviceTypeEndunit 7 [warningUploadCmd, 2, 0, 1])],
      ∀ n, i.1.efSetEnvBlob n = true := by
    intro i hi n
    rcases List.mem_pair.1 hi with rfl | rfl <;> rfl
  exact ⟨hw, locked_valve_shut _ _ _ _ hw⟩

end Aqualarm
