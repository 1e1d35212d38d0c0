import Aqualarm.RegistryRuns
import Aqualarm.Lib.DecimalBytes

/-
  flash_get_key and flash_set_key on the bytes that pass between them and
  EasyFlash: the decimal text `print_number` leaves in a 64-byte buffer, the
  blob without its terminator, the zeroed 32-byte buffer it is read back into
  and the 8-bit length of the read.

  What is proved:
    1. `printNumber_eq` — `print_number` prints the signed decimal text, also of
       the least number, whose negation wraps.
    2. `EfEnv.stored_integers_survive` — a value written under a name is read
       back under it, and no other name changes.
    3. `flashEnv_set`, `stored_keys_by_bytes` — the flash of the other modules,
       where a name holds its text, is written and read as these bytes say.
-/

namespace Aqualarm

open Lib (byteOf charOf writeString strlen atolBytes printInt printIntBytes)

/-! `%d`. -/

/-- The `while (num != 0)` loop of `print_number`: `tmp`, the last digit first.
`divide` works on `num` as an unsigned number. -/
def printNumberLoop (num : Nat) : List UInt8 :=
  if num = 0 then [] else UInt8.ofNat (48 + num % 10) :: printNumberLoop (num / 10)

/-- `print_number` as `%d` calls it: base ten, `SIGN`, no width. The negation of
the least number wraps to itself. -/
def printNumber (value : BitVec 32) : List UInt8 :=
  let negative := value.slt 0
  let num := if negative then -value else value
  let tmp := if num = 0 then [48] else printNumberLoop num.toNat
  (if negative then [45] else []) ++ tmp.reverse

theorem printNumberLoop_zero : printNumberLoop 0 = [] := by
  rw [printNumberLoop, if_pos rfl]

theorem printNumberLoop_pos {num : Nat} (h : num ≠ 0) :
    printNumberLoop num = UInt8.ofNat (48 + num % 10) :: printNumberLoop (num / 10) := by
  rw [printNumberLoop, if_neg h]

theorem byteOf_digitChar {d : Nat} (h : d < 10) : byteOf (Nat.digitChar d) = UInt8.ofNat (48 + d) := by
  decide +revert

/-- The loop's digits, turned round, are the digits of the number. -/
theorem reverse_printNumberLoop {num : Nat} (h : num ≠ 0) :
    (printNumberLoop num).reverse = (Nat.toDigits 10 num).map byteOf := by
  induction num using Nat.strong_induction_on with
  | _ num ih =>
    have hdigit : byteOf (Nat.digitChar (num % 10)) = UInt8.ofNat (48 + num % 10) :=
      byteOf_digitChar (Nat.mod_lt _ (by decide))
    rw [printNumberLoop_pos h, List.reverse_cons, Nat.toDigits_eq_if (by decide)]
    by_cases hlast : num < 10
    · have hq : num / 10 = 0 := Nat.div_eq_of_lt hlast
      have hr : num % 10 = num := Nat.mod_eq_of_lt hlast
      rw [if_pos hlast, hq, printNumberLoop_zero, ← hdigit, hr]
      rfl
    · have hq : num / 10 ≠ 0 := by omega
      rw [if_neg hlast, ih (num / 10) (by omega) hq, List.map_append, ← hdigit]
      rfl

/-- The digits `print_number` prints for an unsigned number. -/
theorem printNumber_digits (num : BitVec 32) :
    (if num = 0 then [48] else printNumberLoop num.toNat).reverse = (Nat.toDigits 10 num.toNat).map byteOf := by
  by_cases h : num = 0
  · subst h
    decide
  · have hne : num.toNat ≠ 0 := fun h0 => h (BitVec.eq_of_toNat_eq h0)
    rw [if_neg h, reverse_printNumberLoop hne]

/-- `print_number` prints the signed decimal text of its argument. -/
theorem printNumber_eq (value : BitVec 32) : printNumber value = printIntBytes value.toInt := by
  have hlt := value.isLt
  have hint := value.toInt_eq_toNat_cond
  by_cases hneg : value.toInt < 0
  · have hslt : value.slt 0 = true := by simpa [BitVec.slt] using hneg
    -- At the least number `num` stays `2 ^ 31`, which is also its size.
    have hnum : (-value).toNat = value.toInt.natAbs := by
      rw [BitVec.toNat_neg]
      split at hint <;> omega
    simp only [printNumber, hslt, if_true]
    rw [printNumber_digits, hnum, Lib.printIntBytes_neg hneg]
    rfl
  · have hslt : value.slt 0 = false := by simpa [BitVec.slt] using hneg
    have hnum : value.toNat = value.toInt.natAbs := by
      split at hint <;> omega
    simp only [printNumber, hslt, Bool.false_eq_true, if_false]
    rw [printNumber_digits, hnum, Lib.printIntBytes_nonneg (by omega)]
    rfl

/-- A 32-bit number prints in at most eleven bytes. -/
theorem length_printNumber_le (value : BitVec 32) : (printNumber value).length ≤ 11 := by
  have hlt := value.isLt
  have hint := value.toInt_eq_toNat_cond
  rw [printNumber_eq, Lib.length_printIntBytes]
  apply Lib.length_printInt_le
  split at hint <;> omega

theorem printNumber_ne_nil (value : BitVec 32) : printNumber value ≠ [] := by
  rw [printNumber_eq, Lib.printIntBytes]
  simpa using Lib.printInt_ne_nil value.toInt

/-! The environment. -/

/-- What the firmware relies on in EasyFlash: a blob stored under a name is,
byte for byte, the blob of that name until the next one, and the blobs of the
other names are left. A name without a blob has no bytes. -/
structure EfEnv (κ σ : Type*) where
  setBlob : κ → List UInt8 → σ → σ
  blob : κ → σ → List UInt8
  blob_setBlob : ∀ key bytes env, blob key (setBlob key bytes env) = bytes
  blob_setBlob_of_ne : ∀ {key key'} bytes env, key' ≠ key → blob key' (setBlob key bytes env) = blob key' env

namespace EfEnv

variable {κ σ : Type*} (ef : EfEnv κ σ)

/-- `ef_get_env_blob`: as many of the stored bytes as fit are read over the
front of the buffer; their number and the buffer. -/
def efGetEnvBlob (key : κ) (valueBuf : List UInt8) (bufLen : Nat) (env : σ) : Nat × List UInt8 :=
  let readLen := min bufLen (ef.blob key env).length
  (readLen, (ef.blob key env).take readLen ++ valueBuf.drop readLen)

/-- `flash_get_key`. `stack` is the memory behind `read_value_temp`, which
`atol` would run into if the buffer held no terminator. -/
def flashGetKey (keyName : κ) (stack : List UInt8) (env : σ) : BitVec 32 :=
  let (len, readValueTemp) := ef.efGetEnvBlob keyName (List.replicate 32 0 ++ stack) 32 env
  let readLen : UInt8 := UInt8.ofNat len
  if readLen > 0 then BitVec.ofInt 32 (atolBytes readValueTemp) else 0

/-- `flash_set_key`. `valueBuf` is what `rt_malloc(64)` returned. -/
def flashSetKey (keyName : κ) (value : BitVec 32) (valueBuf : Vector UInt8 64) (env : σ) : σ :=
  let valueBuf := writeString (printNumber value) valueBuf.toList
  ef.setBlob keyName (valueBuf.take (strlen valueBuf)) env

/-- What is stored is the printed text, without its terminator. -/
theorem flashSetKey_eq (keyName : κ) (value : BitVec 32) (valueBuf : Vector UInt8 64) (env : σ) :
    ef.flashSetKey keyName value valueBuf env = ef.setBlob keyName (printNumber value) env := by
  have hzero : 0 ∉ printNumber value := by
    rw [printNumber_eq]
    exact Lib.zero_not_mem_printIntBytes _
  rw [flashSetKey, Lib.take_strlen_writeString hzero]

/-- A short blob is read whole, with zeroes behind it. -/
theorem efGetEnvBlob_of_le {key : κ} {env : σ} (h : (ef.blob key env).length ≤ 32) (stack : List UInt8) :
    ef.efGetEnvBlob key (List.replicate 32 0 ++ stack) 32 env =
      ((ef.blob key env).length,
        ef.blob key env ++ (List.replicate (32 - (ef.blob key env).length) 0 ++ stack)) := by
  have hmin : min 32 (ef.blob key env).length = (ef.blob key env).length := Nat.min_eq_right h
  simp only [efGetEnvBlob, hmin, List.take_length]
  rw [List.drop_append_of_le_length (by simpa using h), List.drop_replicate]

/-- A blob that is printed text is read as the number printed. -/
theorem flashGetKey_of_blob {keyName : κ} {value : BitVec 32} {env : σ}
    (h : ef.blob keyName env = printNumber value) (stack : List UInt8) :
    ef.flashGetKey keyName stack env = value := by
  have hlen := length_printNumber_le value
  have hpos : 0 < (printNumber value).length := List.length_pos_iff.2 (printNumber_ne_nil value)
  -- At most eleven of the 32 bytes are text, so the next one is a terminator.
  have hnext : ∀ b ∈ (List.replicate (32 - (printNumber value).length) 0 ++ stack).head?,
      Lib.isDigitByte b = false := by
    obtain ⟨n, hn⟩ : ∃ n, 32 - (printNumber value).length = n + 1 := ⟨31 - (printNumber value).length, by omega⟩
    rw [hn, List.replicate_succ]
    rintro b ⟨⟩
    rfl
  have hread : UInt8.ofNat (printNumber value).length > 0 := by
    rw [gt_iff_lt, UInt8.lt_iff_toNat_lt, UInt8.toNat_ofNat_of_lt' (by omega : _ < 256)]
    exact hpos
  have hatol : atolBytes (printNumber value ++ (List.replicate (32 - (printNumber value).length) 0 ++ stack)) =
      value.toInt := by
    rw [printNumber_eq] at hnext ⊢
    exact Lib.atolBytes_printIntBytes _ hnext
  have hblob : (ef.blob keyName env).length ≤ 32 := by
    rw [h]
    omega
  simp only [flashGetKey, ef.efGetEnvBlob_of_le hblob, h, if_pos hread, hatol, BitVec.ofInt_toInt]

/-- What a name reads depends on its blob only. -/
theorem flashGetKey_congr {keyName : κ} {env env' : σ} (h : ef.blob keyName env' = ef.blob keyName env)
    (stack : List UInt8) : ef.flashGetKey keyName stack env' = ef.flashGetKey keyName stack env := by
  unfold flashGetKey efGetEnvBlob
  rw [h]

/-- **Stored integers survive.** Any 32-bit value is read back under the name it
was written under, whatever the flash, the allocated buffer and the memory
behind the read buffer held; the other names keep their bytes and their values. -/
theorem stored_integers_survive (keyName : κ) (value : BitVec 32) (valueBuf : Vector UInt8 64)
    (stack : List UInt8) (env : σ) :
    ef.flashGetKey keyName stack (ef.flashSetKey keyName value valueBuf env) = value ∧
      ∀ key, key ≠ keyName →
        ef.blob key (ef.flashSetKey keyName value valueBuf env) = ef.blob key env ∧
          ef.flashGetKey key stack (ef.flashSetKey keyName value valueBuf env) =
            ef.flashGetKey key stack env := by
  rw [flashSetKey_eq]
  refine ⟨ef.flashGetKey_of_blob (ef.blob_setBlob _ _ _) stack, fun key hne => ?_⟩
  have hblob : ef.blob key (ef.setBlob keyName (printNumber value) env) = ef.blob key env :=
    ef.blob_setBlob_of_ne _ env hne
  exact ⟨hblob, ef.flashGetKey_congr hblob stack⟩

/-- Blobs in a table by name: the least environment. -/
def ofTable (κ : Type*) [DecidableEq κ] : EfEnv κ (κ → List UInt8) where
  setBlob key bytes env := Function.update env key bytes
  blob key env := env key
  blob_setBlob key bytes env := Function.update_self key bytes env
  blob_setBlob_of_ne bytes env h := Function.update_of_ne h bytes env

/-- `0xFFFFFFFF`, stored as `-1` over a text longer than either buffer takes. -/
theorem stored_integers_survive_table :
    (ofTable String).flashGetKey "valve_lock" []
        ((ofTable String).flashSetKey "valve_lock" 0xFFFFFFFF (Vector.replicate 64 0xAA)
          fun _ => List.replicate 40 57) = 0xFFFFFFFF :=
  ((ofTable String).stored_integers_survive "valve_lock" 0xFFFFFFFF _ [] _).1

end EfEnv

/-! The flash of the other modules, where a key holds its text. -/

/-- `Flash` by its bytes. -/
def flashEnv : EfEnv KeyName Flash where
  setBlob name bytes flash := flash.put (.key name (bytes.map charOf))
  blob name flash := ((flash.key name).getD []).map byteOf
  blob_setBlob name bytes flash := by simp [Flash.put, Function.comp_def]
  blob_setBlob_of_ne bytes flash h := by simp [Flash.put, h]

theorem map_charOf_printNumber (value : BitVec 32) : (printNumber value).map charOf = printInt value.toInt := by
  rw [printNumber_eq, Lib.map_charOf_printIntBytes]

/-- The blob of a name that holds a printed text. -/
theorem flashEnv_blob {name : KeyName} {value : BitVec 32} {flash : Flash}
    (h : flash.key name = some (printInt value.toInt)) : flashEnv.blob name flash = printNumber value := by
  rw [printNumber_eq, Lib.printIntBytes]
  simp [flashEnv, h]

/-- A write that succeeds stores what the bytes say. -/
theorem flashEnv_set {st : Storage} (h : st.writeOk st.writes.length = true) (name : KeyName) (value : BitVec 32)
    (valueBuf : Vector UInt8 64) :
    (flashSetKey name value st).flash = flashEnv.flashSetKey name value valueBuf st.flash := by
  rw [flashSetKey, efSetEnvBlob_flash h, EfEnv.flashSetKey_eq]
  simp only [flashEnv, map_charOf_printNumber]

/-- Every name holds nothing, or text that `flash_set_key` printed. -/
def PrintedKeys (st : Storage) : Prop :=
  ∀ name, st.flash.key name = none ∨ ∃ value : BitVec 32, st.flash.key name = some (printInt value.toInt)

section
variable {st st' : Storage}

/-- Such a name is read as the bytes say. -/
theorem PrintedKeys.get (h : PrintedKeys st) (name : KeyName) (stack : List UInt8) :
    flashGetKey name st = flashEnv.flashGetKey name stack st.flash := by
  rcases h name with hn | ⟨value, hs⟩
  · have hblob : flashEnv.blob name st.flash = [] := by simp [flashEnv, hn]
    simp [flashGetKey, EfEnv.flashGetKey, EfEnv.efGetEnvBlob, hblob, hn]
  · rw [flashEnv.flashGetKey_of_blob (flashEnv_blob hs), flashGetKey_of_text hs]

theorem PrintedKeys.congr (h : PrintedKeys st) (hf : st'.flash = st.flash) : PrintedKeys st' := by
  unfold PrintedKeys
  rw [hf]
  exact h

theorem PrintedKeys.set (h : PrintedKeys st) (name : KeyName) (value : BitVec 32) :
    PrintedKeys (flashSetKey name value st) := by
  intro name'
  by_cases hname : name' = name
  · subst hname
    by_cases hok : st.writeOk st.writes.length = true
    · exact Or.inr ⟨value, by simp [flashSetKey, efSetEnvBlob_flash hok, Flash.put]⟩
    · simpa [flashSetKey, efSetEnvBlob, hok] using h name'
  · rw [flashSetKey, efSetEnvBlob_key_of_ne _ st fun _ hc => hname (by cases hc; rfl)]
    exact h name'

theorem PrintedKeys.save (h : PrintedKeys st) (d : Device) : PrintedKeys (aqDeviceSave d st) := fun name => by
  rw [aqDeviceSave, efSetEnvBlob_key_of_ne _ st (by simp)]
  exact h name

theorem PrintedKeys.foldl {α : Type} {f : Storage → α → Storage} (hf : ∀ st a, PrintedKeys st → PrintedKeys (f st a))
    (l : List α) (h : PrintedKeys st) : PrintedKeys (l.foldl f st) :=
  List.foldlRecOn l f h fun st hst a _ => hf st a hst

theorem PrintedKeys.create (h : PrintedKeys st) (mallocOk : Bool) (rssiLevel type : UInt8) (deviceId : UInt32) :
    PrintedKeys (aqDeviceCreate mallocOk rssiLevel type deviceId st).2 := by
  generalize hr : aqDeviceCreate mallocOk rssiLevel type deviceId st = r
  cases hr ▸ aqDeviceCreate_cases mallocOk rssiLevel type deviceId st with
  | known | full => exact h
  | noMemory => exact h.congr rfl
  | added =>
    refine PrintedKeys.save (PrintedKeys.set ?_ _ _) _
    exact h.congr rfl

theorem PrintedKeys.delete (h : PrintedKeys st) (deviceId : UInt32) :
    PrintedKeys (aqDeviceDelete deviceId st).2 := by
  obtain ⟨_, hr⟩ | ⟨d, _, hr⟩ := aqDeviceDelete_cases deviceId st
  · rw [hr]
    exact h
  · rw [hr]
    refine PrintedKeys.set ?_ _ _
    exact h.congr rfl

theorem PrintedKeys.deleteByType (h : PrintedKeys st) (type : UInt8) : PrintedKeys (deleteByType type st) :=
  PrintedKeys.foldl (fun _ (d : Device) hst => hst.delete d.deviceId) _ h

theorem PrintedKeys.apply (h : PrintedKeys st) (op : RegOp) : PrintedKeys (op.apply st) := by
  cases op with
  | create mallocOk rssiLevel type deviceId => exact h.create mallocOk rssiLevel type deviceId
  | delete deviceId => exact h.delete deviceId
  | gatewayDelete => exact h.deleteByType deviceTypeGateway
  | doorunitDelete => exact h.deleteByType deviceTypeDoorunit
  | waterleakSet | wirelostSet | batterySet | onlineSet | rssiLevelSet =>
    exact PrintedKeys.foldl (fun _ _ hst => hst.save _) _ (h.congr rfl)
  | recvSet | rssiLevelWrite | recvWrite | recvClear | heartRecvClear => exact h.congr rfl

theorem StorageStep.printedKeys {mallocOk : Bool} (hs : StorageStep mallocOk st st') (h : PrintedKeys st) :
    PrintedKeys st' := by
  cases hs with
  | op op => exact h.apply op
  | learn rssiLevel type deviceId =>
    refine PrintedKeys.create ?_ mallocOk rssiLevel type deviceId
    unfold replaceByType
    split
    · exact h.deleteByType type
    · exact h
  | lock value => exact h.set .valveLock value
  | reload => exact h.congr rfl
  | erase => exact fun _ => Or.inl rfl

theorem PrintedKeys.path {mallocOk : Bool} (h : PrintedKeys st) (hp : StoragePath mallocOk st st') : PrintedKeys st' :=
  Lib.closed_of_path (fun _ _ hs hi => hs.printedKeys hi) hp h

end

theorem PrintedKeys.next {cfg : Config} {s s' : State} {i : Env × Call} (h : PrintedKeys s.unit.storage)
    (hn : (registryCalls cfg).next s i = some s') : PrintedKeys s'.unit.storage := by
  rw [← registryCalls_next hn]
  obtain ⟨env, call⟩ := i
  have hbegin : PrintedKeys (s.unit.begin env).storage := h.congr rfl
  cases call with
  | direct op => exact hbegin.apply op
  | event e => exact hbegin.path (e.handle_storage (s.onUnit (MainUnit.begin env)))
  | powerLoss op writes =>
    have hpowered : PrintedKeys ((s.unit.begin env).storage.powered writes) := hbegin.congr rfl
    have hcut : PrintedKeys (op.cutShort writes (s.unit.begin env).storage) := (hpowered.apply op).congr rfl
    exact hcut.path (.head (.reload _) (boot_storage true rfl))

/-- In every run from an empty store the bitmap and the lock are read as the
bytes in the flash say. -/
theorem stored_keys_by_bytes (cfg : Config) (env : Env) (download : Nat → UInt8) (is : List (Env × Call)) :
    (registryCalls cfg).Always
      (fun s => ∀ name stack, flashGetKey name s.unit.storage =
        flashEnv.flashGetKey name stack s.unit.storage.flash)
      (powerOn cfg env Flash.default download) is := by
  have hstart : PrintedKeys (powerOn cfg env Flash.default download).unit.storage := fun name => by
    rw [(powerOn_default cfg env download).2.2.2]
    exact Or.inl rfl
  exact (@Lib.Machine.always_of_inv _ _ (registryCalls cfg) (fun s => PrintedKeys s.unit.storage) _ hstart
    (fun _ _ _ h hn => h.next hn) is).mono fun _ h => h.get

end Aqualarm
