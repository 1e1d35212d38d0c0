import Aqualarm.Modbus
import Mathlib.Tactic.SplitIfs

/-
  What a Modbus write triggers: the write callbacks compare their cursor with 1
  once the loop has run.

  What is proved: `modbus_writes_iff` — an accepted write of coils runs the valve
  action exactly if it writes coil 0, and on the value written there, exactly
  when a write from coil 0 has at most 8 coils and a write from one of the coils
  1 to 7 has more; an accepted write of registers runs its action exactly if it
  writes register 0 exactly when it does not start there or has one register; and
  what `mbWriteCoils` and `mbWriteHolding` do with an accepted request is to store
  it and to run the action or not.
-/

namespace Aqualarm

/-- Whether coil or register `i`, counted from 0, is among those written. -/
def Writes (usAddress count : UInt16) (i : Nat) : Prop :=
  (usAddress - 1).toNat ≤ i ∧ i < (usAddress - 1).toNat + count.toNat

instance (usAddress count : UInt16) (i : Nat) : Decidable (Writes usAddress count i) :=
  inferInstanceAs (Decidable (_ ∧ _))

/-- A write of coils that `eMBRegCoilsCB` accepts: whether the valve action runs,
and the coils after it. That there is a coil to write is checked by the function
code. -/
structure CoilsAccepted (reg : Nat → UInt8) (usAddress usNCoils : UInt16) (buf : Nat → UInt8) (runs : Bool)
    (buf' : Nat → UInt8) : Prop where
  count : 1 ≤ usNCoils
  served : eMBRegCoilsCB reg usAddress usNCoils buf = some (runs, buf')

/-- A write of registers that `eMBRegHoldingCB` accepts. -/
structure HoldingAccepted (reg : Nat → UInt8) (usAddress usNRegs : UInt16) (buf : Nat → UInt16) (runs : Bool)
    (buf' : Nat → UInt16) : Prop where
  count : 1 ≤ usNRegs
  served : eMBRegHoldingCB reg usAddress usNRegs buf = some (runs, buf')

/-- The valve action runs if and only if coil 0 is written, and the bit it looks
at is then the bit of the request. -/
def CoilsOnTarget (reg : Nat → UInt8) (usAddress usNCoils : UInt16) (runs : Bool) (buf' : Nat → UInt8) : Prop :=
  (runs = true ↔ Writes usAddress usNCoils 0) ∧ (runs = true → buf' 0 &&& 1 = reg 0 &&& 1)

/-- What a poll that writes coils leaves: the coils, and where the valve action runs
what that does on them. -/
def coilsWritten (runs : Bool) (buf : Nat → UInt8) (s : State) : State :=
  let s := mbDataCopy s
  let s := { s with modbus := { s.modbus with ucSCoilBuf := buf } }
  if runs then mbValveSingleControlWriteCallback s else s

def holdingWritten (runs : Bool) (buf : Nat → UInt16) (s : State) : State :=
  let s := mbDataCopy s
  let s := { s with modbus := { s.modbus with usSRegHoldBuf := buf } }
  if runs then mbHoldingWriteCallback s else s

/-- A write from coil 0 stays in the first byte; one from the coils behind it
leaves the first byte. -/
def CoilsWithin (usAddress usNCoils : UInt16) : Prop :=
  ((usAddress - 1).toNat = 0 → usNCoils.toNat ≤ 8) ∧
    (0 < (usAddress - 1).toNat → (usAddress - 1).toNat < 8 → 8 < usNCoils.toNat)

instance (usAddress usNCoils : UInt16) : Decidable (CoilsWithin usAddress usNCoils) :=
  inferInstanceAs (Decidable (_ ∧ _))

/-! The cursor. -/

section
variable {reg : Nat → UInt8}

theorem writeCoilBytes_cursor (iRegBitIndex : UInt16) (n i pos : Nat) (buf : Nat → UInt8) :
    (writeCoilBytes reg iRegBitIndex n i pos buf).1 = i + n ∧
      (writeCoilBytes reg iRegBitIndex n i pos buf).2.1 = pos + n := by
  induction n generalizing i pos buf with
  | zero => exact ⟨rfl, rfl⟩
  | succ n ih =>
    obtain ⟨hi, hpos⟩ := ih (i + 1) (pos + 1) (xMBUtilSetBits buf i iRegBitIndex 8 (reg pos))
    rw [writeCoilBytes, hi, hpos]
    omega

theorem writeHoldingRegs_cursor (n i pos : Nat) (buf : Nat → UInt16) :
    (writeHoldingRegs reg n i pos buf).1 = i + n := by
  induction n generalizing i pos buf with
  | zero => rfl
  | succ n ih =>
    rw [writeHoldingRegs, ih]
    omega

end

/-! The first coil. -/

theorem and_one_eq_iff {x y : UInt8} : x &&& 1 = y &&& 1 ↔ x.toBitVec.getLsbD 0 = y.toBitVec.getLsbD 0 := by
  have hone : ∀ i, (1#8).getLsbD i = decide (i = 0) := fun i => by
    simp [BitVec.getLsbD_one]
  constructor
  · intro h
    have hbit := congrArg (fun b : UInt8 => b.toBitVec.getLsbD 0) h
    simpa using hbit
  · intro h
    apply UInt8.eq_of_toBitVec_eq
    apply BitVec.eq_of_getLsbD_eq
    intro i _
    rw [UInt8.toBitVec_and, UInt8.toBitVec_and, BitVec.getLsbD_and, BitVec.getLsbD_and, UInt8.toBitVec_one, hone]
    by_cases hi : i = 0
    · rw [hi, h]
    · simp [hi]

/-- Writing from the first bit on puts the value's first bit there. -/
theorem setBits_first {n : UInt8} (hpos : 1 ≤ n) (hle : n ≤ 8) (buf : Nat → UInt8) (value : UInt8) :
    xMBUtilSetBits buf 0 0 n value 0 &&& 1 = value &&& 1 := by
  -- the mask covers the first bit, whatever the number of bits
  have hmask : (1#8 <<< (n.toNat % 16) - 1#8)[0] = true := by
    have hall : ∀ k : Fin 9, 1 ≤ k.val → (1#8 <<< (k.val % 16) - 1#8)[0] = true := by decide
    exact hall ⟨n.toNat, Nat.lt_succ_of_le (UInt8.le_iff_toNat_le.1 hle)⟩ (UInt8.le_iff_toNat_le.1 hpos)
  rw [and_one_eq_iff]
  unfold xMBUtilSetBits
  simp [hmask]

/-! Coils. -/

section
variable {reg : Nat → UInt8} {usAddress usNCoils : UInt16} {buf buf' : Nat → UInt8} {runs : Bool}

/-- The whole bytes, then the coils that are left over. -/
theorem coils_cases (h : eMBRegCoilsCB reg usAddress usNCoils buf = some (runs, buf')) :
    let start := (usAddress - 1).toNat
    let bytes := usNCoils.toNat / 8
    let buf₁ := (writeCoilBytes reg ((usAddress - 1) % 8) bytes (start / 8) 0 buf).2.2
    (usNCoils % 8 ≠ 0 ∧ runs = decide (start / 8 + bytes + 1 = 1) ∧
      buf' = xMBUtilSetBits buf₁ (start / 8 + bytes) ((usAddress - 1) % 8) (usNCoils % 8).toUInt8 (reg bytes)) ∨
    (usNCoils % 8 = 0 ∧ runs = decide (start / 8 + bytes = 1) ∧ buf' = buf₁) := by
  intro start bytes buf₁
  obtain ⟨hi, hpos⟩ := @writeCoilBytes_cursor reg ((usAddress - 1) % 8) bytes (start / 8) 0 buf
  unfold eMBRegCoilsCB at h
  dsimp only at h
  by_cases hin : (usAddress - 1).toNat + usNCoils.toNat ≤ 32
  · rw [if_pos hin] at h
    obtain ⟨hruns, hbuf⟩ := Prod.mk.inj (Option.some.inj h)
    by_cases hrest : usNCoils % 8 ≠ 0
    · rw [if_pos hrest] at hruns hbuf
      rw [hi] at hruns hbuf
      rw [hpos, Nat.zero_add] at hbuf
      exact Or.inl ⟨hrest, hruns.symm, hbuf.symm⟩
    · rw [if_neg hrest] at hruns hbuf
      rw [hi] at hruns
      exact Or.inr ⟨not_not.1 hrest, hruns.symm, hbuf.symm⟩
  · rw [if_neg hin] at h
    cases h

theorem coils_rest : usNCoils % 8 = 0 ↔ usNCoils.toNat % 8 = 0 := by
  rw [← UInt16.toNat_inj, UInt16.toNat_mod]
  rfl

/-- The cursor stands on 1 where the write began in the first byte and had at
most 8 coils. -/
theorem coils_runs_iff (h : CoilsAccepted reg usAddress usNCoils buf runs buf') :
    runs = true ↔ (usAddress - 1).toNat < 8 ∧ usNCoils.toNat ≤ 8 := by
  have hone : 1 ≤ usNCoils.toNat := UInt16.le_iff_toNat_le.1 h.count
  obtain ⟨hrest, hruns, _⟩ | ⟨hrest, hruns, _⟩ := coils_cases h.served
  · rw [ne_eq, coils_rest] at hrest
    rw [hruns, decide_eq_true_eq]
    omega
  · rw [coils_rest] at hrest
    rw [hruns, decide_eq_true_eq]
    omega

/-- A write from coil 0 within the first byte puts the request's bit there. -/
theorem coils_first (h : CoilsAccepted reg usAddress usNCoils buf runs buf') (hstart : (usAddress - 1).toNat = 0)
    (hle : usNCoils.toNat ≤ 8) : buf' 0 &&& 1 = reg 0 &&& 1 := by
  have hone : 1 ≤ usNCoils.toNat := UInt16.le_iff_toNat_le.1 h.count
  have hzero : usAddress - 1 = 0 := UInt16.toNat_inj.1 hstart
  obtain ⟨hrest, _, hbuf⟩ | ⟨hrest, _, hbuf⟩ := coils_cases h.served
  · -- fewer than 8 coils: nothing but the rest is written
    rw [ne_eq, coils_rest] at hrest
    have hbytes : usNCoils.toNat / 8 = 0 := by omega
    have hmod : (usNCoils % 8).toUInt8.toNat = usNCoils.toNat := by
      rw [UInt16.toNat_toUInt8, UInt16.toNat_mod]
      change usNCoils.toNat % 8 % 256 = _
      omega
    rw [hbuf, hbytes, hzero]
    refine setBits_first (UInt8.le_iff_toNat_le.2 ?_) (UInt8.le_iff_toNat_le.2 ?_) _ _
    · rw [hmod]
      exact hone
    · rw [hmod]
      exact hle
  · -- exactly 8 coils: one whole byte
    rw [coils_rest] at hrest
    have hbytes : usNCoils.toNat / 8 = 1 := by omega
    rw [hbuf, hbytes, hzero]
    exact setBits_first (by decide) (by decide) buf (reg 0)

theorem coilsOnTarget_iff (h : CoilsAccepted reg usAddress usNCoils buf runs buf') :
    CoilsOnTarget reg usAddress usNCoils runs buf' ↔ CoilsWithin usAddress usNCoils := by
  have hone : 1 ≤ usNCoils.toNat := UInt16.le_iff_toNat_le.1 h.count
  have hwrites : Writes usAddress usNCoils 0 ↔ (usAddress - 1).toNat = 0 := by
    unfold Writes
    omega
  rw [CoilsOnTarget, hwrites, coils_runs_iff h]
  constructor
  · rintro ⟨htarget, _⟩
    refine ⟨fun hstart => (htarget.2 hstart).2, fun hpos hlt => ?_⟩
    by_contra hle
    exact absurd (htarget.1 ⟨hlt, by omega⟩) (by omega)
  · rintro ⟨hfirst, hbehind⟩
    have htarget : (usAddress - 1).toNat < 8 ∧ usNCoils.toNat ≤ 8 ↔ (usAddress - 1).toNat = 0 := by
      constructor
      · rintro ⟨hlt, hle⟩
        by_contra hpos
        exact absurd (hbehind (Nat.pos_of_ne_zero hpos) hlt) (by omega)
      · intro hstart
        exact ⟨by omega, hfirst hstart⟩
    exact ⟨htarget, fun hruns => coils_first h (htarget.1 hruns) hruns.2⟩

end

/-! Registers. -/

theorem holding_runs_iff {reg : Nat → UInt8} {usAddress usNRegs : UInt16} {buf buf' : Nat → UInt16} {runs : Bool}
    (h : HoldingAccepted reg usAddress usNRegs buf runs buf') :
    runs = true ↔ (usAddress - 1).toNat + usNRegs.toNat = 1 := by
  have hserved := h.served
  unfold eMBRegHoldingCB at hserved
  dsimp only at hserved
  by_cases hin : (usAddress - 1).toNat + usNRegs.toNat ≤ 32
  · rw [if_pos hin] at hserved
    rw [← (Prod.mk.inj (Option.some.inj hserved)).1, writeHoldingRegs_cursor, decide_eq_true_eq]
  · rw [if_neg hin] at hserved
    cases hserved

/-! The requests of a poll. -/

section
variable {reg : Nat → UInt8} {usAddress count : UInt16} {s : State} {runs : Bool}

theorem mbWriteCoils_accepted {buf' : Nat → UInt8}
    (h : CoilsAccepted reg usAddress count (mbDataCopy s).modbus.ucSCoilBuf runs buf') :
    mbWriteCoils reg usAddress count s = coilsWritten runs buf' s := by
  have hlimit : count ≤ 0x7B0 := by
    have hserved := h.served
    unfold eMBRegCoilsCB at hserved
    dsimp only at hserved
    split at hserved
    · exact UInt16.le_iff_toNat_le.2 (le_trans (by omega) (by decide : 32 ≤ 0x7B0))
    · cases hserved
  unfold mbWriteCoils
  dsimp only
  rw [if_pos ⟨h.count, hlimit⟩, h.served]
  rfl

theorem mbWriteHolding_accepted {buf' : Nat → UInt16}
    (h : HoldingAccepted reg usAddress count (mbDataCopy s).modbus.usSRegHoldBuf runs buf') :
    mbWriteHolding reg usAddress count s = holdingWritten runs buf' s := by
  have hlimit : count ≤ 0x78 := by
    have hserved := h.served
    unfold eMBRegHoldingCB at hserved
    dsimp only at hserved
    split at hserved
    · exact UInt16.le_iff_toNat_le.2 (le_trans (by omega) (by decide : 32 ≤ 0x78))
    · cases hserved
  unfold mbWriteHolding
  dsimp only
  rw [if_pos ⟨h.count, hlimit⟩, h.served]
  rfl

end

/-- **Modbus writes act on their target** exactly when a write of coils that
begins in the first byte stays there if and only if it begins with coil 0, and a
write from register 0 is of that register alone. A poll stores an accepted request
and runs the action or not. -/
theorem modbus_writes_iff (reg : Nat → UInt8) (usAddress count : UInt16) (runs : Bool) :
    (∀ buf buf' : Nat → UInt8, CoilsAccepted reg usAddress count buf runs buf' →
      (CoilsOnTarget reg usAddress count runs buf' ↔ CoilsWithin usAddress count)) ∧
    (∀ buf buf' : Nat → UInt16, HoldingAccepted reg usAddress count buf runs buf' →
      ((runs = true ↔ Writes usAddress count 0) ↔ ((usAddress - 1).toNat = 0 → count.toNat = 1))) ∧
    ∀ s : State,
      (∀ buf', CoilsAccepted reg usAddress count (mbDataCopy s).modbus.ucSCoilBuf runs buf' →
        mbWriteCoils reg usAddress count s = coilsWritten runs buf' s) ∧
      ∀ buf', HoldingAccepted reg usAddress count (mbDataCopy s).modbus.usSRegHoldBuf runs buf' →
        mbWriteHolding reg usAddress count s = holdingWritten runs buf' s := by
  refine ⟨fun buf buf' h => coilsOnTarget_iff h, fun buf buf' h => ?_, fun s => ?_⟩
  · have hone : 1 ≤ count.toNat := UInt16.le_iff_toNat_le.1 h.count
    rw [holding_runs_iff h, Writes]
    omega
  · exact ⟨fun buf' h => mbWriteCoils_accepted h, fun buf' h => mbWriteHolding_accepted h⟩

/-- A close command for coil 0 alone, and one for register 0 alone. -/
theorem modbus_writes_sample :
    CoilsOnTarget (fun _ => 0) 1 1 true (xMBUtilSetBits (fun _ => 0xFF) 0 0 1 0) ∧
      (true = true ↔ Writes 1 1 0) := by
  refine ⟨((modbus_writes_iff (fun _ => 0) 1 1 true).1 (fun _ => 0xFF) _ ⟨by decide, rfl⟩).2 (by decide), ?_⟩
  exact ((modbus_writes_iff (fun _ => 0) 1 1 true).2.1 (fun _ => 0) _ ⟨by decide, rfl⟩).2 (by decide)

/-- Coils 0 to 15 are written and no valve action runs; coils 1 and 2 are
written and one runs; registers 0 and 1 are written and none runs. -/
theorem modbus_writes_fail :
    (∃ buf', CoilsAccepted (fun _ => 0) 1 16 (fun _ => 0) false buf' ∧ Writes 1 16 0) ∧
    (∃ buf', CoilsAccepted (fun _ => 0) 2 2 (fun _ => 0) true buf' ∧ ¬ Writes 2 2 0) ∧
    (∃ buf', HoldingAccepted (fun _ => 0) 1 2 (fun _ => 0) false buf' ∧ Writes 1 2 0) ∧
    ¬ ((∀ (reg : Nat → UInt8) (usAddress usNCoils : UInt16) (buf : Nat → UInt8) (runs : Bool) (buf' : Nat → UInt8),
        CoilsAccepted reg usAddress usNCoils buf runs buf' → CoilsOnTarget reg usAddress usNCoils runs buf') ∧
      ∀ (reg : Nat → UInt8) (usAddress usNRegs : UInt16) (buf : Nat → UInt16) (runs : Bool) (buf' : Nat → UInt16),
        HoldingAccepted reg usAddress usNRegs buf runs buf' → (runs = true ↔ Writes usAddress usNRegs 0)) := by
  have hmissed : CoilsAccepted (fun _ => 0) 1 16 (fun _ => 0) false _ := ⟨by decide, rfl⟩
  refine ⟨⟨_, hmissed, by decide⟩, ⟨_, ⟨by decide, rfl⟩, by decide⟩, ⟨_, ⟨by decide, rfl⟩, by decide⟩, ?_⟩
  rintro ⟨hcoils, _⟩
  exact absurd ((hcoils _ _ _ _ _ _ hmissed).1.2 (by decide)) (by decide)

end Aqualarm
