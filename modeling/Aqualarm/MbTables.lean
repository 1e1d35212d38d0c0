import Aqualarm.MbFunctions
import Aqualarm.ModbusWrites
import Aqualarm.MbCrc

/-
  The tables of the Modbus slave as bits and registers.

  What is proved:
    1. `coils_write_spec` — which coils an accepted write changes, and to what:
       those it names, and above them every bit left over in the last byte that
       is set.
    2. `bits_read_spec` — a read of coils or discrete inputs returns the bits it
       names, the rest of the last byte clear.
    3. `coils_write_read` — what is read after a write, for any two ranges.
    4. `holding_write_read` — the same for holding registers.
-/

namespace Aqualarm

/-- Bit `k` of a table of bits, eight to a byte, lowest first. -/
def bitAt (byteBuf : Nat → UInt8) (k : Nat) : Bool := (byteBuf (k / 8)).toNat.testBit (k % 8)

/-! Two neighbouring bytes as a word. -/

theorem testBit_byte_of_ge (b : UInt8) {i : Nat} (hi : 8 ≤ i) : b.toNat.testBit i = false :=
  Nat.testBit_lt_two_pow (b.toNat_lt.trans_le (Nat.pow_le_pow_right (by decide) hi))

theorem testBit_word (lo hi : UInt8) (m : Nat) :
    (lo.toUInt16 ||| hi.toUInt16 <<< 8).toNat.testBit m =
      if m < 8 then lo.toNat.testBit m else hi.toNat.testBit (m - 8) := by
  have hshift : (hi.toUInt16 <<< 8).toNat = hi.toNat <<< 8 := by
    have := hi.toNat_lt
    rw [UInt16.toNat_shiftLeft, UInt8.toNat_toUInt16, show UInt16.toNat 8 % 16 = 8 from rfl, Nat.shiftLeft_eq]
    omega
  rw [UInt16.toNat_or, hshift, UInt8.toNat_toUInt16, Nat.testBit_or, Nat.testBit_shiftLeft]
  by_cases hm : m < 8
  · rw [if_pos hm]
    simp [hm]
  · rw [if_neg hm, testBit_byte_of_ge lo (by omega)]
    simp [Nat.le_of_not_lt hm]

/-- The word at byte `start` holds the 16 bits from there on. -/
theorem testBit_window (byteBuf : Nat → UInt8) (start : Nat) {m : Nat} (hm : m < 16) :
    ((byteBuf start).toUInt16 ||| (byteBuf (start + 1)).toUInt16 <<< 8).toNat.testBit m =
      bitAt byteBuf (8 * start + m) := by
  rw [testBit_word, bitAt]
  by_cases h : m < 8
  · rw [if_pos h]
    congr 2
    · congr 1
      omega
    · omega
  · rw [if_neg h]
    congr 2
    · congr 1
      omega
    · omega

theorem testBit_toUInt8 (w : UInt16) (m : Nat) : w.toUInt8.toNat.testBit m = (decide (m < 8) && w.toNat.testBit m) := by
  rw [UInt16.toNat_toUInt8, Nat.testBit_mod_two_pow]

variable {offset : UInt16}

theorem preBits (h : offset.toNat < 8) : offset / 8 = 0 ∧ (offset - offset / 8 * 8).toNat % 16 = offset.toNat := by
  have hzero : offset / 8 = 0 := by
    apply UInt16.toNat_inj.1
    rw [UInt16.toNat_div]
    exact Nat.div_eq_of_lt h
  refine ⟨hzero, ?_⟩
  rw [hzero]
  simp
  omega

/-- `xMBUtilGetBits` for eight bits. -/
theorem testBit_getBits (byteBuf : Nat → UInt8) (start : Nat) (h : offset.toNat < 8) {j : Nat} (hj : j < 8) :
    (xMBUtilGetBits byteBuf start offset 8).toNat.testBit j = bitAt byteBuf (8 * start + (offset.toNat + j)) := by
  obtain ⟨hzero, hpre⟩ := preBits h
  have hmask : (1 <<< (8 : UInt8).toUInt16 - 1 : UInt16).toNat = 2 ^ 8 - 1 := by decide
  unfold xMBUtilGetBits
  dsimp only
  rw [testBit_toUInt8, UInt16.toNat_and, Nat.testBit_and, hmask, Nat.testBit_two_pow_sub_one, UInt16.toNat_shiftRight,
    hpre, Nat.testBit_shiftRight, hzero]
  simp only [hj, decide_true, Bool.true_and, Bool.and_true]
  exact testBit_window byteBuf start (by omega)

theorem bitAt_update (byteBuf : Nat → UInt8) (i : Nat) (b : UInt8) (k : Nat) :
    bitAt (Function.update byteBuf i b) k = if k / 8 = i then b.toNat.testBit (k % 8) else bitAt byteBuf k := by
  unfold bitAt
  by_cases h : k / 8 = i
  · rw [if_pos h, h, Function.update_self]
  · rw [if_neg h, Function.update_of_ne h]

/-- A word shifted up, bit by bit. -/
theorem testBit_shiftLeft (w : UInt16) {k : UInt16} (hk : k.toNat < 8) {m : Nat} (hm : m < 16) :
    (w <<< k).toNat.testBit m = (decide (k.toNat ≤ m) && w.toNat.testBit (m - k.toNat)) := by
  rw [UInt16.toNat_shiftLeft, Nat.mod_eq_of_lt (by omega : k.toNat < 16), Nat.testBit_mod_two_pow,
    Nat.testBit_shiftLeft, decide_eq_true hm, Bool.true_and]

theorem testBit_fieldMask {n : UInt8} (hn : n.toNat ≤ 8) (i : Nat) :
    (1 <<< n.toUInt16 - 1 : UInt16).toNat.testBit i = decide (i < n.toNat) := by
  have hall : ∀ j : Fin 9, (1 <<< (UInt8.ofNat j).toUInt16 - 1 : UInt16).toNat = 2 ^ j.val - 1 := by decide
  have hmask : (1 <<< n.toUInt16 - 1 : UInt16).toNat = 2 ^ n.toNat - 1 := by simpa using hall ⟨n.toNat, by omega⟩
  rw [hmask, Nat.testBit_two_pow_sub_one]

theorem testBit_not (w : UInt16) {m : Nat} (hm : m < 16) : (~~~w).toNat.testBit m = !w.toNat.testBit m := by
  have hnot : (~~~w).toBitVec.getLsbD m = !w.toBitVec.getLsbD m := by simp [hm]
  exact hnot

/-- `xMBUtilSetBits`: the field gets the value, and what of the value does not fit
the field is added to the bits above it. -/
theorem bitAt_setBits (byteBuf : Nat → UInt8) (start : Nat) (h : offset.toNat < 8) {n : UInt8} (hn : n.toNat ≤ 8)
    (value : UInt8) (k : Nat) :
    bitAt (xMBUtilSetBits byteBuf start offset n value) k =
      if 8 * start + offset.toNat ≤ k ∧ k < 8 * start + offset.toNat + n.toNat then
        value.toNat.testBit (k - (8 * start + offset.toNat))
      else (bitAt byteBuf k ||
        (decide (8 * start + offset.toNat ≤ k) && value.toNat.testBit (k - (8 * start + offset.toNat)))) := by
  obtain ⟨hzero, -⟩ := preBits h
  have hpre : offset - offset / 8 * 8 = offset := by
    rw [hzero]
    simp
  unfold xMBUtilSetBits
  dsimp only
  rw [hpre, hzero, UInt16.toNat_zero, Nat.add_zero]
  generalize hw : ((byteBuf start).toUInt16 ||| (byteBuf (start + 1)).toUInt16 <<< 8) &&&
    ~~~((1 <<< n.toUInt16 - 1) <<< offset) ||| value.toUInt16 <<< offset = w
  -- the new word, bit by bit
  have hbit (m : Nat) (hm : m < 16) : w.toNat.testBit m =
      ((bitAt byteBuf (8 * start + m) && !(decide (offset.toNat ≤ m) && decide (m - offset.toNat < n.toNat))) ||
        (decide (offset.toNat ≤ m) && value.toNat.testBit (m - offset.toNat))) := by
    rw [← hw, UInt16.toNat_or, UInt16.toNat_and, Nat.testBit_or, Nat.testBit_and, testBit_not _ hm,
      testBit_shiftLeft _ h hm, testBit_shiftLeft _ h hm, testBit_fieldMask hn, testBit_window _ _ hm,
      UInt8.toNat_toUInt16]
  rw [bitAt_update, bitAt_update, testBit_toUInt8, testBit_toUInt8, toNat_high, ← Nat.shiftRight_eq_div_pow w.toNat 8,
    Nat.testBit_shiftRight, decide_eq_true (Nat.mod_lt k (by decide)), Bool.true_and, Bool.true_and]
  have hfield (m : Nat) (hm : 8 * start + m = k) (hlt : m < 16) : w.toNat.testBit m =
      if 8 * start + offset.toNat ≤ k ∧ k < 8 * start + offset.toNat + n.toNat then
        value.toNat.testBit (k - (8 * start + offset.toNat))
      else (bitAt byteBuf k ||
        (decide (8 * start + offset.toNat ≤ k) && value.toNat.testBit (k - (8 * start + offset.toNat)))) := by
    subst hm
    rw [hbit m hlt, show 8 * start + m - (8 * start + offset.toNat) = m - offset.toNat by omega]
    by_cases hlow : offset.toNat ≤ m
    · by_cases hhigh : m - offset.toNat < n.toNat
      · rw [if_pos ⟨by omega, by omega⟩]
        simp [hlow, hhigh]
      · rw [if_neg (by omega)]
        simp [hlow, hhigh]
    · rw [if_neg (by omega)]
      simp [hlow]
  by_cases hfirst : k / 8 = start
  · rw [if_neg (by omega), if_pos hfirst]
    exact hfield (k % 8) (by omega) (by omega)
  · by_cases hsecond : k / 8 = start + 1
    · rw [if_pos hsecond]
      exact hfield (8 + k % 8) (by omega) (by omega)
    · -- outside the word: a value of eight bits does not reach it
      rw [if_neg hsecond, if_neg hfirst, if_neg (by omega)]
      by_cases hlow : 8 * start + offset.toNat ≤ k
      · rw [testBit_byte_of_ge value (by omega)]
        simp
      · simp [hlow]

/-! Coils and discrete inputs. -/

/-- Whole bytes. -/
theorem bitAt_writeCoilBytes (reg : Nat → UInt8) (h : offset.toNat < 8) (n start pos : Nat) (byteBuf : Nat → UInt8)
    (k : Nat) :
    bitAt (writeCoilBytes reg offset n start pos byteBuf).2.2 k =
      if 8 * start + offset.toNat ≤ k ∧ k < 8 * start + offset.toNat + 8 * n then
        bitAt (fun i => reg (pos + i)) (k - (8 * start + offset.toNat))
      else bitAt byteBuf k := by
  induction n generalizing start pos byteBuf with
  | zero => rw [writeCoilBytes, if_neg (by omega)]
  | succ n ih =>
    rw [writeCoilBytes, ih, bitAt_setBits byteBuf start h (by decide)]
    change (if _ then _ else if 8 * start + offset.toNat ≤ k ∧ k < 8 * start + offset.toNat + 8 then _ else _) = _
    by_cases hfirst : 8 * start + offset.toNat ≤ k ∧ k < 8 * start + offset.toNat + 8
    · -- the byte this round writes
      rw [if_neg (by omega), if_pos hfirst, if_pos (by omega), bitAt, Nat.div_eq_of_lt (by omega), Nat.mod_eq_of_lt (by omega), Nat.add_zero]
    · by_cases hrest : 8 * (start + 1) + offset.toNat ≤ k ∧ k < 8 * (start + 1) + offset.toNat + 8 * n
      · rw [if_pos hrest, if_pos (by omega), bitAt, bitAt, show k - (8 * start + offset.toNat) = 8 + (k - (8 * (start + 1) + offset.toNat)) by omega,
          Nat.add_div_left _ (by decide), Nat.add_mod_left,
          show pos + 1 + (k - (8 * (start + 1) + offset.toNat)) / 8 =
            pos + ((k - (8 * (start + 1) + offset.toNat)) / 8).succ by omega]
      · rw [if_neg hrest, if_neg hfirst, if_neg (by omega)]
        by_cases hlow : 8 * start + offset.toNat ≤ k
        · rw [testBit_byte_of_ge _ (by omega)]
          simp
        · simp [hlow]

theorem bitOffset_toNat (w : UInt16) : (w % 8).toNat = w.toNat % 8 := UInt16.toNat_mod ..

/-- The bits of one byte of the data. -/
theorem bitAt_last (reg : Nat → UInt8) {start bytes k : Nat} (hlow : start + 8 * bytes ≤ k)
    (hhigh : k < start + 8 * bytes + 8) :
    (reg bytes).toNat.testBit (k - (start + 8 * bytes)) = bitAt reg (k - start) := by
  rw [bitAt, show k - start = 8 * bytes + (k - (start + 8 * bytes)) by omega, Nat.mul_add_div (by decide),
    Nat.mul_add_mod, Nat.div_eq_of_lt (by omega : k - (start + 8 * bytes) < 8), Nat.add_zero,
    Nat.mod_eq_of_lt (by omega : k - (start + 8 * bytes) < 8)]

/-- **A write of coils**, bit by bit: the coils it names, and above them those set
by bits left over in the last byte. -/
theorem coils_write_spec {reg byteBuf byteBuf' : Nat → UInt8} {usAddress usNCoils : UInt16} {runs : Bool}
    (h : eMBRegCoilsCB reg usAddress usNCoils byteBuf = some (runs, byteBuf')) (k : Nat) :
    bitAt byteBuf' k =
      if (usAddress - 1).toNat ≤ k ∧ k < (usAddress - 1).toNat + usNCoils.toNat then
        bitAt reg (k - (usAddress - 1).toNat)
      else (bitAt byteBuf k ||
        (decide ((usAddress - 1).toNat ≤ k ∧ k < (usAddress - 1).toNat + (usNCoils.toNat + 7) / 8 * 8) &&
          bitAt reg (k - (usAddress - 1).toNat))) := by
  have hlt : ((usAddress - 1) % 8).toNat < 8 := by
    rw [bitOffset_toNat]
    omega
  have hpos : 8 * ((usAddress - 1).toNat / 8) + ((usAddress - 1) % 8).toNat = (usAddress - 1).toNat := by
    rw [bitOffset_toNat]
    omega
  have hwhole := bitAt_writeCoilBytes reg hlt (usNCoils.toNat / 8) ((usAddress - 1).toNat / 8) 0 byteBuf
  simp only [hpos, Nat.zero_add] at hwhole
  obtain ⟨hrest, -, rfl⟩ | ⟨hrest, -, rfl⟩ := coils_cases h
  · -- the rest of the coils, behind the whole bytes
    rw [ne_eq, coils_rest] at hrest
    have hn : (usNCoils % 8).toUInt8.toNat = usNCoils.toNat % 8 := by
      rw [UInt16.toNat_toUInt8, bitOffset_toNat]
      omega
    have hend : 8 * ((usAddress - 1).toNat / 8 + usNCoils.toNat / 8) + ((usAddress - 1) % 8).toNat =
        (usAddress - 1).toNat + 8 * (usNCoils.toNat / 8) := by omega
    rw [bitAt_setBits _ _ hlt (by omega), hn, hend, hwhole]
    by_cases hfield : (usAddress - 1).toNat + 8 * (usNCoils.toNat / 8) ≤ k ∧
        k < (usAddress - 1).toNat + 8 * (usNCoils.toNat / 8) + usNCoils.toNat % 8
    · rw [if_pos hfield, if_pos (by omega), bitAt_last reg (by omega) (by omega)]
    · rw [if_neg hfield]
      by_cases hlow : (usAddress - 1).toNat ≤ k ∧ k < (usAddress - 1).toNat + 8 * (usNCoils.toNat / 8)
      · rw [if_pos hlow, if_pos (by omega), decide_eq_false (by omega)]
        simp
      · rw [if_neg hlow, if_neg (by omega)]
        congr 1
        by_cases hover : (usAddress - 1).toNat + 8 * (usNCoils.toNat / 8) ≤ k
        · by_cases hbyte : k < (usAddress - 1).toNat + 8 * (usNCoils.toNat / 8) + 8
          · rw [decide_eq_true hover, decide_eq_true (by omega), bitAt_last reg (by omega) (by omega)]
          · have habove : ¬ ((usAddress - 1).toNat ≤ k ∧
                k < (usAddress - 1).toNat + (usNCoils.toNat + 7) / 8 * 8) := by omega
            rw [testBit_byte_of_ge _ (by omega), decide_eq_false habove, Bool.and_false, Bool.false_and]
        · have hbelow : ¬ ((usAddress - 1).toNat ≤ k ∧
              k < (usAddress - 1).toNat + (usNCoils.toNat + 7) / 8 * 8) := by omega
          rw [decide_eq_false hover, decide_eq_false hbelow, Bool.false_and, Bool.false_and]
  · rw [coils_rest] at hrest
    have hcount : 8 * (usNCoils.toNat / 8) = usNCoils.toNat := by omega
    rw [hwhole, hcount]
    by_cases hin : (usAddress - 1).toNat ≤ k ∧ k < (usAddress - 1).toNat + usNCoils.toNat
    · rw [if_pos hin, if_pos hin]
    · rw [if_neg hin, if_neg hin, decide_eq_false (by omega)]
      simp

theorem readBitBytes_apply (byteBuf : Nat → UInt8) (n start pos : Nat) (pucFrame : Nat → UInt8) (i : Nat) :
    readBitBytes byteBuf offset n start pos pucFrame i =
      if pos ≤ i ∧ i < pos + n then xMBUtilGetBits byteBuf (start + (i - pos)) offset 8 else pucFrame i := by
  induction n generalizing start pos pucFrame with
  | zero => rw [readBitBytes, if_neg (by omega)]
  | succ n ih =>
    rw [readBitBytes, ih]
    by_cases hrest : pos + 1 ≤ i ∧ i < pos + 1 + n
    · rw [if_pos hrest, if_pos (by omega), show start + 1 + (i - (pos + 1)) = start + (i - pos) by omega]
    · rw [if_neg hrest]
      by_cases hfirst : i = pos
      · rw [hfirst, Function.update_self, if_pos (by omega), Nat.sub_self, Nat.add_zero]
      · rw [Function.update_of_ne hfirst, if_neg (by omega)]

theorem testBit_shiftOut (b : UInt8) {n j : Nat} (hj : j < 8) :
    (shiftOut b n).toNat.testBit j = (decide (n + j < 8) && b.toNat.testBit j) := by
  rw [shiftOut, Nat.toUInt8_eq, Nat.toUInt8_eq, UInt8.toNat_ofNat', UInt8.toNat_ofNat', Nat.testBit_mod_two_pow,
    Nat.testBit_shiftRight, Nat.testBit_mod_two_pow, Nat.testBit_shiftLeft, decide_eq_true hj,
    decide_eq_true (Nat.le_add_right n j), Nat.add_sub_cancel_left, Bool.true_and, Bool.true_and]

/-- **A read of bits**: those it names, and the rest of the last byte clear. -/
theorem bits_read_spec {byteBuf : Nat → UInt8} {total pucRegBuffer : Nat} {usAddress usNBits : UInt16}
    {pucFrame pucFrame' : Nat → UInt8}
    (h : mbReadBits byteBuf total pucRegBuffer usAddress usNBits pucFrame = some pucFrame') {j : Nat}
    (hj : j < 8 * (usNBits.toNat / 8 + 1)) :
    bitAt (fun i => pucFrame' (pucRegBuffer + i)) j =
      (decide (j < usNBits.toNat) && bitAt byteBuf ((usAddress - 1).toNat + j)) := by
  unfold mbReadBits at h
  dsimp only at h
  by_cases hin : (usAddress - 1).toNat + usNBits.toNat ≤ total
  · rw [if_pos hin, Option.some.injEq] at h
    have hlt : ((usAddress - 1) % 8).toNat < 8 := by
      rw [bitOffset_toNat]
      omega
    have hbyte : readBitBytes byteBuf ((usAddress - 1) % 8) (usNBits.toNat / 8 + 1) ((usAddress - 1).toNat / 8)
        pucRegBuffer pucFrame (pucRegBuffer + j / 8) =
          xMBUtilGetBits byteBuf ((usAddress - 1).toNat / 8 + j / 8) ((usAddress - 1) % 8) 8 := by
      rw [readBitBytes_apply, if_pos (by omega), Nat.add_sub_cancel_left]
    have hbit : (xMBUtilGetBits byteBuf ((usAddress - 1).toNat / 8 + j / 8) ((usAddress - 1) % 8) 8).toNat.testBit
        (j % 8) = bitAt byteBuf ((usAddress - 1).toNat + j) := by
      rw [testBit_getBits byteBuf _ hlt (Nat.mod_lt j (by decide)), bitOffset_toNat]
      congr 1
      omega
    rw [← h, bitAt]
    by_cases hlast : j / 8 = usNBits.toNat / 8
    · -- the last byte, cut to what is left
      have hpos : pucRegBuffer + j / 8 = pucRegBuffer + (usNBits.toNat / 8 + 1) - 1 := by omega
      have hleft : decide (8 - usNBits.toNat % 8 + j % 8 < 8) = decide (j < usNBits.toNat) :=
        decide_eq_decide.2 (by omega)
      rw [← hpos, Function.update_self, testBit_shiftOut _ (Nat.mod_lt j (by decide)), hbyte, hbit, hleft]
    · rw [Function.update_of_ne (by omega), hbyte, hbit, decide_eq_true (by omega), Bool.true_and]
  · rw [if_neg hin] at h
    cases h

/-- Nothing but the reply's bytes is written. -/
theorem bits_read_frame {byteBuf : Nat → UInt8} {total pucRegBuffer : Nat} {usAddress usNBits : UInt16}
    {pucFrame pucFrame' : Nat → UInt8}
    (h : mbReadBits byteBuf total pucRegBuffer usAddress usNBits pucFrame = some pucFrame') {i : Nat}
    (hi : i < pucRegBuffer ∨ pucRegBuffer + usNBits.toNat / 8 < i) : pucFrame' i = pucFrame i := by
  unfold mbReadBits at h
  dsimp only at h
  by_cases hin : (usAddress - 1).toNat + usNBits.toNat ≤ total
  · rw [if_pos hin, Option.some.injEq] at h
    rw [← h, Function.update_of_ne (by omega), readBitBytes_apply, if_neg (by omega)]
  · rw [if_neg hin] at h
    cases h

/-- **Coils written and read back**, for any two ranges: a coil that was written
reads as the request said, and another one as before or as a bit left over in
the request's last byte. -/
theorem coils_write_read {reg byteBuf byteBuf' : Nat → UInt8} {usAddress usNCoils : UInt16} {runs : Bool}
    (hwrite : eMBRegCoilsCB reg usAddress usNCoils byteBuf = some (runs, byteBuf'))
    {pucRegBuffer : Nat} {usAddress' usNCoils' : UInt16} {pucFrame pucFrame' : Nat → UInt8}
    (hread : mbReadBits byteBuf' 32 pucRegBuffer usAddress' usNCoils' pucFrame = some pucFrame') {k : Nat}
    (hlow : (usAddress' - 1).toNat ≤ k) (hhigh : k < (usAddress' - 1).toNat + usNCoils'.toNat) :
    bitAt (fun i => pucFrame' (pucRegBuffer + i)) (k - (usAddress' - 1).toNat) =
      if Writes usAddress usNCoils k then bitAt reg (k - (usAddress - 1).toNat)
      else (bitAt byteBuf k ||
        (decide ((usAddress - 1).toNat ≤ k ∧ k < (usAddress - 1).toNat + (usNCoils.toNat + 7) / 8 * 8) &&
          bitAt reg (k - (usAddress - 1).toNat))) := by
  rw [bits_read_spec hread (by omega), decide_eq_true (by omega), Bool.true_and,
    Nat.add_sub_cancel' hlow, coils_write_spec hwrite]
  rfl

/-! Registers. -/

theorem writeHoldingRegs_apply (reg : Nat → UInt8) (n start pos : Nat) (regBuf : Nat → UInt16) (k : Nat) :
    (writeHoldingRegs reg n start pos regBuf).2 k =
      if start ≤ k ∧ k < start + n then
        (reg (pos + 2 * (k - start))).toUInt16 <<< 8 ||| (reg (pos + 2 * (k - start) + 1)).toUInt16
      else regBuf k := by
  induction n generalizing start pos regBuf with
  | zero => rw [writeHoldingRegs, if_neg (by omega)]
  | succ n ih =>
    rw [writeHoldingRegs, ih]
    by_cases hrest : start + 1 ≤ k ∧ k < start + 1 + n
    · rw [if_pos hrest, if_pos (by omega), show pos + 2 + 2 * (k - (start + 1)) = pos + 2 * (k - start) by omega]
    · rw [if_neg hrest]
      by_cases hfirst : k = start
      · rw [hfirst, Function.update_self, if_pos (by omega), Nat.sub_self]
        rfl
      · rw [Function.update_of_ne hfirst, if_neg (by omega)]

theorem readRegBytes_apply (regBuf : Nat → UInt16) (n start pos : Nat) (pucFrame : Nat → UInt8) (i : Nat) :
    readRegBytes regBuf n start pos pucFrame i =
      if pos ≤ i ∧ i < pos + 2 * n then
        if (i - pos) % 2 = 0 then (regBuf (start + (i - pos) / 2) >>> 8).toUInt8
        else (regBuf (start + (i - pos) / 2)).toUInt8
      else pucFrame i := by
  induction n generalizing start pos pucFrame with
  | zero => rw [readRegBytes, if_neg (by omega)]
  | succ n ih =>
    rw [readRegBytes, ih]
    by_cases hrest : pos + 2 ≤ i ∧ i < pos + 2 + 2 * n
    · have hin : pos ≤ i ∧ i < pos + 2 * (n + 1) := by omega
      have hreg : start + 1 + (i - (pos + 2)) / 2 = start + (i - pos) / 2 := by omega
      have hhalf : (i - (pos + 2)) % 2 = (i - pos) % 2 := by omega
      rw [if_pos hrest, if_pos hin, hreg, hhalf]
    · rw [if_neg hrest]
      by_cases hlow : i = pos + 1
      · have hin : pos ≤ i ∧ i < pos + 2 * (n + 1) := by omega
        have hodd : ¬ (i - pos) % 2 = 0 := by omega
        have hreg : start + (i - pos) / 2 = start := by omega
        rw [if_pos hin, if_neg hodd, hreg, hlow, Function.update_self]
      · rw [Function.update_of_ne hlow]
        by_cases hhigh : i = pos
        · have hin : pos ≤ i ∧ i < pos + 2 * (n + 1) := by omega
          have heven : (i - pos) % 2 = 0 := by omega
          have hreg : start + (i - pos) / 2 = start := by omega
          rw [if_pos hin, if_pos heven, hreg, hhigh, Function.update_self]
        · rw [Function.update_of_ne hhigh, if_neg (by omega)]

/-- **Registers written and read back**, for any two ranges: a register that was
written reads as the request's two bytes, another one as before. -/
theorem holding_write_read {reg : Nat → UInt8} {regBuf regBuf' : Nat → UInt16} {usAddress usNRegs : UInt16}
    {runs : Bool} (hwrite : eMBRegHoldingCB reg usAddress usNRegs regBuf = some (runs, regBuf'))
    {pucRegBuffer : Nat} {usAddress' usNRegs' : UInt16} {pucFrame pucFrame' : Nat → UInt8}
    (hread : mbReadRegs regBuf' 32 pucRegBuffer usAddress' usNRegs' pucFrame = some pucFrame') {k : Nat}
    (hlow : (usAddress' - 1).toNat ≤ k) (hhigh : k < (usAddress' - 1).toNat + usNRegs'.toNat) :
    frameWord pucFrame' (pucRegBuffer + 2 * (k - (usAddress' - 1).toNat)) =
      if Writes usAddress usNRegs k then frameWord reg (2 * (k - (usAddress - 1).toNat)) else regBuf k := by
  have hwritten : regBuf' k =
      if Writes usAddress usNRegs k then frameWord reg (2 * (k - (usAddress - 1).toNat)) else regBuf k := by
    unfold eMBRegHoldingCB at hwrite
    dsimp only at hwrite
    by_cases hin : (usAddress - 1).toNat + usNRegs.toNat ≤ 32
    · rw [if_pos hin] at hwrite
      rw [← (Prod.mk.inj (Option.some.inj hwrite)).2, writeHoldingRegs_apply]
      simp only [Nat.zero_add]
      rfl
    · rw [if_neg hin] at hwrite
      cases hwrite
  unfold mbReadRegs at hread
  dsimp only at hread
  by_cases hin : (usAddress' - 1).toNat + usNRegs'.toNat ≤ 32
  · rw [if_pos hin, Option.some.injEq] at hread
    have hreg : (usAddress' - 1).toNat + 2 * (k - (usAddress' - 1).toNat) / 2 = k := by omega
    have hreg' : (usAddress' - 1).toNat + (2 * (k - (usAddress' - 1).toNat) + 1) / 2 = k := by omega
    rw [← hwritten, ← hread, frameWord, readRegBytes_apply, readRegBytes_apply, if_pos (by omega), if_pos (by omega),
      Nat.add_sub_cancel_left, Nat.add_assoc, Nat.add_sub_cancel_left, if_pos (by omega), if_neg (by omega), hreg,
      hreg', word_of_bytes]
  · rw [if_neg hin] at hread
    cases hread

/-- Two registers from the third on, then eight from the first on. -/
theorem holding_write_read_sample :
    ∃ runs regBuf' pucFrame',
      eMBRegHoldingCB (fun i => [0x12, 0x34, 0x56, 0x78].getD i 0) 3 2 (fun _ => 0) = some (runs, regBuf') ∧
      mbReadRegs regBuf' 32 2 1 8 (fun _ => 0) = some pucFrame' ∧ frameWord pucFrame' 8 = 0x5678 := by
  obtain ⟨⟨runs, regBuf'⟩, hwrite⟩ :
      ∃ r, eMBRegHoldingCB (fun i => [0x12, 0x34, 0x56, 0x78].getD i 0) 3 2 (fun _ => 0) = some r := ⟨_, rfl⟩
  obtain ⟨pucFrame', hread⟩ : ∃ f, mbReadRegs regBuf' 32 2 1 8 (fun _ => 0) = some f := ⟨_, rfl⟩
  have hword := @holding_write_read _ _ _ _ _ _ hwrite _ _ _ _ _ hread 3 (by decide) (by decide)
  exact ⟨runs, regBuf', pucFrame', hwrite, hread, hword.trans (by decide)⟩

end Aqualarm
