import Aqualarm.Lib.Decimal

/-
  Decimal text in memory: the bytes of a printed integer with the terminator of
  a C string behind them, their length, and what `atol` reads from memory that
  starts with them.
-/

namespace Lib

/-- The byte of an ASCII character. -/
def byteOf (c : Char) : UInt8 := UInt8.ofNat c.toNat

/-- The character of a byte. -/
def charOf (b : UInt8) : Char := Char.ofNat b.toNat

@[simp] theorem byteOf_charOf (b : UInt8) : byteOf (charOf b) = b := by
  have hvalid : b.toNat.isValidChar := Or.inl (by have := b.toNat_lt; omega)
  have hcode : (Char.ofNat b.toNat).toNat = b.toNat := by
    rw [Char.ofNat, dif_pos hvalid]
    rfl
  rw [byteOf, charOf, hcode, UInt8.ofNat_toNat]

theorem charOf_byteOf {c : Char} (h : c.toNat < 256) : charOf (byteOf c) = c := by
  rw [charOf, byteOf, UInt8.toNat_ofNat_of_lt' h, Char.ofNat_toNat]

/-- A text with its terminator over the front of a buffer: what a `sprintf`
leaves there. -/
def writeString (text buf : List UInt8) : List UInt8 := text ++ 0 :: buf.drop (text.length + 1)

/-- `strlen`. -/
def strlen (mem : List UInt8) : Nat := (mem.takeWhile (· ≠ 0)).length

/-- The length of a written text is found again. -/
theorem strlen_writeString {text : List UInt8} (h : 0 ∉ text) (buf : List UInt8) :
    strlen (writeString text buf) = text.length := by
  have hall : ∀ b ∈ text, (decide (b ≠ 0)) = true := fun b hb => by
    simpa using fun h0 : b = 0 => h (h0 ▸ hb)
  rw [strlen, writeString, List.takeWhile_append_of_pos hall, List.takeWhile_cons_of_neg (by simp), List.append_nil]

theorem take_strlen_writeString {text : List UInt8} (h : 0 ∉ text) (buf : List UInt8) :
    (writeString text buf).take (strlen (writeString text buf)) = text := by
  rw [strlen_writeString h, writeString, List.take_left]

/-! Reading. -/

/-- The ASCII digits. -/
def isDigitByte (b : UInt8) : Bool := 48 ≤ b ∧ b ≤ 57

/-- `isspace`. -/
def isSpaceByte (b : UInt8) : Bool := b = 32 ∨ 9 ≤ b ∧ b ≤ 13

/-- The value of the longest digit prefix. -/
def readDigitBytes (mem : List UInt8) : Nat :=
  (mem.takeWhile isDigitByte).foldl (fun value b => 10 * value + (b.toNat - 48)) 0

/-- `atol` on memory. -/
def atolBytes (mem : List UInt8) : Int :=
  match mem.dropWhile isSpaceByte with
  | 45 :: rest => -(readDigitBytes rest : Int)
  | 43 :: rest => readDigitBytes rest
  | rest => readDigitBytes rest

/-- The bytes of printed text. -/
def printIntBytes (v : Int) : List UInt8 := (printInt v).map byteOf

/-- A digit is one of the bytes from `0` to `9`. -/
theorem toNat_byteOf_digit {c : Char} (h : c.isDigit = true) :
    (byteOf c).toNat = c.toNat ∧ 48 ≤ c.toNat ∧ c.toNat ≤ 57 := by
  have hrange : 48 ≤ c.toNat ∧ c.toNat ≤ 57 := Char.isDigit_iff_toNat.1 h
  have hlt : c.toNat < 256 := by omega
  exact ⟨UInt8.toNat_ofNat_of_lt' hlt, hrange⟩

theorem isDigitByte_byteOf {c : Char} (h : c.isDigit = true) : isDigitByte (byteOf c) = true := by
  obtain ⟨hb, h0, h9⟩ := toNat_byteOf_digit h
  simp only [isDigitByte, UInt8.le_iff_toNat_le, hb, decide_eq_true_eq]
  exact ⟨h0, h9⟩

theorem isSpaceByte_of_isDigitByte {b : UInt8} (h : isDigitByte b = true) : isSpaceByte b = false := by
  simp only [isDigitByte, isSpaceByte, UInt8.le_iff_toNat_le, ← UInt8.toNat_inj, UInt8.reduceToNat,
    decide_eq_true_eq, decide_eq_false_iff_not] at h ⊢
  omega

theorem isDigit_toDigits (n : Nat) : ∀ c ∈ Nat.toDigits 10 n, c.isDigit = true :=
  fun _ hc => Nat.isDigit_of_mem_toDigits (by decide) (by decide) hc

theorem foldl_map_byteOf {cs : List Char} (h : ∀ c ∈ cs, c.isDigit = true) (value : Nat) :
    (cs.map byteOf).foldl (fun value b => 10 * value + (b.toNat - 48)) value = Nat.ofDigitChars 10 cs value := by
  induction cs generalizing value with
  | nil => rfl
  | cons c cs ih =>
    have hc : (byteOf c).toNat = c.toNat := (toNat_byteOf_digit (h c List.mem_cons_self)).1
    rw [List.map_cons, List.foldl_cons, hc, ih (fun d hd => h d (List.mem_cons_of_mem _ hd)),
      Nat.ofDigitChars_cons]
    rfl

/-- The digits of a number are read up to the first byte that is none. -/
theorem readDigitBytes_toDigits (n : Nat) {rest : List UInt8} (h : ∀ b ∈ rest.head?, isDigitByte b = false) :
    readDigitBytes ((Nat.toDigits 10 n).map byteOf ++ rest) = n := by
  have hdigits : ∀ b ∈ (Nat.toDigits 10 n).map byteOf, isDigitByte b = true := by
    simp only [List.mem_map]
    rintro _ ⟨c, hc, rfl⟩
    exact isDigitByte_byteOf (isDigit_toDigits n c hc)
  have hrest : rest.takeWhile isDigitByte = [] := by
    cases rest with
    | nil => rfl
    | cons b rest => exact List.takeWhile_cons_of_neg (by simp [h b rfl])
  rw [readDigitBytes, List.takeWhile_append_of_pos hdigits, hrest, List.append_nil,
    foldl_map_byteOf (isDigit_toDigits n), Nat.ofDigitChars_ten_toDigits]

/-- Memory that starts with a digit is read as its digits. -/
theorem atolBytes_of_digit {b : UInt8} {mem : List UInt8} (h : isDigitByte b = true) :
    atolBytes (b :: mem) = readDigitBytes (b :: mem) := by
  have hd : (b :: mem).dropWhile isSpaceByte = b :: mem :=
    List.dropWhile_cons_of_neg (by simp [isSpaceByte_of_isDigitByte h])
  unfold atolBytes
  rw [hd]
  split
  · rename_i heq
    cases heq
    exact absurd h (by decide)
  · rename_i heq
    cases heq
    exact absurd h (by decide)
  · rfl

/-- **Round trip in memory.** Whatever stands behind the printed text, `atol`
reads the number back, provided the next byte is not a digit. -/
theorem atolBytes_printIntBytes (v : Int) {rest : List UInt8} (h : ∀ b ∈ rest.head?, isDigitByte b = false) :
    atolBytes (printIntBytes v ++ rest) = v := by
  cases v with
  | ofNat n =>
    have hread := readDigitBytes_toDigits n h
    obtain ⟨c, ds, heq, hc⟩ := toDigits_head_isDigit n
    rw [printIntBytes, printInt]
    rw [heq, List.map_cons, List.cons_append] at hread ⊢
    rw [atolBytes_of_digit (isDigitByte_byteOf hc), hread]
    rfl
  | negSucc n =>
    have hd : (printIntBytes (.negSucc n) ++ rest).dropWhile isSpaceByte =
        45 :: ((Nat.toDigits 10 (n + 1)).map byteOf ++ rest) :=
      List.dropWhile_cons_of_neg (by decide)
    simp only [atolBytes, hd, readDigitBytes_toDigits (n + 1) h]
    rfl

theorem zero_not_mem_printIntBytes (v : Int) : 0 ∉ printIntBytes v := by
  have hdigit : ∀ c : Char, c.isDigit = true → byteOf c ≠ 0 := fun c hc h0 => by
    obtain ⟨hb, h48, -⟩ := toNat_byteOf_digit hc
    rw [h0] at hb
    exact absurd (hb ▸ h48) (by decide)
  cases v with
  | ofNat n =>
    simp only [printIntBytes, printInt, List.mem_map, not_exists, not_and]
    exact fun c hc => hdigit c (isDigit_toDigits n c hc)
  | negSucc n =>
    simp only [printIntBytes, printInt, List.map_cons, List.mem_cons, List.mem_map, not_or, not_exists, not_and]
    exact ⟨by decide, fun c hc => hdigit c (isDigit_toDigits _ c hc)⟩

theorem printIntBytes_neg {v : Int} (h : v < 0) :
    printIntBytes v = 45 :: (Nat.toDigits 10 v.natAbs).map byteOf := by
  obtain ⟨n, rfl⟩ := Int.eq_negSucc_of_lt_zero h
  rfl

theorem printIntBytes_nonneg {v : Int} (h : 0 ≤ v) : printIntBytes v = (Nat.toDigits 10 v.natAbs).map byteOf := by
  obtain ⟨n, rfl⟩ := Int.eq_ofNat_of_zero_le h
  rfl

/-- The characters of the bytes are the text again. -/
theorem map_charOf_printIntBytes (v : Int) : (printIntBytes v).map charOf = printInt v := by
  have hdigit : ∀ c : Char, c.isDigit = true → charOf (byteOf c) = c := fun c hc =>
    charOf_byteOf (by have := toNat_byteOf_digit hc; omega)
  have htext : ∀ n, ((Nat.toDigits 10 n).map byteOf).map charOf = Nat.toDigits 10 n := fun n => by
    have hid : (Nat.toDigits 10 n).map (charOf ∘ byteOf) = (Nat.toDigits 10 n).map id :=
      List.map_congr_left fun c hc => hdigit c (isDigit_toDigits n c hc)
    rw [List.map_map, hid, List.map_id]
  cases v with
  | ofNat n => exact htext n
  | negSucc n =>
    simp only [printIntBytes, printInt, List.map_cons, htext]
    rfl

theorem length_printIntBytes (v : Int) : (printIntBytes v).length = (printInt v).length := List.length_map _

end Lib
