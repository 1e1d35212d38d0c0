import Aqualarm.Lib.Crc
import Mathlib.Data.List.GetD

/-
  mbcrc.c: the check sum of a serial frame, from two tables.

  What is proved:
    1. `crcBits_fold` — the tables are those of the register of x^16 + x^15 +
       x^2 + 1, fed with each byte from its lowest bit on, as the line sends it.
    2. `usMBCRC16_appended` — with its own check sum behind it, low byte first, a
       frame has check sum 0, and with any other two bytes it has not.
    3. `damaged_not_zero` — where a frame of up to 256 bytes has check sum 0, one
       that differs from it in a burst of up to 16 bits, in an odd number of bits
       or in two bits has not.
-/

namespace Aqualarm

open Lib

def aucCRCHi : List UInt8 :=
  [ 0x00, 0xC1, 0x81, 0x40, 0x01, 0xC0, 0x80, 0x41, 0x01, 0xC0, 0x80, 0x41, 0x00, 0xC1, 0x81, 0x40,
    0x01, 0xC0, 0x80, 0x41, 0x00, 0xC1, 0x81, 0x40, 0x00, 0xC1, 0x81, 0x40, 0x01, 0xC0, 0x80, 0x41,
    0x01, 0xC0, 0x80, 0x41, 0x00, 0xC1, 0x81, 0x40, 0x00, 0xC1, 0x81, 0x40, 0x01, 0xC0, 0x80, 0x41,
    0x00, 0xC1, 0x81, 0x40, 0x01, 0xC0, 0x80, 0x41, 0x01, 0xC0, 0x80, 0x41, 0x00, 0xC1, 0x81, 0x40,
    0x01, 0xC0, 0x80, 0x41, 0x00, 0xC1, 0x81, 0x40, 0x00, 0xC1, 0x81, 0x40, 0x01, 0xC0, 0x80, 0x41,
    0x00, 0xC1, 0x81, 0x40, 0x01, 0xC0, 0x80, 0x41, 0x01, 0xC0, 0x80, 0x41, 0x00, 0xC1, 0x81, 0x40,
    0x00, 0xC1, 0x81, 0x40, 0x01, 0xC0, 0x80, 0x41, 0x01, 0xC0, 0x80, 0x41, 0x00, 0xC1, 0x81, 0x40,
    0x01, 0xC0, 0x80, 0x41, 0x00, 0xC1, 0x81, 0x40, 0x00, 0xC1, 0x81, 0x40, 0x01, 0xC0, 0x80, 0x41,
    0x01, 0xC0, 0x80, 0x41, 0x00, 0xC1, 0x81, 0x40, 0x00, 0xC1, 0x81, 0x40, 0x01, 0xC0, 0x80, 0x41,
    0x00, 0xC1, 0x81, 0x40, 0x01, 0xC0, 0x80, 0x41, 0x01, 0xC0, 0x80, 0x41, 0x00, 0xC1, 0x81, 0x40,
    0x00, 0xC1, 0x81, 0x40, 0x01, 0xC0, 0x80, 0x41, 0x01, 0xC0, 0x80, 0x41, 0x00, 0xC1, 0x81, 0x40,
    0x01, 0xC0, 0x80, 0x41, 0x00, 0xC1, 0x81, 0x40, 0x00, 0xC1, 0x81, 0x40, 0x01, 0xC0, 0x80, 0x41,
    0x00, 0xC1, 0x81, 0x40, 0x01, 0xC0, 0x80, 0x41, 0x01, 0xC0, 0x80, 0x41, 0x00, 0xC1, 0x81, 0x40,
    0x01, 0xC0, 0x80, 0x41, 0x00, 0xC1, 0x81, 0x40, 0x00, 0xC1, 0x81, 0x40, 0x01, 0xC0, 0x80, 0x41,
    0x01, 0xC0, 0x80, 0x41, 0x00, 0xC1, 0x81, 0x40, 0x00, 0xC1, 0x81, 0x40, 0x01, 0xC0, 0x80, 0x41,
    0x00, 0xC1, 0x81, 0x40, 0x01, 0xC0, 0x80, 0x41, 0x01, 0xC0, 0x80, 0x41, 0x00, 0xC1, 0x81, 0x40 ]

def aucCRCLo : List UInt8 :=
  [ 0x00, 0xC0, 0xC1, 0x01, 0xC3, 0x03, 0x02, 0xC2, 0xC6, 0x06, 0x07, 0xC7, 0x05, 0xC5, 0xC4, 0x04,
    0xCC, 0x0C, 0x0D, 0xCD, 0x0F, 0xCF, 0xCE, 0x0E, 0x0A, 0xCA, 0xCB, 0x0B, 0xC9, 0x09, 0x08, 0xC8,
    0xD8, 0x18, 0x19, 0xD9, 0x1B, 0xDB, 0xDA, 0x1A, 0x1E, 0xDE, 0xDF, 0x1F, 0xDD, 0x1D, 0x1C, 0xDC,
    0x14, 0xD4, 0xD5, 0x15, 0xD7, 0x17, 0x16, 0xD6, 0xD2, 0x12, 0x13, 0xD3, 0x11, 0xD1, 0xD0, 0x10,
    0xF0, 0x30, 0x31, 0xF1, 0x33, 0xF3, 0xF2, 0x32, 0x36, 0xF6, 0xF7, 0x37, 0xF5, 0x35, 0x34, 0xF4,
    0x3C, 0xFC, 0xFD, 0x3D, 0xFF, 0x3F, 0x3E, 0xFE, 0xFA, 0x3A, 0x3B, 0xFB, 0x39, 0xF9, 0xF8, 0x38,
    0x28, 0xE8, 0xE9, 0x29, 0xEB, 0x2B, 0x2A, 0xEA, 0xEE, 0x2E, 0x2F, 0xEF, 0x2D, 0xED, 0xEC, 0x2C,
    0xE4, 0x24, 0x25, 0xE5, 0x27, 0xE7, 0xE6, 0x26, 0x22, 0xE2, 0xE3, 0x23, 0xE1, 0x21, 0x20, 0xE0,
    0xA0, 0x60, 0x61, 0xA1, 0x63, 0xA3, 0xA2, 0x62, 0x66, 0xA6, 0xA7, 0x67, 0xA5, 0x65, 0x64, 0xA4,
    0x6C, 0xAC, 0xAD, 0x6D, 0xAF, 0x6F, 0x6E, 0xAE, 0xAA, 0x6A, 0x6B, 0xAB, 0x69, 0xA9, 0xA8, 0x68,
    0x78, 0xB8, 0xB9, 0x79, 0xBB, 0x7B, 0x7A, 0xBA, 0xBE, 0x7E, 0x7F, 0xBF, 0x7D, 0xBD, 0xBC, 0x7C,
    0xB4, 0x74, 0x75, 0xB5, 0x77, 0xB7, 0xB6, 0x76, 0x72, 0xB2, 0xB3, 0x73, 0xB1, 0x71, 0x70, 0xB0,
    0x50, 0x90, 0x91, 0x51, 0x93, 0x53, 0x52, 0x92, 0x96, 0x56, 0x57, 0x97, 0x55, 0x95, 0x94, 0x54,
    0x9C, 0x5C, 0x5D, 0x9D, 0x5F, 0x9F, 0x9E, 0x5E, 0x5A, 0x9A, 0x9B, 0x5B, 0x99, 0x59, 0x58, 0x98,
    0x88, 0x48, 0x49, 0x89, 0x4B, 0x8B, 0x8A, 0x4A, 0x4E, 0x8E, 0x8F, 0x4F, 0x8D, 0x4D, 0x4C, 0x8C,
    0x44, 0x84, 0x85, 0x45, 0x87, 0x47, 0x46, 0x86, 0x82, 0x42, 0x43, 0x83, 0x41, 0x81, 0x80, 0x40 ]

/-- One round of the loop, on `ucCRCHi` and `ucCRCLo`. -/
def mbCrcByte (crc : UInt8 × UInt8) (byte : UInt8) : UInt8 × UInt8 :=
  let iIndex := (crc.2 ^^^ byte).toNat
  (aucCRCLo.getD iIndex 0, crc.1 ^^^ aucCRCHi.getD iIndex 0)

def usMBCRC16 (pucFrame : List UInt8) : UInt16 :=
  let crc := pucFrame.foldl mbCrcByte (0xFF, 0xFF)
  crc.1.toUInt16 <<< 8 ||| crc.2.toUInt16

/-! Words of two bytes. -/

theorem toNat_word (hi lo : UInt8) : (hi.toUInt16 <<< 8 ||| lo.toUInt16).toNat = hi.toNat * 256 + lo.toNat := by
  have hhi := hi.toNat_lt
  have hlo := lo.toNat_lt
  have hshift : (hi.toUInt16 <<< 8).toNat = hi.toNat <<< 8 := by
    rw [UInt16.toNat_shiftLeft, UInt8.toNat_toUInt16, show UInt16.toNat 8 % 16 = 8 from rfl, Nat.shiftLeft_eq]
    omega
  rw [UInt16.toNat_or, hshift, UInt8.toNat_toUInt16, ← Nat.shiftLeft_add_eq_or_of_lt hlo, Nat.shiftLeft_eq]

theorem toNat_high (w : UInt16) : (w >>> 8).toNat = w.toNat / 256 := by
  rw [UInt16.toNat_shiftRight, show UInt16.toNat 8 % 16 = 8 from rfl, Nat.shiftRight_eq_div_pow]

theorem word_high (hi lo : UInt8) : ((hi.toUInt16 <<< 8 ||| lo.toUInt16) >>> 8).toUInt8 = hi := by
  have hhi := hi.toNat_lt
  have hlo := lo.toNat_lt
  apply UInt8.toNat_inj.1
  rw [UInt16.toNat_toUInt8, toNat_high, toNat_word]
  omega

theorem word_low (hi lo : UInt8) : (hi.toUInt16 <<< 8 ||| lo.toUInt16).toUInt8 = lo := by
  have hlo := lo.toNat_lt
  apply UInt8.toNat_inj.1
  rw [UInt16.toNat_toUInt8, toNat_word]
  omega

theorem word_of_bytes (w : UInt16) : (w >>> 8).toUInt8.toUInt16 <<< 8 ||| w.toUInt8.toUInt16 = w := by
  have hw := w.toNat_lt
  apply UInt16.toNat_inj.1
  rw [toNat_word, UInt16.toNat_toUInt8, UInt16.toNat_toUInt8, toNat_high]
  omega

/-! The register. -/

/-- 0x8005: the terms of the polynomial below the highest. -/
def mbCrcPolynomial : List Bool :=
  [true, false, false, false, false, false, false, false, false, false, false, false, false, true, false, true]

/-- A byte's bits as the line sends them. -/
def wireByte (b : UInt8) : List Bool := Crc.byteBits Crc.lowestFirst b

def wireBits (l : List UInt8) : List Bool := Crc.bytesBits Crc.lowestFirst l

@[simp] theorem length_wireBits (l : List UInt8) : (wireBits l).length = 8 * l.length := Crc.length_bytesBits l

theorem wireBits_append (l l' : List UInt8) : wireBits (l ++ l') = wireBits l ++ wireBits l' := Crc.bytesBits_append l l'

@[simp] theorem wireBits_singleton (b : UInt8) : wireBits [b] = wireByte b := Crc.bytesBits_singleton b

theorem wireByte_xor (a b : UInt8) : wireByte (a ^^^ b) = Crc.xorBits (wireByte a) (wireByte b) := Crc.byteBits_xor a b

theorem wireByte_inj {a b : UInt8} (h : wireByte a = wireByte b) : a = b := Crc.byteBits_inj (by decide) h

/-- The register's bits, highest power first. -/
def crcBits (crc : UInt8 × UInt8) : List Bool := wireByte crc.2 ++ wireByte crc.1

@[simp] theorem length_crcBits (crc : UInt8 × UInt8) : (crcBits crc).length = 16 := rfl

theorem crcBits_inj {crc crc' : UInt8 × UInt8} (h : crcBits crc = crcBits crc') : crc = crc' := by
  obtain ⟨hlo, hhi⟩ := List.append_inj h rfl
  exact Prod.ext (wireByte_inj hhi) (wireByte_inj hlo)

/-- What the tables hold: the register after a byte and eight shifts. -/
theorem tables_eq (x : UInt8) :
    wireByte (aucCRCHi.getD x.toNat 0) ++ wireByte (aucCRCLo.getD x.toNat 0) =
      Crc.run mbCrcPolynomial (wireByte x ++ List.replicate 8 false) (List.replicate 8 false) := by
  -- one pass over both tables, each entry with its index
  have hall : ((aucCRCHi.zip aucCRCLo).zipIdx.all fun e => wireByte e.1.1 ++ wireByte e.1.2 ==
      Crc.run mbCrcPolynomial (wireByte (UInt8.ofNat e.2) ++ List.replicate 8 false) (List.replicate 8 false)) = true := by
    decide +kernel
  have hlens : aucCRCHi.length = 256 ∧ aucCRCLo.length = 256 := by decide +kernel
  have hhi : x.toNat < aucCRCHi.length := hlens.1 ▸ x.toNat_lt
  have hlo : x.toNat < aucCRCLo.length := hlens.2 ▸ x.toNat_lt
  have hentry : ((aucCRCHi.getD x.toNat 0, aucCRCLo.getD x.toNat 0), x.toNat) ∈ (aucCRCHi.zip aucCRCLo).zipIdx := by
    rw [List.mem_zipIdx_iff_getElem?, List.getElem?_zip_eq_some, List.getD_eq_getElem _ _ hhi,
      List.getD_eq_getElem _ _ hlo]
    exact ⟨List.getElem?_eq_getElem hhi, List.getElem?_eq_getElem hlo⟩
  simpa using List.all_eq_true.1 hall _ hentry

/-- One round of the loop is eight bits into the register. -/
theorem crcBits_mbCrcByte (crc : UInt8 × UInt8) (byte : UInt8) :
    crcBits (mbCrcByte crc byte) = Crc.run mbCrcPolynomial (crcBits crc) (wireByte byte) := by
  have hpadded := @Crc.run_padded mbCrcPolynomial (crcBits crc) (wireByte byte) rfl (by decide)
    (Nat.le_add_left 8 8)
  have hsum : Crc.xorBits (crcBits crc) (wireByte byte ++ List.replicate 8 false) =
      wireByte (crc.2 ^^^ byte) ++ wireByte crc.1 := by
    have hsplit := @Crc.xorBits_append (wireByte crc.2) (wireByte byte) rfl (wireByte crc.1) (List.replicate 8 false)
    have hzeros : Crc.xorBits (wireByte crc.1) (List.replicate 8 false) = wireByte crc.1 := Crc.xorBits_zeros _
    rw [crcBits, hsplit, hzeros, wireByte_xor]
  have htable := @Crc.run_table mbCrcPolynomial (wireByte (crc.2 ^^^ byte)) (wireByte crc.1) rfl (by decide)
  calc crcBits (mbCrcByte crc byte)
      = wireByte (crc.1 ^^^ aucCRCHi.getD (crc.2 ^^^ byte).toNat 0) ++
          wireByte (aucCRCLo.getD (crc.2 ^^^ byte).toNat 0) := rfl
    _ = Crc.xorBits (wireByte (aucCRCHi.getD (crc.2 ^^^ byte).toNat 0) ++
          wireByte (aucCRCLo.getD (crc.2 ^^^ byte).toNat 0)) (wireByte crc.1 ++ List.replicate 8 false) := by
        have hsplit := @Crc.xorBits_append (wireByte (aucCRCHi.getD (crc.2 ^^^ byte).toNat 0)) (wireByte crc.1) rfl
          (wireByte (aucCRCLo.getD (crc.2 ^^^ byte).toNat 0)) (List.replicate 8 false)
        have hzeros : Crc.xorBits (wireByte (aucCRCLo.getD (crc.2 ^^^ byte).toNat 0)) (List.replicate 8 false) =
            wireByte (aucCRCLo.getD (crc.2 ^^^ byte).toNat 0) := Crc.xorBits_zeros _
        rw [hsplit, hzeros, Crc.xorBits_comm, ← wireByte_xor]
    _ = Crc.run mbCrcPolynomial (wireByte (crc.2 ^^^ byte) ++ wireByte crc.1) (List.replicate 8 false) := by
        rw [tables_eq]
        exact htable.symm
    _ = Crc.run mbCrcPolynomial (crcBits crc) (wireByte byte) := by
        rw [← hsum]
        exact hpadded

/-- The register after a frame. -/
theorem crcBits_fold (crc : UInt8 × UInt8) (pucFrame : List UInt8) :
    crcBits (pucFrame.foldl mbCrcByte crc) = Crc.run mbCrcPolynomial (crcBits crc) (wireBits pucFrame) := by
  induction pucFrame generalizing crc with
  | nil => rfl
  | cons b l ih =>
    rw [List.foldl_cons, ih, crcBits_mbCrcByte]
    exact (Crc.run_append _ _ (wireByte b) (wireBits l)).symm

/-- The two bytes of the sum. -/
theorem usMBCRC16_bytes (pucFrame : List UInt8) :
    ((usMBCRC16 pucFrame >>> 8).toUInt8, (usMBCRC16 pucFrame).toUInt8) = pucFrame.foldl mbCrcByte (0xFF, 0xFF) := by
  exact Prod.ext (word_high _ _) (word_low _ _)

/-- The register before the first byte. -/
def crcStart : List Bool := List.replicate 16 true

theorem usMBCRC16_eq_zero_iff (pucFrame : List UInt8) :
    usMBCRC16 pucFrame = 0 ↔ Crc.run mbCrcPolynomial crcStart (wireBits pucFrame) = List.replicate 16 false := by
  have hstart : crcBits (0xFF, 0xFF) = crcStart := by decide
  have hzero : crcBits (0, 0) = List.replicate 16 false := by decide
  have hbytes := usMBCRC16_bytes pucFrame
  rw [← hstart, ← crcBits_fold, ← hzero]
  constructor
  · intro h
    rw [← hbytes, h]
    rfl
  · intro h
    rw [usMBCRC16, crcBits_inj h]
    rfl

/-- **Appended sums.** Two bytes behind a frame make its check sum 0 exactly when
they are its check sum, low byte first. -/
theorem usMBCRC16_appended (pucFrame : List UInt8) (a b : UInt8) :
    usMBCRC16 (pucFrame ++ [a, b]) = 0 ↔
      a = (usMBCRC16 pucFrame).toUInt8 ∧ b = (usMBCRC16 pucFrame >>> 8).toUInt8 := by
  have hbits : wireBits (pucFrame ++ [a, b]) = wireBits pucFrame ++ crcBits (b, a) := by
    rw [wireBits_append]
    rfl
  have hstart : crcBits (0xFF, 0xFF) = crcStart := by decide
  have hcheck := @Crc.run_check_iff mbCrcPolynomial crcStart (wireBits pucFrame) rfl rfl (crcBits (b, a)) rfl
  rw [usMBCRC16_eq_zero_iff, hbits]
  refine hcheck.trans ?_
  rw [← hstart, ← crcBits_fold, ← usMBCRC16_bytes]
  constructor
  · intro h
    obtain ⟨hhi, hlo⟩ := Prod.mk.inj (crcBits_inj h)
    exact ⟨hlo.symm, hhi.symm⟩
  · rintro ⟨rfl, rfl⟩
    rfl

/-! Damaged frames. -/

/-- Damage the sum detects for certain in a frame of up to 256 bytes: a burst of
up to 16 bits, an odd number of bits, or two bits. -/
def MbDetectable (e : List Bool) : Prop :=
  (true ∈ e ∧ ∃ p, Crc.Within p 16 e) ∨ Odd (e.count true) ∨ ∃ i j, i < j ∧ Crc.OnlyAt i j e

/-- The register that holds 1 does not hold it again within the bits of a frame. -/
theorem mbCrcPolynomial_period {d : Nat} (hpos : 0 < d) (hd : d < 2048) : ¬ Crc.period mbCrcPolynomial ∣ d := by
  exact Crc.not_period_dvd (by decide +kernel : Crc.staysAway mbCrcPolynomial 2047 _ = true) hpos (by omega)

theorem MbDetectable.not_dvd {e : List Bool} (h : MbDetectable e) (hlen : e.length ≤ 2048) :
    ¬ Crc.generator mbCrcPolynomial ∣ Crc.poly e := by
  rcases h with ⟨hset, p, hp⟩ | hodd | ⟨i, j, hij, htwo⟩
  · exact Crc.burst_not_dvd rfl hp hset
  · intro hdvd
    exact (Nat.not_even_iff_odd.2 hodd) (Crc.even_of_dvd (by decide) hdvd)
  · have hj : j < e.length := (Crc.onlyAt_iff.1 htwo).2.1
    rw [Crc.pair_dvd_iff rfl hij htwo]
    exact mbCrcPolynomial_period (by omega) (by omega)

/-- **Damage is noticed.** -/
theorem damaged_not_zero {sent received : List UInt8} (hlen : sent.length = received.length)
    (hle : sent.length ≤ 256) (hsent : usMBCRC16 sent = 0)
    (hdamage : MbDetectable (Crc.xorBits (wireBits sent) (wireBits received))) : usMBCRC16 received ≠ 0 := by
  intro hreceived
  rw [usMBCRC16_eq_zero_iff] at hsent hreceived
  have hbits : (wireBits sent).length = (wireBits received).length := by simp [hlen]
  have hdvd := (@Crc.run_eq_iff mbCrcPolynomial crcStart _ _ rfl rfl hbits).1 (hsent.trans hreceived.symm)
  refine hdamage.not_dvd ?_ hdvd
  rw [Crc.length_xorBits, ← hbits, Nat.min_self, length_wireBits]
  omega

end Aqualarm
