import Aqualarm.Frames
import Aqualarm.Lib.Crc
import Mathlib.Tactic.NormNum.Prime

/-
  Frames damaged on the air. The check byte is what the CRC peripheral computes
  as `radio_crc_init` sets it up; the bits of a frame are numbered in the order
  they are sent, each byte from its highest bit on.

  What is proved:
    1. `damaged_frame_refused` — a frame that was acceptable and arrives with a
       burst of up to 8 wrong bits, or with an odd number of wrong bits, is not
       handled, and nothing changes.
    2. `two_wrong_bits_accepted_iff` — with two wrong bits it is handled exactly
       when its header is still in order and their distance is a multiple of 127.
-/

namespace Aqualarm

open Lib

/-! The check as a register. -/

/-- 0x07: the terms of the polynomial below the highest. -/
def crcPolynomial : List Bool := [false, false, false, false, false, true, true, true]

/-- A byte's bits as they are sent. -/
def airByte (b : UInt8) : List Bool := Crc.byteBits Crc.highestFirst b

def airBits (l : List UInt8) : List Bool := Crc.bytesBits Crc.highestFirst l

@[simp] theorem length_airBits (l : List UInt8) : (airBits l).length = 8 * l.length := Crc.length_bytesBits l

theorem airBits_append (l l' : List UInt8) : airBits (l ++ l') = airBits l ++ airBits l' := Crc.bytesBits_append l l'

@[simp] theorem airBits_singleton (b : UInt8) : airBits [b] = airByte b := Crc.bytesBits_singleton b

theorem airByte_xor (a b : UInt8) : airByte (a ^^^ b) = Crc.xorBits (airByte a) (airByte b) := Crc.byteBits_xor a b

theorem airByte_inj {a b : UInt8} (h : airByte a = airByte b) : a = b := Crc.byteBits_inj (by decide) h

/-- One bit of the division. -/
theorem airByte_crcShift (c : UInt8) : airByte (crcShift c) = Crc.shift crcPolynomial (airByte c) false := by
  have hall : ∀ n : Fin 256, airByte (crcShift (UInt8.ofNat n)) =
      Crc.shift crcPolynomial (airByte (UInt8.ofNat n)) false := by decide +kernel
  simpa using hall ⟨c.toNat, c.toNat_lt⟩

theorem airByte_crcShifts (c : UInt8) (n : Nat) :
    airByte ((List.range n).foldl (fun crc _ => crcShift crc) c) =
      Crc.run crcPolynomial (airByte c) (List.replicate n false) := by
  induction n with
  | zero => rfl
  | succ n ih =>
    rw [List.range_succ, List.foldl_append, List.replicate_succ', Crc.run_append, ← ih]
    exact airByte_crcShift _

/-- `crc8` is the register fed with the bits of the bytes. -/
theorem airByte_crc8 (pack : List UInt8) :
    airByte (crc8 pack) = Crc.run crcPolynomial (List.replicate 8 false) (airBits pack) := by
  induction pack using List.reverseRecOn with
  | nil => rfl
  | append_singleton pack b ih =>
    have hsnoc : crc8 (pack ++ [b]) = (List.range 8).foldl (fun crc _ => crcShift crc) (crc8 pack ^^^ b) := by
      rw [crc8, List.foldl_append]
      rfl
    have hpadded := @Crc.run_padded crcPolynomial (airByte (crc8 pack)) (airByte b) rfl (by decide) le_rfl
    have hpad : airByte b ++ List.replicate (crcPolynomial.length - (airByte b).length) false = airByte b :=
      List.append_nil _
    rw [hpad, ← airByte_xor] at hpadded
    rw [hsnoc, airByte_crcShifts, airBits_append, Crc.run_append, ← ih]
    rw [airBits_singleton]
    exact hpadded

/-- The bits of a frame in the buffer, the check byte included. -/
def frameBits (data : Nat → UInt8) (len : Nat) : List Bool := airBits ((List.range len).map data)

/-- Where the bits of two frames differ. -/
def flips (data data' : Nat → UInt8) (len : Nat) : List Bool := Crc.xorBits (frameBits data len) (frameBits data' len)

variable {data data' : Nat → UInt8} {len : Nat}

@[simp] theorem length_frameBits : (frameBits data len).length = 8 * len := by simp [frameBits]

/-- The check byte is right exactly when the whole frame empties the register. -/
theorem check_iff (hlen : 0 < len) : data (len - 1) = crc8 ((List.range (len - 1)).map data) ↔
    Crc.run crcPolynomial (List.replicate 8 false) (frameBits data len) = List.replicate 8 false := by
  obtain ⟨n, rfl⟩ : ∃ n, len = n + 1 := ⟨len - 1, by omega⟩
  have hbits : frameBits data (n + 1) = airBits ((List.range n).map data) ++ airByte (data n) := by
    simp [frameBits, List.range_succ, airBits_append]
  have hcheck := @Crc.run_check_iff crcPolynomial (List.replicate 8 false) (airBits ((List.range n).map data)) rfl
    rfl (airByte (data n)) rfl
  rw [Nat.add_sub_cancel, hbits]
  refine Iff.trans ?_ hcheck.symm
  rw [← airByte_crc8]
  exact ⟨fun h => by rw [h], fun h => (airByte_inj h).symm⟩

/-- Where a frame's check is right, that of a frame of the same length is right
exactly when the polynomial divides what they differ in. -/
theorem check_of_flips (hlen : 0 < len) (hcheck : data (len - 1) = crc8 ((List.range (len - 1)).map data)) :
    data' (len - 1) = crc8 ((List.range (len - 1)).map data') ↔
      Crc.generator crcPolynomial ∣ Crc.poly (flips data data' len) := by
  rw [check_iff hlen] at hcheck ⊢
  rw [flips, ← @Crc.run_eq_iff crcPolynomial (List.replicate 8 false) _ _ rfl rfl (by simp), hcheck, eq_comm]

/-! Damaged frames. -/

/-- The register that holds 1 holds it again after 127 zeros and not before. -/
theorem crcPolynomial_period : Crc.period crcPolynomial = 127 := by
  have : Fact (Nat.Prime 127) := ⟨by norm_num⟩
  apply Function.minimalPeriod_eq_prime
  · rw [Function.IsPeriodicPt, Function.IsFixedPt, Crc.iterate_shift]
    decide +kernel
  · rw [Function.IsFixedPt]
    decide

/-- Damage the check detects for certain: a burst of up to 8 bits, or an odd
number of bits. -/
def Detectable (e : List Bool) : Prop := (true ∈ e ∧ ∃ p, Crc.Within p 8 e) ∨ Odd (e.count true)

theorem Detectable.not_dvd {e : List Bool} (h : Detectable e) :
    ¬ Crc.generator crcPolynomial ∣ Crc.poly e := by
  rcases h with ⟨hset, p, hp⟩ | hodd
  · exact Crc.burst_not_dvd rfl hp hset
  · intro hdvd
    exact (Nat.not_even_iff_odd.2 hodd) (Crc.even_of_dvd (by decide) hdvd)

/-- **Damage is noticed.** A frame that arrives with a burst of up to 8 wrong
bits, or with an odd number of wrong bits, is not handled and changes nothing. -/
theorem damaged_frame_refused (rssi snr : Int) (s : State) (hcrc : s.unit.cfg.crc = crc8)
    (haccepted : radioAccepted s.unit.cfg data len) (hdamage : Detectable (flips data data' len)) :
    ¬ radioAccepted s.unit.cfg data' len ∧ (Event.radio rssi snr data' len).handle s = s := by
  obtain ⟨hlen, -, -, -, hcheck⟩ := haccepted
  rw [hcrc] at hcheck
  have hrefused : ¬ radioAccepted s.unit.cfg data' len := by
    rintro ⟨-, -, -, -, hcheck'⟩
    rw [hcrc] at hcheck'
    exact hdamage.not_dvd ((check_of_flips (by omega) hcheck).1 hcheck')
  refine ⟨hrefused, ?_⟩
  have hparse := radioProtocolParse_eq rssi snr data' len s
  rw [if_neg hrefused] at hparse
  exact hparse

/-- A frame to the sample unit, and the same frame with the given bits inverted. -/
def sampleSent : List UInt8 := sampleBytes deviceTypeEndunit 7 [learnDeviceCmd, 1, 1, 0, 0, 0, 0, 0]

def sampleDamaged (is : List Nat) (k : Nat) : UInt8 :=
  is.foldl (fun b i => if i / 8 = k then b ^^^ (128 >>> (i % 8).toUInt8) else b) (sampleSent.getD k 0)

theorem damaged_frame_refused_sample :
    ¬ radioAccepted sampleStart.unit.cfg (sampleDamaged [30, 31, 100]) 20 ∧
      (Event.radio (-60) 5 (sampleDamaged [30, 31, 100]) 20).handle sampleStart = sampleStart :=
  @damaged_frame_refused (sampleSent.getD · 0) _ 20 (-60) 5 sampleStart rfl (by decide +kernel)
    (Or.inr (by decide +kernel))

/-- The header checks of `radio_protocol_parse`: all but the check byte. -/
def HeaderInOrder (data : Nat → UInt8) : Prop :=
  data 0 = frameStart ∧ data 1 >>> 4 = netRegionSelect ∧ data 1 &&& (if 0x0F < networkVersion then 1 else 0) = 0

instance (data : Nat → UInt8) : Decidable (HeaderInOrder data) := inferInstanceAs (Decidable (_ ∧ _ ∧ _))

/-- **Two wrong bits.** A frame with two wrong bits is handled exactly when its
header still passes and the two are a multiple of 127 bits apart. -/
theorem two_wrong_bits_accepted_iff (cfg : Config) (hcrc : cfg.crc = crc8) (haccepted : radioAccepted cfg data len)
    {i j : Nat} (hij : i < j) (htwo : Crc.OnlyAt i j (flips data data' len)) :
    radioAccepted cfg data' len ↔ HeaderInOrder data' ∧ 127 ∣ j - i := by
  obtain ⟨hlen, -, -, -, hcheck⟩ := haccepted
  rw [hcrc] at hcheck
  have hpair : data' (len - 1) = crc8 ((List.range (len - 1)).map data') ↔ 127 ∣ j - i := by
    rw [check_of_flips (by omega) hcheck, Crc.pair_dvd_iff rfl hij htwo, crcPolynomial_period]
  rw [radioAccepted, hcrc, hpair]
  constructor
  · rintro ⟨-, h₀, h₁, h₂, hd⟩
    exact ⟨⟨h₀, h₁, h₂⟩, hd⟩
  · rintro ⟨⟨h₀, h₁, h₂⟩, hd⟩
    exact ⟨hlen, h₀, h₁, h₂, hd⟩

theorem two_wrong_bits_accepted_sample : radioAccepted sampleConfig (sampleDamaged [30, 157]) 20 :=
  (@two_wrong_bits_accepted_iff (sampleSent.getD · 0) _ 20 sampleConfig rfl (by decide +kernel) 30 157 (by decide)
    (by decide +kernel)).2 ⟨by decide +kernel, by decide⟩

end Aqualarm
