import Mathlib.Algebra.CharP.Two
import Mathlib.Algebra.Field.ZMod
import Mathlib.Algebra.Polynomial.FieldDivision
import Mathlib.Algebra.Polynomial.Degree.Operations
import Mathlib.Dynamics.PeriodicPts.Lemmas

/-
  Cyclic redundancy checks over bit lists, and the errors they detect. A bit
  list is read highest power first, as a polynomial over the field of two
  elements; a register takes the bits of a message one at a time and takes off
  the generator whenever a bit leaves it at the top.

  What is proved:
    1. `generator_dvd_run` — the register is the message modulo the generator.
    2. `run_eq_iff` — two messages of one length leave the same register exactly
       when the generator divides the polynomial of the bits they differ in.
    3. `burst_not_dvd`, `even_of_dvd`, `pair_dvd_iff` — the generator divides no
       burst that fits the register, no odd number of bits where it has an even
       number of terms itself, and two bits exactly when their distance is a
       multiple of the register's period.
-/

namespace Lib.Crc

open Polynomial

/-! Bit lists as polynomials. -/

/-- The coefficient a bit stands for. -/
def coeffOf (b : Bool) : ZMod 2 := if b then 1 else 0

/-- The polynomial whose coefficients are the bits, highest power first. -/
noncomputable def poly : List Bool → (ZMod 2)[X]
  | [] => 0
  | b :: l => C (coeffOf b) * X ^ l.length + poly l

/-- Exclusive or, bit by bit. -/
def xorBits (a b : List Bool) : List Bool := List.zipWith xor a b

theorem coeffOf_xor (a b : Bool) : coeffOf (a ^^ b) = coeffOf a + coeffOf b := by
  cases a <;> cases b <;> decide

@[simp] theorem poly_nil : poly [] = 0 := rfl

@[simp] theorem length_xorBits (a b : List Bool) : (xorBits a b).length = min a.length b.length := by
  simp [xorBits]

theorem xorBits_append {a b : List Bool} (hlen : a.length = b.length) (a' b' : List Bool) :
    xorBits (a ++ a') (b ++ b') = xorBits a b ++ xorBits a' b' := List.zipWith_append hlen

theorem xorBits_comm (a b : List Bool) : xorBits a b = xorBits b a :=
  List.zipWith_comm_of_comm Bool.xor_comm

theorem xorBits_zeros (a : List Bool) : xorBits a (List.replicate a.length false) = a := by
  induction a with
  | nil => rfl
  | cons x a ih =>
    have hx : xorBits (x :: a) (List.replicate (x :: a).length false) =
        (x ^^ false) :: xorBits a (List.replicate a.length false) := rfl
    rw [hx, ih, Bool.xor_false]

theorem poly_append (a b : List Bool) : poly (a ++ b) = poly a * X ^ b.length + poly b := by
  induction a with
  | nil => simp
  | cons x a ih =>
    rw [List.cons_append, poly, poly, ih, List.length_append]
    ring

theorem poly_snoc (a : List Bool) (b : Bool) : poly (a ++ [b]) = poly a * X + C (coeffOf b) := by
  simp [poly_append, poly]

theorem poly_xorBits {a b : List Bool} (hlen : a.length = b.length) : poly (xorBits a b) = poly a + poly b := by
  induction a generalizing b with
  | nil =>
    obtain rfl : b = [] := List.length_eq_zero_iff.1 hlen.symm
    simp [xorBits]
  | cons x a ih =>
    cases b with
    | nil => simp at hlen
    | cons y b =>
      have htail : a.length = b.length := by simpa using hlen
      have hx : xorBits (x :: a) (y :: b) = (x ^^ y) :: xorBits a b := rfl
      rw [hx, poly, poly, poly, ih htail, length_xorBits, coeffOf_xor, C_add, ← htail, Nat.min_self]
      ring

@[simp] theorem poly_replicate_false (n : Nat) : poly (List.replicate n false) = 0 := by
  induction n with
  | zero => rfl
  | succ n ih => simp [List.replicate_succ, poly, ih, coeffOf]

theorem degree_poly_lt (l : List Bool) : (poly l).degree < l.length := by
  induction l with
  | nil => simp
  | cons b l ih =>
    have htop : (C (coeffOf b) * X ^ l.length).degree ≤ (l.length : WithBot ℕ) := degree_C_mul_X_pow_le _ _
    have hle : (poly (b :: l)).degree ≤ (l.length : WithBot ℕ) :=
      (degree_add_le _ _).trans (max_le htop ih.le)
    refine hle.trans_lt ?_
    rw [List.length_cons]
    exact_mod_cast Nat.lt_succ_self l.length

/-- A bit list stands for 0 exactly when no bit is set. -/
theorem poly_eq_zero_iff {l : List Bool} : poly l = 0 ↔ ∀ b ∈ l, b = false := by
  induction l with
  | nil => simp
  | cons b l ih =>
    rw [List.forall_mem_cons, ← ih]
    constructor
    · intro h
      have htop : (poly (b :: l)).coeff l.length = 0 := by rw [h, coeff_zero]
      have hlow : (poly l).coeff l.length = 0 := coeff_eq_zero_of_degree_lt (degree_poly_lt l)
      rw [poly, coeff_add, hlow, coeff_C_mul_X_pow, if_pos rfl, add_zero] at htop
      obtain rfl : b = false := by
        cases b
        · rfl
        · exact absurd htop (by decide)
      refine ⟨rfl, ?_⟩
      simpa [poly, coeffOf] using h
    · rintro ⟨rfl, h⟩
      simp [poly, coeffOf, h]

theorem poly_inj {a b : List Bool} (hlen : a.length = b.length) (h : poly a = poly b) : a = b := by
  have hzero : poly (xorBits a b) = 0 := by rw [poly_xorBits hlen, h, CharTwo.add_self_eq_zero]
  rw [poly_eq_zero_iff] at hzero
  clear h
  induction a generalizing b with
  | nil => exact (List.length_eq_zero_iff.1 hlen.symm).symm
  | cons x a ih =>
    cases b with
    | nil => simp at hlen
    | cons y b =>
      have hx : (x ^^ y) = false := hzero _ List.mem_cons_self
      have htail : a = b := ih (by simpa using hlen) fun c hc => hzero c (List.mem_cons_of_mem _ hc)
      rw [htail, bne_eq_false_iff_eq.1 hx]

/-- At 1 the polynomial counts the set bits. -/
theorem eval_one_poly (l : List Bool) : (poly l).eval 1 = (l.count true : ZMod 2) := by
  induction l with
  | nil => simp
  | cons b l ih =>
    rw [poly, eval_add, ih, List.count_cons]
    cases b <;> simp [coeffOf, add_comm]

/-! Bytes, in the order their bits are sent. -/

/-- The bits of a byte, in the given order. -/
def byteBits (order : List Nat) (b : UInt8) : List Bool := order.map b.toNat.testBit

def bytesBits (order : List Nat) (l : List UInt8) : List Bool := l.flatMap (byteBits order)

def highestFirst : List Nat := [7, 6, 5, 4, 3, 2, 1, 0]

def lowestFirst : List Nat := [0, 1, 2, 3, 4, 5, 6, 7]

section Bytes

variable {order : List Nat}

@[simp] theorem length_byteBits (b : UInt8) : (byteBits order b).length = order.length := List.length_map _

@[simp] theorem length_bytesBits (l : List UInt8) : (bytesBits order l).length = order.length * l.length := by
  induction l with
  | nil => rfl
  | cons b l ih =>
    have hcons : bytesBits order (b :: l) = byteBits order b ++ bytesBits order l := rfl
    rw [hcons, List.length_append, ih, length_byteBits, List.length_cons]
    ring

theorem bytesBits_append (l l' : List UInt8) : bytesBits order (l ++ l') = bytesBits order l ++ bytesBits order l' :=
  List.flatMap_append

@[simp] theorem bytesBits_singleton (b : UInt8) : bytesBits order [b] = byteBits order b := List.append_nil _

theorem byteBits_xor (a b : UInt8) : byteBits order (a ^^^ b) = xorBits (byteBits order a) (byteBits order b) := by
  rw [byteBits, xorBits, byteBits, byteBits, List.zipWith_map, List.zipWith_self, UInt8.toNat_xor]
  exact List.map_congr_left fun i _ => Nat.testBit_xor ..

theorem byteBits_inj (horder : ∀ i < 8, i ∈ order) {a b : UInt8} (h : byteBits order a = byteBits order b) :
    a = b := by
  apply UInt8.toNat_inj.1
  apply Nat.eq_of_testBit_eq
  intro i
  by_cases hi : i < 8
  · exact List.map_inj_left.1 h i (horder i hi)
  · have hlarge (c : UInt8) : c.toNat.testBit i = false :=
      Nat.testBit_lt_two_pow (c.toNat_lt.trans_le (Nat.pow_le_pow_right (by decide) (by omega)))
    rw [hlarge, hlarge]

end Bytes

/-! The register. -/

/-- One bit into the register: what leaves at the top, and the bit, decide
whether the generator is taken off. -/
def shift (gen r : List Bool) (b : Bool) : List Bool :=
  if r.headD false ^^ b then xorBits (r.tail ++ [false]) gen else r.tail ++ [false]

def run (gen r m : List Bool) : List Bool := m.foldl (shift gen) r

/-- The generator: its terms below the highest one are given. -/
noncomputable def generator (gen : List Bool) : (ZMod 2)[X] := X ^ gen.length + poly gen

variable {gen r r' m m' : List Bool}

theorem length_shift (hr : r.length = gen.length) (hgen : gen ≠ []) (b : Bool) :
    (shift gen r b).length = gen.length := by
  have hpos : 0 < gen.length := List.length_pos_iff.2 hgen
  unfold shift
  split
  · simp
    omega
  · simp
    omega

theorem length_run (hr : r.length = gen.length) (hgen : gen ≠ []) (m : List Bool) :
    (run gen r m).length = gen.length := by
  induction m generalizing r with
  | nil => exact hr
  | cons b m ih => exact ih (length_shift hr hgen b)

theorem run_append (gen r m m' : List Bool) : run gen r (m ++ m') = run gen (run gen r m) m' := List.foldl_append

theorem degree_generator (gen : List Bool) : (generator gen).degree = gen.length := by
  have hlt : (poly gen).degree < (X ^ gen.length : (ZMod 2)[X]).degree := by
    rw [degree_X_pow]
    exact degree_poly_lt gen
  rw [generator, degree_add_eq_left_of_degree_lt hlt, degree_X_pow]

/-- What the generator divides and the register can hold is 0. -/
theorem poly_eq_zero_of_dvd {l : List Bool} (hdvd : generator gen ∣ poly l) (hl : l.length ≤ gen.length) :
    poly l = 0 := by
  apply eq_zero_of_dvd_of_degree_lt hdvd
  rw [degree_generator]
  exact (degree_poly_lt l).trans_le (by exact_mod_cast hl)

/-- Two registers that agree modulo the generator are equal. -/
theorem eq_of_dvd_add (hr : r.length = gen.length) (hr' : r'.length = gen.length)
    (hdvd : generator gen ∣ poly r + poly r') : r = r' := by
  have hlen : r.length = r'.length := hr.trans hr'.symm
  rw [← poly_xorBits hlen] at hdvd
  have hzero := poly_eq_zero_of_dvd hdvd (by simp [hr])
  rw [poly_xorBits hlen, CharTwo.add_eq_zero] at hzero
  exact poly_inj hlen hzero

/-- In characteristic 2 a summand the two sides share drops out. -/
theorem dvd_add_of_shared {g p q y : (ZMod 2)[X]} (hp : g ∣ p + y) (hq : g ∣ q + y) : g ∣ p + q := by
  have hsum := dvd_add hp hq
  have heq : p + y + (q + y) = p + q + (y + y) := by ring
  rwa [heq, CharTwo.add_self_eq_zero, add_zero] at hsum

/-- One bit into the register multiplies it by X, adds the bit at the top, and
reduces. -/
theorem generator_dvd_shift (hr : r.length = gen.length) (hgen : gen ≠ []) (b : Bool) :
    generator gen ∣ poly (shift gen r b) + (poly r * X + C (coeffOf b) * X ^ gen.length) := by
  cases r with
  | nil => exact absurd (List.length_eq_zero_iff.1 hr.symm) hgen
  | cons h t =>
    have hlen : (t ++ [false]).length = gen.length := by
      rw [← hr]
      simp
    have htail : poly (t ++ [false]) = poly t * X := by simp [poly_snoc, coeffOf]
    have hpow : (X : (ZMod 2)[X]) ^ t.length * X = X ^ gen.length := by
      rw [← pow_succ, ← hr, List.length_cons]
    have hmul : poly (h :: t) * X = C (coeffOf h) * X ^ gen.length + poly t * X := by
      rw [poly, add_mul, mul_assoc, hpow]
    by_cases hout : (h ^^ b) = true
    · have hshift : shift gen (h :: t) b = xorBits (t ++ [false]) gen := if_pos hout
      have hone : coeffOf h + coeffOf b = 1 := by rw [← coeffOf_xor, hout]; rfl
      have heq : poly (shift gen (h :: t) b) + (poly (h :: t) * X + C (coeffOf b) * X ^ gen.length) =
          generator gen + (poly t * X + poly t * X) := by
        calc poly (shift gen (h :: t) b) + (poly (h :: t) * X + C (coeffOf b) * X ^ gen.length)
            = (poly t * X + poly gen) + (C (coeffOf h) * X ^ gen.length + poly t * X +
                C (coeffOf b) * X ^ gen.length) := by rw [hshift, poly_xorBits hlen, htail, hmul]
          _ = C (coeffOf h + coeffOf b) * X ^ gen.length + poly gen + (poly t * X + poly t * X) := by
              rw [C_add]
              ring
          _ = generator gen + (poly t * X + poly t * X) := by rw [hone, C_1, one_mul, generator]
      rw [heq, CharTwo.add_self_eq_zero, add_zero]
    · have hshift : shift gen (h :: t) b = t ++ [false] := if_neg hout
      have hzero : coeffOf h + coeffOf b = 0 := by rw [← coeffOf_xor, Bool.eq_false_of_not_eq_true hout]; rfl
      have heq : poly (shift gen (h :: t) b) + (poly (h :: t) * X + C (coeffOf b) * X ^ gen.length) =
          C (coeffOf h + coeffOf b) * X ^ gen.length + (poly t * X + poly t * X) := by
        rw [hshift, htail, hmul, C_add]
        ring
      rw [heq, hzero, CharTwo.add_self_eq_zero, C_0, zero_mul, add_zero]
      exact dvd_zero _

/-- The register after a message, modulo the generator. -/
theorem generator_dvd_run (hr : r.length = gen.length) (hgen : gen ≠ []) (m : List Bool) :
    generator gen ∣ poly (run gen r m) + (poly r * X ^ m.length + poly m * X ^ gen.length) := by
  induction m using List.reverseRecOn with
  | nil =>
    simp only [run, List.foldl_nil, List.length_nil, pow_zero, mul_one, poly_nil, zero_mul, add_zero,
      CharTwo.add_self_eq_zero]
    exact dvd_zero _
  | append_singleton m b ih =>
    have hrun : run gen r (m ++ [b]) = shift gen (run gen r m) b := by rw [run_append]; rfl
    have hstep := generator_dvd_shift (length_run hr hgen m) hgen b
    have hsum := dvd_add hstep (ih.mul_right X)
    rw [hrun, List.length_append, List.length_singleton, poly_snoc]
    convert hsum using 1
    calc poly (shift gen (run gen r m) b) +
          (poly r * X ^ (m.length + 1) + (poly m * X + C (coeffOf b)) * X ^ gen.length)
        = poly (shift gen (run gen r m) b) + (poly r * X ^ (m.length + 1) +
            (poly m * X + C (coeffOf b)) * X ^ gen.length) +
            (poly (run gen r m) * X + poly (run gen r m) * X) := by rw [CharTwo.add_self_eq_zero, add_zero]
      _ = _ := by ring

/-! Two messages. -/

/-- A generator with a constant term has no factor X. -/
theorem coprime_generator (hgen : gen.getLast? = some true) (n : Nat) : IsCoprime (generator gen) (X ^ n) := by
  obtain ⟨g, rfl⟩ := List.getLast?_eq_some_iff.1 hgen
  apply IsCoprime.pow_right
  apply IsCoprime.symm
  have hX : Irreducible (X : (ZMod 2)[X]) := irreducible_X
  rw [hX.coprime_iff_not_dvd, X_dvd_iff, generator, poly_snoc]
  simp [coeffOf]

theorem dvd_of_dvd_mul_X_pow (hgen : gen.getLast? = some true) {p : (ZMod 2)[X]} {n : Nat}
    (h : generator gen ∣ p * X ^ n) : generator gen ∣ p :=
  (coprime_generator hgen n).dvd_of_dvd_mul_right h

theorem ne_nil_of_getLast? (hgen : gen.getLast? = some true) : gen ≠ [] := by
  rintro rfl
  cases hgen

/-- Two messages of one length leave the same register exactly when the
generator divides what they differ in. -/
theorem run_eq_iff (hr : r.length = gen.length) (hgen : gen.getLast? = some true) (hlen : m.length = m'.length) :
    run gen r m = run gen r m' ↔ generator gen ∣ poly (xorBits m m') := by
  have hne := ne_nil_of_getLast? hgen
  have hm := generator_dvd_run hr hne m
  have hm' := generator_dvd_run hr hne m'
  rw [add_comm (poly r * _), ← add_assoc] at hm hm'
  rw [← hlen] at hm'
  have hsum : generator gen ∣
      (poly (run gen r m) + poly (run gen r m')) + poly (xorBits m m') * X ^ gen.length := by
    convert dvd_add_of_shared hm hm' using 1
    rw [poly_xorBits hlen]
    ring
  constructor
  · intro heq
    rw [heq, CharTwo.add_self_eq_zero, zero_add] at hsum
    exact dvd_of_dvd_mul_X_pow hgen hsum
  · intro hdvd
    have hregs : generator gen ∣ poly (run gen r m) + poly (run gen r m') :=
      (dvd_add_left (hdvd.mul_right _)).1 hsum
    exact eq_of_dvd_add (length_run hr hne m) (length_run hr hne m') hregs

/-- Bits added to the register at the top before as many zeros are the same as
the bits as a message. -/
theorem run_padded (hr : r.length = gen.length) (hgen : gen ≠ []) (hm : m.length ≤ gen.length) :
    run gen (xorBits r (m ++ List.replicate (gen.length - m.length) false)) (List.replicate m.length false) =
      run gen r m := by
  have hpad : (m ++ List.replicate (gen.length - m.length) false).length = gen.length := by
    simp
    omega
  have hx : (xorBits r (m ++ List.replicate (gen.length - m.length) false)).length = gen.length := by
    rw [length_xorBits, hr, hpad, Nat.min_self]
  have hzeros := generator_dvd_run hx hgen (List.replicate m.length false)
  have hbits := generator_dvd_run hr hgen m
  have hshared : poly (xorBits r (m ++ List.replicate (gen.length - m.length) false)) * X ^ m.length =
      poly r * X ^ m.length + poly m * X ^ gen.length := by
    rw [poly_xorBits (by rw [hr, hpad]), poly_append, poly_replicate_false, List.length_replicate, add_zero, add_mul,
      mul_assoc, ← pow_add, Nat.sub_add_cancel hm]
  rw [poly_replicate_false, List.length_replicate, zero_mul, add_zero, hshared] at hzeros
  exact eq_of_dvd_add (length_run hx hgen _) (length_run hr hgen m) (dvd_add_of_shared hzeros hbits)

/-- A register that is fed zeros is the sum of what its two halves become: what
the upper one becomes can be looked up, and the lower one only moves up. -/
theorem run_table {x y : List Bool} (hlen : x.length + y.length = gen.length) (hgen : gen ≠ []) :
    run gen (x ++ y) (List.replicate x.length false) =
      xorBits (run gen (x ++ List.replicate y.length false) (List.replicate x.length false))
        (y ++ List.replicate x.length false) := by
  have hxy : (x ++ y).length = gen.length := by rw [List.length_append, hlen]
  have hx : (x ++ List.replicate y.length false).length = gen.length := by simp [hlen]
  have hy : (y ++ List.replicate x.length false).length = gen.length := by
    simp
    omega
  have hboth := generator_dvd_run hxy hgen (List.replicate x.length false)
  have hupper := generator_dvd_run hx hgen (List.replicate x.length false)
  simp only [poly_replicate_false, List.length_replicate, zero_mul, add_zero, poly_append, add_mul] at hboth hupper
  have hrun := length_run hx hgen (List.replicate x.length false)
  apply eq_of_dvd_add (length_run hxy hgen _) (by rw [length_xorBits, hrun, hy, Nat.min_self])
  rw [poly_xorBits (hrun.trans hy.symm), poly_append, poly_replicate_false, List.length_replicate, add_zero,
    add_comm _ (poly y * _), ← add_assoc]
  rw [add_comm (poly x * _ * _), ← add_assoc] at hboth
  exact dvd_add_of_shared hboth hupper

/-- A register is emptied by its own bits and by no others. -/
theorem run_eq_zeros_iff (hr : r.length = gen.length) (hgen : gen.getLast? = some true)
    (hm : m.length = gen.length) : run gen r m = List.replicate gen.length false ↔ r = m := by
  have hne := ne_nil_of_getLast? hgen
  have hrun := generator_dvd_run hr hne m
  rw [hm, ← add_mul] at hrun
  constructor
  · intro hzero
    rw [hzero, poly_replicate_false, zero_add] at hrun
    exact eq_of_dvd_add hr hm (dvd_of_dvd_mul_X_pow hgen hrun)
  · rintro rfl
    rw [CharTwo.add_self_eq_zero, zero_mul, add_zero] at hrun
    apply eq_of_dvd_add (length_run hr hne r) List.length_replicate
    rwa [poly_replicate_false, add_zero]

/-- A message and its check bits empty the register. -/
theorem run_check_iff (hr : r.length = gen.length) (hgen : gen.getLast? = some true) {c : List Bool}
    (hc : c.length = gen.length) : run gen r (m ++ c) = List.replicate gen.length false ↔ run gen r m = c := by
  rw [run_append, run_eq_zeros_iff (length_run hr (ne_nil_of_getLast? hgen) m) hgen hc]

/-! Kinds of errors. -/

/-- All set bits lie among `n` from position `p` on. -/
def Within (p n : Nat) (e : List Bool) : Prop := ∀ k, e[k]? = some true → p ≤ k ∧ k < p + n

/-- The bits set are those at `i` and `j`. -/
def OnlyAt (i j : Nat) (e : List Bool) : Prop := ∀ k, e[k]? = some true ↔ k = i ∨ k = j

theorem onlyAt_iff {i j : Nat} {e : List Bool} :
    OnlyAt i j e ↔ i < e.length ∧ j < e.length ∧ ∀ k < e.length, e[k]? = some true ↔ k = i ∨ k = j := by
  constructor
  · intro h
    have hlt : ∀ k, e[k]? = some true → k < e.length := fun k hk => (List.getElem?_eq_some_iff.1 hk).1
    exact ⟨hlt i ((h i).2 (Or.inl rfl)), hlt j ((h j).2 (Or.inr rfl)), fun k _ => h k⟩
  · rintro ⟨hi, hj, h⟩ k
    by_cases hk : k < e.length
    · exact h k hk
    · rw [List.getElem?_eq_none (by omega)]
      constructor
      · intro hsome
        cases hsome
      · rintro (rfl | rfl)
        · exact absurd hi hk
        · exact absurd hj hk

instance (i j : Nat) (e : List Bool) : Decidable (OnlyAt i j e) := decidable_of_iff' _ onlyAt_iff

theorem eq_replicate_of_unset {l : List Bool} (h : true ∉ l) : l = List.replicate l.length false := by
  refine List.eq_replicate_iff.2 ⟨rfl, fun b hb => ?_⟩
  cases b
  · rfl
  · exact absurd hb h

/-- The generator divides no burst that fits the register. -/
theorem burst_not_dvd (hgen : gen.getLast? = some true) {e : List Bool} {p : Nat} (he : Within p gen.length e)
    (hset : true ∈ e) : ¬ generator gen ∣ poly e := by
  intro hdvd
  have hlow : true ∉ e.take p := by
    intro hmem
    obtain ⟨k, hk⟩ := List.mem_iff_getElem?.1 hmem
    rw [List.getElem?_take] at hk
    split at hk
    · have := he k hk
      omega
    · cases hk
  have hhigh : true ∉ (e.drop p).drop gen.length := by
    intro hmem
    obtain ⟨k, hk⟩ := List.mem_iff_getElem?.1 hmem
    rw [List.getElem?_drop, List.getElem?_drop] at hk
    have := he _ hk
    omega
  have hsplit : e = e.take p ++ ((e.drop p).take gen.length ++ (e.drop p).drop gen.length) := by
    rw [List.take_append_drop, List.take_append_drop]
  rw [eq_replicate_of_unset hlow, eq_replicate_of_unset hhigh] at hsplit
  rw [hsplit, poly_append, poly_append, poly_replicate_false, poly_replicate_false, zero_mul, zero_add,
    add_zero] at hdvd
  have hzero : poly ((e.drop p).take gen.length) = 0 :=
    poly_eq_zero_of_dvd (dvd_of_dvd_mul_X_pow hgen hdvd) (by simp)
  have hmid : true ∉ (e.drop p).take gen.length := fun hmem =>
    absurd (poly_eq_zero_iff.1 hzero true hmem) (by decide)
  rw [hsplit] at hset
  rcases List.mem_append.1 hset with h | h
  · exact absurd (List.eq_of_mem_replicate h) (by decide)
  · rcases List.mem_append.1 h with h | h
    · exact hmid h
    · exact absurd (List.eq_of_mem_replicate h) (by decide)

/-- A generator with an even number of terms divides only errors of an even
number of bits. -/
theorem even_of_dvd (hgen : Odd (gen.count true)) {e : List Bool} (h : generator gen ∣ poly e) :
    Even (e.count true) := by
  obtain ⟨q, hq⟩ := h
  have hroot : (generator gen).eval 1 = 0 := by
    rw [generator, eval_add, eval_pow, eval_X, one_pow, eval_one_poly]
    obtain ⟨k, hk⟩ := hgen
    rw [hk, Nat.cast_add, Nat.cast_mul, Nat.cast_one, show ((2 : Nat) : ZMod 2) = 0 from rfl, zero_mul, zero_add]
    exact CharTwo.add_self_eq_zero 1
  have heval : (e.count true : ZMod 2) = 0 := by rw [← eval_one_poly, hq, eval_mul, hroot, zero_mul]
  exact (ZMod.natCast_eq_zero_iff_even).1 heval

/-- The register that holds 1. -/
def one (gen : List Bool) : List Bool := List.replicate (gen.length - 1) false ++ [true]

theorem length_one (hgen : gen ≠ []) : (one gen).length = gen.length := by
  have hpos : 0 < gen.length := List.length_pos_iff.2 hgen
  simp [one]
  omega

theorem poly_one (gen : List Bool) : poly (one gen) = 1 := by simp [one, poly_snoc, coeffOf]

/-- The number of zeros after which a register that holds 1 holds 1 again. -/
noncomputable def period (gen : List Bool) : Nat := Function.minimalPeriod (shift gen · false) (one gen)

theorem iterate_shift (gen r : List Bool) (n : Nat) :
    (shift gen · false)^[n] r = run gen r (List.replicate n false) := by
  induction n generalizing r with
  | zero => rfl
  | succ n ih => rw [Function.iterate_succ_apply, ih, List.replicate_succ]; rfl

/-- The register holds something else than 1 after each of the next `n` zeros. -/
def staysAway (gen : List Bool) : Nat → List Bool → Bool
  | 0, _ => true
  | n + 1, r => shift gen r false != one gen && staysAway gen n (shift gen r false)

theorem ne_one_of_staysAway {n d : Nat} (h : staysAway gen n r = true) (hpos : 0 < d) (hd : d ≤ n) :
    run gen r (List.replicate d false) ≠ one gen := by
  induction n generalizing r d with
  | zero => omega
  | succ n ih =>
    rw [staysAway, Bool.and_eq_true, bne_iff_ne] at h
    obtain ⟨k, rfl⟩ : ∃ k, d = k + 1 := ⟨d - 1, by omega⟩
    rw [List.replicate_succ]
    by_cases hk : k = 0
    · rw [hk]
      exact h.1
    · exact ih h.2 (by omega) (by omega)

/-- Evaluating the register bounds its period from below. -/
theorem not_period_dvd {n d : Nat} (h : staysAway gen n (one gen) = true) (hpos : 0 < d) (hd : d ≤ n) :
    ¬ period gen ∣ d := by
  rw [period, ← Function.isPeriodicPt_iff_minimalPeriod_dvd, Function.IsPeriodicPt, Function.IsFixedPt, iterate_shift]
  exact ne_one_of_staysAway h hpos hd

/-- Two set bits stand for a sum of two powers. -/
theorem poly_of_onlyAt {i j : Nat} (hij : i < j) {e : List Bool} (he : OnlyAt i j e) :
    poly e = (X ^ (j - i) + 1) * X ^ (e.length - 1 - j) := by
  have hj : j < e.length := (List.getElem?_eq_some_iff.1 ((he j).2 (Or.inr rfl))).1
  have hsplit : e = List.replicate i false ++ [true] ++ List.replicate (j - i - 1) false ++ [true] ++
      List.replicate (e.length - 1 - j) false := by
    apply List.ext_getElem?
    intro k
    have hk := he k
    by_cases hlen : k < e.length
    · rw [List.getElem?_eq_getElem hlen] at hk ⊢
      have hbit : e[k] = (decide (k = i) || decide (k = j)) := by
        rw [Bool.eq_iff_iff]
        simpa using hk
      rw [hbit]
      simp only [List.getElem?_append, List.length_append, List.length_replicate, List.length_singleton,
        List.getElem?_replicate, List.getElem?_singleton]
      split_ifs <;> (try simp) <;> omega
    · rw [List.getElem?_eq_none (by omega), List.getElem?_eq_none (by simp; omega)]
  have hdist : j - i - 1 + 1 = j - i := by omega
  calc poly e = poly (List.replicate i false ++ [true] ++ List.replicate (j - i - 1) false ++ [true] ++
      List.replicate (e.length - 1 - j) false) := congrArg poly hsplit
    _ = (X ^ (j - i - 1 + 1) + 1) * X ^ (e.length - 1 - j) := by
      rw [poly_append, poly_snoc, poly_append, poly_snoc, poly_replicate_false, poly_replicate_false,
        poly_replicate_false]
      simp [coeffOf, pow_succ]
    _ = _ := by rw [hdist]

/-- Two set bits are divided exactly when the register's period divides their
distance. -/
theorem pair_dvd_iff (hgen : gen.getLast? = some true) {i j : Nat} (hij : i < j) {e : List Bool} (he : OnlyAt i j e) :
    generator gen ∣ poly e ↔ period gen ∣ j - i := by
  have hne := ne_nil_of_getLast? hgen
  have hrun := generator_dvd_run (length_one hne) hne (List.replicate (j - i) false)
  rw [poly_one, poly_replicate_false, List.length_replicate, zero_mul, add_zero, one_mul] at hrun
  rw [poly_of_onlyAt hij he, period, ← Function.isPeriodicPt_iff_minimalPeriod_dvd, Function.IsPeriodicPt,
    Function.IsFixedPt, iterate_shift]
  constructor
  · intro hdvd
    have hregs : generator gen ∣ poly (run gen (one gen) (List.replicate (j - i) false)) + poly (one gen) := by
      have hback : generator gen ∣ poly (one gen) + X ^ (j - i) := by
        rw [poly_one, add_comm]
        exact dvd_of_dvd_mul_X_pow hgen hdvd
      exact dvd_add_of_shared hrun hback
    exact eq_of_dvd_add (length_run (length_one hne) hne _) (length_one hne) hregs
  · intro heq
    rw [heq, poly_one, add_comm] at hrun
    exact hrun.mul_right _

end Lib.Crc
