import Mathlib.Algebra.Ring.Nat
import Mathlib.Data.Finset.Card
import Mathlib.Data.Finset.Range

/-
  A machine word as a set of small numbers: testing, setting and clearing one
  bit, written as C writes them.
-/

namespace Lib

/-- `1 << i` in a `w`-bit word. -/
def bit (w i : Nat) : BitVec w := 1#w <<< i

theorem getLsbD_bit {w i j : Nat} (hi : i < w) : (bit w i).getLsbD j = decide (i = j) := by
  rw [bit, BitVec.getLsbD_shiftLeft, BitVec.getLsbD_one]
  by_cases h : i = j
  · subst h; simp [hi]; omega
  · rw [decide_eq_false h]
    simp only [Bool.and_eq_false_iff, Bool.not_eq_false', decide_eq_true_eq, decide_eq_false_iff_not]
    omega

theorem and_bit_eq_zero {w i : Nat} (hi : i < w) (x : BitVec w) :
    x &&& bit w i = 0 ↔ x.getLsbD i = false := by
  constructor
  · intro h
    have := congrArg (fun y => BitVec.getLsbD y i) h
    simpa [BitVec.getLsbD_and, getLsbD_bit hi] using this
  · intro h
    apply BitVec.eq_of_getLsbD_eq
    intro j _
    rw [BitVec.getLsbD_and, getLsbD_bit hi]
    by_cases hij : i = j
    · subst hij; simp [h]
    · simp [hij]

theorem getLsbD_or_bit {w i j : Nat} (hi : i < w) (x : BitVec w) :
    (x ||| bit w i).getLsbD j = (x.getLsbD j || decide (i = j)) := by
  rw [BitVec.getLsbD_or, getLsbD_bit hi]

theorem getLsbD_or_bit_self {w i : Nat} (hi : i < w) (x : BitVec w) : (x ||| bit w i).getLsbD i = true := by
  rw [getLsbD_or_bit hi, decide_eq_true rfl, Bool.or_true]

theorem getLsbD_and_not_bit {w i j : Nat} (hi : i < w) (x : BitVec w) :
    (x &&& ~~~(bit w i)).getLsbD j = (x.getLsbD j && !decide (i = j)) := by
  rw [BitVec.getLsbD_and, BitVec.getLsbD_not, getLsbD_bit hi]
  by_cases hj : j < w
  · simp [hj]
  · simp [BitVec.getLsbD_of_ge x j (by omega)]

/-- Clearing one bit leaves another set. -/
theorem getLsbD_and_not_bit_of_ne {w i j : Nat} {x : BitVec w} (hx : x.getLsbD j = true) (h : i ≠ j) :
    (x &&& ~~~(bit w i)).getLsbD j = true := by
  by_cases hi : i < w
  · rw [getLsbD_and_not_bit hi, hx, decide_eq_false h]
    rfl
  · have hj : j < w := BitVec.lt_of_getLsbD hx
    rw [BitVec.getLsbD_and, BitVec.getLsbD_not, hx, bit, BitVec.getLsbD_shiftLeft]
    simp [hj]
    omega

/-- A word whose set bits are all below `n` is below `2 ^ n`. -/
theorem toNat_lt_of_bits {w n : Nat} {x : BitVec w} (h : ∀ i, x.getLsbD i = true → i < n) :
    x.toNat < 2 ^ n := by
  apply Nat.lt_pow_two_of_testBit
  intro i hi
  by_contra hc
  have : x.getLsbD i = true := by simpa [BitVec.getLsbD] using hc
  have := h i this
  omega

/-- Distinct numbers below `n` fill `[0, n)` exactly when there are `n` of them. -/
theorem full_iff_length {l : List Nat} {n : Nat} (hnd : l.Nodup) (hlt : ∀ i ∈ l, i < n) :
    (∀ i, i < n → i ∈ l) ↔ l.length = n := by
  have hsub : l.toFinset ⊆ Finset.range n := by
    intro i hi
    exact Finset.mem_range.2 (hlt i (List.mem_toFinset.1 hi))
  have hcard : l.toFinset.card = l.length := List.toFinset_card_of_nodup hnd
  constructor
  · intro h
    have heq : l.toFinset = Finset.range n := by
      apply Finset.Subset.antisymm hsub
      intro i hi
      exact List.mem_toFinset.2 (h i (Finset.mem_range.1 hi))
    rw [← hcard, heq, Finset.card_range]
  · intro h i hi
    have heq : l.toFinset = Finset.range n :=
      Finset.eq_of_subset_of_card_le hsub (by rw [hcard, h, Finset.card_range])
    exact List.mem_toFinset.1 (heq ▸ Finset.mem_range.2 hi)

end Lib
