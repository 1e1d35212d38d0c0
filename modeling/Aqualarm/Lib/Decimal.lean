import Mathlib.Algebra.Ring.Nat
import Mathlib.Data.List.TakeWhile

/-
  Signed decimal text: what `%d` prints and `atol` reads back, and the round
  trip between them. `Nat.toDigits` and `Nat.ofDigitChars` are the library's.
-/

namespace Lib

/-- The text `%d` prints for `v`. -/
def printInt : Int → List Char
  | .ofNat n => Nat.toDigits 10 n
  | .negSucc n => '-' :: Nat.toDigits 10 (n + 1)

/-- The value of the longest digit prefix. -/
def readDigits (cs : List Char) : Nat := Nat.ofDigitChars 10 (cs.takeWhile Char.isDigit) 0

/-- `atol`: leading blanks, an optional sign, then digits up to the first other
character. -/
def atol (cs : List Char) : Int :=
  match cs.dropWhile Char.isWhitespace with
  | '-' :: ds => -(readDigits ds : Int)
  | '+' :: ds => readDigits ds
  | ds => readDigits ds

theorem readDigits_toDigits (n : Nat) : readDigits (Nat.toDigits 10 n) = n := by
  have hall : (Nat.toDigits 10 n).takeWhile Char.isDigit = Nat.toDigits 10 n :=
    List.takeWhile_eq_self_iff.2 (fun c hc => Nat.isDigit_of_mem_toDigits (by decide) (by decide) hc)
  rw [readDigits, hall, Nat.ofDigitChars_ten_toDigits]

theorem isWhitespace_of_isDigit {c : Char} (h : c.isDigit = true) : c.isWhitespace = false := by
  cases hw : c.isWhitespace with
  | false => rfl
  | true =>
    simp only [Char.isWhitespace, Bool.or_eq_true, decide_eq_true_eq] at hw
    rcases hw with ((rfl | rfl) | rfl) | rfl <;> exact absurd h (by decide)

/-- Text that starts with a digit is read as its digits. -/
theorem atol_of_digit {cs : List Char} (h : ∃ c ds, cs = c :: ds ∧ c.isDigit = true) :
    atol cs = readDigits cs := by
  obtain ⟨c, ds, rfl, hc⟩ := h
  have hd : (c :: ds).dropWhile Char.isWhitespace = c :: ds := by
    simp [isWhitespace_of_isDigit hc]
  unfold atol
  rw [hd]
  split
  · rename_i heq
    cases heq
    exact absurd hc (by decide)
  · rename_i heq
    cases heq
    exact absurd hc (by decide)
  · rfl

theorem toDigits_head_isDigit (n : Nat) : ∃ c ds, Nat.toDigits 10 n = c :: ds ∧ c.isDigit = true := by
  cases h : Nat.toDigits 10 n with
  | nil => exact absurd h Nat.toDigits_ne_nil
  | cons c ds =>
    have hm : c ∈ Nat.toDigits 10 n := by rw [h]; exact List.mem_cons_self
    exact ⟨c, ds, rfl, Nat.isDigit_of_mem_toDigits (by decide) (by decide) hm⟩

/-- **Round trip.** `atol` reads back what `%d` printed. -/
theorem atol_printInt (v : Int) : atol (printInt v) = v := by
  cases v with
  | ofNat n =>
    rw [printInt, atol_of_digit (toDigits_head_isDigit n), readDigits_toDigits]
    rfl
  | negSucc n =>
    have hd : ('-' :: Nat.toDigits 10 (n + 1)).dropWhile Char.isWhitespace =
        '-' :: Nat.toDigits 10 (n + 1) := by
      rw [List.dropWhile_cons_of_neg (by decide)]
    simp only [printInt, atol, hd, readDigits_toDigits]
    rfl

theorem printInt_ne_nil (v : Int) : printInt v ≠ [] := by
  cases v with
  | ofNat n => exact Nat.toDigits_ne_nil
  | negSucc n => simp [printInt]

/-- A 32-bit value prints in at most eleven characters. -/
theorem length_printInt_le {v : Int} (h : v.natAbs < 10 ^ 10) : (printInt v).length ≤ 11 := by
  cases v with
  | ofNat n =>
    have := (Nat.length_toDigits_le_iff (b := 10) (n := n) (k := 10) (by decide) (by decide)).2 h
    simp only [printInt]
    omega
  | negSucc n =>
    have := (Nat.length_toDigits_le_iff (b := 10) (n := n + 1) (k := 10) (by decide) (by decide)).2 h
    simp only [printInt, List.length_cons]
    omega

end Lib
