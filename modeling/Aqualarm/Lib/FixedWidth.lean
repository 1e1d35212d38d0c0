import Mathlib.Algebra.Ring.Nat
import Mathlib.Data.List.Basic

/-
  Records of one width written one after another, and read back by their number.
-/

namespace Lib

variable {α β γ : Type*}

/-- The first `n` records of width `w`. -/
def readRecords (w : Nat) (read : List α → β) : Nat → List α → List β
  | 0, _ => []
  | n + 1, l => read (l.take w) :: readRecords w read n (l.drop w)

section
variable {w : Nat} {write : γ → List α} {read : List α → β} {f : γ → β}

theorem length_flatMap_width (hw : ∀ x, (write x).length = w) (l : List γ) :
    (l.flatMap write).length = w * l.length := by
  induction l with
  | nil => rfl
  | cons x l ih =>
    rw [List.flatMap_cons, List.length_append, hw x, ih, List.length_cons, Nat.mul_add, Nat.mul_one, Nat.add_comm]

/-- **Round trip**: what was written of each record is read of it, in order. -/
theorem readRecords_flatMap (hw : ∀ x, (write x).length = w) (hr : ∀ x, read (write x) = f x) (l : List γ) :
    readRecords w read l.length (l.flatMap write) = l.map f := by
  induction l with
  | nil => rfl
  | cons x l ih =>
    rw [List.flatMap_cons, List.length_cons, readRecords, List.take_left' (hw x), List.drop_left' (hw x), ih, hr x,
      List.map_cons]

end

end Lib
