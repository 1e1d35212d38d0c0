import Mathlib.Data.List.GetD
import Mathlib.Tactic.SplitIfs

/-
  Building a frame piece by piece in a buffer that others write too. Nothing
  here is about any particular frame.

  A piece is what one call appends, given what it reads in front of it. A writer
  that is interrupted finds the bytes of another in front, and goes on.

  What is proved:
    1. `runPieces_holds` — the pieces of a writer that finds `l` at its cursor
       leave `l` and what they build on it.
    2. `take_build_congr_iff` — what is built on two starts of one length agrees
       as far as it is looked at exactly when the starts do.
-/

namespace Lib

variable {α : Type*}

/-- What a call appends, given what stands in front of its cursor. -/
abbrev Piece (α : Type*) := List α → List α

/-- The bytes `l` from `dest` on. -/
def writeAt (dest : Nat) (l : List α) (buf : Nat → α) : Nat → α :=
  fun i => if dest ≤ i then l.getD (i - dest) (buf i) else buf i

/-- The first `n` bytes. -/
def readTo (n : Nat) (buf : Nat → α) : List α := (List.range n).map buf

/-- One call: it reads to its cursor and writes from there. -/
def runPiece (p : Piece α) (s : Nat × (Nat → α)) : Nat × (Nat → α) :=
  let l := p (readTo s.1 s.2)
  (s.1 + l.length, writeAt s.1 l s.2)

def runPieces (ps : List (Piece α)) (s : Nat × (Nat → α)) : Nat × (Nat → α) :=
  ps.foldl (fun s p => runPiece p s) s

/-- What the calls build on `l`. -/
def build (ps : List (Piece α)) (l : List α) : List α := ps.foldl (fun l p => l ++ p l) l

/-- The buffer holds `l`, and the cursor stands behind it. -/
def Holds (l : List α) (s : Nat × (Nat → α)) : Prop := s.1 = l.length ∧ readTo s.1 s.2 = l

/-! Reading and writing. -/

@[simp] theorem length_readTo (n : Nat) (buf : Nat → α) : (readTo n buf).length = n := by
  simp [readTo]

theorem readTo_getElem? {n i : Nat} (buf : Nat → α) (h : i < n) : (readTo n buf)[i]? = some (buf i) := by
  simp [readTo, h]

theorem holds_iff {l : List α} {s : Nat × (Nat → α)} :
    Holds l s ↔ s.1 = l.length ∧ ∀ i, i < l.length → l[i]? = some (s.2 i) := by
  constructor
  · rintro ⟨hlen, hread⟩
    refine ⟨hlen, fun i hi => ?_⟩
    rw [← hread]
    exact readTo_getElem? _ (by omega)
  · rintro ⟨hlen, hbyte⟩
    refine ⟨hlen, List.ext_getElem? fun i => ?_⟩
    by_cases hi : i < l.length
    · rw [hbyte i hi, readTo_getElem? _ (by omega)]
    · rw [List.getElem?_eq_none (by simp; omega), List.getElem?_eq_none (by omega)]

theorem holds_nil (buf : Nat → α) : Holds [] (0, buf) := ⟨rfl, rfl⟩

/-- Behind the bytes written the buffer stays. -/
theorem writeAt_of_le {dest i : Nat} {l : List α} {buf : Nat → α} (h : dest + l.length ≤ i) :
    writeAt dest l buf i = buf i := by
  unfold writeAt
  split_ifs
  · exact List.getD_eq_default _ _ (by omega)
  · rfl

theorem runPiece_holds {l : List α} {s : Nat × (Nat → α)} (h : Holds l s) (p : Piece α) :
    Holds (l ++ p l) (runPiece p s) := by
  obtain ⟨hlen, hread⟩ := id h
  rw [holds_iff] at h ⊢
  unfold runPiece
  dsimp only
  rw [hread, List.length_append]
  refine ⟨by omega, fun i hi => ?_⟩
  unfold writeAt
  by_cases hin : i < l.length
  · rw [List.getElem?_append_left hin, h.2 i hin, if_neg (by omega)]
  · rw [List.getElem?_append_right (by omega), if_pos (by omega), hlen]
    have hlt : i - l.length < (p l).length := by omega
    rw [List.getD_eq_getElem _ _ hlt, List.getElem?_eq_getElem hlt]

theorem runPiece_behind {p : Piece α} {s : Nat × (Nat → α)} {i : Nat} (h : (runPiece p s).1 ≤ i) :
    (runPiece p s).2 i = s.2 i := writeAt_of_le h

theorem runPiece_le (p : Piece α) (s : Nat × (Nat → α)) : s.1 ≤ (runPiece p s).1 := Nat.le_add_right _ _

/-! Whole writers. -/

section
variable {ps : List (Piece α)}

@[simp] theorem build_nil (l : List α) : build ([] : List (Piece α)) l = l := rfl

theorem build_cons (p : Piece α) (l : List α) : build (p :: ps) l = build ps (l ++ p l) := rfl

theorem build_append (ps qs : List (Piece α)) (l : List α) : build (ps ++ qs) l = build qs (build ps l) :=
  List.foldl_append

/-- The pieces leave what they build. -/
theorem runPieces_holds {l : List α} {s : Nat × (Nat → α)} (h : Holds l s) (ps : List (Piece α)) :
    Holds (build ps l) (runPieces ps s) := by
  induction ps generalizing l s with
  | nil => exact h
  | cons p ps ih => exact ih (runPiece_holds h p)

theorem runPieces_le (ps : List (Piece α)) (s : Nat × (Nat → α)) : s.1 ≤ (runPieces ps s).1 := by
  induction ps generalizing s with
  | nil => exact Nat.le_refl _
  | cons p ps ih => exact Nat.le_trans (runPiece_le p s) (ih (runPiece p s))

/-- Behind its cursor a writer leaves the buffer. -/
theorem runPieces_behind {s : Nat × (Nat → α)} {i : Nat} (h : (runPieces ps s).1 ≤ i) :
    (runPieces ps s).2 i = s.2 i := by
  induction ps generalizing s with
  | nil => rfl
  | cons p ps ih =>
    have hp : (runPiece p s).1 ≤ i := Nat.le_trans (runPieces_le ps _) h
    exact (ih h).trans (runPiece_behind hp)

theorem exists_build (ps : List (Piece α)) (l : List α) : ∃ t, build ps l = l ++ t := by
  induction ps generalizing l with
  | nil => exact ⟨[], (List.append_nil l).symm⟩
  | cons p ps ih =>
    obtain ⟨t, ht⟩ := ih (l ++ p l)
    exact ⟨p l ++ t, by rw [build_cons, ht, List.append_assoc]⟩

/-- As far as `n`, what is built on two starts of one length agrees exactly when
the starts do. -/
theorem take_build_congr_iff {l l' : List α} (hlen : l'.length = l.length) (n : Nat) :
    (build ps l').take n = (build ps l).take n ↔ l'.take n = l.take n := by
  obtain ⟨t, ht⟩ := exists_build ps l
  obtain ⟨t', ht'⟩ := exists_build ps l'
  by_cases hn : n ≤ l.length
  · rw [ht, ht', List.take_append_of_le_length (by omega), List.take_append_of_le_length hn]
  · rw [List.take_of_length_le (show l'.length ≤ n by omega), List.take_of_length_le (show l.length ≤ n by omega)]
    constructor
    · intro h
      have htake := congrArg (List.take l.length) h
      rw [List.take_take, List.take_take, Nat.min_eq_left (by omega), ht, ht',
        List.take_append_of_le_length (by omega), List.take_append_of_le_length (Nat.le_refl _),
        List.take_length, List.take_of_length_le (by omega)] at htake
      exact htake
    · rintro rfl
      rfl

end

/-! Another writer over the start. -/

/-- `l` with the bytes of `top` in their places. -/
def overlay (top l : List α) : List α := top.take l.length ++ l.drop top.length

@[simp] theorem length_overlay (top l : List α) : (overlay top l).length = l.length := by
  simp [overlay]
  omega

/-- A writer that starts again at 0 leaves its own bytes over those there. -/
theorem holds_overlay {l : List α} {n : Nat} {buf : Nat → α} (h : Holds l (n, buf)) (ps : List (Piece α)) :
    Holds (overlay (build ps []) l) (n, (runPieces ps (0, buf)).2) := by
  obtain ⟨hlen, hbyte⟩ := holds_iff.1 (runPieces_holds (holds_nil buf) ps)
  obtain ⟨hn, hl⟩ := holds_iff.1 h
  refine holds_iff.2 ⟨by rw [length_overlay]; exact hn, fun i hi => ?_⟩
  rw [length_overlay] at hi
  dsimp only at hl ⊢
  unfold overlay
  by_cases hin : i < (build ps []).length
  · rw [List.getElem?_append_left (by simp; omega), List.getElem?_take_of_lt hi, hbyte i hin]
  · rw [List.getElem?_append_right (by simp; omega), List.getElem?_drop, List.length_take,
      show (build ps []).length + (i - min l.length (build ps []).length) = i by omega, hl i hi,
      runPieces_behind (by rw [hlen]; omega)]

/-- The overlay shows nothing, as far as `n`, where the two agree. -/
theorem take_overlay_eq_iff {top l : List α} {n : Nat} :
    (overlay top l).take n = l.take n ↔
      ∀ i, i < n → i < l.length → i < top.length → top[i]? = l[i]? := by
  have hat : ∀ i, i < l.length → (overlay top l)[i]? = if i < top.length then top[i]? else l[i]? := by
    intro i hi
    unfold overlay
    split_ifs with hin
    · rw [List.getElem?_append_left (by simp; omega), List.getElem?_take_of_lt hi]
    · rw [List.getElem?_append_right (by simp; omega), List.getElem?_drop, List.length_take,
        show top.length + (i - min l.length top.length) = i by omega]
  constructor
  · intro h i hn hl hover
    have hi := congrArg (·[i]?) h
    simp only [List.getElem?_take_of_lt hn, hat i hl, if_pos hover] at hi
    exact hi
  · intro h
    refine List.ext_getElem? fun i => ?_
    by_cases hn : i < n
    · rw [List.getElem?_take_of_lt hn, List.getElem?_take_of_lt hn]
      by_cases hl : i < l.length
      · rw [hat i hl]
        split_ifs with hover
        · exact h i hn hl hover
        · rfl
      · rw [List.getElem?_eq_none (by simp; omega), List.getElem?_eq_none (by omega)]
    · rw [List.getElem?_eq_none (by simp; omega), List.getElem?_eq_none (by simp; omega)]

end Lib
