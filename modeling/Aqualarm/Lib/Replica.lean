import Mathlib.Data.Finset.Insert
import Mathlib.Data.Finset.Filter

/-
  A copy of a table of keys and values that follows the table by messages: each
  gives a key its value, or takes the key out. The table may hold a key more
  than once.

  What is proved:
    1. `mem_apply_of_ne`, `mem_applyAll_of_ne` — messages change nothing under
       the keys they do not name.
    2. `apply_put_eq_iff`, `applyAll_drops_eq_iff` — what the table has to look
       like for the copy to be equal to it after them.
-/

namespace Lib

/-- What a message says about a key. -/
inductive Update (κ ν : Type*) where
  | put (key : κ) (value : ν)
  | drop (key : κ)
  deriving DecidableEq, Repr

variable {κ ν : Type*} [DecidableEq κ]

/-- The copy without what it holds under the key. -/
def without (k : κ) (r : Finset (κ × ν)) : Finset (κ × ν) := r.filter fun e => e.1 ≠ k

theorem mem_without {k : κ} {r : Finset (κ × ν)} {e : κ × ν} : e ∈ without k r ↔ e ∈ r ∧ e.1 ≠ k := Finset.mem_filter

/-- The table holds one value under the key. -/
def HoldsOnly (k : κ) (v : ν) (t : Finset (κ × ν)) : Prop := ∀ w, (k, w) ∈ t ↔ w = v

/-- The table holds nothing under the key. -/
def HoldsNone (k : κ) (t : Finset (κ × ν)) : Prop := ∀ w, (k, w) ∉ t

namespace Update

def key : Update κ ν → κ
  | put k _ | drop k => k

variable [DecidableEq ν]

def apply : Update κ ν → Finset (κ × ν) → Finset (κ × ν)
  | put k v, r => insert (k, v) (without k r)
  | drop k, r => without k r

/-- Messages one after the other. -/
def applyAll (us : List (Update κ ν)) (r : Finset (κ × ν)) : Finset (κ × ν) := us.foldl (fun r u => u.apply r) r

variable {k : κ} {v : ν} {r t : Finset (κ × ν)} {e : κ × ν}

@[simp] theorem applyAll_nil : applyAll [] r = r := rfl

@[simp] theorem applyAll_singleton (u : Update κ ν) : applyAll [u] r = u.apply r := rfl

theorem applyAll_append (us us' : List (Update κ ν)) : applyAll (us ++ us') r = applyAll us' (applyAll us r) :=
  List.foldl_append

/-! Other keys. -/

theorem mem_apply_of_ne {u : Update κ ν} (h : e.1 ≠ u.key) : e ∈ u.apply r ↔ e ∈ r := by
  cases u with
  | put k v =>
    rw [apply, Finset.mem_insert, mem_without]
    constructor
    · rintro (rfl | ⟨he, _⟩)
      · exact absurd rfl h
      · exact he
    · exact fun he => Or.inr ⟨he, h⟩
  | drop k =>
    rw [apply, mem_without]
    exact and_iff_left h

theorem mem_applyAll_drops {ks : List κ} : e ∈ applyAll (ks.map drop) r ↔ e ∈ r ∧ e.1 ∉ ks := by
  induction ks generalizing r with
  | nil => simp
  | cons k ks ih =>
    have hcons : applyAll ((k :: ks).map drop) r = applyAll (ks.map drop) (without k r) := rfl
    rw [hcons, ih, mem_without, List.mem_cons, not_or]
    exact and_assoc

/-! The copy after a message. -/

theorem mem_apply_put {w : ν} : (k, w) ∈ (put k v).apply r ↔ w = v := by
  rw [apply, Finset.mem_insert, mem_without]
  constructor
  · rintro (h | ⟨_, h⟩)
    · exact congrArg Prod.snd h
    · exact absurd rfl h
  · rintro rfl
    exact Or.inl rfl

/-- A key that is given a value. -/
theorem apply_put_eq_iff (hrest : ∀ e, e.1 ≠ k → (e ∈ r ↔ e ∈ t)) : (put k v).apply r = t ↔ HoldsOnly k v t := by
  constructor
  · rintro rfl w
    exact mem_apply_put
  · intro hk
    ext ⟨k', w⟩
    by_cases hkk : k' = k
    · subst hkk
      rw [mem_apply_put, hk]
    · rw [mem_apply_of_ne hkk]
      exact hrest _ hkk

/-- Keys that are taken out. -/
theorem applyAll_drops_eq_iff {ks : List κ} (hrest : ∀ e, e.1 ∉ ks → (e ∈ r ↔ e ∈ t)) :
    applyAll (ks.map drop) r = t ↔ ∀ k ∈ ks, HoldsNone k t := by
  constructor
  · rintro rfl k hk w hw
    exact (mem_applyAll_drops.1 hw).2 hk
  · intro hnone
    ext e
    rw [mem_applyAll_drops]
    by_cases he : e.1 ∈ ks
    · exact ⟨fun h => absurd he h.2, fun h => absurd h (hnone _ he e.2)⟩
    · rw [hrest e he]
      exact and_iff_left he

/-- Keys that are taken out, and one that is given a value afterwards. -/
theorem applyAll_drops_put_eq_iff {ks : List κ} (hrest : ∀ e, e.1 ∉ ks → e.1 ≠ k → (e ∈ r ↔ e ∈ t)) :
    (put k v).apply (applyAll (ks.map drop) r) = t ↔ (∀ k' ∈ ks, k' ≠ k → HoldsNone k' t) ∧ HoldsOnly k v t := by
  constructor
  · rintro rfl
    refine ⟨fun k' hk' hne w hw => ?_, fun w => mem_apply_put⟩
    rw [mem_apply_of_ne hne, mem_applyAll_drops] at hw
    exact hw.2 hk'
  · rintro ⟨hnone, hk⟩
    refine (apply_put_eq_iff fun e he => ?_).2 hk
    rw [mem_applyAll_drops]
    by_cases hks : e.1 ∈ ks
    · exact ⟨fun h => absurd hks h.2, fun h => absurd h (hnone _ hks he e.2)⟩
    · rw [hrest e hks he]
      exact and_iff_left hks

end Update

end Lib
