import Mathlib.Data.List.Basic
import Mathlib.Data.List.Forall2
import Mathlib.Logic.Function.Basic

/-
  A change of the first element of a list that satisfies a test, and another one of
  all others: a search by a key that may be listed twice, and a write to what it finds.
  Erasing by keys, one element at a time, and what is left of the list then.
-/

namespace Lib

variable {α β : Type*}

/-- `f` on the first element that satisfies `p`, and `g` on every other one. -/
def mapFirst (p : α → Bool) (f g : α → α) : List α → List α
  | [] => []
  | a :: l => if p a then f a :: l.map g else g a :: mapFirst p f g l

section
variable {p : α → Bool} {f g f' g' : α → α} {l : List α}

theorem mapFirst_same (p : α → Bool) (g : α → α) (l : List α) : mapFirst p g g l = l.map g := by
  induction l with
  | nil => rfl
  | cons a l ih =>
    rw [mapFirst, ih, List.map_cons]
    split <;> rfl

theorem mapFirst_congr (h : ∀ a, p a = true → f a = f' a) (l : List α) : mapFirst p f g l = mapFirst p f' g l := by
  induction l with
  | nil => rfl
  | cons a l ih =>
    rw [mapFirst, mapFirst, ih]
    split
    · rename_i ha
      rw [h a ha]
    · rfl

theorem mapFirst_append {l' : List α} (h : ∀ a ∈ l, ¬ p a = true) :
    mapFirst p f g (l ++ l') = l.map g ++ mapFirst p f g l' := by
  induction l with
  | nil => rfl
  | cons a l ih =>
    rw [List.cons_append, mapFirst, if_neg (h a List.mem_cons_self),
      ih fun b hb => h b (List.mem_cons_of_mem a hb)]
    rfl

/-- Each element is changed in one of the two ways. -/
theorem forall₂_mapFirst (p : α → Bool) (f g : α → α) (l : List α) :
    List.Forall₂ (fun a b => (p a = true ∧ b = f a) ∨ b = g a) l (mapFirst p f g l) := by
  induction l with
  | nil => exact .nil
  | cons a l ih =>
    rw [mapFirst]
    split
    · rename_i ha
      refine .cons (Or.inl ⟨ha, rfl⟩) ?_
      exact List.forall₂_map_right_iff.2 (List.forall₂_same.2 fun _ _ => Or.inr rfl)
    · exact .cons (Or.inr rfl) ih

/-- Changes that keep the test compose one by one. -/
theorem mapFirst_mapFirst (hf : ∀ a, p (f a) = p a) (hg : ∀ a, p (g a) = p a) (l : List α) :
    mapFirst p f' g' (mapFirst p f g l) = mapFirst p (f' ∘ f) (g' ∘ g) l := by
  induction l with
  | nil => rfl
  | cons a l ih =>
    simp only [mapFirst]
    split
    · rename_i ha
      rw [mapFirst, if_pos ((hf a).trans ha), List.map_map]
      rfl
    · rename_i ha
      rw [mapFirst, if_neg (by rwa [hg a]), ih]
      rfl

theorem find?_mapFirst (hf : ∀ a, p (f a) = p a) (hg : ∀ a, p (g a) = p a) (l : List α) :
    (mapFirst p f g l).find? p = (l.find? p).map f := by
  induction l with
  | nil => rfl
  | cons a l ih =>
    rw [mapFirst]
    split
    · rename_i ha
      rw [List.find?_cons_of_pos ((hf a).trans ha), List.find?_cons_of_pos ha, Option.map_some]
    · rename_i ha
      rw [List.find?_cons_of_neg (by rwa [hg a]), List.find?_cons_of_neg ha, ih]

/-- A search for others finds what it found. -/
theorem find?_mapFirst_of_other {q : α → Bool} (hf : ∀ a, q (f a) = q a) (hq : ∀ a, p a = true → q a = false)
    (l : List α) : (mapFirst p f id l).find? q = l.find? q := by
  induction l with
  | nil => rfl
  | cons a l ih =>
    rw [mapFirst]
    split
    · rename_i ha
      have hfa : ¬ q (f a) = true := by rw [hf, hq a ha]; decide
      have ha : ¬ q a = true := by rw [hq a ha]; decide
      rw [List.find?_cons_of_neg hfa, List.find?_cons_of_neg ha, List.map_id]
    · rw [id_eq, List.find?_cons, List.find?_cons, ih]

/-- What is found is left as it is, and so are all others: the list stays. -/
theorem mapFirst_of_fixed (hf : ∀ a ∈ l.find? p, f a = a) (hg : ∀ a ∈ l, g a = a) : mapFirst p f g l = l := by
  induction l with
  | nil => rfl
  | cons a l ih =>
    have hrest : ∀ b ∈ l, g b = b := fun b hb => hg b (List.mem_cons_of_mem a hb)
    rw [mapFirst]
    split
    · rename_i ha
      rw [hf a (List.find?_cons_of_pos ha), List.map_congr_left hrest, List.map_id']
    · rename_i ha
      rw [List.find?_cons_of_neg ha] at hf
      rw [hg a List.mem_cons_self, ih hf hrest]

/-- Where the test picks out one element at most, every one it holds of is the first. -/
theorem mapFirst_eq_map (h : l.Pairwise fun a b => p a = true → p b = false) :
    mapFirst p f g l = l.map fun a => if p a then f a else g a := by
  induction l with
  | nil => rfl
  | cons a l ih =>
    obtain ⟨hfirst, hrest⟩ := List.pairwise_cons.1 h
    rw [mapFirst, List.map_cons]
    split
    · rename_i ha
      refine congrArg _ (List.map_congr_left fun b hb => ?_)
      rw [if_neg (by rw [hfirst b hb ha]; decide)]
    · rw [ih hrest]

end

/-! Erasing by keys. -/

section
variable {κ : Type*} [DecidableEq κ]

/-- The list without the first `n k` elements of each key `k`. -/
def dropFirsts (key : α → κ) (n : κ → Nat) : List α → List α
  | [] => []
  | a :: l =>
    if n (key a) = 0 then a :: dropFirsts key n l
    else dropFirsts key (Function.update n (key a) (n (key a) - 1)) l

theorem dropFirsts_zero (key : α → κ) (l : List α) : dropFirsts key (fun _ => 0) l = l := by
  induction l with
  | nil => rfl
  | cons a l ih => rw [dropFirsts, if_pos rfl, ih]

/-- One more of a key goes with the first of them. -/
theorem dropFirsts_eraseP (key : α → κ) (n : κ → Nat) (k : κ) (l : List α) :
    dropFirsts key n (l.eraseP fun a => key a = k) = dropFirsts key (Function.update n k (n k + 1)) l := by
  induction l generalizing n with
  | nil => rfl
  | cons a l ih =>
    by_cases hk : key a = k
    · subst hk
      have herase : (a :: l).eraseP (fun b => key b = key a) = l := List.eraseP_cons_of_pos (decide_eq_true rfl)
      -- `a` is the one more, and the rest is as before
      rw [herase, dropFirsts, if_neg (by rw [Function.update_self]; omega), Function.update_self, Function.update_idem,
        Nat.add_sub_cancel, Function.update_eq_self]
    · have hn : Function.update n k (n k + 1) (key a) = n (key a) := Function.update_of_ne hk _ _
      rw [List.eraseP_cons_of_neg (by rw [decide_eq_true_iff]; exact hk), dropFirsts, dropFirsts, hn]
      split
      · rw [ih]
      · rw [ih, Function.update_of_ne (Ne.symm hk), Function.update_comm hk]

/-- The first of a key is erased for each time the key is named. -/
theorem foldl_eraseP (key : α → κ) (ks : List κ) (l : List α) :
    ks.foldl (fun l k => l.eraseP fun a => key a = k) l = dropFirsts key (fun k => ks.count k) l := by
  induction ks generalizing l with
  | nil => exact (dropFirsts_zero key l).symm
  | cons k ks ih =>
    -- `k` is named once more than the rest names it
    have hcount : Function.update (fun k' => ks.count k') k (ks.count k + 1) = fun k' => (k :: ks).count k' := by
      funext k'
      by_cases hk : k' = k
      · rw [hk, Function.update_self, List.count_cons_self]
      · rw [Function.update_of_ne hk, List.count_cons_of_ne (Ne.symm hk)]
    rw [List.foldl_cons, ih, dropFirsts_eraseP, hcount]

end

/-- Lists whose elements agree in `k` one by one have the same keys. -/
theorem map_eq_of_forall₂ {r : α → α → Prop} {k : α → β} (hr : ∀ a b, r a b → k b = k a) {l l' : List α}
    (h : List.Forall₂ r l l') : l'.map k = l.map k := by
  induction h with
  | nil => rfl
  | cons hab _ ih => rw [List.map_cons, List.map_cons, hr _ _ hab, ih]

theorem forall₂_comp {r s t : α → α → Prop} (h : ∀ a b c, r a b → s b c → t a c) {l l₁ l₂ : List α}
    (hr : List.Forall₂ r l l₁) (hs : List.Forall₂ s l₁ l₂) : List.Forall₂ t l l₂ := by
  induction hr generalizing l₂ with
  | nil =>
    cases hs
    exact .nil
  | cons hab _ ih =>
    cases hs with
    | cons hbc hs => exact .cons (h _ _ _ hab hbc) (ih hs)

/-- The first elements that satisfy a test the lists agree in are erased. -/
theorem forall₂_eraseP {r : α → α → Prop} {p : α → Bool} (hp : ∀ a b, r a b → p b = p a) {l l' : List α}
    (h : List.Forall₂ r l l') : List.Forall₂ r (l.eraseP p) (l'.eraseP p) := by
  induction h with
  | nil => exact .nil
  | @cons a b l l' hab h ih =>
    rw [List.eraseP_cons, List.eraseP_cons, hp a b hab]
    cases p a with
    | true => exact h
    | false => exact .cons hab ih

theorem exists_mem_of_forall₂ {r : α → β → Prop} {l : List α} {l' : List β} (h : List.Forall₂ r l l') {b : β}
    (hb : b ∈ l') : ∃ a ∈ l, r a b := by
  induction h with
  | nil => cases hb
  | cons hab _ ih =>
    rcases List.mem_cons.1 hb with rfl | hb
    · exact ⟨_, List.mem_cons_self, hab⟩
    · obtain ⟨a, ha, hr⟩ := ih hb
      exact ⟨a, List.mem_cons_of_mem _ ha, hr⟩

theorem exists_mem_of_forall₂_left {r : α → β → Prop} {l : List α} {l' : List β} (h : List.Forall₂ r l l') {a : α}
    (ha : a ∈ l) : ∃ b ∈ l', r a b :=
  exists_mem_of_forall₂ (r := fun b a => r a b) h.flip ha

end Lib
