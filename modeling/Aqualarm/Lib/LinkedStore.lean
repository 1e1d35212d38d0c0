import Mathlib.Data.List.Nodup
import Mathlib.Logic.Function.Basic

/-
  A singly linked list in a store of nodes by address, as a C program keeps one:
  a head with the address of the first node, and in each node that of the next.
  Nothing here is about any particular record.

  What is proved:
    1. `findFrom_eq` — the search loop finds what `List.find?` finds.
    2. `remove_spec` — the loop that unlinks a node takes it off the list, and
       writes no node but those in front of it.

  Reading an address that holds no node is a fault, and a loop may run out of
  fuel.
-/

namespace Lib

structure Node (α : Type) where
  val : α
  next : Option Nat

structure LinkedStore (α : Type) where
  first : Option Nat
  node : Nat → Option (Node α)

inductive Fault where
  | dangling | fuel
  deriving DecidableEq, Repr

/-- The nodes from `start` to `stop`, each with its address. -/
def Seg {α : Type} (node : Nat → Option (Node α)) : Option Nat → List (Nat × α) → Option Nat → Prop
  | start, [], stop => start = stop
  | start, x :: l, stop => start = some x.1 ∧ ∃ next, node x.1 = some ⟨x.2, next⟩ ∧ Seg node next l stop

namespace LinkedStore

variable {α : Type}

def read (a : Nat) (s : LinkedStore α) : Except Fault (Node α) :=
  match s.node a with
  | some n => .ok n
  | none => .error .dangling

/-- The link in the node at `prev`; that of the head for `none`. -/
def nextOf (prev : Option Nat) (s : LinkedStore α) : Except Fault (Option Nat) :=
  match prev with
  | none => .ok s.first
  | some a => (s.read a).map Node.next

def setNext (prev next : Option Nat) (s : LinkedStore α) : LinkedStore α :=
  match prev with
  | none => { s with first := next }
  | some a => { s with node := Function.update s.node a ((s.node a).map fun n => { n with next }) }

/-- The address no longer holds a node. -/
def free (a : Nat) (s : LinkedStore α) : LinkedStore α := { s with node := Function.update s.node a none }

/-- The first node from `start` on whose record satisfies `p`. -/
def findFrom (p : α → Bool) (s : LinkedStore α) : Nat → Option Nat → Except Fault (Option Nat)
  | _, none => .ok none
  | 0, some _ => .error .fuel
  | fuel + 1, some a => do
    let n ← s.read a
    if p n.val then .ok (some a) else findFrom p s fuel n.next

/-- Unlinks `target`, searching its predecessor from `prev` on. -/
def removeFrom (target : Nat) (s : LinkedStore α) : Nat → Option Nat → Except Fault (LinkedStore α)
  | 0, _ => .error .fuel
  | fuel + 1, prev => do
    match ← s.nextOf prev with
    | none => .ok s
    | some a =>
      if a = target then do
        let n ← s.read a
        .ok (s.setNext prev n.next)
      else removeFrom target s fuel (some a)

/-- The list, by address. -/
structure Lists (s : LinkedStore α) (l : List (Nat × α)) : Prop where
  seg : Seg s.node s.first l none
  distinct : (l.map Prod.fst).Nodup

/-- The last address of `l`, or `prev` in front of it. -/
def predecessor (prev : Option Nat) (l : List (Nat × α)) : Option Nat := (l.getLast?.map Prod.fst).or prev

end LinkedStore

section
variable {α : Type} {node node' : Nat → Option (Node α)} {start stop : Option Nat} {l l' : List (Nat × α)}

theorem seg_append : Seg node start (l ++ l') stop ↔ ∃ mid, Seg node start l mid ∧ Seg node mid l' stop := by
  induction l generalizing start with
  | nil => exact ⟨fun h => ⟨start, rfl, h⟩, fun ⟨_, hs, h⟩ => hs ▸ h⟩
  | cons x l ih =>
    constructor
    · rintro ⟨hs, next, hx, h⟩
      obtain ⟨mid, h₁, h₂⟩ := ih.1 h
      exact ⟨mid, ⟨hs, next, hx, h₁⟩, h₂⟩
    · rintro ⟨mid, ⟨hs, next, hx, h₁⟩, h₂⟩
      exact ⟨hs, next, hx, ih.2 ⟨mid, h₁, h₂⟩⟩

theorem Seg.congr (h : Seg node start l stop) (hn : ∀ x ∈ l, node' x.1 = node x.1) : Seg node' start l stop := by
  induction l generalizing start with
  | nil => exact h
  | cons x l ih =>
    obtain ⟨hs, next, hx, h⟩ := h
    exact ⟨hs, next, (hn x List.mem_cons_self).trans hx, ih h fun y hy => hn y (List.mem_cons_of_mem x hy)⟩

theorem Seg.lookup (h : Seg node start l stop) {x : Nat × α} (hx : x ∈ l) : ∃ next, node x.1 = some ⟨x.2, next⟩ := by
  induction l generalizing start with
  | nil => exact absurd hx List.not_mem_nil
  | cons y l ih =>
    obtain ⟨_, next, hy, h⟩ := h
    rcases List.mem_cons.1 hx with rfl | hx
    · exact ⟨next, hy⟩
    · exact ih h hx

end

namespace LinkedStore

variable {α : Type} {s : LinkedStore α} {start stop prev : Option Nat} {l l' : List (Nat × α)} {a : Nat} {v : α}

theorem read_eq {n : Node α} (h : s.node a = some n) : s.read a = .ok n := by
  rw [read, h]

theorem read_eq_none (h : s.node a = none) : s.read a = .error .dangling := by
  rw [read, h]

/-! Searching. -/

theorem findFrom_eq {p : α → Bool} {fuel : Nat} (h : Seg s.node start l none) (hf : l.length ≤ fuel) :
    s.findFrom p fuel start = .ok ((l.find? fun x => p x.2).map Prod.fst) := by
  induction l generalizing start fuel with
  | nil =>
    obtain rfl : start = none := h
    cases fuel <;> rfl
  | cons x l ih =>
    obtain ⟨rfl, next, hx, h⟩ := h
    obtain ⟨fuel, rfl⟩ := Nat.exists_eq_add_of_lt (Nat.lt_of_lt_of_le (Nat.succ_pos l.length) hf)
    rw [Nat.zero_add] at hf ⊢
    rw [findFrom, read_eq hx, List.find?_cons]
    cases hp : p x.2 with
    | true => simp [hp, bind, Except.bind]
    | false =>
      simp only [bind, Except.bind, hp, Bool.false_eq_true, if_false]
      exact ih h (Nat.le_of_succ_le_succ hf)

/-! Unlinking. -/

theorem predecessor_cons (prev : Option Nat) (x : Nat × α) (l : List (Nat × α)) :
    predecessor prev (x :: l) = predecessor (some x.1) l := by
  unfold predecessor
  cases hl : l.getLast? with
  | none =>
    rw [List.getLast?_eq_none_iff] at hl
    subst hl
    rfl
  | some y =>
    rw [List.getLast?_cons, hl]
    rfl

/-- The loop stops at the predecessor. -/
theorem removeFrom_eq {fuel : Nat} {next : Option Nat} (hprev : s.nextOf prev = .ok start)
    (h : Seg s.node start (l ++ (a, v) :: l') stop) (ha : a ∉ l.map Prod.fst) (hnode : s.node a = some ⟨v, next⟩)
    (hf : l.length < fuel) : s.removeFrom a fuel prev = .ok (s.setNext (predecessor prev l) next) := by
  induction l generalizing start prev fuel with
  | nil =>
    obtain ⟨rfl, _⟩ := h
    obtain ⟨fuel, rfl⟩ := Nat.exists_eq_add_of_lt hf
    rw [List.length_nil, Nat.zero_add, removeFrom, hprev]
    simp only [bind, Except.bind, if_true, read_eq hnode]
    rfl
  | cons x l ih =>
    obtain ⟨rfl, nextx, hx, h⟩ := h
    obtain ⟨fuel, rfl⟩ := Nat.exists_eq_add_of_lt (Nat.lt_of_le_of_lt (Nat.zero_le _) hf)
    rw [Nat.zero_add] at hf ⊢
    rw [List.map_cons, List.mem_cons, not_or] at ha
    rw [removeFrom, hprev, predecessor_cons]
    simp only [bind, Except.bind, if_neg (Ne.symm ha.1)]
    exact ih (by rw [nextOf, read_eq hx]; rfl) h ha.2 (Nat.lt_of_succ_lt_succ hf)

theorem setNext_node_of_ne {next : Option Nat} {b : Nat} (h : prev ≠ some b) : (s.setNext prev next).node b = s.node b := by
  cases prev with
  | none => rfl
  | some c => exact Function.update_of_ne (fun hb => h (by rw [hb])) ..

theorem setNext_node_none {next : Option Nat} {b : Nat} (h : s.node b = none) : (s.setNext prev next).node b = none := by
  by_cases hb : prev = some b
  · rw [hb]
    exact (Function.update_self ..).trans (by rw [h]; rfl)
  · rwa [setNext_node_of_ne hb]

theorem predecessor_mem {b : Nat} (h : predecessor none l = some b) : b ∈ l.map Prod.fst := by
  unfold predecessor at h
  cases hl : l.getLast? with
  | none =>
    rw [hl] at h
    cases h
  | some x =>
    rw [hl] at h
    obtain rfl : x.1 = b := Option.some.inj h
    exact List.mem_map_of_mem (List.mem_of_getLast? hl)

/-- Unlinking brings no node back. -/
theorem removeFrom_none {fuel b : Nat} {s' : LinkedStore α} (h : s.removeFrom a fuel prev = .ok s') (hb : s.node b = none) :
    s'.node b = none := by
  induction fuel generalizing prev with
  | zero => cases h
  | succ fuel ih =>
    rw [removeFrom] at h
    simp only [bind, Except.bind] at h
    split at h
    · cases h
    · split at h
      · cases h
        exact hb
      · split at h
        · split at h
          · cases h
          · cases h
            exact setNext_node_none hb
        · exact ih h

/-- A listed node links to the next of the list. -/
theorem Lists.node {x : Nat × α} (h : s.Lists (l ++ x :: l')) :
    s.node x.1 = some ⟨x.2, l'.head?.map Prod.fst⟩ := by
  obtain ⟨_, _, _, next, hnode, hl'⟩ := seg_append.1 h.seg
  rw [hnode]
  cases l' with
  | nil =>
    obtain rfl : next = none := hl'
    rfl
  | cons y l' =>
    obtain rfl : next = some y.1 := hl'.1
    rfl

/-- Bending the link in front of a node takes the node off the list. -/
theorem Lists.bend {next : Option Nat} (h : s.Lists (l ++ (a, v) :: l')) (hnode : s.node a = some ⟨v, next⟩) :
    (s.setNext (predecessor none l) next).Lists (l ++ l') := by
  obtain ⟨hseg, hdistinct⟩ := h
  obtain ⟨mid, hl, hmid, nexta, hnexta, hl'⟩ := seg_append.1 hseg
  obtain rfl : nexta = next := by
    have := hnexta.symm.trans hnode
    simpa using this
  have hsub : ((l ++ l').map Prod.fst).Nodup := hdistinct.sublist
    (((List.Sublist.refl l).append (List.sublist_cons_self _ _)).map Prod.fst)
  refine ⟨?_, hsub⟩
  rcases List.eq_nil_or_concat' l with rfl | ⟨l, x, rfl⟩
  · exact hl'
  · -- the link is that of the last node in front
    have hpred : predecessor none (l ++ [x]) = some x.1 := by simp [predecessor]
    obtain ⟨midx, hlx, hmidx, nextx, hx, _⟩ := seg_append.1 hl
    rw [List.map_append, List.map_append, List.nodup_append, List.nodup_append] at hsub
    have hnotl : ∀ y ∈ l, some x.1 ≠ some y.1 := fun y hy hp =>
      hsub.1.2.2 _ (List.mem_map_of_mem hy) x.1 (by simp) (Option.some.inj hp).symm
    have hnotl' : ∀ y ∈ l', some x.1 ≠ some y.1 := fun y hy hp =>
      hsub.2.2 x.1 (by simp) _ (List.mem_map_of_mem hy) (Option.some.inj hp)
    rw [hpred, List.append_assoc]
    refine seg_append.2 ⟨midx, hlx.congr fun y hy => setNext_node_of_ne (hnotl y hy), hmidx, nexta, ?_,
      hl'.congr fun y hy => setNext_node_of_ne (hnotl' y hy)⟩
    exact (Function.update_self ..).trans (by rw [hx]; rfl)

/-- **Unlinking a node** takes it off the list and writes no node but those in
front of it. -/
theorem remove_spec {fuel : Nat} {x : Nat × α} (h : s.Lists (l ++ x :: l')) (hf : l.length < fuel) :
    ∃ s', s.removeFrom x.1 fuel none = .ok s' ∧ s'.Lists (l ++ l') ∧
      ∀ b, b ∉ l.map Prod.fst → s'.node b = s.node b := by
  have hx : x.1 ∉ l.map Prod.fst := by
    have hd := h.distinct
    rw [List.map_append, List.nodup_append] at hd
    exact fun hmem => hd.2.2 x.1 hmem x.1 (by simp) rfl
  refine ⟨_, removeFrom_eq rfl h.seg hx h.node hf, h.bend h.node, fun b hb => setNext_node_of_ne fun hp => ?_⟩
  exact hb (predecessor_mem hp)

end LinkedStore

end Lib
