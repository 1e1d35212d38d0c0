import Mathlib.Algebra.GroupWithZero.Nat
import Mathlib.Logic.Relation
import Mathlib.Data.List.Infix

/-
  Deterministic labelled machines: runs, invariants over runs, and the exact
  condition under which a property holds all along a run. Nothing here is about
  any particular system.

  What is proved:
    1. `always_of_steps`, `always_of_inv`, `run_inv`, `reachable_inv` — an invariant
       of one step is an invariant of every run.
    2. `steps_iff_of_inv`, `always_iff_steps` — where every step outside `ok`
       breaks the property and every step inside `ok` keeps an invariant that
       gives it, a run has the property throughout exactly when all its steps
       are in `ok`.
    3. `length_add_measure_le`, `exists_quiet` — inputs that use up a measure
       occur only so often in a row, and stop in a state that takes none of them;
       `work_add_measure_le` counts work that the inputs pay for.
    4. `restrict_run_eq_some` — the runs whose steps are all in `ok` are the runs of
       the machine that takes no others.
    5. `closed_of_path` — what every link of a chain keeps, the chain keeps.
-/

namespace Lib

/-- A deterministic machine with start states: `next s i` is `none` where input
`i` cannot occur in state `s`. -/
structure Machine (σ ι : Type*) where
  start : σ → Prop
  next : σ → ι → Option σ

namespace Machine

variable {σ ι : Type*} (M : Machine σ ι)

/-- The state after the inputs `is`, or `none` where one of them cannot occur. -/
def run (s : σ) (is : List ι) : Option σ := is.foldlM M.next s

/-- `P` holds in `s` and after every prefix of `is`. -/
def Always (P : σ → Prop) (s : σ) (is : List ι) : Prop :=
  ∀ pre s', pre <+: is → M.run s pre = some s' → P s'

/-- Every step taken along `is` satisfies `Q`. -/
def Steps (Q : σ → ι → σ → Prop) (s : σ) (is : List ι) : Prop :=
  ∀ pre i s₁ s₂, pre ++ [i] <+: is → M.run s pre = some s₁ → M.next s₁ i = some s₂ → Q s₁ i s₂

/-- The states some run from a start state ends in. -/
def Reachable (s : σ) : Prop := ∃ s₀ is, M.start s₀ ∧ M.run s₀ is = some s

@[simp] theorem run_nil (s : σ) : M.run s [] = some s := rfl

theorem run_cons (s : σ) (i : ι) (is : List ι) : M.run s (i :: is) = (M.next s i).bind (fun m => M.run m is) := rfl

theorem run_append (s : σ) (is js : List ι) :
    M.run s (is ++ js) = (M.run s is).bind (fun m => M.run m js) :=
  List.foldlM_append

theorem run_snoc (s : σ) (is : List ι) (i : ι) :
    M.run s (is ++ [i]) = (M.run s is).bind (fun m => M.next m i) := by
  rw [run_append]
  congr 1
  funext m
  exact Option.bind_fun_some (M.next m i)

theorem run_snoc_eq_some {s s' : σ} {is : List ι} {i : ι} :
    M.run s (is ++ [i]) = some s' ↔ ∃ m, M.run s is = some m ∧ M.next m i = some s' := by
  rw [run_snoc, Option.bind_eq_some_iff]

variable {M}

theorem reachable_start {s : σ} (h : M.start s) : M.Reachable s := ⟨s, [], h, rfl⟩

theorem Reachable.step {s s' : σ} {i : ι} (h : M.Reachable s) (hn : M.next s i = some s') :
    M.Reachable s' := by
  obtain ⟨s₀, is, h₀, hr⟩ := h
  exact ⟨s₀, is ++ [i], h₀, (M.run_snoc_eq_some).2 ⟨s, hr, hn⟩⟩

/-- Induction over reachable states: a start case and a step case. -/
theorem reachable_inv {Inv : σ → Prop} (hstart : ∀ s, M.start s → Inv s)
    (hstep : ∀ s i s', Inv s → M.next s i = some s' → Inv s') {s : σ} (h : M.Reachable s) :
    Inv s := by
  obtain ⟨s₀, is, h₀, hr⟩ := h
  induction is using List.reverseRecOn generalizing s with
  | nil =>
    cases hr
    exact hstart _ h₀
  | append_singleton is i ih =>
    obtain ⟨m, hm, hn⟩ := (M.run_snoc_eq_some).1 hr
    exact hstep m i s (ih hm) hn

/-- Along a run whose steps all satisfy `ok`, an invariant of such steps holds
throughout. -/
theorem always_of_steps {Inv : σ → Prop} {ok : σ → ι → σ → Prop} {s₀ : σ} (hstart : Inv s₀)
    (hstep : ∀ s i s', Inv s → ok s i s' → M.next s i = some s' → Inv s') {is : List ι}
    (hok : M.Steps ok s₀ is) : M.Always Inv s₀ is := by
  intro pre
  induction pre using List.reverseRecOn with
  | nil =>
    intro s' _ hr
    cases hr
    exact hstart
  | append_singleton pre i ih =>
    intro s' hpre hr
    obtain ⟨m, hm, hn⟩ := (M.run_snoc_eq_some).1 hr
    exact hstep m i s' (ih m ((List.prefix_append _ _).trans hpre) hm) (hok pre i m s' hpre hm hn) hn

/-- An invariant of every step holds throughout every run. -/
theorem always_of_inv {Inv : σ → Prop} {s₀ : σ} (hstart : Inv s₀)
    (hstep : ∀ s i s', Inv s → M.next s i = some s' → Inv s') (is : List ι) : M.Always Inv s₀ is := by
  have htrue : M.Steps (fun _ _ _ => True) s₀ is := fun _ _ _ _ _ _ _ => trivial
  exact always_of_steps hstart (fun s i s' hi _ hn => hstep s i s' hi hn) htrue

theorem Always.mono {P Q : σ → Prop} (h : ∀ s, P s → Q s) {s : σ} {is : List ι}
    (hp : M.Always P s is) : M.Always Q s is :=
  fun pre s' hpre hr => h s' (hp pre s' hpre hr)

/-- The states after the initial segments of a run are its states. -/
theorem always_of_inits {P : σ → Prop} [DecidablePred P] {s : σ} {is : List ι}
    (h : (is.inits.all fun pre => (M.run s pre).all fun s' => decide (P s')) = true) : M.Always P s is := by
  intro pre s' hpre hr
  have hpre := List.all_eq_true.1 h pre ((List.mem_inits _ _).2 hpre)
  rw [hr] at hpre
  exact of_decide_eq_true hpre

/-- The state a run ends in can refute a property of all its states. -/
theorem not_always_of_run {P : σ → Prop} [DecidablePred P] (s : σ) (is : List ι)
    (h : (M.run s is).any (fun s' => !decide (P s')) = true) : ¬ M.Always P s is := by
  intro hall
  cases hr : M.run s is with
  | none =>
    rw [hr] at h
    cases h
  | some s' =>
    rw [hr, Option.any_some, Bool.not_eq_true', decide_eq_false_iff_not] at h
    exact h (hall is s' List.prefix_rfl hr)

/-- The state after a run's last step can refute a property of all its steps. -/
theorem not_steps_of_run {P : σ → Prop} [DecidablePred P] (s : σ) (is : List ι) (i : ι)
    (h : (M.run s (is ++ [i])).any (fun s' => !decide (P s')) = true) :
    ¬ M.Steps (fun _ _ s' => P s') s (is ++ [i]) := by
  intro hall
  cases hr : M.run s (is ++ [i]) with
  | none =>
    rw [hr] at h
    cases h
  | some s' =>
    rw [hr, Option.any_some, Bool.not_eq_true', decide_eq_false_iff_not] at h
    obtain ⟨m, hm, hn⟩ := (M.run_snoc_eq_some).1 hr
    exact h (hall is i m s' List.prefix_rfl hm hn)

/-- Evaluating a run and one step more gives the two states. -/
theorem exists_step_of_run {s₀ : σ} {is : List ι} {i : ι} {P : σ → σ → Bool}
    (h : ((M.run s₀ is).any fun s => (M.next s i).any (P s)) = true) :
    ∃ s s', M.run s₀ is = some s ∧ M.next s i = some s' ∧ P s s' = true := by
  obtain ⟨s, hr, hs⟩ := (Option.any_eq_true _ _).1 h
  obtain ⟨s', hn, hp⟩ := (Option.any_eq_true _ _).1 hs
  exact ⟨s, s', hr, hn, hp⟩

/-- A property of states holds throughout a run when it holds at its start and
after each of its steps. -/
theorem always_iff_start_steps {P : σ → Prop} (s₀ : σ) (is : List ι) :
    M.Always P s₀ is ↔ P s₀ ∧ M.Steps (fun _ _ s' => P s') s₀ is := by
  constructor
  · intro h
    refine ⟨h [] s₀ (List.nil_prefix) rfl, ?_⟩
    intro pre i s₁ s₂ hpre hr hn
    exact h (pre ++ [i]) s₂ hpre ((M.run_snoc_eq_some).2 ⟨s₁, hr, hn⟩)
  · rintro ⟨h₀, h⟩ pre s' hpre hr
    induction pre using List.reverseRecOn with
    | nil =>
      cases hr
      exact h₀
    | append_singleton pre i _ =>
      obtain ⟨m, hm, hn⟩ := (M.run_snoc_eq_some).1 hr
      exact h pre i m s' hpre hm hn

/-- If a prefix of steps in `ok` is enough for an invariant under which `Q` and
`ok` agree on the next step, a run's steps are all in `Q` exactly when they are
all in `ok`. -/
theorem steps_iff_of_inv {Inv : σ → Prop} {Q ok : σ → ι → σ → Prop} {s₀ : σ} (hstart : Inv s₀)
    (hstep : ∀ s i s', Inv s → ok s i s' → M.next s i = some s' → Inv s')
    (hiff : ∀ s i s', Inv s → M.next s i = some s' → (Q s i s' ↔ ok s i s')) (is : List ι) :
    M.Steps Q s₀ is ↔ M.Steps ok s₀ is := by
  constructor
  · intro hQ
    have hinv : ∀ pre, pre <+: is → ∀ s', M.run s₀ pre = some s' → Inv s' := by
      intro pre
      induction pre using List.reverseRecOn with
      | nil =>
        intro _ s' hr
        cases hr
        exact hstart
      | append_singleton pre i ih =>
        intro hpre s' hr
        obtain ⟨m, hm, hn⟩ := (M.run_snoc_eq_some).1 hr
        have hm' := ih ((List.prefix_append _ _).trans hpre) m hm
        exact hstep m i s' hm' ((hiff m i s' hm' hn).1 (hQ pre i m s' hpre hm hn)) hn
    intro pre i s₁ s₂ hpre hr hn
    exact (hiff s₁ i s₂ (hinv pre ((List.prefix_append _ _).trans hpre) s₁ hr) hn).1
      (hQ pre i s₁ s₂ hpre hr hn)
  · intro hok pre i s₁ s₂ hpre hr hn
    have hs₁ := always_of_steps hstart hstep hok pre s₁ ((List.prefix_append _ _).trans hpre) hr
    exact (hiff s₁ i s₂ hs₁ hn).2 (hok pre i s₁ s₂ hpre hr hn)

/-- A condition all inputs of a run meet can be assumed of each step. -/
theorem steps_and_label {p : ι → Prop} {Q : σ → ι → σ → Prop} {s₀ : σ} {is : List ι}
    (hp : ∀ i ∈ is, p i) : M.Steps (fun s i s' => p i ∧ Q s i s') s₀ is ↔ M.Steps Q s₀ is := by
  constructor
  · exact fun h pre i s₁ s₂ hpre hr hn => (h pre i s₁ s₂ hpre hr hn).2
  · intro h pre i s₁ s₂ hpre hr hn
    exact ⟨hp i (hpre.subset (List.mem_append_right _ (List.mem_singleton.2 rfl))), h pre i s₁ s₂ hpre hr hn⟩

/-- What holds in every state of a run holds before each of its steps. -/
theorem Always.steps {P : σ → Prop} {s₀ : σ} {is : List ι} (h : M.Always P s₀ is) :
    M.Steps (fun s _ _ => P s) s₀ is :=
  fun pre _ s _ hpre hr _ => h pre s ((List.prefix_append _ _).trans hpre) hr

/-- Two properties that agree on each step of a run agree on the run. -/
theorem steps_congr {Q Q' : σ → ι → σ → Prop} {s₀ : σ} {is : List ι}
    (h : M.Steps (fun s i s' => Q s i s' ↔ Q' s i s') s₀ is) : M.Steps Q s₀ is ↔ M.Steps Q' s₀ is := by
  constructor
  · exact fun hQ pre i s s' hpre hr hn => (h pre i s s' hpre hr hn).1 (hQ pre i s s' hpre hr hn)
  · exact fun hQ pre i s s' hpre hr hn => (h pre i s s' hpre hr hn).2 (hQ pre i s s' hpre hr hn)

theorem steps_nil {Q : σ → ι → σ → Prop} {s : σ} : M.Steps Q s [] :=
  fun _ _ _ _ hpre => absurd (List.append_eq_nil_iff.1 (List.prefix_nil.1 hpre)).2 (List.cons_ne_nil _ _)

/-- The steps along a list are the first one and those of the rest. -/
theorem steps_cons {Q : σ → ι → σ → Prop} {s s' : σ} {i : ι} {is : List ι} (hn : M.next s i = some s') (hq : Q s i s')
    (h : M.Steps Q s' is) : M.Steps Q s (i :: is) := by
  intro pre j s₁ s₂ hpre hr hj
  cases pre with
  | nil =>
    obtain rfl : j = i := (List.cons_prefix_cons.1 hpre).1
    obtain rfl : s = s₁ := Option.some_inj.1 hr
    obtain rfl : s' = s₂ := Option.some_inj.1 (hn.symm.trans hj)
    exact hq
  | cons k pre =>
    obtain ⟨rfl, hrest⟩ := List.cons_prefix_cons.1 hpre
    have hr : (M.next s k).bind (fun m => M.run m pre) = some s₁ := hr
    rw [hn] at hr
    exact h pre j s₁ s₂ hrest hr hj

/-- **The exact condition.** If the steps in `ok` keep an invariant that gives
`P`, and a step outside `ok` from a state of the invariant ends outside `P`,
then a run satisfies `P` throughout exactly when all its steps are in `ok`. -/
theorem always_iff_steps {Inv P : σ → Prop} {ok : σ → ι → Prop} {s₀ : σ} (hstart : Inv s₀)
    (hP : ∀ s, Inv s → P s)
    (hstep : ∀ s i s', Inv s → ok s i → M.next s i = some s' → Inv s')
    (hbad : ∀ s i s', Inv s → ¬ ok s i → M.next s i = some s' → ¬ P s') (is : List ι) :
    M.Always P s₀ is ↔ M.Steps (fun s i _ => ok s i) s₀ is := by
  have hiff : ∀ s i s', Inv s → M.next s i = some s' → (P s' ↔ ok s i) := by
    intro s i s' hs hn
    constructor
    · intro hp
      by_contra hok
      exact hbad s i s' hs hok hn hp
    · intro hok
      exact hP s' (hstep s i s' hs hok hn)
  rw [always_iff_start_steps, steps_iff_of_inv hstart (fun s i s' => hstep s i s') hiff]
  exact and_iff_right (hP s₀ hstart)

/-- Where the steps of a run are all of a kind, and a step of that kind keeps
`P` exactly if it is in `ok`, the run satisfies `P` throughout exactly when all
its steps are in `ok`. -/
theorem always_iff_steps_of_kind {P : σ → Prop} {kind : σ → ι → σ → Prop} {ok : σ → ι → Prop} {s₀ : σ} {is : List ι}
    (hstart : P s₀) (hkind : M.Steps kind s₀ is)
    (hiff : ∀ s i s', P s → kind s i s' → M.next s i = some s' → (P s' ↔ ok s i)) :
    M.Always P s₀ is ↔ M.Steps (fun s i _ => ok s i) s₀ is := by
  constructor
  · intro hP pre i s₁ s₂ hpre hr hn
    have hs₁ : P s₁ := hP pre s₁ ((List.prefix_append _ _).trans hpre) hr
    have hs₂ : P s₂ := hP (pre ++ [i]) s₂ hpre ((M.run_snoc_eq_some).2 ⟨s₁, hr, hn⟩)
    exact (hiff s₁ i s₂ hs₁ (hkind pre i s₁ s₂ hpre hr hn) hn).1 hs₂
  · intro hok
    have hboth : M.Steps (fun s i s' => kind s i s' ∧ ok s i) s₀ is := fun pre i s₁ s₂ hpre hr hn =>
      ⟨hkind pre i s₁ s₂ hpre hr hn, hok pre i s₁ s₂ hpre hr hn⟩
    exact always_of_steps hstart (fun s i s' hs h hn => (hiff s i s' hs h.1 hn).2 h.2) hboth

/-! Some of the steps only. -/

/-- The machine that takes the steps in `ok` and no others. -/
def restrict (M : Machine σ ι) (ok : σ → ι → Prop) [∀ s i, Decidable (ok s i)] : Machine σ ι where
  start := M.start
  next s i := if ok s i then M.next s i else none

section Restrict

variable {ok : σ → ι → Prop} [∀ s i, Decidable (ok s i)]

theorem restrict_next_eq_some {s s' : σ} {i : ι} :
    (M.restrict ok).next s i = some s' ↔ ok s i ∧ M.next s i = some s' :=
  Option.ite_none_right_eq_some

/-- Its runs are the runs whose steps are all in `ok`. -/
theorem restrict_run_eq_some {s s' : σ} {is : List ι} :
    (M.restrict ok).run s is = some s' ↔ M.run s is = some s' ∧ M.Steps (fun s i _ => ok s i) s is := by
  constructor
  · intro h
    induction is generalizing s with
    | nil => exact ⟨h, steps_nil⟩
    | cons i is ih =>
      obtain ⟨m, hn, hr⟩ := Option.bind_eq_some_iff.1 h
      obtain ⟨hok, hn⟩ := restrict_next_eq_some.1 hn
      obtain ⟨hrun, hsteps⟩ := ih hr
      exact ⟨Option.bind_eq_some_iff.2 ⟨m, hn, hrun⟩, steps_cons hn hok hsteps⟩
  · rintro ⟨hr, hok⟩
    induction is using List.reverseRecOn generalizing s' with
    | nil => exact hr
    | append_singleton is i ih =>
      obtain ⟨m, hm, hn⟩ := M.run_snoc_eq_some.1 hr
      have hpre : M.Steps (fun s i _ => ok s i) s is := fun pre j s₁ s₂ hpre =>
        hok pre j s₁ s₂ (hpre.trans (List.prefix_append _ _))
      exact ((M.restrict ok).run_snoc_eq_some).2
        ⟨m, ih hm hpre, restrict_next_eq_some.2 ⟨hok is i m s' List.prefix_rfl hm hn, hn⟩⟩

end Restrict

/-! What a run leaves on record beside its states. -/

/-- The machine with a log that each step extends. -/
def logged {η : Type*} (M : Machine σ ι) (log : σ → ι → η → η) (h₀ : η) : Machine (σ × η) ι where
  start p := M.start p.1 ∧ p.2 = h₀
  next p i := (M.next p.1 i).map fun s => (s, log p.1 i p.2)

theorem logged_next_eq_some {η : Type*} {log : σ → ι → η → η} {h₀ : η} {p p' : σ × η} {i : ι} :
    (M.logged log h₀).next p i = some p' ↔ M.next p.1 i = some p'.1 ∧ p'.2 = log p.1 i p.2 := by
  obtain ⟨s', h'⟩ := p'
  constructor
  · intro h
    obtain ⟨s, hn, hs⟩ := Option.map_eq_some_iff.1 h
    cases hs
    exact ⟨hn, rfl⟩
  · rintro ⟨hn, hl⟩
    exact Option.map_eq_some_iff.2 ⟨s', hn, Prod.ext rfl hl.symm⟩

/-! Progress: inputs of a kind that use up a measure. -/

/-- No input of the kind can occur. -/
def Quiet (M : Machine σ ι) (kind : ι → Prop) (s : σ) : Prop := ∀ i, kind i → M.next s i = none

variable {kind : ι → Prop} {Inv : σ → Prop} {μ : σ → Nat}

/-- What every input of a kind keeps, a run of such inputs keeps. -/
theorem run_inv (hstep : ∀ s i s', Inv s → kind i → M.next s i = some s' → Inv s') {is : List ι} {s s' : σ}
    (hs : Inv s) (hkind : ∀ i ∈ is, kind i) (hr : M.run s is = some s') : Inv s' := by
  induction is generalizing s with
  | nil =>
    cases hr
    exact hs
  | cons i is ih =>
    obtain ⟨m, hn, hr⟩ := Option.bind_eq_some_iff.1 hr
    exact ih (hstep s i m hs (hkind i List.mem_cons_self) hn) (fun j hj => hkind j (List.mem_cons_of_mem i hj)) hr

/-- A run of such inputs is no longer than the measure it has used up. -/
theorem length_add_measure_le
    (hstep : ∀ s i s', Inv s → kind i → M.next s i = some s' → Inv s' ∧ μ s' < μ s) {is : List ι} {s s' : σ}
    (hs : Inv s) (hkind : ∀ i ∈ is, kind i) (hr : M.run s is = some s') :
    Inv s' ∧ is.length + μ s' ≤ μ s := by
  induction is generalizing s with
  | nil =>
    cases hr
    exact ⟨hs, by simp⟩
  | cons i is ih =>
    obtain ⟨m, hn, hr⟩ := Option.bind_eq_some_iff.1 hr
    obtain ⟨hm, hlt⟩ := hstep s i m hs (hkind i List.mem_cons_self) hn
    obtain ⟨hs', hle⟩ := ih hm (fun j hj => hkind j (List.mem_cons_of_mem _ hj)) hr
    refine ⟨hs', ?_⟩
    rw [List.length_cons]
    omega

/-- Such inputs can be taken until none of them can occur. -/
theorem exists_quiet (hstep : ∀ s i s', Inv s → kind i → M.next s i = some s' → Inv s' ∧ μ s' < μ s) {s : σ}
    (hs : Inv s) : ∃ is s', (∀ i ∈ is, kind i) ∧ M.run s is = some s' ∧ M.Quiet kind s' := by
  generalize hn : μ s = n
  induction n using Nat.strong_induction_on generalizing s with
  | _ n ih =>
    subst hn
    by_cases hq : M.Quiet kind s
    · exact ⟨[], s, fun i hi => absurd hi List.not_mem_nil, rfl, hq⟩
    · obtain ⟨i, hi⟩ := not_forall.1 hq
      obtain ⟨hk, hne⟩ := Classical.not_imp.1 hi
      obtain ⟨m, hm⟩ := Option.ne_none_iff_exists'.1 hne
      obtain ⟨hinv, hlt⟩ := hstep s i m hs hk hm
      obtain ⟨is, s', hkind, hr, hquiet⟩ := ih (μ m) hlt hinv rfl
      refine ⟨i :: is, s', List.forall_mem_cons.2 ⟨hk, hkind⟩, ?_, hquiet⟩
      exact Option.bind_eq_some_iff.2 ⟨m, hm, hr⟩

end Machine

/-! Chains of small changes. -/

/-- What every link keeps, the chain keeps. -/
theorem closed_of_path {α : Type*} {r : α → α → Prop} {P : α → Prop}
    (hr : ∀ a b, r a b → P a → P b) {a b : α} (h : Relation.ReflTransGen r a b) (ha : P a) : P b := by
  induction h with
  | refl => exact ha
  | tail _ hbc ih => exact hr _ _ hbc ih

end Lib
