import Aqualarm.Lib.Machine

/-
  Simulations between machines, and a machine driven through a front end: a
  front end turns inputs of its own into inputs of the machine, any number at a
  time, and may look at the machine's state to do so. Nothing here is about any
  particular system.

  What is proved:
    1. `Simulates.run`, `Simulates.invariant` — what holds in all reachable states
       of a machine holds, through the relation, in those of one it simulates,
       whether a step is answered by none, one or several.
    2. `driven_simulates`, `driven_invariant` — the driven machine simulates the
       machine, and has its invariants.
-/

namespace Lib

namespace Machine

variable {σ τ ι κ : Type*}

/-- Every step of `C` is answered by a run of `A` that ends in a related state. -/
structure Simulates (C : Machine σ ι) (A : Machine τ κ) (R : σ → τ → Prop) : Prop where
  start : ∀ s, C.start s → ∃ t, A.start t ∧ R s t
  step : ∀ s t i s', R s t → C.next s i = some s' → ∃ js t', A.run t js = some t' ∧ R s' t'

namespace Simulates

variable {C : Machine σ ι} {A : Machine τ κ} {R : σ → τ → Prop}

theorem run (h : Simulates C A R) {s s' : σ} {t : τ} (hR : R s t) {is : List ι} (hr : C.run s is = some s') :
    ∃ js t', A.run t js = some t' ∧ R s' t' := by
  induction is generalizing s t with
  | nil =>
    cases hr
    exact ⟨[], t, rfl, hR⟩
  | cons i is ih =>
    obtain ⟨m, hn, hr⟩ := Option.bind_eq_some_iff.1 hr
    obtain ⟨js, u, hu, hRm⟩ := h.step s t i m hR hn
    obtain ⟨js', t', ht', hR'⟩ := ih hRm hr
    refine ⟨js ++ js', t', ?_, hR'⟩
    rw [run_append, hu]
    exact ht'

theorem reachable (h : Simulates C A R) {s : σ} (hs : C.Reachable s) : ∃ t, A.Reachable t ∧ R s t := by
  obtain ⟨s₀, is, h₀, hr⟩ := hs
  obtain ⟨t₀, ht₀, hR⟩ := h.start s₀ h₀
  obtain ⟨js, t, ht, hR'⟩ := h.run hR hr
  exact ⟨t, ⟨t₀, js, ht₀, ht⟩, hR'⟩

/-- An invariant of the simulating machine, seen through the relation. -/
theorem invariant (h : Simulates C A R) {P : τ → Prop} {Q : σ → Prop} (hP : ∀ t, A.Reachable t → P t)
    (hQ : ∀ s t, R s t → P t → Q s) {s : σ} (hs : C.Reachable s) : Q s := by
  obtain ⟨t, ht, hR⟩ := h.reachable hs
  exact hQ s t hR (hP t ht)

end Simulates

end Machine

/-- A front end with state `φ` and inputs `ι` to a machine with states `σ` and
inputs `ε`. -/
structure FrontEnd (σ φ ι ε : Type*) where
  start : φ → Prop
  step : σ → φ → ι → Option (φ × List ε)

namespace FrontEnd

variable {σ φ ι ε : Type*} (F : FrontEnd σ φ ι ε)

/-- What the front end hands on for an input. -/
def emitted (p : σ × φ) (i : ι) : List ε := ((F.step p.1 p.2 i).map Prod.snd).getD []

end FrontEnd

namespace Machine

variable {σ φ ι ε : Type*}

/-- The machine behind its front end. -/
def driven (M : Machine σ ε) (F : FrontEnd σ φ ι ε) : Machine (σ × φ) ι where
  start p := M.start p.1 ∧ F.start p.2
  next p i := (F.step p.1 p.2 i).bind fun q => (M.run p.1 q.2).map fun s => (s, q.1)

variable {M : Machine σ ε} {F : FrontEnd σ φ ι ε}

theorem driven_next_eq_some {p p' : σ × φ} {i : ι} :
    (M.driven F).next p i = some p' ↔
      F.step p.1 p.2 i = some (p'.2, F.emitted p i) ∧ M.run p.1 (F.emitted p i) = some p'.1 := by
  obtain ⟨s', f'⟩ := p'
  constructor
  · intro h
    obtain ⟨⟨f, es⟩, hstep, h⟩ := Option.bind_eq_some_iff.1 h
    obtain ⟨s, hr, hs⟩ := Option.map_eq_some_iff.1 h
    cases hs
    have hes : F.emitted p i = es := by
      unfold FrontEnd.emitted
      rw [hstep]
      rfl
    rw [hes]
    exact ⟨hstep, hr⟩
  · rintro ⟨hstep, hr⟩
    exact Option.bind_eq_some_iff.2 ⟨_, hstep, Option.map_eq_some_iff.2 ⟨s', hr, rfl⟩⟩

theorem driven_simulates : Simulates (M.driven F) M fun p s => p.1 = s where
  start p h := ⟨p.1, h.1, rfl⟩
  step p s i p' hR hn := by
    subst hR
    exact ⟨_, _, (driven_next_eq_some.1 hn).2, rfl⟩

/-- An invariant of the machine is one of the driven machine. -/
theorem driven_invariant {P : σ → Prop} (hP : ∀ s, M.Reachable s → P s) {p : σ × φ} (h : (M.driven F).Reachable p) :
    P p.1 :=
  driven_simulates.invariant hP (fun _ _ hR ht => hR ▸ ht) h

end Machine

end Lib
