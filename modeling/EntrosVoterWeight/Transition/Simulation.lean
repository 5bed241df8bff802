import EntrosVoterWeight.Transition.Run

/-!
# One System in Terms of Another

Forward simulation between labelled transition systems, with the histories
kept.

A step of the first system is explained by a path of the second one: by no
step where nothing happened that the second system can see, by one where the
two go in step, by several where the first one's steps are coarser. The two
are tied together by a relation between a run of the first system and a state
of the second, so the relation may look at the history as well as at the
state.

Reaching the same place is not enough for a statement about the past. `Explains`
therefore lines the two histories up, and says of every step of the first one
which steps of the second it amounts to.

## Main definitions

* `Path`: A sequence of steps between two states.
* `Explains`: A history divided among the entries of another.

## Theorems

* `run_path`: A run continued by a path.
* `run_simulated`: A run is explained by a run of the other system.
* `explains_mem`: Every explained step belongs to a step.
-/

namespace Transition

variable {σ ε τ φ : Type}

/-- A sequence of steps from one state to another, the newest first. -/
inductive Path (M : System σ ε) : List (Entry σ ε) → σ → σ → Prop
  | nil (s : σ) : Path M [] s s
  | cons (h : List (Entry σ ε)) (s t : σ) (e : ε) (u : σ) :
      Path M h s t → M.step t e u → Path M (⟨t, e, u⟩ :: h) s u

/-- A single step. -/
theorem path_single (M : System σ ε) (s : σ) (e : ε) (t : σ) (hst : M.step s e t) :
    Path M [⟨s, e, t⟩] s t :=
  .cons [] s s e t (.nil s) hst

/-- Paths compose. -/
theorem path_append (M : System σ ε) (h₁ h₀ : List (Entry σ ε)) (s t u : σ)
    (hfirst : Path M h₀ s t) (hthen : Path M h₁ t u) : Path M (h₁ ++ h₀) s u := by
  induction hthen with
  | nil t => exact hfirst
  | cons h t v e u _ hst ih => exact .cons _ s v e u (ih hfirst) hst

/-- A run continued by a path. -/
theorem run_path (M : System σ ε) (h h₀ : List (Entry σ ε)) (s t : σ) (hrun : Run M h₀ s)
    (hpath : Path M h s t) : Run M (h ++ h₀) t := by
  induction hpath with
  | nil s => exact hrun
  | cons h s t e u _ hst ih => exact .step _ t e u (ih hrun) hst

/-- The second history is divided among the entries of the first, in order.
    `W` says what an entry amounts to, given the history behind it. -/
inductive Explains (W : List (Entry σ ε) → Entry σ ε → List (Entry τ φ) → Prop) :
    List (Entry σ ε) → List (Entry τ φ) → Prop
  | nil : Explains W [] []
  | cons (e : Entry σ ε) (h : List (Entry σ ε)) (p k : List (Entry τ φ)) :
      Explains W h k → W h e p → Explains W (e :: h) (p ++ k)

theorem explains_mem (W : List (Entry σ ε) → Entry σ ε → List (Entry τ φ) → Prop)
    (h : List (Entry σ ε)) (k : List (Entry τ φ)) (hex : Explains W h k) :
    ∀ x ∈ k, ∃ h₁ e h₀ p, h = h₁ ++ e :: h₀ ∧ W h₀ e p ∧ x ∈ p := by
  induction hex with
  | nil => intro x hx; exact absurd hx List.not_mem_nil
  | cons e h p k _ hw ih =>
      intro x hx
      rcases List.mem_append.mp hx with hx | hx
      · exact ⟨[], e, h, p, rfl, hw, hx⟩
      · rcases ih x hx with ⟨h₁, e', h₀, p', rfl, hw', hx'⟩
        exact ⟨e :: h₁, e', h₀, p', rfl, hw', hx'⟩

/-- Every run of `M` whose steps meet the condition `C` is explained by a run
    of `N` that ends in a related state. -/
theorem run_simulated (M : System σ ε) (N : System τ φ) (C : Entry σ ε → Prop)
    (R : List (Entry σ ε) → σ → τ → Prop)
    (W : List (Entry σ ε) → Entry σ ε → List (Entry τ φ) → Prop)
    (hinit : ∀ s, M.init s → ∃ t, N.init t ∧ R [] s t)
    (hstep : ∀ h s e s' t, Run M h s → (∀ x ∈ h, C x) → R h s t → M.step s e s' →
      C ⟨s, e, s'⟩ →
      ∃ p t', Path N p t t' ∧ R (⟨s, e, s'⟩ :: h) s' t' ∧ W h ⟨s, e, s'⟩ p)
    (h : List (Entry σ ε)) (s : σ) (hrun : Run M h s) (hC : ∀ e ∈ h, C e) :
    ∃ k t, Run N k t ∧ R h s t ∧ Explains W h k := by
  induction hrun with
  | start s hs =>
      rcases hinit s hs with ⟨t, ht, hR⟩
      exact ⟨[], t, .start t ht, hR, .nil⟩
  | step h s e s' hr hst ih =>
      have hpast : ∀ x ∈ h, C x := fun x hx => hC x (List.mem_cons_of_mem _ hx)
      rcases ih hpast with ⟨k, t, hk, hR, hex⟩
      rcases hstep h s e s' t hr hpast hR hst (hC _ List.mem_cons_self) with
        ⟨p, t', hp, hR', hw⟩
      exact ⟨p ++ k, t', run_path N p k t t' hk hp, hR', .cons _ h p k hex hw⟩

end Transition
