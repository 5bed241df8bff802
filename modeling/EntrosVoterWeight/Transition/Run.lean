import Mathlib.Data.List.Basic
import Mathlib.Order.Basic

/-!
# Runs with Their History

A labelled transition system, and runs that keep what happened.

A statement about a system over time is rarely about its current state
alone. That a permission was given at some earlier step, and that nothing
since has revoked it, is a fact about the run. `Run` therefore carries the
list of steps taken, newest first, each with the state before and the state
after. Newest first is what makes the past readable by recursion: the tail of
a history is the history at the earlier moment.

`run_induct` packages the induction once. An invariant may mention the
history, and may be claimed only of runs all of whose steps meet a condition;
both come up, so the rule is stated with both. `Since` is the past operator:
some step satisfied `P`, and every later one satisfied `Q`.

## Main definitions

* `System`: Initial states and a labelled step relation.
* `Entry`: One step of a history.
* `Run`: A history and the state it ends in.
* `Since`: A step with `P` in the past, with `Q` at every step after it.

## Theorems

* `run_induct`: An invariant of the run, under a condition on its steps.
* `run_entry`: Every entry of a history is a step of the system, taken at the
  end of a run.
* `run_monotone`: A quantity no step decreases is bounded by its last value.
* `since_iff`: The past operator, as a split of the history.
* `since_newest`: The last of the steps it speaks of.
* `since_behind`: The past operator at an earlier moment.
-/

namespace Transition

variable {σ ε : Type}

/-- Initial states and a labelled step relation. -/
structure System (σ ε : Type) where
  init : σ → Prop
  step : σ → ε → σ → Prop

/-- One step of a history: the state before, the event, the state after. -/
structure Entry (σ ε : Type) where
  pre : σ
  event : ε
  post : σ

/-- A run, as the history of its steps (newest first) and the state it ends
    in. -/
inductive Run (M : System σ ε) : List (Entry σ ε) → σ → Prop
  | start (s : σ) : M.init s → Run M [] s
  | step (h : List (Entry σ ε)) (s : σ) (e : ε) (s' : σ) :
      Run M h s → M.step s e s' → Run M (⟨s, e, s'⟩ :: h) s'

/-- The induction over a run. `C` is a condition assumed of every step. -/
theorem run_induct (M : System σ ε) (C : Entry σ ε → Prop) (I : List (Entry σ ε) → σ → Prop)
    (hinit : ∀ s, M.init s → I [] s)
    (hstep : ∀ h s e s', Run M h s → I h s → M.step s e s' → C ⟨s, e, s'⟩ →
      I (⟨s, e, s'⟩ :: h) s')
    (h : List (Entry σ ε)) (s : σ) (hrun : Run M h s) (hC : ∀ e ∈ h, C e) : I h s := by
  induction hrun with
  | start s hs => exact hinit s hs
  | step h s e s' hr hst ih =>
      refine hstep h s e s' hr (ih (fun x hx => hC x (List.mem_cons_of_mem _ hx))) hst ?_
      exact hC _ List.mem_cons_self

/-- The last entry of a history ends where the run does. -/
theorem run_cons (M : System σ ε) (e : Entry σ ε) (h : List (Entry σ ε)) (s : σ)
    (hrun : Run M (e :: h) s) : Run M h e.pre ∧ M.step e.pre e.event e.post ∧ s = e.post := by
  cases hrun with
  | step _ s e s' hr hst => exact ⟨hr, hst, rfl⟩

/-- Every entry of a history was taken at the end of a shorter run. -/
theorem run_entry (M : System σ ε) (e : Entry σ ε) (h₁ h₀ : List (Entry σ ε)) (s : σ)
    (hrun : Run M (h₁ ++ e :: h₀) s) : Run M h₀ e.pre ∧ M.step e.pre e.event e.post := by
  induction h₁ generalizing s with
  | nil =>
      rcases run_cons M e h₀ s hrun with ⟨hr, hst, _⟩
      exact ⟨hr, hst⟩
  | cons x h₁ ih => exact ih _ (run_cons M x _ s hrun).1

/-- A quantity that no step decreases is, at every entry, at most its final
    value. -/
theorem run_monotone {β : Type} [Preorder β] (M : System σ ε) (f : σ → β)
    (hmono : ∀ s e s', M.step s e s' → f s ≤ f s')
    (h : List (Entry σ ε)) (s : σ) (hrun : Run M h s) : ∀ e ∈ h, f e.pre ≤ f s := by
  induction hrun with
  | start s _ => intro e he; exact absurd he List.not_mem_nil
  | step h s e s' _ hst ih =>
      intro x hx
      -- The newest entry starts at the state before, older ones lie further back.
      rcases List.mem_cons.mp hx with rfl | hx
      · exact hmono _ _ _ hst
      · exact le_trans (ih x hx) (hmono _ _ _ hst)

/-- Some step satisfied `P`, and every step after it satisfied `Q`. -/
def Since (Q P : Entry σ ε → Prop) : List (Entry σ ε) → Prop
  | [] => False
  | e :: h => P e ∨ (Q e ∧ Since Q P h)

theorem since_iff (Q P : Entry σ ε → Prop) (h : List (Entry σ ε)) :
    Since Q P h ↔ ∃ h₁ e h₀, h = h₁ ++ e :: h₀ ∧ P e ∧ ∀ x ∈ h₁, Q x := by
  induction h with
  | nil =>
      constructor
      · exact False.elim
      · intro hex
        rcases hex with ⟨h₁, e, h₀, heq, _⟩
        exact absurd heq (by simp only [List.nil_eq, List.append_eq_nil_iff, reduceCtorEq,
          and_false, not_false_eq_true])
  | cons x h ih =>
      constructor
      · intro hs
        rcases hs with hp | ⟨hq, hs⟩
        · exact ⟨[], x, h, rfl, hp, fun _ hy => absurd hy List.not_mem_nil⟩
        · rcases ih.mp hs with ⟨h₁, e, h₀, rfl, hp, hall⟩
          refine ⟨x :: h₁, e, h₀, rfl, hp, ?_⟩
          intro y hy
          rcases List.mem_cons.mp hy with rfl | hy
          · exact hq
          · exact hall y hy
      · intro hex
        rcases hex with ⟨h₁, e, h₀, heq, hp, hall⟩
        -- The split is at the newest entry or behind it.
        cases h₁ with
        | nil =>
            simp only [List.nil_append, List.cons.injEq] at heq
            rw [heq.1]
            exact Or.inl hp
        | cons y h₁ =>
            simp only [List.cons_append, List.cons.injEq] at heq
            rcases heq with ⟨rfl, rfl⟩
            refine Or.inr ⟨hall x List.mem_cons_self, ih.mpr ?_⟩
            exact ⟨h₁, e, h₀, rfl, hp, fun z hz => hall z (List.mem_cons_of_mem _ hz)⟩

/-- If there was such a step, there was a last one. -/
theorem since_newest (Q P : Entry σ ε → Prop) (h : List (Entry σ ε)) (hs : Since Q P h) :
    Since (fun e => Q e ∧ ¬ P e) P h := by
  induction h with
  | nil => exact hs
  | cons e h ih =>
      by_cases hp : P e
      · exact Or.inl hp
      · rcases hs with hp' | ⟨hq, hs⟩
        · exact absurd hp' hp
        · exact Or.inr ⟨⟨hq, hp⟩, ih hs⟩

/-- A step that is not among the newest ones is behind them. -/
theorem since_behind (Q P : Entry σ ε → Prop) (h₁ h₀ : List (Entry σ ε))
    (hnone : ∀ x ∈ h₁, ¬ P x) (hs : Since Q P (h₁ ++ h₀)) : Since Q P h₀ := by
  induction h₁ with
  | nil => exact hs
  | cons e h₁ ih =>
      rcases hs with hp | ⟨_, hs⟩
      · exact absurd hp (hnone e List.mem_cons_self)
      · exact ih (fun x hx => hnone x (List.mem_cons_of_mem _ hx)) hs

end Transition
