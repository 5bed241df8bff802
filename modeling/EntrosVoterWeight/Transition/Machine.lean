import Mathlib.Data.List.Basic

/-!
# Machines and Deletion of Steps

A deterministic machine that answers every input, and what it takes for one
party's inputs to be deaf to everyone else's.

Two runs are compared: the full one, and the one in which only the inputs of
one party are left. The party must not be able to tell them apart. `unwind`
reduces that to a relation between the two states with two step conditions.
An input of someone else moves the full run alone and must keep the relation;
an input of the party moves both, must be answered the same, and must keep
the relation. The relation is the caller's choice, so it can carry whatever
invariant the machine's states need.

## Main definitions

* `Machine`: An answer and a next state for every input.
* `Machine.final`: The state after a list of inputs.
* `Machine.answers`: The answers given to one party's inputs.

## Theorems

* `unwind`: Deleting the other parties' inputs changes neither the answers a
  party gets nor, up to the relation, the final state.
* `unwind_order`: Nor does the order of the inputs, as long as the party's own
  keep theirs.
-/

namespace Transition

variable {σ α ο : Type}

/-- A deterministic machine: an answer and a next state for every input. -/
structure Machine (σ α ο : Type) where
  step : σ → α → ο × σ

/-- The state after a list of inputs. -/
def Machine.final (M : Machine σ α ο) : σ → List α → σ
  | s, [] => s
  | s, x :: xs => M.final (M.step s x).2 xs

/-- The answers given to the inputs selected by `own`, in order. -/
def Machine.answers (M : Machine σ α ο) (own : α → Bool) : σ → List α → List ο
  | _, [] => []
  | s, x :: xs =>
    if own x then (M.step s x).1 :: M.answers own (M.step s x).2 xs
    else M.answers own (M.step s x).2 xs

/-- Deleting the inputs that are not `own` changes neither the answers to the
    others nor, up to `R`, the state reached. -/
theorem unwind (M : Machine σ α ο) (own : α → Bool) (R : σ → σ → Prop)
    (hother : ∀ s t x, R s t → own x = false → R (M.step s x).2 t)
    (hown : ∀ s t x, R s t → own x = true →
      (M.step s x).1 = (M.step t x).1 ∧ R (M.step s x).2 (M.step t x).2)
    (xs : List α) (s t : σ) (hR : R s t) :
    M.answers own s xs = M.answers own t (xs.filter own) ∧
      R (M.final s xs) (M.final t (xs.filter own)) := by
  induction xs generalizing s t with
  | nil => exact ⟨rfl, hR⟩
  | cons x xs ih =>
      by_cases hx : own x = true
      · -- Both runs take the step and answer alike.
        rcases hown s t x hR hx with ⟨hans, hnext⟩
        rcases ih _ _ hnext with ⟨hrest, hfin⟩
        simp only [Machine.answers, Machine.final, List.filter_cons_of_pos hx, hx, if_true]
        exact ⟨by rw [hans, hrest], hfin⟩
      · have hx' : own x = false := by simpa only [Bool.not_eq_true] using hx
        -- Only the full run takes the step.
        rcases ih _ _ (hother s t x hR hx') with ⟨hrest, hfin⟩
        simp only [Machine.answers, Machine.final, List.filter_cons_of_neg hx, hx', if_false,
          Bool.false_eq_true]
        exact ⟨hrest, hfin⟩

/-- Two lists with the same inputs of a party in the same order look the same
    to it, whatever stands between. -/
theorem unwind_order (M : Machine σ α ο) (own : α → Bool) (R : σ → σ → Prop)
    (hother : ∀ s t x, R s t → own x = false → R (M.step s x).2 t)
    (hown : ∀ s t x, R s t → own x = true →
      (M.step s x).1 = (M.step t x).1 ∧ R (M.step s x).2 (M.step t x).2)
    (xs ys : List α) (hsame : xs.filter own = ys.filter own) (s : σ) (hR : R s s) :
    M.answers own s xs = M.answers own s ys ∧ ∃ t, R (M.final s xs) t ∧ R (M.final s ys) t := by
  rcases unwind M own R hother hown xs s s hR with ⟨hxs, hx⟩
  rcases unwind M own R hother hown ys s s hR with ⟨hys, hy⟩
  rw [hsame] at hxs hx
  exact ⟨hxs.trans hys.symm, _, hx, hy⟩

end Transition
