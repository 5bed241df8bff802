import EntrosVoterWeight.Anchor.Account
import Mathlib.Order.Bounds.Basic

/-!
# Values Kept in an Account

What it takes for an account to keep a value from one instruction to the next.

Writing goes over the front of the account and clears nothing, so behind a
short value lie the remains of longer ones. They do no harm to a type that is
read off the front alone: `LawfulAccount` asks that the bytes a value loads
from are those it is written as, whatever comes behind.

For such a type the size of the account is all that matters. `Persists` says
of a size that no write runs out of room and every load returns the value
written last, along any sequence of writes; `isLeast_persists` says which
sizes these are. They are the ones that hold the longest value, so the length
of that is the smallest of them.

## Main definitions

* `LawfulAccount`: Loading reads what was written, and ignores the rest.
* `persistAll`: Writing values to an account, one after the other.
* `Persists`: A size that keeps every value.

## Theorems

* `loaded_eq`: What is loaded is what was written.
* `exists_loadAccount_iff`: When an account loads at all.
* `loadAccount_exit`: The load after one write.
* `persistAll_concat`: The load after a sequence of writes.
* `isLeast_persists`: The least size is the length of the longest value.
-/

namespace Anchor

open Borsh

variable {ε α : Type}

/-- The bytes a value loads from are those it is written as, followed by any
    others. -/
class LawfulAccount (α : Type) [AccountDeserialize α] [AccountSerialize α] : Prop where
  loads_iff : ∀ (data : List UInt8) (x : α),
    AccountDeserialize.tryDeserialize data = .ok x ↔
      ∃ rest, data = AccountSerialize.trySerialize x ++ rest

/-- Write values to an account, one after the other. -/
def persistAll [AccountSerialize α] (key : Pubkey) :
    List α → Ledger → Except (Error ε) Ledger
  | [], ledger => .ok ledger
  | x :: xs, ledger => do
    let ledger ← exitAccount key x ledger
    persistAll key xs ledger

/-- In an account of `space` bytes there is room for every sequence of values,
    and afterwards the last of them is loaded. -/
def Persists (ε α : Type) [Owner α] [AccountDeserialize α] [AccountSerialize α]
    (space : Nat) : Prop :=
  ∀ (ledger : Ledger) (key : Pubkey), (ledger key).owner = Owner.owner α →
    (ledger key).data.length = space → ∀ (xs : List α) (x : α), ∃ ledger',
      (persistAll key (xs ++ [x]) ledger : Except (Error ε) Ledger) = .ok ledger' ∧
      (loadAccount α ledger' key : Except (Error ε) α) = .ok x

section

variable [AccountDeserialize α] [AccountSerialize α] [LawfulAccount α]

/-- What is loaded is what was written. -/
theorem loaded_eq (data rest : List UInt8) (x y : α)
    (hload : AccountDeserialize.tryDeserialize data = .ok x)
    (hdata : data = AccountSerialize.trySerialize y ++ rest) : x = y := by
  have hy := (LawfulAccount.loads_iff data y).mpr ⟨rest, hdata⟩
  rw [hload, Except.ok.injEq] at hy
  exact hy

variable [Owner α]

/-- An account loads if some value is written at its front. -/
theorem exists_loadAccount_iff (ledger : Ledger) (key : Pubkey) :
    (∃ x, (loadAccount α ledger key : Except (Error ε) α) = .ok x) ↔
      (ledger key).owner = Owner.owner α ∧
        ∃ (x : α) (rest : List UInt8),
          (ledger key).data = AccountSerialize.trySerialize x ++ rest := by
  simp only [loadAccount_eq_ok, LawfulAccount.loads_iff, exists_and_left]

/-- Where there is room for a value, it is written and loaded, and the account
    stays what it is otherwise. -/
theorem loadAccount_exit (ledger : Ledger) (key : Pubkey) (x : α)
    (hown : (ledger key).owner = Owner.owner α)
    (hroom : (AccountSerialize.trySerialize x).length ≤ (ledger key).data.length) :
    ∃ ledger', (exitAccount key x ledger : Except (Error ε) Ledger) = .ok ledger' ∧
      (ledger' key).owner = Owner.owner α ∧
      (ledger' key).data.length = (ledger key).data.length ∧
      (loadAccount α ledger' key : Except (Error ε) α) = .ok x := by
  refine ⟨_, (exitAccount_eq_ok ..).mpr ⟨hroom, rfl⟩, ?_, ?_, (loadAccount_eq_ok ..).mpr ⟨?_, ?_⟩⟩
  · rw [Function.update_self]
    exact hown
  · rw [Function.update_self]
    exact length_overwrite _ _ hroom
  · rw [Function.update_self]
    exact hown
  · -- What is left of the old content comes behind the value.
    rw [Function.update_self, LawfulAccount.loads_iff]
    exact ⟨_, rfl⟩

/-- In an account with room for every value, a sequence of them is written and
    the last one loaded. -/
theorem persistAll_concat (xs : List α) (x : α) (ledger : Ledger) (key : Pubkey)
    (hown : (ledger key).owner = Owner.owner α)
    (hroom : ∀ y : α, (AccountSerialize.trySerialize y).length ≤ (ledger key).data.length) :
    ∃ ledger', (persistAll key (xs ++ [x]) ledger : Except (Error ε) Ledger) = .ok ledger' ∧
      (loadAccount α ledger' key : Except (Error ε) α) = .ok x := by
  induction xs generalizing ledger with
  | nil =>
      rcases loadAccount_exit (ε := ε) ledger key x hown (hroom x) with
        ⟨ledger', hexit, _, _, hload⟩
      refine ⟨ledger', ?_, hload⟩
      rw [List.nil_append, persistAll, hexit]
      rfl
  | cons y ys ih =>
      -- After one write there is as much room as before.
      rcases loadAccount_exit (ε := ε) ledger key y hown (hroom y) with
        ⟨mid, hexit, howned, hlen, _⟩
      rcases ih mid howned (by rw [hlen]; exact hroom) with ⟨ledger', hrest, hload⟩
      refine ⟨ledger', ?_, hload⟩
      rw [List.cons_append, persistAll, hexit]
      exact hrest

/-- The sizes that keep every value are those the longest value fits in. -/
theorem persists_iff (longest space : Nat)
    (hlong : IsGreatest (Set.range fun x : α => (AccountSerialize.trySerialize x).length) longest) :
    Persists ε α space ↔ longest ≤ space := by
  rcases hlong with ⟨⟨x, hx⟩, hub⟩
  simp only at hx
  constructor
  · intro h
    -- The longest value, written to an account of zeros.
    rcases h (fun _ => ⟨Owner.owner α, List.replicate space 0⟩) systemProgramId rfl
      List.length_replicate [] x with ⟨ledger', hwrite, _⟩
    rw [List.nil_append, persistAll] at hwrite
    rcases (bind_eq_ok ..).mp hwrite with ⟨mid, hexit, _⟩
    have hroom := ((exitAccount_eq_ok ..).mp hexit).1
    rw [hx, List.length_replicate] at hroom
    exact hroom
  · intro hle ledger key hown hlen xs y
    refine persistAll_concat xs y ledger key hown ?_
    intro z
    have hz : (AccountSerialize.trySerialize z).length ≤ longest := hub ⟨z, rfl⟩
    omega

theorem isLeast_persists (longest : Nat)
    (hlong : IsGreatest (Set.range fun x : α => (AccountSerialize.trySerialize x).length) longest) :
    IsLeast {space | Persists ε α space} longest := by
  constructor
  · exact (persists_iff longest longest hlong).mpr (Nat.le_refl _)
  · intro space h
    exact (persists_iff longest space hlong).mp h

end

end Anchor
