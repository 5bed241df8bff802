import Mathlib.Algebra.BigOperators.Group.Finset.Piecewise
import Mathlib.Algebra.Order.BigOperators.Group.Finset

/-!
# Balances

Amounts held under keys, and transfers between them.

A transfer fails where it would overdraw its source, or where the balance of
its destination would no longer fit into the number that stores it. Otherwise
what one key loses the other gains. So over any keys that include the two the
total stays what it was, and if only finitely many keys hold anything, the
supply does.

The second failure is one that does not happen. A balance is at most the
supply, so where the supply fits, every balance does.

## Main definitions

* `Balance`: An amount for every key.
* `moved`, `transfer`: An amount taken from one key to another.
* `Supply`: What all keys hold together.

## Theorems

* `sum_moved`: A transfer keeps the total.
* `supply_transfer`: It keeps the supply.
* `transfer_covered`: A balance that covers the amount is all it takes.
-/

namespace Funds

variable {κ : Type} [DecidableEq κ]

/-- An amount for every key. -/
abbrev Balance (κ : Type) := κ → Nat

/-- The balances once an amount has left one key and arrived at another. -/
def moved (source dest : κ) (amount : Nat) (b : Balance κ) : Balance κ :=
  let debited := Function.update b source (b source - amount)
  Function.update debited dest (debited dest + amount)

/-- Take an amount from one key to another. Balances stay below `limit`. -/
def transfer (limit : Nat) (source dest : κ) (amount : Nat) (b : Balance κ) :
    Option (Balance κ) :=
  if amount ≤ b source ∧ moved source dest amount b dest < limit then
    some (moved source dest amount b)
  else none

/-- All keys together hold `n`, and finitely many of them hold it. -/
def Supply (b : Balance κ) (n : Nat) : Prop :=
  ∃ S : Finset κ, (∀ a, a ∉ S → b a = 0) ∧ ∑ a ∈ S, b a = n

section
variable (source dest : κ) (amount : Nat) (b : Balance κ)

theorem moved_source (hne : source ≠ dest) :
    moved source dest amount b source = b source - amount := by
  rw [moved, Function.update_of_ne hne, Function.update_self]

theorem moved_dest (hne : source ≠ dest) : moved source dest amount b dest = b dest + amount := by
  rw [moved, Function.update_self, Function.update_of_ne hne.symm]

theorem moved_other (a : κ) (hsource : a ≠ source) (hdest : a ≠ dest) :
    moved source dest amount b a = b a := by
  rw [moved, Function.update_of_ne hdest, Function.update_of_ne hsource]

theorem transfer_eq_some (limit : Nat) (b' : Balance κ) :
    transfer limit source dest amount b = some b' ↔
      amount ≤ b source ∧ moved source dest amount b dest < limit ∧
        b' = moved source dest amount b := by
  by_cases h : amount ≤ b source ∧ moved source dest amount b dest < limit
  · rw [transfer, if_pos h, Option.some.injEq]
    exact ⟨fun heq => ⟨h.1, h.2, heq.symm⟩, fun heq => heq.2.2.symm⟩
  · rw [transfer, if_neg h]
    refine ⟨fun heq => absurd heq (Option.some_ne_none _).symm, fun heq => ?_⟩
    exact absurd ⟨heq.1, heq.2.1⟩ h

/-- A new value changes a total by the difference to the old one. -/
theorem sum_update (S : Finset κ) (a : κ) (ha : a ∈ S) (n : Nat) :
    (∑ x ∈ S, Function.update b a n x) + b a = (∑ x ∈ S, b x) + n := by
  have hsplit := Finset.add_sum_erase S b ha
  rw [Finset.sum_update_of_mem ha, Finset.sdiff_singleton_eq_erase]
  omega

/-- A transfer keeps the total of any keys that include both ends. -/
theorem sum_moved (S : Finset κ) (hsource : source ∈ S) (hdest : dest ∈ S)
    (hle : amount ≤ b source) : ∑ a ∈ S, moved source dest amount b a = ∑ a ∈ S, b a := by
  have hdebit := sum_update b S source hsource (b source - amount)
  have hcredit := sum_update (Function.update b source (b source - amount)) S dest hdest
    (Function.update b source (b source - amount) dest + amount)
  have hlow := Finset.single_le_sum (fun x _ => Nat.zero_le (b x)) hsource
  rw [moved]
  omega

/-- A transfer keeps the supply. -/
theorem supply_moved (n : Nat) (hs : Supply b n) (hle : amount ≤ b source) :
    Supply (moved source dest amount b) n := by
  rcases hs with ⟨S, hzero, hsum⟩
  -- The two ends may be keys that held nothing so far.
  refine ⟨insert source (insert dest S), ?_, ?_⟩
  · intro a ha
    rw [Finset.mem_insert, Finset.mem_insert, not_or, not_or] at ha
    rw [moved_other source dest amount b a ha.1 ha.2.1]
    exact hzero a ha.2.2
  · rw [sum_moved source dest amount b _ (Finset.mem_insert_self _ _)
      (Finset.mem_insert_of_mem (Finset.mem_insert_self _ _)) hle, ← hsum]
    refine (Finset.sum_subset ?_ ?_).symm
    · intro a ha
      exact Finset.mem_insert_of_mem (Finset.mem_insert_of_mem ha)
    · intro a _ hout
      exact hzero a hout

theorem supply_transfer (limit n : Nat) (b' : Balance κ) (hs : Supply b n)
    (h : transfer limit source dest amount b = some b') : Supply b' n := by
  rcases (transfer_eq_some ..).mp h with ⟨hle, _, rfl⟩
  exact supply_moved source dest amount b n hs hle

/-- Nobody holds more than there is. -/
theorem le_supply (n : Nat) (hs : Supply b n) (a : κ) : b a ≤ n := by
  rcases hs with ⟨S, hzero, hsum⟩
  by_cases ha : a ∈ S
  · rw [← hsum]
    exact Finset.single_le_sum (fun x _ => Nat.zero_le (b x)) ha
  · rw [hzero a ha]
    exact Nat.zero_le n

/-- A transfer that its source covers goes through. -/
theorem transfer_covered (limit n : Nat) (hs : Supply b n) (hn : n < limit)
    (hle : amount ≤ b source) :
    transfer limit source dest amount b = some (moved source dest amount b) := by
  have hdest := le_supply _ n (supply_moved source dest amount b n hs hle) dest
  exact (transfer_eq_some ..).mpr ⟨hle, by omega, rfl⟩

end

end Funds
