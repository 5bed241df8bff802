import EntrosVoterWeight.Anchor.Account
import EntrosVoterWeight.Funds.Balance

/-!
# Lamports

What creating and closing an account does to balances.

An account is created with the balance that exempts it from rent. The payer
adds what is missing. Usually that is all of it, but nobody needs anybody's
leave to send lamports to an address, so there may be some already, and then
the framework tops them up instead of creating the account anew. Closing an
account empties it into another one.

The system program takes lamports from its own accounts only, and only while
they hold no data, so this is what a payer has to be unless nothing is missing.
What the runtime looks at once a transaction is over is left out: its fee, and
that no account is left with something but less than the minimum.

## Main definitions

* `Lamports`: The balances of a cluster.
* `Rent`: What exempts an account from rent.
* `shortfall`: What the payer adds.
* `fundAccount`, `drainAccount`: The lamports of the `init` and the `close`
  constraint.

## Theorems

* `fund_spec`, `drain_spec`: What the two do.
* `fund_covered`, `drain_succeeds`: When they go through.
* `supply_fund`, `supply_drain`: Neither makes or loses lamports.
-/

namespace Anchor

open Funds

/-- The lamports of every account. -/
abbrev Lamports := Balance Pubkey

/-- Balances are 64-bit numbers. -/
def lamportLimit : Nat := 2 ^ 64

/-- What an account has to hold, by the size of its data. -/
structure Rent where
  minimumBalance : Nat → Nat
  minimumBalance_pos : ∀ space, 0 < minimumBalance space

/-- What is missing of an account that holds `held` lamports already. -/
def shortfall (rent : Rent) (space held : Nat) : Nat :=
  if held = 0 then rent.minimumBalance space else max (rent.minimumBalance space) 1 - held

/-- The `init` constraint: the payer adds what is missing. -/
def fundAccount (rent : Rent) (payer key : Pubkey) (space : Nat) (ledger : Ledger)
    (lamports : Lamports) : Option Lamports :=
  let missing := shortfall rent space (lamports key)
  if missing = 0 then some lamports
  -- The transfer is the system program's.
  else if ledger payer = .vacant then transfer lamportLimit payer key missing lamports
  else none

/-- The `close` constraint: everything goes to the destination. -/
def drainAccount (key dest : Pubkey) (lamports : Lamports) : Option Lamports :=
  transfer lamportLimit key dest (lamports key) lamports

/-- What an `init` with a payer of its own did to the balances. -/
structure Funding (rent : Rent) (payer key : Pubkey) (space : Nat) (ledger : Ledger)
    (lamports lamports' : Lamports) : Prop where
  held : lamports' key = max (lamports key) (rent.minimumBalance space)
  paid : lamports payer + lamports key = lamports' payer + lamports' key
  others : ∀ a, a ≠ payer → a ≠ key → lamports' a = lamports a
  payer_vacant : lamports' payer ≠ lamports payer → ledger payer = .vacant

/-- What a `close` did to them. -/
structure Draining (key dest : Pubkey) (lamports lamports' : Lamports) : Prop where
  emptied : lamports' key = 0
  received : lamports' dest = lamports dest + lamports key
  others : ∀ a, a ≠ key → a ≠ dest → lamports' a = lamports a

/-- There are no more lamports than fit into one balance. -/
def Capped (lamports : Lamports) : Prop := ∃ n, n < lamportLimit ∧ Supply lamports n

section
variable (rent : Rent) (payer key dest : Pubkey) (space : Nat) (ledger : Ledger)
variable (lamports lamports' : Lamports)

/-- An account and what it misses make up the minimum, or more. -/
theorem add_shortfall (held : Nat) :
    held + shortfall rent space held = max held (rent.minimumBalance space) := by
  have hpos := rent.minimumBalance_pos space
  by_cases h : held = 0
  · rw [shortfall, if_pos h]
    omega
  · rw [shortfall, if_neg h]
    omega

theorem fund_spec (hne : payer ≠ key)
    (h : fundAccount rent payer key space ledger lamports = some lamports') :
    Funding rent payer key space ledger lamports lamports' := by
  have hsum := add_shortfall rent space (lamports key)
  unfold fundAccount at h
  by_cases hzero : shortfall rent space (lamports key) = 0
  · rw [if_pos hzero, Option.some.injEq] at h
    subst h
    exact ⟨by omega, rfl, fun _ _ _ => rfl, fun hbad => absurd rfl hbad⟩
  · rw [if_neg hzero] at h
    by_cases hsystem : ledger payer = .vacant
    · rw [if_pos hsystem] at h
      -- What leaves the payer arrives at the account.
      rcases (transfer_eq_some ..).mp h with ⟨hle, _, rfl⟩
      have hkey := moved_dest payer key (shortfall rent space (lamports key)) lamports hne
      have hpayer := moved_source payer key (shortfall rent space (lamports key)) lamports hne
      exact ⟨by omega, by omega, fun a hp hk => moved_other _ _ _ _ a hp hk, fun _ => hsystem⟩
    · rw [if_neg hsystem] at h
      exact absurd h (Option.some_ne_none _).symm

theorem drain_spec (hne : key ≠ dest) (h : drainAccount key dest lamports = some lamports') :
    Draining key dest lamports lamports' := by
  rcases (transfer_eq_some ..).mp h with ⟨_, _, rfl⟩
  refine ⟨?_, moved_dest _ _ _ _ hne, fun a hk hd => moved_other _ _ _ _ a hk hd⟩
  rw [moved_source _ _ _ _ hne, Nat.sub_self]

theorem supply_fund (n : Nat) (hs : Supply lamports n)
    (h : fundAccount rent payer key space ledger lamports = some lamports') :
    Supply lamports' n := by
  unfold fundAccount at h
  by_cases hzero : shortfall rent space (lamports key) = 0
  · rw [if_pos hzero, Option.some.injEq] at h
    rw [← h]
    exact hs
  · rw [if_neg hzero] at h
    by_cases hsystem : ledger payer = .vacant
    · rw [if_pos hsystem] at h
      exact supply_transfer _ _ _ _ _ n _ hs h
    · rw [if_neg hsystem] at h
      exact absurd h (Option.some_ne_none _).symm

theorem supply_drain (n : Nat) (hs : Supply lamports n)
    (h : drainAccount key dest lamports = some lamports') : Supply lamports' n :=
  supply_transfer _ _ _ _ _ n _ hs h

/-- A payer pays if there is nothing to pay, or it is an account of the system
    program that holds enough. -/
theorem fund_covered (hcap : Capped lamports) :
    (∃ lamports', fundAccount rent payer key space ledger lamports = some lamports') ↔
      shortfall rent space (lamports key) = 0 ∨
        ledger payer = .vacant ∧ shortfall rent space (lamports key) ≤ lamports payer := by
  rcases hcap with ⟨n, hn, hs⟩
  unfold fundAccount
  by_cases hzero : shortfall rent space (lamports key) = 0
  · rw [if_pos hzero]
    exact ⟨fun _ => Or.inl hzero, fun _ => ⟨lamports, rfl⟩⟩
  · rw [if_neg hzero]
    by_cases hsystem : ledger payer = .vacant
    · rw [if_pos hsystem]
      constructor
      · intro h
        rcases h with ⟨_, h⟩
        exact Or.inr ⟨hsystem, ((transfer_eq_some ..).mp h).1⟩
      · intro h
        rcases h with h | ⟨_, hle⟩
        · exact absurd h hzero
        · exact ⟨_, transfer_covered _ _ _ _ _ n hs hn hle⟩
    · rw [if_neg hsystem]
      constructor
      · intro h
        rcases h with ⟨_, h⟩
        exact absurd h (Option.some_ne_none _).symm
      · intro h
        rcases h with h | ⟨h, _⟩
        · exact absurd h hzero
        · exact absurd h hsystem

/-- An account can always be emptied. -/
theorem drain_succeeds (hcap : Capped lamports) :
    ∃ lamports', drainAccount key dest lamports = some lamports' := by
  rcases hcap with ⟨n, hn, hs⟩
  exact ⟨_, transfer_covered _ _ _ _ _ n hs hn (Nat.le_refl _)⟩

end

end Anchor
