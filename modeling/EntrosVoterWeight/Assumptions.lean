import EntrosVoterWeight.Program

/-!
# What Is Assumed of the Surroundings

Three facts about the world the program runs in. None of them is used by the
base invariant; the theorems that need one say so.

`GovernanceSpec` is what the accessor of the governance package does: it
succeeds only on a realm account of the given program that lists the given
mint. `Separated` says that no executable program is accepted as a realm, and
is asked of every ledger a run goes through. `CollisionFreeAt` says that no
other seeds the program uses derive the address of a given place. It is asked
of single places: over all of them no function into 32 bytes could satisfy it.

## Main definitions

* `GovernanceSpec`: The accessor of the governance package.
* `Separated`: Executable programs are not realms.
* `CollisionFreeAt`: A place's address is derived from its seeds only.

## Theorems

* `place_of_address`: The place of a collision-free address.
* `realm_not_created`: A realm is never an account that was just allocated.
-/

namespace EntrosVoterWeight

open Borsh Anchor Transition

/-- The accessor succeeds only on a realm account of the given program that
    lists the given mint, and zeros are no realm. -/
structure GovernanceSpec (env : Env) : Prop where
  owner : ∀ governance acc mint realm,
    env.getRealmDataForGoverningTokenMint governance acc mint = some realm →
      acc.owner = governance
  data : ∀ governance acc mint realm,
    env.getRealmDataForGoverningTokenMint governance acc mint = some realm →
      env.realmData acc.data = some realm
  mint : ∀ governance acc mint realm,
    env.getRealmDataForGoverningTokenMint governance acc mint = some realm →
      realm.communityMint = mint ∨ realm.councilMint = some mint
  zeros : ∀ n, env.realmData (List.replicate n 0) = none

/-- No executable program is accepted as a realm. -/
def Separated (env : Env) (ledger : Ledger) : Prop :=
  ∀ a governance mint realm,
    env.getRealmDataForGoverningTokenMint governance (ledger a) mint = some realm →
      env.executable a = false

/-- Only the place's own seeds derive its address. -/
def CollisionFreeAt (env : Env) (p : Place) : Prop :=
  ∀ q : Place, env.address q = env.address p → q.seeds.flatten = p.seeds.flatten

theorem place_of_address (env : Env) (p q : Place) (hfree : CollisionFreeAt env p)
    (h : env.address q = env.address p) : q = p :=
  Place.seeds_injective q p (hfree q h)

/-- A key that is accepted as a realm is not the account that was allocated a
    moment before, so it reads as it did. -/
theorem realm_not_created (env : Env) (hspec : GovernanceSpec env) (ledger : Ledger)
    (new realm governance mint key : Pubkey) (space : Nat)
    (h : IsRealmAuthority env governance
      (Function.update ledger new ⟨programId, List.replicate space 0⟩ realm) mint key) :
    Function.update ledger new ⟨programId, List.replicate space 0⟩ realm = ledger realm := by
  by_cases heq : realm = new
  · subst heq
    rcases h with ⟨rd, hget, _⟩
    have hdata := hspec.data _ _ _ _ hget
    rw [Function.update_self, hspec.zeros] at hdata
    exact absurd hdata (by simp only [reduceCtorEq, not_false_eq_true])
  · exact Function.update_of_ne heq ..

end EntrosVoterWeight
