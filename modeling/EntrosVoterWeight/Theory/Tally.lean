import EntrosVoterWeight.Theory.Register
import EntrosVoterWeight.Theory.Weight
import Mathlib.Algebra.BigOperators.Finprod
import Mathlib.Data.Set.Card

/-!
# Counting Votes

What the weights of a body add up to.

An account counts for a body with the weight of a record that belongs to the
program, starts with the discriminator, is for the body and has not expired.
That is the reading of a record this development goes by; whoever counts the
votes is another program. Added up over all accounts there are, the weights
are the number of voters in the electorate of the body, as the register has
it: each of them is counted in one account, with one vote, and nothing else is
counted.

Each of those voters confirmed the vote in person, at most a hundred slots
ago, by a successful update of that very record, with an identity that the
policy then in force admits. So a change of policy reaches every vote within a
hundred slots.

## Main definitions

* `countedWeight`: What an account counts for.
* `Confirmed`: A voter's own successful update, with the identity it went by.

## Theorems

* `countedWeight_elector`, `elector_of_counted`: Electors are what is counted.
* `votes_counted`: The weights add up to the electorate.
* `policy_reaches_votes`: After a hundred slots, votes are under the policies
  in force.
-/

namespace EntrosVoterWeight

open Borsh Anchor Transition

/-- The weight an account counts with for a body, in a slot. -/
def countedWeight (env : Env) (slot : UInt64) (d : Dao) (acc : Account) : Nat :=
  match VoterWeightRecord.codec.decode acc.data with
  | some (record, _) =>
    if acc.owner = programId ∧ acc.data.take 8 = env.voterWeightRecordDiscriminator.bytes ∧
        record.realm = d.1 ∧ record.governingTokenMint = d.2 ∧
        record.voterWeightExpiry.all (fun expiry => slot ≤ expiry) = true then
      record.voterWeight.toNat
    else 0
  | none => 0

/-- The voter's own update of the record with the body, which succeeded, with
    the identity and the policy it went by. -/
structure Confirmed (env : Env) (d : Dao) (voter : Pubkey) (id : Registry.Identity)
    (policy : Registry.Policy) (e : Entry State Event) : Prop where
  acts : ∃ ctx, Acts env (.updateVoterWeightRecord ctx)
      (env.address (.voterWeightRecord d.1 d.2 voter)) e ∧
    ctx.accounts.voterAuthority = voter ∧ ctx.isSigner voter = true
  identity : Identifies env e.pre.ledger voter id
  registrar : ∃ registrar,
    registrarAt e.pre.ledger (env.address (.registrar d.1 d.2)) = some registrar ∧
      policyOf registrar = policy
  admitted : policy.Admits e.pre.clock.unixTimestamp.toInt id

/-- A confirmation in the register is the voter's successful update. -/
theorem update_of_confirm (env : Env) (d : Dao) (voter : Pubkey) (id : Registry.Identity)
    (e : Entry State Event) (hself : BySelf env d voter e (.confirm d voter id)) :
    ∃ ctx, Acts env (.updateVoterWeightRecord ctx)
        (env.address (.voterWeightRecord d.1 d.2 voter)) e ∧
      ctx.accounts.voterAuthority = voter ∧ ctx.isSigner voter = true := by
  rcases hself with ⟨ix, hact, hperforms, hsigns⟩
  cases ix with
  | updateVoterWeightRecord ctx => exact ⟨ctx, hact, Eq.symm hperforms, hsigns⟩
  | _ => exact hperforms.elim

section
variable (env : Env) (h : History) (s : State) (hrun : Run (plugin env) h s) (d : Dao)

/-! ### What is counted -/

include hrun in
/-- An elector's record, as it is stored. -/
theorem elector_record (voter : Pubkey) (hv : voter ∈ Registry.electorate (registerOf env h s) d) :
    origin env h (env.address (.voterWeightRecord d.1 d.2 voter)) =
        some (.voterWeightRecord d.1 d.2 voter) ∧
      ∃ record expiry, AccountDeserialize.tryDeserialize
          (s.ledger (env.address (.voterWeightRecord d.1 d.2 voter))).data = .ok record ∧
        VoterFields env d.1 d.2 record ∧ record.voterWeight = 1 ∧
        record.voterWeightExpiry = some expiry ∧ s.clock.slot ≤ expiry := by
  rcases hv with ⟨expiry, hcast, hopen⟩
  by_cases ho : origin env h (env.address (.voterWeightRecord d.1 d.2 voter)) =
      some (.voterWeightRecord d.1 d.2 voter)
  · have hs := shape_run env h s hrun (env.address (.voterWeightRecord d.1 d.2 voter))
    rw [ho] at hs
    rcases VoterShape.record hs with ⟨r, hr, hf⟩
    rw [ballot_loaded env h s hrun _ _ _ _ r ho hr, Option.some.injEq] at hcast
    rcases hf.weight with ⟨hzero, _⟩ | ⟨hone, slot, hslot⟩
    · rw [ballotOf, if_pos hzero] at hcast
      exact absurd hcast (by simp only [reduceCtorEq, not_false_eq_true])
    · rw [ballotOf, hone, hslot, if_neg (by decide), Option.getD_some,
        Registry.Ballot.cast.injEq] at hcast
      rw [← hcast] at hopen
      exact ⟨ho, r, slot, hr, hf, hone, hslot, UInt64.le_iff_toNat_le.mpr hopen⟩
  · simp only [registerOf, holding, if_neg ho, reduceCtorEq] at hcast

include hrun in
/-- Every elector is counted once. -/
theorem countedWeight_elector (voter : Pubkey)
    (hv : voter ∈ Registry.electorate (registerOf env h s) d) :
    countedWeight env s.clock.slot d
      (s.ledger (env.address (.voterWeightRecord d.1 d.2 voter))) = 1 := by
  rcases elector_record env h s hrun d voter hv with ⟨ho, r, expiry, hr, hf, hone, hexp, hopen⟩
  have hs := shape_run env h s hrun (env.address (.voterWeightRecord d.1 d.2 voter))
  rw [ho] at hs
  rcases (voterWeightRecord_loads_iff _ _).mp hr with ⟨rest, hdata⟩
  have hdec := (VoterWeightRecord.codec.decode_iff _ r rest).mpr hdata
  have hhead := (head_of_voter _ _ hr).1
  rw [hf.discriminator] at hhead
  have hall : r.voterWeightExpiry.all (fun expiry => decide (s.clock.slot ≤ expiry)) = true := by
    rw [hexp, Option.all_some, decide_eq_true_eq]
    exact hopen
  simp only [countedWeight, hdec]
  rw [if_pos ⟨VoterShape.owned hs, hhead, hf.realm_eq, hf.mint_eq, hall⟩, hone]
  rfl

include hrun in
/-- Nothing but electors is counted. -/
theorem elector_of_counted (a : Pubkey)
    (hne : countedWeight env s.clock.slot d (s.ledger a) ≠ 0) :
    ∃ voter ∈ Registry.electorate (registerOf env h s) d,
      env.address (.voterWeightRecord d.1 d.2 voter) = a := by
  rcases hdec : VoterWeightRecord.codec.decode (s.ledger a).data with _ | ⟨r, rest⟩
  · simp only [countedWeight, hdec, ne_eq, not_true_eq_false] at hne
  · simp only [countedWeight, hdec, ne_eq, ite_eq_right_iff, not_forall] at hne
    rcases hne with ⟨⟨hown, hhead, hrealm, hmint, hall⟩, hweight⟩
    have hload : AccountDeserialize.tryDeserialize (s.ledger a).data = .ok r :=
      (voterWeightRecord_loads_iff _ _).mpr
        ⟨rest, (VoterWeightRecord.codec.decode_iff _ _ _).mp hdec⟩
    have hdisc : r.accountDiscriminator = env.voterWeightRecordDiscriminator :=
      FixedBytes.ext ((head_of_voter _ _ hload).1.symm.trans hhead)
    -- Only an account created as a record starts like one.
    have hs := shape_run env h s hrun a
    rcases accepted_is_voter env _ a _ hs hown r hload hdisc with ⟨realm, mint, voter, ho⟩
    rw [ho] at hs
    rcases VoterShape.record hs with ⟨r', hr', hf⟩
    have hsame := hload.symm.trans hr'
    rw [Except.ok.injEq] at hsame
    subst hsame
    -- The fields that are compared are those of the place.
    have hd : d = (realm, mint) :=
      Prod.ext (hrealm.symm.trans hf.realm_eq) (hmint.symm.trans hf.mint_eq)
    subst hd
    refine ⟨voter, ?_, (VoterShape.address hs).symm⟩
    -- A weight that counts is the one of an update.
    rcases hf.weight with ⟨hzero, _⟩ | ⟨hone, slot, hslot⟩
    · rw [hzero] at hweight
      exact absurd rfl hweight
    · refine ⟨slot.toNat, ?_, ?_⟩
      · rw [ballot_loaded env h s hrun a realm mint voter r ho hload, ballotOf, hone, hslot,
          if_neg (by decide), Option.getD_some]
      · rw [hslot, Option.all_some, decide_eq_true_eq] at hall
        exact UInt64.le_iff_toNat_le.mp hall

include hrun in
/-- No two electors are counted in one account. -/
theorem elector_injOn : Set.InjOn (fun voter => env.address (.voterWeightRecord d.1 d.2 voter))
    (Registry.electorate (registerOf env h s) d) := by
  intro v hv w hw heq
  have hov := (elector_record env h s hrun d v hv).1
  have how := (elector_record env h s hrun d w hw).1
  rw [show env.address (.voterWeightRecord d.1 d.2 v) = _ from heq, how, Option.some.injEq,
    Place.voterWeightRecord.injEq] at hov
  exact hov.2.2.symm

end

/-- A sum of ones over the images of a finite set is its size. -/
theorem finsum_of_image {α β : Type} (E : Finset α) (f : α → β) (hf : Set.InjOn f E) (w : β → Nat)
    (hone : ∀ x ∈ E, w (f x) = 1) (hzero : ∀ b, w b ≠ 0 → ∃ x ∈ E, f x = b) :
    ∑ᶠ b, w b = E.card := by
  classical
  have hsupp : Function.support w ⊆ ↑(E.image f) := by
    intro b hb
    rcases hzero b hb with ⟨x, hx, rfl⟩
    exact Finset.mem_coe.mpr (Finset.mem_image_of_mem f hx)
  rw [finsum_eq_sum_of_support_subset w hsupp, Finset.sum_image hf, Finset.sum_congr rfl hone,
    Finset.sum_const, smul_eq_mul, mul_one]

/-! ### What the count says -/

/-- An elector's vote goes back to a confirmation at most a hundred slots
    old. -/
theorem elector_confirmed (env : Env) (h : History) (s : State) (d : Dao)
    (k : List (Entry (Registry.State Dao Pubkey) (Registry.Event Dao Pubkey)))
    (hk : Run (Registry.register term lastSlot) k (registerOf env h s))
    (hex : Explains (Amounts env) h k) (P : Registry.Policy → Prop)
    (hpolicy : ∀ e ∈ h, s.clock.slot.toNat ≤ e.pre.clock.slot.toNat + term → ∀ registrar,
      registrarAt e.pre.ledger (env.address (.registrar d.1 d.2)) = some registrar →
        P (policyOf registrar))
    (voter : Pubkey) (hv : voter ∈ Registry.electorate (registerOf env h s) d) :
    ∃ e ∈ h, ∃ id policy, Confirmed env d voter id policy e ∧ P policy ∧
      s.clock.slot.toNat ≤ e.pre.clock.slot.toNat + term := by
  rcases Registry.electorate_confirmed term lastSlot k _ hk d voter hv with
    ⟨x, hx, ⟨id, q, hev, hq, hadm⟩, _, hterm⟩
  -- The confirmation is a step of the program.
  rcases explains_mem (Amounts env) h k hex x hx with ⟨h₁, e, h₀, p, hsplit, hp, hxp⟩
  have he : e ∈ h := by
    rw [hsplit]
    exact List.mem_append_right _ List.mem_cons_self
  have hw := explained_mem env h₀ e p hp x hxp
  have hlic := hw.licensed
  rw [hev] at hlic
  rcases hw.policy d q hq with ⟨reg, hreg, rfl⟩
  rw [hw.time] at hadm
  rw [hw.slot] at hterm
  exact ⟨e, he, id, _, ⟨update_of_confirm env d voter id e hlic.1, hlic.2, ⟨reg, hreg, rfl⟩, hadm⟩,
    hpolicy e he hterm reg hreg, hterm⟩

/-- What counts for a body, over all accounts, is the number of its electors,
    each of whom confirmed the vote in person within a hundred slots. -/
theorem votes_counted (env : Env) (hspec : GovernanceSpec env) (h : History) (s : State)
    (hrun : Run (plugin env) h s)
    (hsteps : ∀ e ∈ h, Separated env e.pre.ledger ∧ ¬ RewritesVoterRecord env e) (d : Dao) :
    ∃ voters : Finset Pubkey,
      (voters : Set Pubkey) = Registry.electorate (registerOf env h s) d ∧
      ∑ᶠ a, countedWeight env s.clock.slot d (s.ledger a) = voters.card ∧
      ∀ voter ∈ voters, ∃ e ∈ h, ∃ id policy, Confirmed env d voter id policy e ∧
        s.clock.slot.toNat ≤ e.pre.clock.slot.toNat + term := by
  rcases register_explained env hspec h s hrun hsteps with ⟨k, hk, hex⟩
  have hfin := Registry.electorate_finite term lastSlot k _ hk d
  have hmem : ∀ v, v ∈ hfin.toFinset ↔ v ∈ Registry.electorate (registerOf env h s) d :=
    fun v => hfin.mem_toFinset
  refine ⟨hfin.toFinset, hfin.coe_toFinset, ?_, ?_⟩
  · -- Electors and accounts that count are in bijection.
    refine finsum_of_image hfin.toFinset
      (fun voter => env.address (.voterWeightRecord d.1 d.2 voter)) ?_ _ ?_ ?_
    · rw [hfin.coe_toFinset]
      exact elector_injOn env h s hrun d
    · exact fun v hv => countedWeight_elector env h s hrun d v ((hmem v).mp hv)
    · intro a ha
      rcases elector_of_counted env h s hrun d a ha with ⟨v, hv, haddr⟩
      exact ⟨v, (hmem v).mpr hv, haddr⟩
  · intro v hv
    rcases elector_confirmed env h s d k hk hex (fun _ => True) (fun _ _ _ _ _ => trivial) v
      ((hmem v).mp hv) with ⟨e, he, id, policy, hconf, _, hterm⟩
    exact ⟨e, he, id, policy, hconf, hterm⟩

/-- One wallet, one vote, and its update. -/
theorem votes_counted_devnet :
    ∃ voters : Finset Pubkey,
      (voters : Set Pubkey) = Registry.electorate
        (registerOf Devnet.env (Devnet.after Devnet.votes).1 (Devnet.after Devnet.votes).2)
        (Devnet.realm, Devnet.mint) ∧
      ∑ᶠ a, countedWeight Devnet.env (Devnet.after Devnet.votes).2.clock.slot
        (Devnet.realm, Devnet.mint) ((Devnet.after Devnet.votes).2.ledger a) = voters.card ∧
      Devnet.voterA ∈ voters ∧
      ∃ e ∈ (Devnet.after Devnet.votes).1, ∃ id policy,
        Confirmed Devnet.env (Devnet.realm, Devnet.mint) Devnet.voterA id policy e := by
  rcases votes_counted Devnet.env (cluster_governanceSpec _ _ _) _ _
    (Devnet.after_run Devnet.votes) Devnet.votes_steps (Devnet.realm, Devnet.mint) with
    ⟨voters, hvoters, hsum, hconfirmed⟩
  have hmem : Devnet.voterA ∈ (voters : Set Pubkey) := by
    rw [hvoters]
    exact ⟨1100, by decide +kernel, by decide +kernel⟩
  rcases hconfirmed _ (Finset.mem_coe.mp hmem) with ⟨e, he, id, policy, hconf, _⟩
  exact ⟨voters, hvoters, hsum, Finset.mem_coe.mp hmem, e, he, id, policy, hconf⟩

/-- If for the last hundred slots every registrar of a body had a policy of
    some kind, every vote that is counted was confirmed, by the wallet its
    record names, under a policy of that kind. -/
theorem policy_reaches_votes (env : Env) (hspec : GovernanceSpec env) (h : History) (s : State)
    (hrun : Run (plugin env) h s)
    (hsteps : ∀ e ∈ h, Separated env e.pre.ledger ∧ ¬ RewritesVoterRecord env e) (d : Dao)
    (P : Registry.Policy → Prop)
    (hpolicy : ∀ e ∈ h, s.clock.slot.toNat ≤ e.pre.clock.slot.toNat + term → ∀ registrar,
      registrarAt e.pre.ledger (env.address (.registrar d.1 d.2)) = some registrar →
        P (policyOf registrar))
    (a : Pubkey) (record : VoterWeightRecord)
    (hload : AccountDeserialize.tryDeserialize (s.ledger a).data = .ok record)
    (hcounted : countedWeight env s.clock.slot d (s.ledger a) ≠ 0) :
    ∃ e ∈ h, ∃ id policy, Confirmed env d record.governingTokenOwner id policy e ∧ P policy ∧
      s.clock.slot.toNat ≤ e.pre.clock.slot.toNat + term := by
  rcases register_explained env hspec h s hrun hsteps with ⟨k, hk, hex⟩
  rcases elector_of_counted env h s hrun d a hcounted with ⟨voter, hv, rfl⟩
  rcases elector_record env h s hrun d voter hv with ⟨ho, _⟩
  rcases elector_confirmed env h s d k hk hex P hpolicy voter hv with
    ⟨e, he, id, policy, hconf, hP, hterm⟩
  rw [(owner_kept env h s hrun (fun e he => (hsteps e he).2) _ _ _ voter record ho hload).1]
  exact ⟨e, he, id, policy, hconf, hP, hterm⟩

/-- A score of fifty was asked for, and is behind the vote. -/
theorem policy_reaches_votes_devnet :
    ∃ e ∈ (Devnet.after Devnet.votes).1, ∃ id policy,
      Confirmed Devnet.env (Devnet.realm, Devnet.mint) Devnet.voterA id policy e ∧
        50 ≤ policy.minTrust ∧
        (Devnet.after Devnet.votes).2.clock.slot.toNat ≤ e.pre.clock.slot.toNat + term := by
  have hall : ∀ e ∈ (Devnet.after Devnet.votes).1,
      (registrarAt e.pre.ledger (Devnet.env.address (.registrar Devnet.realm Devnet.mint))).all
        (fun registrar => decide (50 ≤ registrar.minTrustScore.toNat)) = true := by
    decide +kernel
  have hload : AccountDeserialize.tryDeserialize ((Devnet.after Devnet.votes).2.ledger
      (Devnet.record Devnet.mint Devnet.voterA)).data = .ok ((newVoterWeightRecord Devnet.env
        Devnet.realm Devnet.mint Devnet.voterA).activated 1000) := by
    decide +kernel
  have hcounted : countedWeight Devnet.env (Devnet.after Devnet.votes).2.clock.slot
      (Devnet.realm, Devnet.mint) ((Devnet.after Devnet.votes).2.ledger
        (Devnet.record Devnet.mint Devnet.voterA)) ≠ 0 := by
    decide +kernel
  refine policy_reaches_votes Devnet.env (cluster_governanceSpec _ _ _) _ _
    (Devnet.after_run Devnet.votes) Devnet.votes_steps (Devnet.realm, Devnet.mint)
    (fun policy => 50 ≤ policy.minTrust) ?_ _ _ hload hcounted
  intro e he _ registrar hreg
  have h := hall e he
  rw [hreg, Option.all_some, decide_eq_true_eq] at h
  exact h

end EntrosVoterWeight
