import EntrosVoterWeight.Cluster
import EntrosVoterWeight.Identity
import EntrosVoterWeight.Layout

/-!
# Who Gets the Vote

The decision `update_voter_weight_record` makes, and what it does when it is
positive.

`Entitled` puts the decision in the terms of the accounts: a registrar at its
address, a record of the voter under it, and an identity of the voter with a
high enough score and a verification inside the window, ages being taken in
the integers. The handler has offsets, a saturating difference and several
more checks instead, and `entitled_iff` brings the two together. On a clock
that is not negative the difference cannot fall below the 64-bit range, which
is the one place where the saturated age and the integer one would part.

`VoteGiven` is the effect: one vote until a hundred slots later, for any
action, in the record and nowhere else.

## Main definitions

* `Entitled`: The conditions for an update.
* `VoteGiven`: What an update does to the ledger.

## Theorems

* `eligible_iff`: The checks of the identity, by its fields.
* `entitled_iff`: The handler's checks, as the conditions.
* `voteGiven_iff`: The handler's write, as the effect.
* `update_decided`: Updates succeed exactly when entitled, and do just that.
-/

namespace EntrosVoterWeight

open Borsh Anchor Transition

/-- The voter of an update may vote: under this registrar, with this record
    and this identity. -/
structure Entitled (env : Env) (clock : Clock) (ctx : Context UpdateVoterWeightRecord)
    (ledger : Ledger) (registrar : Registrar) (record : VoterWeightRecord)
    (identity : IdentityState) : Prop where
  registrar_owner : (ledger ctx.accounts.registrar).owner = programId
  registrar_loads : AccountDeserialize.tryDeserialize (ledger ctx.accounts.registrar).data =
    .ok registrar
  registrar_address : ctx.accounts.registrar =
    env.address (.registrar registrar.realm registrar.governingTokenMint)
  record_writable : ctx.isWritable ctx.accounts.voterWeightRecord = true
  record_owner : (ledger ctx.accounts.voterWeightRecord).owner = programId
  record_loads : AccountDeserialize.tryDeserialize (ledger ctx.accounts.voterWeightRecord).data =
    .ok record
  record_realm : record.realm = registrar.realm
  record_mint : record.governingTokenMint = registrar.governingTokenMint
  record_voter : record.governingTokenOwner = ctx.accounts.voterAuthority
  signs : ctx.isSigner ctx.accounts.voterAuthority = true
  identity_first : ctx.remainingAccounts.head? =
    some (env.identityAddress ctx.accounts.voterAuthority)
  identity_owner : (ledger (env.identityAddress ctx.accounts.voterAuthority)).owner =
    entrosAnchorProgramId
  identity_data : ∃ rest,
    (ledger (env.identityAddress ctx.accounts.voterAuthority)).data = identity.data rest
  trusted : registrar.minTrustScore ≤ identity.trustScore
  recent : clock.unixTimestamp.toInt - identity.lastVerificationTimestamp.toInt <
    registrar.maxVerificationAge.toInt

/-- The record holds one vote until a hundred slots from now, for any action
    and target, and is otherwise what it was. Nothing else has changed. -/
structure VoteGiven (clock : Clock) (key : Pubkey) (record : VoterWeightRecord)
    (ledger ledger' : Ledger) : Prop where
  frame : ∀ a, a ≠ key → ledger' a = ledger a
  owner : (ledger' key).owner = (ledger key).owner
  written : ∃ expiry : UInt64, expiry.toNat = min (clock.slot.toNat + 100) (2 ^ 64 - 1) ∧
    (ledger' key).data = overwrite (AccountSerialize.trySerialize
      { record with
        voterWeight := 1
        voterWeightExpiry := some expiry
        weightAction := none
        weightActionTarget := none }) (ledger key).data ∧
    AccountDeserialize.tryDeserialize (ledger' key).data = .ok
      { record with
        voterWeight := 1
        voterWeightExpiry := some expiry
        weightAction := none
        weightActionTarget := none }

/-- The checks of the identity and of its age, by the fields of the
    identity. -/
theorem eligible_iff (env : Env) (clock : Clock) (registrar : Registrar) (ledger : Ledger)
    (voter : Pubkey) (htime : 0 ≤ clock.unixTimestamp) :
    Eligible env clock registrar ledger voter ↔
      (ledger (env.identityAddress voter)).owner = entrosAnchorProgramId ∧
      ∃ identity : IdentityState,
        (∃ rest, (ledger (env.identityAddress voter)).data = identity.data rest) ∧
        registrar.minTrustScore ≤ identity.trustScore ∧
        clock.unixTimestamp.toInt - identity.lastVerificationTimestamp.toInt <
          registrar.maxVerificationAge.toInt := by
  constructor
  · intro h
    rcases (header_iff _).mp ⟨h.length, h.discriminator⟩ with ⟨identity, rest, hdata⟩
    have htrust := h.trust
    have hrecent := h.recent
    rw [hdata, trustScore_header] at htrust
    rw [hdata, lastVerificationTimestamp_header] at hrecent
    exact ⟨h.owner, identity, ⟨rest, hdata⟩, htrust, hrecent⟩
  · intro h
    rcases h with ⟨howner, identity, ⟨rest, hdata⟩, htrust, hrecent⟩
    rcases (header_iff _).mpr ⟨identity, rest, hdata⟩ with ⟨hlen, hdisc⟩
    refine ⟨⟨howner, hlen, hdisc, ?_⟩, ?_, ?_⟩
    · rw [hdata, trustScore_header]
      exact htrust
    · -- From a time that is not negative, no 64-bit time is out of reach below.
      have hnow : 0 ≤ clock.unixTimestamp.toInt := Int64.le_iff_toInt_le.mp htime
      have hlast := int64_bounds identity.lastVerificationTimestamp
      rw [hdata, lastVerificationTimestamp_header]
      omega
    · rw [hdata, lastVerificationTimestamp_header]
      exact hrecent

/-- The handler's checks other than room, as the conditions. -/
theorem entitled_iff (env : Env) (clock : Clock) (ctx : Context UpdateVoterWeightRecord)
    (ledger : Ledger) (registrar : Registrar) (record : VoterWeightRecord)
    (htime : 0 ≤ clock.unixTimestamp) :
    (ControlsRecord env ledger ctx.isSigner ctx.isWritable ctx.accounts.registrar
        ctx.accounts.voterWeightRecord ctx.accounts.voterAuthority registrar record ∧
      ctx.remainingAccounts.head? = some (env.identityAddress ctx.accounts.voterAuthority) ∧
      Eligible env clock registrar ledger ctx.accounts.voterAuthority) ↔
    ∃ identity, Entitled env clock ctx ledger registrar record identity := by
  rw [eligible_iff env clock registrar ledger _ htime]
  constructor
  · intro h
    rcases h with ⟨hc, hfirst, howner, identity, hdata, htrust, hrecent⟩
    exact ⟨identity, hc.registrar_owner, hc.registrar_loads, hc.seeds, hc.writable,
      hc.record_owner, hc.record_loads, hc.realm_eq, hc.mint_eq, hc.owner_eq, hc.signs, hfirst,
      howner, hdata, htrust, hrecent⟩
  · intro h
    rcases h with ⟨identity, h⟩
    exact ⟨⟨h.registrar_owner, h.registrar_loads, h.record_owner, h.record_loads, h.signs,
      h.registrar_address, h.record_writable, h.record_realm, h.record_mint, h.record_voter⟩,
      h.identity_first, h.identity_owner, identity, h.identity_data, h.trusted, h.recent⟩

/-- The handler's write, as the effect. -/
theorem voteGiven_iff (clock : Clock) (key : Pubkey) (record : VoterWeightRecord)
    (ledger ledger' : Ledger) (hown : (ledger key).owner = programId) :
    ledger' = Function.update ledger key
        ⟨programId, overwrite (VoterWeightRecord.codec.encode (record.activated clock.slot))
          (ledger key).data⟩ ↔
      VoteGiven clock key record ledger ledger' := by
  constructor
  · intro h
    subst h
    refine ⟨fun a ha => Function.update_of_ne ha .., ?_, saturatingAdd clock.slot 100, ?_, ?_, ?_⟩
    · rw [Function.update_self, hown]
    · exact toNat_saturatingAdd clock.slot 100
    · rw [Function.update_self]
      rfl
    · rw [Function.update_self]
      exact (voterWeightRecord_loads_iff _ _).mpr ⟨_, rfl⟩
  · intro h
    rcases h.written with ⟨expiry, hexp, hdata, _⟩
    -- The effect names the expiry by its value, which determines it.
    have hsat : expiry = saturatingAdd clock.slot 100 := by
      rw [← UInt64.toNat_inj, hexp, toNat_saturatingAdd]
      rfl
    subst hsat
    funext a
    by_cases ha : a = key
    · subst ha
      rw [Function.update_self]
      have howner := h.owner.trans hown
      rcases hacc : ledger' a with ⟨owner, data⟩
      rw [hacc] at howner hdata
      simp only at howner hdata
      rw [howner, hdata]
      rfl
    · rw [Function.update_of_ne ha, h.frame a ha]

/-- On a clock that is not negative and for a record of the allocated size, an
    update succeeds exactly for a voter who is entitled, and then gives the
    vote and does nothing else. One that does not succeed leaves the state. -/
theorem update_decided (env : Env) (s : State) (ctx : Context UpdateVoterWeightRecord)
    (htime : 0 ≤ s.clock.unixTimestamp)
    (hsize : (s.ledger ctx.accounts.voterWeightRecord).data.length = VoterWeightRecord.getSpace) :
    (∀ ledger', process env s.clock (.updateVoterWeightRecord ctx) s.ledger = .ok ledger' ↔
      ∃ registrar record,
        (∃ identity, Entitled env s.clock ctx s.ledger registrar record identity) ∧
        VoteGiven s.clock ctx.accounts.voterWeightRecord record s.ledger ledger') ∧
    ((∃ ledger', process env s.clock (.updateVoterWeightRecord ctx) s.ledger = .ok ledger') ↔
      ∃ registrar record identity, Entitled env s.clock ctx s.ledger registrar record identity) ∧
    ((¬ ∃ registrar record identity,
        Entitled env s.clock ctx s.ledger registrar record identity) →
      s.apply env (.updateVoterWeightRecord ctx) = s) := by
  have hok : ∀ ledger',
      process env s.clock (.updateVoterWeightRecord ctx) s.ledger = .ok ledger' ↔
        ∃ registrar record,
          (∃ identity, Entitled env s.clock ctx s.ledger registrar record identity) ∧
          VoteGiven s.clock ctx.accounts.voterWeightRecord record s.ledger ledger' := by
    intro ledger'
    have hroom : 131 ≤ (s.ledger ctx.accounts.voterWeightRecord).data.length := by
      rw [hsize, VoterWeightRecord.getSpace]
      omega
    refine (updateVoterWeightRecord_eq_ok env s.clock ctx s.ledger ledger').trans ?_
    constructor
    · intro h
      rcases h with ⟨reg, r, hc, hfirst, helig, _, hwrite⟩
      have hent := (entitled_iff env s.clock ctx s.ledger reg r htime).mp ⟨hc, hfirst, helig⟩
      refine ⟨reg, r, hent, ?_⟩
      exact (voteGiven_iff s.clock _ r s.ledger ledger' hc.record_owner).mp hwrite
    · intro h
      rcases h with ⟨reg, r, hent, hgiven⟩
      rcases (entitled_iff env s.clock ctx s.ledger reg r htime).mpr hent with ⟨hc, hfirst, helig⟩
      exact ⟨reg, r, hc, hfirst, helig, hroom,
        (voteGiven_iff s.clock _ r s.ledger ledger' hc.record_owner).mpr hgiven⟩
  have hsucceeds : (∃ ledger',
      process env s.clock (.updateVoterWeightRecord ctx) s.ledger = .ok ledger') ↔
        ∃ registrar record identity,
          Entitled env s.clock ctx s.ledger registrar record identity := by
    constructor
    · intro h
      rcases h with ⟨ledger', h⟩
      rcases (hok ledger').mp h with ⟨reg, r, ⟨identity, hent⟩, _⟩
      exact ⟨reg, r, identity, hent⟩
    · intro h
      rcases h with ⟨reg, r, identity, hent⟩
      -- The effect is that of the write, so there is a ledger with it.
      have hgiven := (voteGiven_iff s.clock _ r s.ledger _ hent.record_owner).mp rfl
      exact ⟨_, (hok _).mpr ⟨reg, r, ⟨identity, hent⟩, hgiven⟩⟩
  refine ⟨hok, hsucceeds, ?_⟩
  intro hnot
  rcases hp : process env s.clock (.updateVoterWeightRecord ctx) s.ledger with e | ledger'
  · exact apply_error env s _ e hp
  · exact absurd (hsucceeds.mp ⟨ledger', hp⟩) hnot

/-- A wallet verified a day ago, whose record was just created. -/
theorem update_decided_devnet :
    ∃ ledger' registrar record identity,
      process Devnet.env (Devnet.after Devnet.oneDao).2.clock
        (Devnet.updateRecord Devnet.mint Devnet.voterA)
        (Devnet.after Devnet.oneDao).2.ledger = .ok ledger' ∧
      Entitled Devnet.env (Devnet.after Devnet.oneDao).2.clock
        (Devnet.updateRecordContext Devnet.mint Devnet.voterA)
        (Devnet.after Devnet.oneDao).2.ledger registrar record identity ∧
      VoteGiven (Devnet.after Devnet.oneDao).2.clock (Devnet.record Devnet.mint Devnet.voterA)
        record (Devnet.after Devnet.oneDao).2.ledger ledger' := by
  rcases exists_of_isOk Devnet.env (Devnet.after Devnet.oneDao).2.clock
    (Devnet.updateRecord Devnet.mint Devnet.voterA) (Devnet.after Devnet.oneDao).2.ledger
    (by decide +kernel) with ⟨ledger', hok⟩
  rcases ((update_decided Devnet.env (Devnet.after Devnet.oneDao).2
    (Devnet.updateRecordContext Devnet.mint Devnet.voterA) (by decide +kernel)
    (by decide +kernel)).1 ledger').mp hok with ⟨registrar, record, ⟨identity, hent⟩, hgiven⟩
  exact ⟨ledger', registrar, record, identity, hok, hent, hgiven⟩

end EntrosVoterWeight
