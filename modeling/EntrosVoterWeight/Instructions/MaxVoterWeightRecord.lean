import EntrosVoterWeight.Instructions.VoterWeightRecord

/-!
# Max Voter Weight Record Instructions

Creating and updating the record that tells governance how much weight there
can be, which a quorum is a fraction of. Both are reserved to the realm's
authority, as for the registrar, and there is no instruction that closes one.

Updating loads its record through a deserializer that compares no
discriminator, and derives no address for it: what it asks of the account is
the program's ownership, the shape of the bytes, and the realm and mint at
bytes 8 to 72.

## Main definitions

* `createMaxVoterWeightRecord`, `updateMaxVoterWeightRecord`: The handlers.
* `CreateMaxVoterWeightRecord.Accepts`, `UpdateMaxVoterWeightRecord.Accepts`:
  When they succeed.

## Theorems

* `length_maxVoterWeightRecord_codec`: The encoding takes 89 bytes, and eight
  more for an expiry.
* `createMaxVoterWeightRecord_eq_ok`, `updateMaxVoterWeightRecord_eq_ok`:
  Success of each handler, with the ledger it leaves.
-/

namespace EntrosVoterWeight

open Borsh Anchor

/-! ### create_max_voter_weight_record -/

structure CreateMaxVoterWeightRecord where
  registrar : Pubkey
  maxVoterWeightRecord : Pubkey
  realm : Pubkey
  realmAuthority : Pubkey
  payer : Pubkey
  systemProgram : Pubkey

def createMaxVoterWeightRecord (env : Env) (ctx : Context CreateMaxVoterWeightRecord)
    (ledger : Ledger) : Except PluginError Ledger := do
  let acc := ctx.accounts
  let registrar ← loadAccount Registrar ledger acc.registrar
  requireSigner ctx acc.realmAuthority
  requireSigner ctx acc.payer
  requireProgram env.toRuntime systemProgramId acc.systemProgram
  require (acc.maxVoterWeightRecord = env.address (.maxVoterWeightRecord registrar.realm
    registrar.governingTokenMint)) (.anchor .constraintSeeds)
  let ledger ← initAccount ctx programId acc.maxVoterWeightRecord acc.payer
    MaxVoterWeightRecord.getSpace ledger
  let record ← loadAccountUnchecked MaxVoterWeightRecord ledger acc.maxVoterWeightRecord
  require (acc.registrar = env.address (.registrar registrar.realm registrar.governingTokenMint))
    (.anchor .constraintSeeds)
  require (acc.realm = registrar.realm) (.anchor .constraintRaw)
  requireMut ctx acc.payer
  requireRealmAuthority env registrar.governanceProgramId (ledger acc.realm)
    registrar.governingTokenMint acc.realmAuthority
  exitAccount acc.maxVoterWeightRecord
    { record with
      accountDiscriminator := env.maxVoterWeightRecordDiscriminator
      realm := registrar.realm
      governingTokenMint := registrar.governingTokenMint
      maxVoterWeight := 0
      maxVoterWeightExpiry := some 0 } ledger

/-- The record that creation writes: weight zero, expired from the start. -/
def newMaxVoterWeightRecord (env : Env) (realm governingTokenMint : Pubkey) :
    MaxVoterWeightRecord where
  accountDiscriminator := env.maxVoterWeightRecordDiscriminator
  realm := realm
  governingTokenMint := governingTokenMint
  maxVoterWeight := 0
  maxVoterWeightExpiry := some 0
  reserved := FixedBytes.zero 8

structure CreateMaxVoterWeightRecord.Accepts (env : Env) (ctx : Context CreateMaxVoterWeightRecord)
    (ledger : Ledger) (registrar : Registrar) : Prop where
  registrar_owner : (ledger ctx.accounts.registrar).owner = programId
  registrar_loads : AccountDeserialize.tryDeserialize (ledger ctx.accounts.registrar).data =
    .ok registrar
  authority_signs : ctx.isSigner ctx.accounts.realmAuthority = true
  payer_signs : ctx.isSigner ctx.accounts.payer = true
  system : ctx.accounts.systemProgram = systemProgramId
  record_seeds : ctx.accounts.maxVoterWeightRecord =
    env.address (.maxVoterWeightRecord registrar.realm registrar.governingTokenMint)
  pays : ctx.accounts.payer ≠ ctx.accounts.maxVoterWeightRecord ∧
    ctx.isWritable ctx.accounts.payer = true ∧
    ctx.isWritable ctx.accounts.maxVoterWeightRecord = true
  vacant : ledger ctx.accounts.maxVoterWeightRecord = .vacant
  registrar_seeds : ctx.accounts.registrar =
    env.address (.registrar registrar.realm registrar.governingTokenMint)
  realm_eq : ctx.accounts.realm = registrar.realm
  -- The realm is read after the record was allocated.
  authority : IsRealmAuthority env registrar.governanceProgramId
    (Function.update ledger ctx.accounts.maxVoterWeightRecord
      ⟨programId, List.replicate MaxVoterWeightRecord.getSpace 0⟩ ctx.accounts.realm)
    registrar.governingTokenMint ctx.accounts.realmAuthority

/-- What freshly allocated bytes read as. -/
def MaxVoterWeightRecord.blank : MaxVoterWeightRecord :=
  ⟨FixedBytes.zero 8, FixedBytes.zero 32, FixedBytes.zero 32, 0, none, FixedBytes.zero 8⟩

theorem tryDeserializeUnchecked_zero_maxVoterWeightRecord :
    AccountDeserialize.tryDeserializeUnchecked
      (List.replicate MaxVoterWeightRecord.getSpace (0 : UInt8)) =
        .ok MaxVoterWeightRecord.blank := by
  decide +kernel

/-- The expiry is the only part whose length varies. -/
theorem length_maxVoterWeightRecord_codec (r : MaxVoterWeightRecord) :
    (MaxVoterWeightRecord.codec.encode r).length =
      if r.maxVoterWeightExpiry.isSome then 97 else 89 := by
  rcases hexp : r.maxVoterWeightExpiry with _ | slot
  · simp only [MaxVoterWeightRecord.codec, Codec.iso, Codec.prod, Codec.bytes, Codec.u64,
      Codec.option, hexp, List.length_append, List.length_cons, List.length_nil,
      FixedBytes.length_bytes, length_leEncode, Option.isSome_none, Bool.false_eq_true, if_false]
  · simp only [MaxVoterWeightRecord.codec, Codec.iso, Codec.prod, Codec.bytes, Codec.u64,
      Codec.option, hexp, List.length_append, List.length_cons,
      FixedBytes.length_bytes, length_leEncode, Option.isSome_some, if_true]

theorem createMaxVoterWeightRecord_eq_ok (env : Env) (ctx : Context CreateMaxVoterWeightRecord)
    (ledger ledger' : Ledger) :
    createMaxVoterWeightRecord env ctx ledger = .ok ledger' ↔
      ∃ registrar,
        CreateMaxVoterWeightRecord.Accepts env ctx ledger registrar ∧
        ledger' = Function.update ledger ctx.accounts.maxVoterWeightRecord
          ⟨programId, MaxVoterWeightRecord.codec.encode (newMaxVoterWeightRecord env
            registrar.realm registrar.governingTokenMint)⟩ := by
  have hlen : ∀ r m, (MaxVoterWeightRecord.codec.encode (newMaxVoterWeightRecord env r m)).length =
      MaxVoterWeightRecord.getSpace := fun _ _ => length_maxVoterWeightRecord_codec _
  simp only [createMaxVoterWeightRecord, bind_eq_ok, requireSigner_eq_ok,
    requireProgram_systemProgramId, require_eq_ok, requireMut_eq_ok, initAccount_eq_ok,
    loadAccount_eq_ok, loadAccountUnchecked_eq_ok, requireRealmAuthority_eq_ok, exitAccount_eq_ok,
    exists_const]
  constructor
  · intro h
    rcases h with ⟨reg, ⟨hown, hload⟩, hauth, hpayer, hsys, hrseeds, _, ⟨hpays, hvac, rfl⟩, r,
      ⟨_, hr⟩, hseeds, hrealm, _, hreal, _, rfl⟩
    -- Freshly allocated bytes load as the blank record.
    simp only [Function.update_self, tryDeserializeUnchecked_zero_maxVoterWeightRecord,
      Except.ok.injEq] at hr
    subst hr
    refine ⟨reg, ⟨hown, hload, hauth, hpayer, hsys, hrseeds, hpays, hvac, hseeds, hrealm, hreal⟩,
      ?_⟩
    -- With an expiry the encoding fills the account.
    have hwritten := overwrite_zeros _ _ (hlen reg.realm reg.governingTokenMint)
    simp only [newMaxVoterWeightRecord] at hwritten
    simp only [Function.update_self, Function.update_idem, MaxVoterWeightRecord.blank,
      newMaxVoterWeightRecord, AccountSerialize.trySerialize, hwritten]
  · intro h
    rcases h with ⟨reg, h, rfl⟩
    have hwritten := overwrite_zeros _ _ (hlen reg.realm reg.governingTokenMint)
    have hroom := hlen reg.realm reg.governingTokenMint
    simp only [newMaxVoterWeightRecord] at hwritten hroom
    refine ⟨reg, ⟨h.registrar_owner, h.registrar_loads⟩, h.authority_signs, h.payer_signs,
      h.system, h.record_seeds, _, ⟨h.pays, h.vacant, rfl⟩, .blank, ⟨?_, ?_⟩, h.registrar_seeds,
      h.realm_eq, h.pays.2.1, h.authority, ?_, ?_⟩
    · rw [Function.update_self]
      rfl
    · simp only [Function.update_self, tryDeserializeUnchecked_zero_maxVoterWeightRecord]
    · simp only [Function.update_self, List.length_replicate, AccountSerialize.trySerialize,
        MaxVoterWeightRecord.blank, hroom, le_refl]
    · simp only [Function.update_self, Function.update_idem, MaxVoterWeightRecord.blank,
        newMaxVoterWeightRecord, AccountSerialize.trySerialize, hwritten]

/-! ### update_max_voter_weight_record -/

structure UpdateMaxVoterWeightRecord where
  registrar : Pubkey
  maxVoterWeightRecord : Pubkey
  realm : Pubkey
  realmAuthority : Pubkey

def updateMaxVoterWeightRecord (env : Env) (ctx : Context UpdateMaxVoterWeightRecord)
    (maxVoterWeight : UInt64) (ledger : Ledger) : Except PluginError Ledger := do
  let acc := ctx.accounts
  let registrar ← loadAccount Registrar ledger acc.registrar
  -- No discriminator is compared, so this can be an account of another kind.
  let record ← loadAccount MaxVoterWeightRecord ledger acc.maxVoterWeightRecord
  requireSigner ctx acc.realmAuthority
  require (acc.registrar = env.address (.registrar registrar.realm registrar.governingTokenMint))
    (.anchor .constraintSeeds)
  requireMut ctx acc.maxVoterWeightRecord
  require (record.realm = registrar.realm) (.anchor .constraintRaw)
  require (record.governingTokenMint = registrar.governingTokenMint) (.anchor .constraintRaw)
  require (acc.realm = registrar.realm) (.anchor .constraintRaw)
  -- A weight of zero would leave no quorum to reach.
  require (0 < maxVoterWeight) (.custom .invalidMaxVoterWeight)
  requireRealmAuthority env registrar.governanceProgramId (ledger acc.realm)
    registrar.governingTokenMint acc.realmAuthority
  exitAccount acc.maxVoterWeightRecord
    { record with
      maxVoterWeight := maxVoterWeight
      maxVoterWeightExpiry := none } ledger

/-- The record that updating writes: the weight, without expiry. -/
def MaxVoterWeightRecord.withWeight (record : MaxVoterWeightRecord) (maxVoterWeight : UInt64) :
    MaxVoterWeightRecord :=
  { record with
    maxVoterWeight := maxVoterWeight
    maxVoterWeightExpiry := none }

structure UpdateMaxVoterWeightRecord.Accepts (env : Env) (ctx : Context UpdateMaxVoterWeightRecord)
    (ledger : Ledger) (registrar : Registrar) (record : MaxVoterWeightRecord) : Prop where
  registrar_owner : (ledger ctx.accounts.registrar).owner = programId
  registrar_loads : AccountDeserialize.tryDeserialize (ledger ctx.accounts.registrar).data =
    .ok registrar
  record_owner : (ledger ctx.accounts.maxVoterWeightRecord).owner = programId
  record_loads : AccountDeserialize.tryDeserialize
    (ledger ctx.accounts.maxVoterWeightRecord).data = .ok record
  signs : ctx.isSigner ctx.accounts.realmAuthority = true
  seeds : ctx.accounts.registrar =
    env.address (.registrar registrar.realm registrar.governingTokenMint)
  writable : ctx.isWritable ctx.accounts.maxVoterWeightRecord = true
  record_realm : record.realm = registrar.realm
  record_mint : record.governingTokenMint = registrar.governingTokenMint
  realm_eq : ctx.accounts.realm = registrar.realm
  authority : IsRealmAuthority env registrar.governanceProgramId (ledger ctx.accounts.realm)
    registrar.governingTokenMint ctx.accounts.realmAuthority

theorem updateMaxVoterWeightRecord_eq_ok (env : Env) (ctx : Context UpdateMaxVoterWeightRecord)
    (maxVoterWeight : UInt64) (ledger ledger' : Ledger) :
    updateMaxVoterWeightRecord env ctx maxVoterWeight ledger = .ok ledger' ↔
      ∃ registrar record,
        UpdateMaxVoterWeightRecord.Accepts env ctx ledger registrar record ∧
        0 < maxVoterWeight ∧
        89 ≤ (ledger ctx.accounts.maxVoterWeightRecord).data.length ∧
        ledger' = Function.update ledger ctx.accounts.maxVoterWeightRecord
          ⟨programId, overwrite
            (MaxVoterWeightRecord.codec.encode (record.withWeight maxVoterWeight))
            (ledger ctx.accounts.maxVoterWeightRecord).data⟩ := by
  have hlen : ∀ r : MaxVoterWeightRecord,
      (MaxVoterWeightRecord.codec.encode (r.withWeight maxVoterWeight)).length = 89 :=
    fun _ => length_maxVoterWeightRecord_codec _
  simp only [updateMaxVoterWeightRecord, bind_eq_ok, requireSigner_eq_ok, require_eq_ok,
    requireMut_eq_ok, loadAccount_eq_ok, requireRealmAuthority_eq_ok, exitAccount_eq_ok,
    exists_const, AccountSerialize.trySerialize]
  constructor
  · intro h
    rcases h with ⟨reg, ⟨hgown, hgload⟩, r, ⟨hrown, hrload⟩, hsign, hseeds, hmut, hrealm, hmint,
      heq, hpos, hauth, hroom, rfl⟩
    refine ⟨reg, r, ⟨hgown, hgload, hrown, hrload, hsign, hseeds, hmut, hrealm, hmint, heq, hauth⟩,
      hpos, ?_, ?_⟩
    · rw [← hlen r]
      exact hroom
    · rw [hrown, MaxVoterWeightRecord.withWeight]
      rfl
  · intro h
    rcases h with ⟨reg, r, h, hpos, hroom, rfl⟩
    refine ⟨reg, ⟨h.registrar_owner, h.registrar_loads⟩, r, ⟨h.record_owner, h.record_loads⟩,
      h.signs, h.seeds, h.writable, h.record_realm, h.record_mint, h.realm_eq, hpos, h.authority,
      ?_, ?_⟩
    · rw [← hlen r] at hroom
      exact hroom
    · rw [h.record_owner, MaxVoterWeightRecord.withWeight]

end EntrosVoterWeight
