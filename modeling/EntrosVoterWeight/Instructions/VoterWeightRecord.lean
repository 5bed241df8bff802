import EntrosVoterWeight.Instructions.Registrar

/-!
# Voter Weight Record Instructions

Creating, updating and closing a voter's weight record.

Creation derives the record's address from the registrar's realm and mint and
the wallet it is for, and asks for that wallet's signature. Updating and
closing do not derive it again: they compare the realm, mint and owner stored
in the record. Updating reads the wallet's identity account, an account of
another program, by fixed byte offsets, after checking its owner, its address
and its discriminator.

## Main definitions

* `createVoterWeightRecord`, `updateVoterWeightRecord`,
  `closeVoterWeightRecord`: The handlers.
* `lastVerificationTimestamp`, `trustScore`: What is read of an identity.
* `CreateVoterWeightRecord.Accepts`: When creation succeeds.
* `ControlsRecord`: What updating and closing both ask for.
* `TrustedIdentity`, `Eligible`: What updating asks of the identity account,
  without its age and with it.

## Theorems

* `age_lt_iff`: The saturating age comparison, in the integers.
* `createVoterWeightRecord_eq_ok`, `updateVoterWeightRecord_eq_ok`,
  `closeVoterWeightRecord_eq_ok`: Success of each handler, with the ledger it
  leaves.
-/

namespace EntrosVoterWeight

open Borsh Anchor

/-! ### create_voter_weight_record -/

structure CreateVoterWeightRecord where
  registrar : Pubkey
  voterWeightRecord : Pubkey
  governingTokenOwnerSigner : Pubkey
  payer : Pubkey
  systemProgram : Pubkey

def createVoterWeightRecord (env : Env) (ctx : Context CreateVoterWeightRecord)
    (governingTokenOwner : Pubkey) (ledger : Ledger) : Except PluginError Ledger := do
  let acc := ctx.accounts
  let registrar ← loadAccount Registrar ledger acc.registrar
  requireSigner ctx acc.governingTokenOwnerSigner
  requireSigner ctx acc.payer
  requireProgram env.toRuntime systemProgramId acc.systemProgram
  require (acc.voterWeightRecord = env.address (.voterWeightRecord registrar.realm
    registrar.governingTokenMint governingTokenOwner)) (.anchor .constraintSeeds)
  let ledger ← initAccount ctx programId acc.voterWeightRecord acc.payer
    VoterWeightRecord.getSpace ledger
  let record ← loadAccountUnchecked VoterWeightRecord ledger acc.voterWeightRecord
  require (acc.registrar = env.address (.registrar registrar.realm registrar.governingTokenMint))
    (.anchor .constraintSeeds)
  requireMut ctx acc.payer
  -- The wallet the record stands for has to sign.
  require (acc.governingTokenOwnerSigner = governingTokenOwner)
    (.custom .governingTokenOwnerSignerMismatch)
  exitAccount acc.voterWeightRecord
    { record with
      accountDiscriminator := env.voterWeightRecordDiscriminator
      realm := registrar.realm
      governingTokenMint := registrar.governingTokenMint
      governingTokenOwner := governingTokenOwner
      voterWeight := 0
      voterWeightExpiry := some 0
      weightAction := none
      weightActionTarget := none } ledger

/-- The record that creation writes: weight zero, expired from the start. -/
def newVoterWeightRecord (env : Env) (realm governingTokenMint governingTokenOwner : Pubkey) :
    VoterWeightRecord where
  accountDiscriminator := env.voterWeightRecordDiscriminator
  realm := realm
  governingTokenMint := governingTokenMint
  governingTokenOwner := governingTokenOwner
  voterWeight := 0
  voterWeightExpiry := some 0
  weightAction := none
  weightActionTarget := none
  reserved := FixedBytes.zero 8

structure CreateVoterWeightRecord.Accepts (env : Env) (ctx : Context CreateVoterWeightRecord)
    (governingTokenOwner : Pubkey) (ledger : Ledger) (registrar : Registrar) : Prop where
  registrar_owner : (ledger ctx.accounts.registrar).owner = programId
  registrar_loads : AccountDeserialize.tryDeserialize (ledger ctx.accounts.registrar).data =
    .ok registrar
  owner_signs : ctx.isSigner ctx.accounts.governingTokenOwnerSigner = true
  payer_signs : ctx.isSigner ctx.accounts.payer = true
  system : ctx.accounts.systemProgram = systemProgramId
  record_seeds : ctx.accounts.voterWeightRecord = env.address (.voterWeightRecord registrar.realm
    registrar.governingTokenMint governingTokenOwner)
  pays : ctx.accounts.payer ≠ ctx.accounts.voterWeightRecord ∧
    ctx.isWritable ctx.accounts.payer = true ∧
    ctx.isWritable ctx.accounts.voterWeightRecord = true
  vacant : ledger ctx.accounts.voterWeightRecord = .vacant
  registrar_seeds : ctx.accounts.registrar =
    env.address (.registrar registrar.realm registrar.governingTokenMint)
  owner_eq : ctx.accounts.governingTokenOwnerSigner = governingTokenOwner

/-- What freshly allocated bytes read as. -/
def VoterWeightRecord.blank : VoterWeightRecord :=
  ⟨FixedBytes.zero 8, FixedBytes.zero 32, FixedBytes.zero 32, FixedBytes.zero 32, 0, none, none,
    none, FixedBytes.zero 8⟩

theorem tryDeserializeUnchecked_zero_voterWeightRecord :
    AccountDeserialize.tryDeserializeUnchecked
      (List.replicate VoterWeightRecord.getSpace (0 : UInt8)) = .ok VoterWeightRecord.blank := by
  decide +kernel

/-- A record with an expiry and no action or target takes 131 bytes. -/
theorem length_voterWeightRecord_codec (r : VoterWeightRecord) (slot : UInt64)
    (hexp : r.voterWeightExpiry = some slot) (hact : r.weightAction = none)
    (htgt : r.weightActionTarget = none) : (VoterWeightRecord.codec.encode r).length = 131 := by
  simp only [VoterWeightRecord.codec, Codec.iso, Codec.prod, Codec.bytes, Codec.u64, Codec.option,
    hexp, hact, htgt, List.length_append, List.length_cons, List.length_nil,
    FixedBytes.length_bytes, length_leEncode]

theorem createVoterWeightRecord_eq_ok (env : Env) (ctx : Context CreateVoterWeightRecord)
    (governingTokenOwner : Pubkey) (ledger ledger' : Ledger) :
    createVoterWeightRecord env ctx governingTokenOwner ledger = .ok ledger' ↔
      ∃ registrar,
        CreateVoterWeightRecord.Accepts env ctx governingTokenOwner ledger registrar ∧
        ledger' = Function.update ledger ctx.accounts.voterWeightRecord
          ⟨programId, overwrite (VoterWeightRecord.codec.encode (newVoterWeightRecord env
            registrar.realm registrar.governingTokenMint governingTokenOwner))
            (List.replicate VoterWeightRecord.getSpace 0)⟩ := by
  simp only [createVoterWeightRecord, bind_eq_ok, requireSigner_eq_ok,
    requireProgram_systemProgramId, require_eq_ok, requireMut_eq_ok, initAccount_eq_ok,
    loadAccount_eq_ok, loadAccountUnchecked_eq_ok, exitAccount_eq_ok, exists_const]
  constructor
  · intro h
    rcases h with ⟨reg, ⟨hown, hload⟩, howner, hpayer, hsys, hrseeds, _, ⟨hpays, hvac, rfl⟩, r,
      ⟨_, hr⟩, hseeds, _, heq, _, rfl⟩
    -- Freshly allocated bytes load as the blank record.
    simp only [Function.update_self, tryDeserializeUnchecked_zero_voterWeightRecord,
      Except.ok.injEq] at hr
    subst hr
    refine ⟨reg, ⟨hown, hload, howner, hpayer, hsys, hrseeds, hpays, hvac, hseeds, heq⟩, ?_⟩
    simp only [Function.update_self, Function.update_idem, VoterWeightRecord.blank,
      newVoterWeightRecord, AccountSerialize.trySerialize]
  · intro h
    rcases h with ⟨reg, h, rfl⟩
    refine ⟨reg, ⟨h.registrar_owner, h.registrar_loads⟩, h.owner_signs, h.payer_signs, h.system,
      h.record_seeds, _, ⟨h.pays, h.vacant, rfl⟩, .blank, ⟨?_, ?_⟩, h.registrar_seeds, h.pays.2.1,
      h.owner_eq, ?_, ?_⟩
    · rw [Function.update_self]
      rfl
    · simp only [Function.update_self, tryDeserializeUnchecked_zero_voterWeightRecord]
    · simp only [Function.update_self, List.length_replicate, AccountSerialize.trySerialize]
      rw [length_voterWeightRecord_codec _ 0 rfl rfl rfl, VoterWeightRecord.getSpace]
      omega
    · simp only [Function.update_self, Function.update_idem, VoterWeightRecord.blank,
        newVoterWeightRecord, AccountSerialize.trySerialize]

/-! ### The identity account -/

/-- Byte offset of `last_verification_timestamp` in an identity account. -/
def identityLastVerificationOffset : Nat := 48

/-- Byte offset of `trust_score` in an identity account. -/
def identityTrustScoreOffset : Nat := 60

/-- The shortest data that reaches through `trust_score`. -/
def identityMinDataLen : Nat := 62

/-- The first eight bytes of the SHA-256 hash of `account:IdentityState`. -/
def identityDiscriminator : FixedBytes 8 := ⟨[156, 32, 87, 93, 52, 155, 248, 207], rfl⟩

/-- The little-endian signed value at bytes 48 to 56. -/
def lastVerificationTimestamp (data : List UInt8) : Int64 :=
  (UInt64.ofNat (leDecode ((data.drop identityLastVerificationOffset).take 8))).toInt64

/-- The little-endian value at bytes 60 to 62. -/
def trustScore (data : List UInt8) : UInt16 :=
  UInt16.ofNat (leDecode ((data.drop identityTrustScoreOffset).take 2))

/-! ### update_voter_weight_record -/

structure UpdateVoterWeightRecord where
  registrar : Pubkey
  voterWeightRecord : Pubkey
  voterAuthority : Pubkey

def updateVoterWeightRecord (env : Env) (clock : Clock) (ctx : Context UpdateVoterWeightRecord)
    (ledger : Ledger) : Except PluginError Ledger := do
  let acc := ctx.accounts
  let registrar ← loadAccount Registrar ledger acc.registrar
  let record ← loadAccount VoterWeightRecord ledger acc.voterWeightRecord
  requireSigner ctx acc.voterAuthority
  require (acc.registrar = env.address (.registrar registrar.realm registrar.governingTokenMint))
    (.anchor .constraintSeeds)
  requireMut ctx acc.voterWeightRecord
  require (record.realm = registrar.realm) (.custom .voterWeightRecordRealmMismatch)
  require (record.governingTokenMint = registrar.governingTokenMint)
    (.custom .voterWeightRecordMintMismatch)
  require (record.governingTokenOwner = acc.voterAuthority)
    (.custom .voterWeightRecordOwnerMismatch)
  let identity ← okOr ctx.remainingAccounts.head? (.custom .missingIdentityAccount)
  -- The first remaining account; further ones are not looked at.
  require ((ledger identity).owner = entrosAnchorProgramId) (.custom .invalidIdentityOwner)
  require (identity = env.identityAddress acc.voterAuthority) (.custom .invalidIdentityPda)
  let data := (ledger identity).data
  require (identityMinDataLen ≤ data.length) (.custom .invalidIdentityData)
  require (data.take 8 = identityDiscriminator.bytes) (.custom .invalidIdentityData)
  require (registrar.minTrustScore ≤ trustScore data) (.custom .insufficientTrustScore)
  -- A difference outside the 64-bit range counts as the largest age.
  let age := (checkedSub clock.unixTimestamp (lastVerificationTimestamp data)).getD Int64.maxValue
  require (age < registrar.maxVerificationAge) (.custom .verificationExpired)
  exitAccount acc.voterWeightRecord
    { record with
      voterWeight := 1
      voterWeightExpiry := some (saturatingAdd clock.slot 100)
      weightAction := none
      weightActionTarget := none } ledger

/-- The record that updating writes: one vote, for a hundred slots, for any
    action. -/
def VoterWeightRecord.activated (record : VoterWeightRecord) (slot : UInt64) :
    VoterWeightRecord :=
  { record with
    voterWeight := 1
    voterWeightExpiry := some (saturatingAdd slot 100)
    weightAction := none
    weightActionTarget := none }

/-- What updating and closing a record both ask for. -/
structure ControlsRecord (env : Env) (ledger : Ledger) (isSigner isWritable : Pubkey → Bool)
    (registrarKey recordKey voter : Pubkey) (registrar : Registrar)
    (record : VoterWeightRecord) : Prop where
  registrar_owner : (ledger registrarKey).owner = programId
  registrar_loads : AccountDeserialize.tryDeserialize (ledger registrarKey).data = .ok registrar
  record_owner : (ledger recordKey).owner = programId
  record_loads : AccountDeserialize.tryDeserialize (ledger recordKey).data = .ok record
  signs : isSigner voter = true
  seeds : registrarKey = env.address (.registrar registrar.realm registrar.governingTokenMint)
  writable : isWritable recordKey = true
  realm_eq : record.realm = registrar.realm
  mint_eq : record.governingTokenMint = registrar.governingTokenMint
  owner_eq : record.governingTokenOwner = voter

/-- What updating asks of the identity account apart from its age. -/
structure TrustedIdentity (env : Env) (registrar : Registrar) (ledger : Ledger)
    (voter : Pubkey) : Prop where
  owner : (ledger (env.identityAddress voter)).owner = entrosAnchorProgramId
  length : identityMinDataLen ≤ (ledger (env.identityAddress voter)).data.length
  discriminator :
    (ledger (env.identityAddress voter)).data.take 8 = identityDiscriminator.bytes
  trust : registrar.minTrustScore ≤ trustScore (ledger (env.identityAddress voter)).data

/-- What updating asks of the identity account, with the age in unbounded
    integers. The lower bound is where the 64-bit difference would underflow. -/
structure Eligible (env : Env) (clock : Clock) (registrar : Registrar) (ledger : Ledger)
    (voter : Pubkey) : Prop extends TrustedIdentity env registrar ledger voter where
  no_underflow : -2 ^ 63 ≤ clock.unixTimestamp.toInt -
    (lastVerificationTimestamp (ledger (env.identityAddress voter)).data).toInt
  recent : clock.unixTimestamp.toInt -
    (lastVerificationTimestamp (ledger (env.identityAddress voter)).data).toInt <
      registrar.maxVerificationAge.toInt

/-- A difference above the 64-bit range counts as the largest age and fails,
    as it should; one below the range does too. -/
theorem age_lt_iff (now last bound : Int64) :
    (checkedSub now last).getD Int64.maxValue < bound ↔
      -2 ^ 63 ≤ now.toInt - last.toInt ∧ now.toInt - last.toInt < bound.toInt := by
  have hb := int64_bounds bound
  have hmax : Int64.maxValue.toInt = 2 ^ 63 - 1 := by decide
  rcases hd : checkedSub now last with _ | d
  · -- Out of range on either side, the age is the maximum and no bound is above it.
    rcases (checkedSub_eq_none now last).mp hd with h | h
    · rw [Option.getD_none, Int64.lt_iff_toInt_lt, hmax]
      omega
    · rw [Option.getD_none, Int64.lt_iff_toInt_lt, hmax]
      omega
  · have hdiff := (checkedSub_eq_some now last d).mp hd
    have hdb := int64_bounds d
    rw [Option.getD_some, Int64.lt_iff_toInt_lt, hdiff]
    omega

theorem updateVoterWeightRecord_eq_ok (env : Env) (clock : Clock)
    (ctx : Context UpdateVoterWeightRecord) (ledger ledger' : Ledger) :
    updateVoterWeightRecord env clock ctx ledger = .ok ledger' ↔
      ∃ registrar record,
        ControlsRecord env ledger ctx.isSigner ctx.isWritable ctx.accounts.registrar
          ctx.accounts.voterWeightRecord ctx.accounts.voterAuthority registrar record ∧
        ctx.remainingAccounts.head? = some (env.identityAddress ctx.accounts.voterAuthority) ∧
        Eligible env clock registrar ledger ctx.accounts.voterAuthority ∧
        131 ≤ (ledger ctx.accounts.voterWeightRecord).data.length ∧
        ledger' = Function.update ledger ctx.accounts.voterWeightRecord
          ⟨programId, overwrite (VoterWeightRecord.codec.encode (record.activated clock.slot))
            (ledger ctx.accounts.voterWeightRecord).data⟩ := by
  simp only [updateVoterWeightRecord, bind_eq_ok, requireSigner_eq_ok, require_eq_ok,
    requireMut_eq_ok, loadAccount_eq_ok, okOr_eq_ok, exitAccount_eq_ok, age_lt_iff, exists_const,
    AccountSerialize.trySerialize]
  constructor
  · intro h
    rcases h with ⟨reg, ⟨hgown, hgload⟩, r, ⟨hrown, hrload⟩, hsign, hseeds, hmut, hrealm, hmint,
      howner, _, hhead, hiown, rfl, hlen, hdisc, htrust, ⟨hlow, hage⟩, hroom, rfl⟩
    rw [length_voterWeightRecord_codec _ _ rfl rfl rfl] at hroom
    refine ⟨reg, r, ⟨hgown, hgload, hrown, hrload, hsign, hseeds, hmut, hrealm, hmint, howner⟩,
      hhead, ⟨⟨hiown, hlen, hdisc, htrust⟩, hlow, hage⟩, hroom, ?_⟩
    rw [hrown, VoterWeightRecord.activated]
    rfl
  · intro h
    rcases h with ⟨reg, r, h, hhead, he, hroom, rfl⟩
    refine ⟨reg, ⟨h.registrar_owner, h.registrar_loads⟩, r, ⟨h.record_owner, h.record_loads⟩,
      h.signs, h.seeds, h.writable, h.realm_eq, h.mint_eq, h.owner_eq, _, hhead, he.owner, rfl,
      he.length, he.discriminator, he.trust, ⟨he.no_underflow, he.recent⟩, ?_, ?_⟩
    · rw [length_voterWeightRecord_codec _ _ rfl rfl rfl]
      exact hroom
    · rw [h.record_owner, VoterWeightRecord.activated]

/-! ### close_voter_weight_record -/

structure CloseVoterWeightRecord where
  registrar : Pubkey
  voterWeightRecord : Pubkey
  voterAuthority : Pubkey
  solDestination : Pubkey

def closeVoterWeightRecord (env : Env) (ctx : Context CloseVoterWeightRecord) (ledger : Ledger) :
    Except PluginError Ledger := do
  let acc := ctx.accounts
  let registrar ← loadAccount Registrar ledger acc.registrar
  let record ← loadAccount VoterWeightRecord ledger acc.voterWeightRecord
  requireSigner ctx acc.voterAuthority
  require (acc.registrar = env.address (.registrar registrar.realm registrar.governingTokenMint))
    (.anchor .constraintSeeds)
  requireMut ctx acc.voterWeightRecord
  require (record.realm = registrar.realm) (.custom .voterWeightRecordRealmMismatch)
  require (record.governingTokenMint = registrar.governingTokenMint)
    (.custom .voterWeightRecordMintMismatch)
  require (acc.voterWeightRecord ≠ acc.solDestination) (.anchor .constraintClose)
  requireMut ctx acc.solDestination
  require (record.governingTokenOwner = acc.voterAuthority)
    (.custom .voterWeightRecordOwnerMismatch)
  .ok (closeAccount acc.voterWeightRecord ledger)

theorem closeVoterWeightRecord_eq_ok (env : Env) (ctx : Context CloseVoterWeightRecord)
    (ledger ledger' : Ledger) :
    closeVoterWeightRecord env ctx ledger = .ok ledger' ↔
      ∃ registrar record,
        ControlsRecord env ledger ctx.isSigner ctx.isWritable ctx.accounts.registrar
          ctx.accounts.voterWeightRecord ctx.accounts.voterAuthority registrar record ∧
        ctx.accounts.voterWeightRecord ≠ ctx.accounts.solDestination ∧
        ctx.isWritable ctx.accounts.solDestination = true ∧
        ledger' = Function.update ledger ctx.accounts.voterWeightRecord .vacant := by
  simp only [closeVoterWeightRecord, bind_eq_ok, requireSigner_eq_ok, require_eq_ok,
    requireMut_eq_ok, loadAccount_eq_ok, exists_const, Except.ok.injEq, closeAccount]
  constructor
  · intro h
    rcases h with ⟨reg, ⟨hgown, hgload⟩, r, ⟨hrown, hrload⟩, hsign, hseeds, hmut, hrealm, hmint,
      hne, hdest, howner, rfl⟩
    exact ⟨reg, r, ⟨hgown, hgload, hrown, hrload, hsign, hseeds, hmut, hrealm, hmint, howner⟩, hne,
      hdest, rfl⟩
  · intro h
    rcases h with ⟨reg, r, h, hne, hdest, rfl⟩
    exact ⟨reg, ⟨h.registrar_owner, h.registrar_loads⟩, r, ⟨h.record_owner, h.record_loads⟩,
      h.signs, h.seeds, h.writable, h.realm_eq, h.mint_eq, hne, hdest, h.owner_eq, rfl⟩

end EntrosVoterWeight
