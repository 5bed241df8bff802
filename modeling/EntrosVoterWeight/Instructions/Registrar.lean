import EntrosVoterWeight.State

/-!
# Registrar Instructions

Creating, updating and closing the registrar of a realm and governing token
mint. All three are reserved to the realm's authority, which the program
reads out of the realm account through the governance package.

Each handler is followed by its acceptance condition, a structure with one
field per check, and by the lemma saying that the handler succeeds exactly
when the condition holds, and with which ledger.

## Main definitions

* `requireRealmAuthority`: The check shared by the five admin instructions.
* `createRegistrar`, `updateRegistrar`, `closeRegistrar`: The handlers.
* `CreateRegistrar.Accepts`, `UpdateRegistrar.Accepts`,
  `CloseRegistrar.Accepts`: When they succeed.

## Theorems

* `requireRealmAuthority_eq_ok`: What the shared check establishes.
* `createRegistrar_eq_ok`, `updateRegistrar_eq_ok`, `closeRegistrar_eq_ok`:
  Success of each handler, with the ledger it leaves.
-/

namespace EntrosVoterWeight

open Borsh Anchor

/-- The realm is a realm of the governance program, the mint is one of its
    governing token mints, and `key` is its authority. -/
def requireRealmAuthority (env : Env) (governanceProgramId : Pubkey) (realm : Account)
    (governingTokenMint key : Pubkey) : Except PluginError Unit := do
  let realmData ←
    okOr (env.getRealmDataForGoverningTokenMint governanceProgramId realm governingTokenMint)
      .external
  let realmAuthority ← okOr realmData.authority (.custom .realmHasNoAuthority)
  require (realmAuthority = key) (.custom .invalidRealmAuthority)

/-- `key` is the authority of the realm, as the governance package reads it. -/
def IsRealmAuthority (env : Env) (governanceProgramId : Pubkey) (realm : Account)
    (governingTokenMint key : Pubkey) : Prop :=
  ∃ realmData,
    env.getRealmDataForGoverningTokenMint governanceProgramId realm governingTokenMint
      = some realmData ∧
    realmData.authority = some key

theorem requireRealmAuthority_eq_ok (env : Env) (governanceProgramId : Pubkey) (realm : Account)
    (governingTokenMint key : Pubkey) (u : Unit) :
    requireRealmAuthority env governanceProgramId realm governingTokenMint key = .ok u ↔
      IsRealmAuthority env governanceProgramId realm governingTokenMint key := by
  simp only [requireRealmAuthority, IsRealmAuthority, bind_eq_ok, okOr_eq_ok, require_eq_ok,
    exists_eq_right]

/-! ### create_registrar -/

structure CreateRegistrar where
  registrar : Pubkey
  governanceProgramId : Pubkey
  realm : Pubkey
  governingTokenMint : Pubkey
  realmAuthority : Pubkey
  payer : Pubkey
  systemProgram : Pubkey

def createRegistrar (env : Env) (ctx : Context CreateRegistrar) (minTrustScore : UInt16)
    (maxVerificationAge : Int64) (ledger : Ledger) : Except PluginError Ledger := do
  let acc := ctx.accounts
  requireSigner ctx acc.realmAuthority
  requireSigner ctx acc.payer
  requireProgram env.toRuntime systemProgramId acc.systemProgram
  require (acc.registrar = env.address (.registrar acc.realm acc.governingTokenMint))
    (.anchor .constraintSeeds)
  let ledger ← initAccount ctx programId acc.registrar acc.payer Registrar.len ledger
  let registrar ← loadAccountUnchecked Registrar ledger acc.registrar
  require (env.executable acc.governanceProgramId = true) (.anchor .constraintExecutable)
  require ((ledger acc.realm).owner = acc.governanceProgramId) (.anchor .constraintOwner)
  requireMut ctx acc.payer
  -- A window of zero or less would lock every voter out.
  require (0 < maxVerificationAge) (.custom .invalidMaxVerificationAge)
  requireRealmAuthority env acc.governanceProgramId (ledger acc.realm) acc.governingTokenMint
    acc.realmAuthority
  exitAccount acc.registrar
    { registrar with
      governanceProgramId := acc.governanceProgramId
      realm := acc.realm
      governingTokenMint := acc.governingTokenMint
      minTrustScore := minTrustScore
      maxVerificationAge := maxVerificationAge } ledger

/-- The registrar that creation writes. -/
def newRegistrar (acc : CreateRegistrar) (minTrustScore : UInt16) (maxVerificationAge : Int64) :
    Registrar where
  governanceProgramId := acc.governanceProgramId
  realm := acc.realm
  governingTokenMint := acc.governingTokenMint
  minTrustScore := minTrustScore
  maxVerificationAge := maxVerificationAge
  reserved := FixedBytes.zero 64

structure CreateRegistrar.Accepts (env : Env) (ctx : Context CreateRegistrar)
    (maxVerificationAge : Int64) (ledger : Ledger) : Prop where
  authority_signs : ctx.isSigner ctx.accounts.realmAuthority = true
  payer_signs : ctx.isSigner ctx.accounts.payer = true
  system : ctx.accounts.systemProgram = systemProgramId
  seeds : ctx.accounts.registrar =
    env.address (.registrar ctx.accounts.realm ctx.accounts.governingTokenMint)
  pays : ctx.accounts.payer ≠ ctx.accounts.registrar ∧
    ctx.isWritable ctx.accounts.payer = true ∧ ctx.isWritable ctx.accounts.registrar = true
  vacant : ledger ctx.accounts.registrar = .vacant
  executable : env.executable ctx.accounts.governanceProgramId = true
  -- The realm is read after the registrar was allocated.
  realm_owner : (Function.update ledger ctx.accounts.registrar
    ⟨programId, List.replicate Registrar.len 0⟩ ctx.accounts.realm).owner =
      ctx.accounts.governanceProgramId
  age_pos : 0 < maxVerificationAge
  authority : IsRealmAuthority env ctx.accounts.governanceProgramId
    (Function.update ledger ctx.accounts.registrar
      ⟨programId, List.replicate Registrar.len 0⟩ ctx.accounts.realm)
    ctx.accounts.governingTokenMint ctx.accounts.realmAuthority

theorem length_registrar_codec (r : Registrar) : (Registrar.codec.encode r).length = 170 := by
  simp only [Registrar.codec, Codec.iso, Codec.prod, Codec.bytes, Codec.u16, Codec.i64, Codec.u64,
    List.length_append, FixedBytes.length_bytes, length_leEncode]

theorem length_trySerialize_registrar (r : Registrar) :
    (AccountSerialize.trySerialize r).length = Registrar.len := by
  simp only [AccountSerialize.trySerialize, List.length_append, FixedBytes.length_bytes,
    length_registrar_codec, Registrar.len]

/-- What freshly allocated bytes read as. -/
def Registrar.blank : Registrar :=
  ⟨FixedBytes.zero 32, FixedBytes.zero 32, FixedBytes.zero 32, 0, 0, FixedBytes.zero 64⟩

theorem tryDeserializeUnchecked_zero_registrar :
    AccountDeserialize.tryDeserializeUnchecked (List.replicate Registrar.len (0 : UInt8)) =
      .ok Registrar.blank := by
  decide +kernel

theorem overwrite_zeros (bs : List UInt8) (n : Nat) (h : bs.length = n) :
    overwrite bs (List.replicate n 0) = bs := by
  rw [overwrite, List.drop_replicate, h, Nat.sub_self, List.replicate_zero, List.append_nil]

theorem createRegistrar_eq_ok (env : Env) (ctx : Context CreateRegistrar) (minTrustScore : UInt16)
    (maxVerificationAge : Int64) (ledger ledger' : Ledger) :
    createRegistrar env ctx minTrustScore maxVerificationAge ledger = .ok ledger' ↔
      CreateRegistrar.Accepts env ctx maxVerificationAge ledger ∧
      ledger' = Function.update ledger ctx.accounts.registrar
        ⟨programId, AccountSerialize.trySerialize
          (newRegistrar ctx.accounts minTrustScore maxVerificationAge)⟩ := by
  simp only [createRegistrar, bind_eq_ok, requireSigner_eq_ok, requireProgram_systemProgramId,
    require_eq_ok, requireMut_eq_ok, initAccount_eq_ok, loadAccountUnchecked_eq_ok,
    requireRealmAuthority_eq_ok, exitAccount_eq_ok, exists_const]
  constructor
  · intro h
    rcases h with ⟨hauth, hpayer, hsys, hseeds, _, ⟨hpays, hvac, rfl⟩, r, ⟨_, hr⟩, hexec, hown, _,
      hage, hreal, _, rfl⟩
    -- Freshly allocated bytes load as the blank registrar.
    simp only [Function.update_self, tryDeserializeUnchecked_zero_registrar, Except.ok.injEq] at hr
    subst hr
    refine ⟨⟨hauth, hpayer, hsys, hseeds, hpays, hvac, hexec, hown, hage, hreal⟩, ?_⟩
    -- The encoding fills the account, so none of the zeros is left.
    simp only [Function.update_self, Function.update_idem,
      overwrite_zeros _ _ (length_trySerialize_registrar _), newRegistrar,
      Registrar.blank]
  · intro h
    rcases h with ⟨⟨hauth, hpayer, hsys, hseeds, hpays, hvac, hexec, hown, hage, hreal⟩, rfl⟩
    refine ⟨hauth, hpayer, hsys, hseeds, _, ⟨hpays, hvac, rfl⟩, .blank, ⟨?_, ?_⟩, hexec, hown,
      hpays.2.1, hage, hreal, ?_, ?_⟩
    · rw [Function.update_self]
      rfl
    · simp only [Function.update_self, tryDeserializeUnchecked_zero_registrar]
    · simp only [Function.update_self, List.length_replicate, length_trySerialize_registrar,
        le_refl]
    · simp only [Function.update_self, Function.update_idem,
        overwrite_zeros _ _ (length_trySerialize_registrar _), newRegistrar, Registrar.blank]

/-! ### update_registrar -/

structure UpdateRegistrar where
  registrar : Pubkey
  realm : Pubkey
  realmAuthority : Pubkey

def updateRegistrar (env : Env) (ctx : Context UpdateRegistrar) (minTrustScore : UInt16)
    (maxVerificationAge : Int64) (ledger : Ledger) : Except PluginError Ledger := do
  let acc := ctx.accounts
  let registrar ← loadAccount Registrar ledger acc.registrar
  requireSigner ctx acc.realmAuthority
  require (acc.registrar = env.address (.registrar registrar.realm registrar.governingTokenMint))
    (.anchor .constraintSeeds)
  requireMut ctx acc.registrar
  require (acc.realm = registrar.realm) (.anchor .constraintRaw)
  require (0 < maxVerificationAge) (.custom .invalidMaxVerificationAge)
  requireRealmAuthority env registrar.governanceProgramId (ledger acc.realm)
    registrar.governingTokenMint acc.realmAuthority
  exitAccount acc.registrar
    { registrar with
      minTrustScore := minTrustScore
      maxVerificationAge := maxVerificationAge } ledger

/-- What updating and closing a registrar both ask for. -/
structure AdministersRegistrar (env : Env) (ledger : Ledger) (isSigner isWritable : Pubkey → Bool)
    (key realm realmAuthority : Pubkey) (registrar : Registrar) : Prop where
  owner : (ledger key).owner = programId
  loads : AccountDeserialize.tryDeserialize (ledger key).data = .ok registrar
  signs : isSigner realmAuthority = true
  seeds : key = env.address (.registrar registrar.realm registrar.governingTokenMint)
  writable : isWritable key = true
  realm_eq : realm = registrar.realm
  authority : IsRealmAuthority env registrar.governanceProgramId (ledger realm)
    registrar.governingTokenMint realmAuthority

theorem updateRegistrar_eq_ok (env : Env) (ctx : Context UpdateRegistrar) (minTrustScore : UInt16)
    (maxVerificationAge : Int64) (ledger ledger' : Ledger) :
    updateRegistrar env ctx minTrustScore maxVerificationAge ledger = .ok ledger' ↔
      ∃ registrar,
        AdministersRegistrar env ledger ctx.isSigner ctx.isWritable ctx.accounts.registrar
          ctx.accounts.realm ctx.accounts.realmAuthority registrar ∧
        0 < maxVerificationAge ∧
        Registrar.len ≤ (ledger ctx.accounts.registrar).data.length ∧
        ledger' = Function.update ledger ctx.accounts.registrar
          ⟨programId, overwrite (AccountSerialize.trySerialize
            { registrar with
              minTrustScore := minTrustScore
              maxVerificationAge := maxVerificationAge })
            (ledger ctx.accounts.registrar).data⟩ := by
  simp only [updateRegistrar, bind_eq_ok, requireSigner_eq_ok, require_eq_ok, requireMut_eq_ok,
    loadAccount_eq_ok, requireRealmAuthority_eq_ok, exitAccount_eq_ok,
    length_trySerialize_registrar, exists_const]
  constructor
  · intro h
    rcases h with ⟨r, ⟨hown, hload⟩, hsign, hseeds, hmut, hrealm, hage, hauth, hroom, rfl⟩
    rw [hown]
    exact ⟨r, ⟨hown, hload, hsign, hseeds, hmut, hrealm, hauth⟩, hage, hroom, rfl⟩
  · intro h
    rcases h with ⟨r, h, hage, hroom, rfl⟩
    refine ⟨r, ⟨h.owner, h.loads⟩, h.signs, h.seeds, h.writable, h.realm_eq, hage, h.authority,
      hroom, ?_⟩
    rw [h.owner]

/-! ### close_registrar -/

structure CloseRegistrar where
  registrar : Pubkey
  realm : Pubkey
  realmAuthority : Pubkey
  solDestination : Pubkey

def closeRegistrar (env : Env) (ctx : Context CloseRegistrar) (ledger : Ledger) :
    Except PluginError Ledger := do
  let acc := ctx.accounts
  let registrar ← loadAccount Registrar ledger acc.registrar
  requireSigner ctx acc.realmAuthority
  require (acc.registrar = env.address (.registrar registrar.realm registrar.governingTokenMint))
    (.anchor .constraintSeeds)
  requireMut ctx acc.registrar
  require (acc.registrar ≠ acc.solDestination) (.anchor .constraintClose)
  require (acc.realm = registrar.realm) (.anchor .constraintRaw)
  requireMut ctx acc.solDestination
  requireRealmAuthority env registrar.governanceProgramId (ledger acc.realm)
    registrar.governingTokenMint acc.realmAuthority
  .ok (closeAccount acc.registrar ledger)

theorem closeRegistrar_eq_ok (env : Env) (ctx : Context CloseRegistrar) (ledger ledger' : Ledger) :
    closeRegistrar env ctx ledger = .ok ledger' ↔
      ∃ registrar,
        AdministersRegistrar env ledger ctx.isSigner ctx.isWritable ctx.accounts.registrar
          ctx.accounts.realm ctx.accounts.realmAuthority registrar ∧
        ctx.accounts.registrar ≠ ctx.accounts.solDestination ∧
        ctx.isWritable ctx.accounts.solDestination = true ∧
        ledger' = Function.update ledger ctx.accounts.registrar .vacant := by
  simp only [closeRegistrar, bind_eq_ok, requireSigner_eq_ok, require_eq_ok, requireMut_eq_ok,
    loadAccount_eq_ok, requireRealmAuthority_eq_ok, exists_const, Except.ok.injEq, closeAccount]
  constructor
  · intro h
    rcases h with ⟨r, ⟨hown, hload⟩, hsign, hseeds, hmut, hne, hrealm, hdest, hauth, rfl⟩
    exact ⟨r, ⟨hown, hload, hsign, hseeds, hmut, hrealm, hauth⟩, hne, hdest, rfl⟩
  · intro h
    rcases h with ⟨r, h, hne, hdest, rfl⟩
    exact ⟨r, ⟨h.owner, h.loads⟩, h.signs, h.seeds, h.writable, hne, h.realm_eq, hdest,
      h.authority, rfl⟩

end EntrosVoterWeight
