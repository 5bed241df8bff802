import EntrosVoterWeight.Theory.Quorum
import EntrosVoterWeight.Wire.Answers

/-!
# What an Authority Asks For

The administration of a body through the client, and the program's answers,
errors included. As with voters' requests, an account of the program that is
not there is one answer.

Whoever runs a realm asks the client for one of five things: to establish a
body with a policy, to revise the policy, to dissolve the body, to announce a
total for its quorum, or to set it. As with voters, the answer is computed from
the register, and here from one thing more, the realm account: whether it is a
realm of the governance program that governs this mint, whether it has an
authority, and whether that is the key that signs.

So the register permits a move and the realm knows the authority, or the
client is told which of the two it was. No mandate fails for a reason that is
not its own, and none succeeds without the realm.

Each mandate has one lemma, which takes it from the handler to the answer. What
they share is the registrar of a body that has a policy, `InForce`.

What is assumed of the addresses is what is assumed of a voter's, for the
registrar and for the max voter weight record.

## Main definitions

* `Mandate`: What an authority asks for.
* `Mandate.move`: The move it stands for.
* `governanceOf`: The governance program of a body.
* `Mandate.answer`: The answer to a mandate.
* `InForce`: The registrar of a mandate's body.

## Theorems

* `outcome_createRegistrar`, `outcome_updateRegistrar`,
  `outcome_closeRegistrar`, `outcome_createMaxVoterWeightRecord`,
  `outcome_updateMaxVoterWeightRecord`: The handlers, once all but a few checks
  have passed.
* `told_establish`, `told_revise`, `told_dissolve`, `told_announce`,
  `told_measure`: The mandates.
* `told_mandate`: A mandate is answered by the register and the realm.
* `mandate_moves`: A mandate that succeeds is its move.
* `mandate_answered`: Both, of what the client sends.
-/

namespace EntrosVoterWeight

open Borsh Anchor Transition

/-- What an authority asks for, with who pays or gets the rent back. -/
inductive Mandate
  | establish (d : Dao) (authority payer : Pubkey) (minTrustScore maxVerificationAge : Int)
  | revise (d : Dao) (authority : Pubkey) (minTrustScore maxVerificationAge : Int)
  | dissolve (d : Dao) (authority solDestination : Pubkey)
  | announce (d : Dao) (authority payer : Pubkey)
  | measure (d : Dao) (authority : Pubkey) (maxVoterWeight : Int)

def Mandate.dao : Mandate → Dao
  | .establish d _ _ _ _ => d
  | .revise d _ _ _ => d
  | .dissolve d _ _ => d
  | .announce d _ _ => d
  | .measure d _ _ => d

def Mandate.authority : Mandate → Pubkey
  | .establish _ authority _ _ _ => authority
  | .revise _ authority _ _ => authority
  | .dissolve _ authority _ => authority
  | .announce _ authority _ => authority
  | .measure _ authority _ => authority

/-- Who pays, or is paid. -/
def Mandate.funds : Mandate → Option Pubkey
  | .establish _ _ payer _ _ => some payer
  | .revise _ _ _ _ => none
  | .dissolve _ _ solDestination => some solDestination
  | .announce _ _ payer => some payer
  | .measure _ _ _ => none

/-- Who pays. -/
def Mandate.payer : Mandate → Option Pubkey
  | .establish _ _ payer _ _ => some payer
  | .announce _ _ payer => some payer
  | _ => none

/-- The registrar a client derives for a mandate. -/
def Mandate.registrar (env : Env) (m : Mandate) : Pubkey :=
  env.address (.registrar m.dao.1 m.dao.2)

/-- The max voter weight record a client derives for a mandate. -/
def Mandate.maxRecord (env : Env) (m : Mandate) : Pubkey :=
  env.address (.maxVoterWeightRecord m.dao.1 m.dao.2)

/-- The account a mandate is about. -/
def Mandate.target (env : Env) (m : Mandate) : Pubkey :=
  match m with
  | .establish _ _ _ _ _ => m.registrar env
  | .revise _ _ _ _ => m.registrar env
  | .dissolve _ _ _ => m.registrar env
  | .announce _ _ _ => m.maxRecord env
  | .measure _ _ _ => m.maxRecord env

/-- The helper that is called for a mandate. -/
def Mandate.call (env : Env) (m : Mandate) : Call :=
  match m with
  | .establish d authority payer minTrustScore maxVerificationAge =>
    .createRegistrar d.1 d.2 authority payer minTrustScore maxVerificationAge
  | .revise d authority minTrustScore maxVerificationAge =>
    .updateRegistrar (m.registrar env) d.1 authority minTrustScore maxVerificationAge
  | .dissolve d authority solDestination =>
    .closeRegistrar (m.registrar env) d.1 authority solDestination
  | .announce d authority payer =>
    .createMaxVoterWeightRecord (m.registrar env) d.1 d.2 authority payer
  | .measure d authority maxVoterWeight =>
    .updateMaxVoterWeightRecord (m.registrar env) (m.maxRecord env) d.1 authority maxVoterWeight

/-- The move a mandate stands for. -/
def Mandate.move : Mandate → Registry.Event Dao Pubkey
  | .establish d _ _ minTrustScore maxVerificationAge =>
    .establish d ⟨minTrustScore.toNat, maxVerificationAge⟩
  | .revise d _ minTrustScore maxVerificationAge =>
    .revise d ⟨minTrustScore.toNat, maxVerificationAge⟩
  | .dissolve d _ _ => .dissolve d
  | .announce d _ _ => .announce d
  | .measure d _ maxVoterWeight => .measure d maxVoterWeight.toNat

/-- The governance program of a body: the one its registrar names, and before
    there is a registrar the client's. -/
def governanceOf (env : Env) (ledger : Ledger) (d : Dao) : Pubkey :=
  ((registrarAt ledger (env.address (.registrar d.1 d.2))).map
    Registrar.governanceProgramId).getD governanceProgramId

/-- Whether the realm knows the authority, and if not, why. -/
def Mandate.authorized (env : Env) (ledger : Ledger) (m : Mandate) : Except PluginError Unit :=
  requireRealmAuthority env (governanceOf env ledger m.dao) (ledger m.dao.1) m.dao.2 m.authority

/-- Something that has to be there. -/
def present {α : Type} : Option α → Except Refusal Unit
  | some _ => .ok ()
  | none => .error .missing

/-- The answer to a mandate. -/
def Mandate.answer (env : Env) (ledger : Ledger) (state : Registry.State Dao Pubkey)
    (m : Mandate) : Except Refusal Unit :=
  match m with
  | .establish _ _ _ _ maxVerificationAge =>
    told do
      require (state.policy m.dao = none) .accountAlreadyInUse
      require (env.executable governanceProgramId = true) (.anchor .constraintExecutable)
      require ((ledger m.dao.1).owner = governanceProgramId) (.anchor .constraintOwner)
      require (0 < maxVerificationAge) (.custom .invalidMaxVerificationAge)
      m.authorized env ledger
  | .revise _ _ _ maxVerificationAge => do
    present (state.policy m.dao)
    told do
      require (0 < maxVerificationAge) (.custom .invalidMaxVerificationAge)
      m.authorized env ledger
  | .dissolve _ _ _ => do
    present (state.policy m.dao)
    told (m.authorized env ledger)
  | .announce _ _ _ => do
    present (state.policy m.dao)
    told do
      require (state.quorum m.dao = none) .accountAlreadyInUse
      m.authorized env ledger
  | .measure _ _ maxVoterWeight => do
    present (state.policy m.dao)
    present (state.quorum m.dao)
    told do
      require (0 < maxVoterWeight) (.custom .invalidMaxVoterWeight)
      m.authorized env ledger

/-- The addresses of a mandate are its own, and nothing pays for itself. -/
structure Mandate.Clear (env : Env) (m : Mandate) : Prop where
  registrar_free : CollisionFreeAt env (.registrar m.dao.1 m.dao.2)
  record_free : CollisionFreeAt env (.maxVoterWeightRecord m.dao.1 m.dao.2)
  funds_ne : ∀ key, m.funds = some key → key ≠ m.target env

/-! ### The handlers past their other checks -/

/-- Zeros are nobody's realm. -/
theorem authority_of_zeros (env : Env) (hspec : GovernanceSpec env) (governance mint key : Pubkey)
    (owner : Pubkey) (n : Nat) :
    requireRealmAuthority env governance ⟨owner, List.replicate n 0⟩ mint key =
      .error .external := by
  have hnone : env.getRealmDataForGoverningTokenMint governance ⟨owner, List.replicate n 0⟩ mint =
      none := by
    rcases hget : env.getRealmDataForGoverningTokenMint governance ⟨owner, List.replicate n 0⟩ mint
      with _ | realm
    · rfl
    · have hdata := hspec.data _ _ _ _ hget
      rw [hspec.zeros] at hdata
      exact absurd hdata (by simp only [reduceCtorEq, not_false_eq_true])
  rw [requireRealmAuthority, hnone]
  rfl

/-- A realm is judged the same after an account was allocated. -/
theorem authority_allocated (env : Env) (hspec : GovernanceSpec env) (ledger : Ledger)
    (new realm governance mint key : Pubkey) (space : Nat) (hvacant : ledger new = .vacant) :
    requireRealmAuthority env governance
        (Function.update ledger new ⟨programId, List.replicate space 0⟩ realm) mint key =
      requireRealmAuthority env governance (ledger realm) mint key := by
  by_cases heq : realm = new
  · subst heq
    have hempty := authority_of_zeros env hspec governance mint key systemProgramId 0
    rw [Function.update_self, hvacant, authority_of_zeros env hspec]
    exact hempty.symm
  · rw [Function.update_of_ne heq]

section
variable (env : Env) (ledger : Ledger) (registrar : Registrar)

theorem outcome_updateRegistrar (ctx : Context UpdateRegistrar) (minTrustScore : UInt16)
    (maxVerificationAge : Int64)
    (hload : (loadAccount Registrar ledger ctx.accounts.registrar : Except PluginError Registrar) =
      .ok registrar)
    (hsigns : ctx.isSigner ctx.accounts.realmAuthority = true)
    (hseeds : ctx.accounts.registrar =
      env.address (.registrar registrar.realm registrar.governingTokenMint))
    (hwritable : ctx.isWritable ctx.accounts.registrar = true)
    (hrealm : ctx.accounts.realm = registrar.realm)
    (hroom : Registrar.len ≤ (ledger ctx.accounts.registrar).data.length) :
    outcome (updateRegistrar env ctx minTrustScore maxVerificationAge ledger) =
      (require (0 < maxVerificationAge) (.custom .invalidMaxVerificationAge) >>= fun _ =>
        requireRealmAuthority env registrar.governanceProgramId (ledger ctx.accounts.realm)
          registrar.governingTokenMint ctx.accounts.realmAuthority) := by
  have hexit : outcome (exitAccount ctx.accounts.registrar
      { registrar with minTrustScore := minTrustScore, maxVerificationAge := maxVerificationAge }
      ledger) = .ok () := by
    refine outcome_exit _ _ ledger ?_
    rw [length_trySerialize_registrar]
    exact hroom
  simp only [updateRegistrar]
  rw [bind_of_ok _ hload, bind_of_ok _ ((requireSigner_eq_ok ctx _ ()).mpr hsigns),
    bind_of_ok _ ((require_eq_ok _ _ ()).mpr hseeds),
    bind_of_ok _ ((requireMut_eq_ok ctx _ ()).mpr hwritable),
    bind_of_ok _ ((require_eq_ok _ _ ()).mpr hrealm)]
  simp only [outcome_bind, hexit, bind_done]

theorem outcome_closeRegistrar (ctx : Context CloseRegistrar)
    (hload : (loadAccount Registrar ledger ctx.accounts.registrar : Except PluginError Registrar) =
      .ok registrar)
    (hsigns : ctx.isSigner ctx.accounts.realmAuthority = true)
    (hseeds : ctx.accounts.registrar =
      env.address (.registrar registrar.realm registrar.governingTokenMint))
    (hwritable : ctx.isWritable ctx.accounts.registrar = true)
    (hne : ctx.accounts.registrar ≠ ctx.accounts.solDestination)
    (hrealm : ctx.accounts.realm = registrar.realm)
    (hpaid : ctx.isWritable ctx.accounts.solDestination = true) :
    outcome (closeRegistrar env ctx ledger) =
      requireRealmAuthority env registrar.governanceProgramId (ledger ctx.accounts.realm)
        registrar.governingTokenMint ctx.accounts.realmAuthority := by
  simp only [closeRegistrar]
  rw [bind_of_ok _ hload, bind_of_ok _ ((requireSigner_eq_ok ctx _ ()).mpr hsigns),
    bind_of_ok _ ((require_eq_ok _ _ ()).mpr hseeds),
    bind_of_ok _ ((requireMut_eq_ok ctx _ ()).mpr hwritable),
    bind_of_ok _ ((require_eq_ok _ _ ()).mpr hne),
    bind_of_ok _ ((require_eq_ok _ _ ()).mpr hrealm),
    bind_of_ok _ ((requireMut_eq_ok ctx _ ()).mpr hpaid), outcome_bind]
  exact bind_done _

theorem outcome_updateMaxVoterWeightRecord (ctx : Context UpdateMaxVoterWeightRecord)
    (maxVoterWeight : UInt64) (record : MaxVoterWeightRecord)
    (hload : (loadAccount Registrar ledger ctx.accounts.registrar : Except PluginError Registrar) =
      .ok registrar)
    (hrecord : (loadAccount MaxVoterWeightRecord ledger ctx.accounts.maxVoterWeightRecord :
      Except PluginError MaxVoterWeightRecord) = .ok record)
    (hsigns : ctx.isSigner ctx.accounts.realmAuthority = true)
    (hseeds : ctx.accounts.registrar =
      env.address (.registrar registrar.realm registrar.governingTokenMint))
    (hwritable : ctx.isWritable ctx.accounts.maxVoterWeightRecord = true)
    (hrealm : record.realm = registrar.realm)
    (hmint : record.governingTokenMint = registrar.governingTokenMint)
    (hgiven : ctx.accounts.realm = registrar.realm)
    (hroom : 89 ≤ (ledger ctx.accounts.maxVoterWeightRecord).data.length) :
    outcome (updateMaxVoterWeightRecord env ctx maxVoterWeight ledger) =
      (require (0 < maxVoterWeight) (.custom .invalidMaxVoterWeight) >>= fun _ =>
        requireRealmAuthority env registrar.governanceProgramId (ledger ctx.accounts.realm)
          registrar.governingTokenMint ctx.accounts.realmAuthority) := by
  have hexit : outcome (exitAccount ctx.accounts.maxVoterWeightRecord
      (record.withWeight maxVoterWeight) ledger) = .ok () := by
    refine outcome_exit _ _ ledger ?_
    exact (length_maxVoterWeightRecord_codec (record.withWeight maxVoterWeight)).le.trans hroom
  simp only [updateMaxVoterWeightRecord]
  rw [bind_of_ok _ hload, bind_of_ok _ hrecord,
    bind_of_ok _ ((requireSigner_eq_ok ctx _ ()).mpr hsigns),
    bind_of_ok _ ((require_eq_ok _ _ ()).mpr hseeds),
    bind_of_ok _ ((requireMut_eq_ok ctx _ ()).mpr hwritable),
    bind_of_ok _ ((require_eq_ok _ _ ()).mpr hrealm),
    bind_of_ok _ ((require_eq_ok _ _ ()).mpr hmint),
    bind_of_ok _ ((require_eq_ok _ _ ()).mpr hgiven)]
  simp only [MaxVoterWeightRecord.withWeight] at hexit
  simp only [outcome_bind, hexit, bind_done]

end

/-- The owner of a realm is judged the same after an account was allocated. -/
theorem owner_allocated (ledger : Ledger) (new realm : Pubkey) (space : Nat)
    (hvacant : ledger new = .vacant) :
    (Function.update ledger new ⟨programId, List.replicate space 0⟩ realm).owner =
        governanceProgramId ↔
      (ledger realm).owner = governanceProgramId := by
  by_cases heq : realm = new
  · -- Neither owner is the governance program.
    have hown : programId ≠ governanceProgramId := by decide
    have hempty : systemProgramId ≠ governanceProgramId := by decide
    subst heq
    rw [Function.update_self, hvacant]
    exact ⟨fun habs => absurd habs hown, fun habs => absurd habs hempty⟩
  · rw [Function.update_of_ne heq]

/-- What was just allocated loads as the blank value. -/
theorem load_allocated (α : Type) [Owner α] [AccountDeserialize α] (ledger : Ledger)
    (key : Pubkey) (space : Nat) (blank : α) (howner : Owner.owner α = programId)
    (hblank : AccountDeserialize.tryDeserializeUnchecked (List.replicate space 0) = .ok blank) :
    (loadAccountUnchecked α (Function.update ledger key ⟨programId, List.replicate space 0⟩) key :
      Except PluginError α) = .ok blank := by
  rw [loadAccountUnchecked_eq_ok, Function.update_self]
  exact ⟨howner.symm, hblank⟩

/-- What was just allocated has room for its kind. -/
theorem exit_allocated {α : Type} [AccountSerialize α] (ledger : Ledger) (key : Pubkey)
    (space : Nat) (x : α) (hlen : (AccountSerialize.trySerialize x).length ≤ space) :
    outcome (exitAccount key x
      (Function.update ledger key ⟨programId, List.replicate space 0⟩)) = .ok () := by
  refine outcome_exit _ _ _ ?_
  rw [Function.update_self, List.length_replicate]
  exact hlen

section
variable (env : Env) (hspec : GovernanceSpec env) (ledger : Ledger)

include hspec in
theorem outcome_createRegistrar (ctx : Context CreateRegistrar) (minTrustScore : UInt16)
    (maxVerificationAge : Int64) (hgov : ctx.accounts.governanceProgramId = governanceProgramId)
    (hsigns : ctx.isSigner ctx.accounts.realmAuthority = true)
    (hpays : ctx.isSigner ctx.accounts.payer = true)
    (hsystem : ctx.accounts.systemProgram = systemProgramId)
    (hseeds : ctx.accounts.registrar =
      env.address (.registrar ctx.accounts.realm ctx.accounts.governingTokenMint))
    (hne : ctx.accounts.payer ≠ ctx.accounts.registrar)
    (hwritable : ctx.isWritable ctx.accounts.payer = true ∧
      ctx.isWritable ctx.accounts.registrar = true) :
    outcome (createRegistrar env ctx minTrustScore maxVerificationAge ledger) =
      if ledger ctx.accounts.registrar = .vacant then
        require (env.executable governanceProgramId = true) (.anchor .constraintExecutable) >>=
          fun _ => require ((ledger ctx.accounts.realm).owner = governanceProgramId)
            (.anchor .constraintOwner) >>=
          fun _ => require (0 < maxVerificationAge) (.custom .invalidMaxVerificationAge) >>=
          fun _ => requireRealmAuthority env governanceProgramId (ledger ctx.accounts.realm)
            ctx.accounts.governingTokenMint ctx.accounts.realmAuthority
      else .error .accountAlreadyInUse := by
  simp only [createRegistrar]
  rw [bind_of_ok _ ((requireSigner_eq_ok ctx _ ()).mpr hsigns),
    bind_of_ok _ ((requireSigner_eq_ok ctx _ ()).mpr hpays),
    bind_of_ok _ ((requireProgram_systemProgramId _ _ ()).mpr hsystem),
    bind_of_ok _ ((require_eq_ok _ _ ()).mpr hseeds)]
  by_cases hvacant : ledger ctx.accounts.registrar = .vacant
  · have hload := load_allocated Registrar ledger ctx.accounts.registrar Registrar.len
      Registrar.blank rfl tryDeserializeUnchecked_zero_registrar
    have hexit : ∀ registrar : Registrar, outcome (exitAccount ctx.accounts.registrar registrar
        (Function.update ledger ctx.accounts.registrar
          ⟨programId, List.replicate Registrar.len 0⟩)) = .ok () :=
      fun registrar => exit_allocated ledger _ _ registrar (length_trySerialize_registrar _).le
    -- Past the allocation, only the realm can still be refused.
    rw [if_pos hvacant, bind_of_ok _ ((initAccount_eq_ok ..).mpr
      ⟨⟨hne, hwritable.1, hwritable.2⟩, hvacant, rfl⟩), bind_of_ok _ hload]
    simp only [hgov, outcome_bind, hexit, bind_done,
      authority_allocated env hspec ledger _ _ _ _ _ _ hvacant,
      require_congr _ _ _ (owner_allocated ledger _ ctx.accounts.realm Registrar.len hvacant),
      (requireMut_eq_ok ctx _ ()).mpr hwritable.1]
    rfl
  · rw [if_neg hvacant, bind_of_error _ (init_in_use ctx _ _ _ ledger hne hwritable hvacant)]
    rfl

include hspec in
theorem outcome_createMaxVoterWeightRecord (ctx : Context CreateMaxVoterWeightRecord)
    (registrar : Registrar)
    (hload : (loadAccount Registrar ledger ctx.accounts.registrar : Except PluginError Registrar) =
      .ok registrar)
    (hsigns : ctx.isSigner ctx.accounts.realmAuthority = true)
    (hpays : ctx.isSigner ctx.accounts.payer = true)
    (hsystem : ctx.accounts.systemProgram = systemProgramId)
    (hrecord : ctx.accounts.maxVoterWeightRecord =
      env.address (.maxVoterWeightRecord registrar.realm registrar.governingTokenMint))
    (hne : ctx.accounts.payer ≠ ctx.accounts.maxVoterWeightRecord)
    (hwritable : ctx.isWritable ctx.accounts.payer = true ∧
      ctx.isWritable ctx.accounts.maxVoterWeightRecord = true)
    (hseeds : ctx.accounts.registrar =
      env.address (.registrar registrar.realm registrar.governingTokenMint))
    (hgiven : ctx.accounts.realm = registrar.realm) :
    outcome (createMaxVoterWeightRecord env ctx ledger) =
      if ledger ctx.accounts.maxVoterWeightRecord = .vacant then
        requireRealmAuthority env registrar.governanceProgramId (ledger ctx.accounts.realm)
          registrar.governingTokenMint ctx.accounts.realmAuthority
      else .error .accountAlreadyInUse := by
  simp only [createMaxVoterWeightRecord]
  rw [bind_of_ok _ hload, bind_of_ok _ ((requireSigner_eq_ok ctx _ ()).mpr hsigns),
    bind_of_ok _ ((requireSigner_eq_ok ctx _ ()).mpr hpays),
    bind_of_ok _ ((requireProgram_systemProgramId _ _ ()).mpr hsystem),
    bind_of_ok _ ((require_eq_ok _ _ ()).mpr hrecord)]
  by_cases hvacant : ledger ctx.accounts.maxVoterWeightRecord = .vacant
  · have hblank := load_allocated MaxVoterWeightRecord ledger ctx.accounts.maxVoterWeightRecord
      MaxVoterWeightRecord.getSpace .blank rfl tryDeserializeUnchecked_zero_maxVoterWeightRecord
    -- The blank record has room for the new one.
    have hexit : outcome (exitAccount ctx.accounts.maxVoterWeightRecord
        (newMaxVoterWeightRecord env registrar.realm registrar.governingTokenMint)
        (Function.update ledger ctx.accounts.maxVoterWeightRecord
          ⟨programId, List.replicate MaxVoterWeightRecord.getSpace 0⟩)) = .ok () :=
      exit_allocated ledger _ _ _ (length_maxVoterWeightRecord_codec _).le
    rw [if_pos hvacant, bind_of_ok _ ((initAccount_eq_ok ..).mpr
        ⟨⟨hne, hwritable.1, hwritable.2⟩, hvacant, rfl⟩), bind_of_ok _ hblank,
      bind_of_ok _ ((require_eq_ok _ _ ()).mpr hseeds),
      bind_of_ok _ ((require_eq_ok _ _ ()).mpr hgiven),
      bind_of_ok _ ((requireMut_eq_ok ctx _ ()).mpr hwritable.1),
      authority_allocated env hspec ledger _ _ _ _ _ _ hvacant, outcome_bind]
    simp only [newMaxVoterWeightRecord] at hexit
    simp only [MaxVoterWeightRecord.blank, hexit, bind_done]
  · rw [if_neg hvacant, bind_of_error _ (init_in_use ctx _ _ _ ledger hne hwritable hvacant)]
    rfl

end

/-! ### Mandates -/

/-- The flags a client's transaction gives the accounts of a mandate. -/
structure Mandate.Granted (env : Env) (m : Mandate) (isSigner isWritable : Pubkey → Bool) :
    Prop where
  signs : isSigner m.authority = true
  writable : isWritable (m.target env) = true
  funds_writable : ∀ key, m.funds = some key → isWritable key = true
  payer_signs : ∀ key, m.payer = some key → isSigner key = true

/-- A transaction grants what the helper's instruction marks. -/
theorem mandate_granted (env : Env) (m : Mandate) (isSigner isWritable : Pubkey → Bool)
    (built : TransactionInstruction) (hbuild : (m.call env).build env = some built)
    (hgrants : Grants built.keys isSigner isWritable) : m.Granted env isSigner isWritable := by
  have hnobody : ∀ (P : Pubkey → Prop) (key : Pubkey), none = some key → P key :=
    fun _ _ habs => absurd habs (Option.some_ne_none _).symm
  have hsomeone : ∀ (P : Pubkey → Prop) (key : Pubkey), P key →
      ∀ key', some key = some key' → P key' :=
    fun P key hkey key' heq => Option.some.inj heq ▸ hkey
  cases m with
  | establish d authority payer t g =>
      simp only [Mandate.call, Call.build, buildCreateRegistrarInstruction, Option.bind_eq_bind,
        configuration_data] at hbuild
      by_cases hr : Configures t g
      · rw [if_pos hr, Option.map_some, Option.some.injEq] at hbuild
        subst hbuild
        -- The authority signs, the registrar and the payer are writable.
        have hauthority := hgrants ⟨authority, true, false⟩ (by simp only [List.mem_cons, true_or,
          or_true])
        have hpayer := hgrants ⟨payer, true, true⟩ (by simp only [List.mem_cons, true_or, or_true])
        exact ⟨hauthority.1 rfl, (hgrants _ List.mem_cons_self).2 rfl,
          hsomeone _ payer (hpayer.2 rfl), hsomeone _ payer (hpayer.1 rfl)⟩
      · rw [if_neg hr] at hbuild
        exact absurd hbuild (by simp only [Option.map_none, reduceCtorEq, not_false_eq_true])
  | revise d authority t g =>
      simp only [Mandate.call, Call.build, buildUpdateRegistrarInstruction, Option.bind_eq_bind,
        configuration_data] at hbuild
      by_cases hr : Configures t g
      · rw [if_pos hr, Option.some.injEq] at hbuild
        subst hbuild
        have hauthority := hgrants ⟨authority, true, false⟩ (by simp only [List.mem_cons, true_or,
          or_true])
        exact ⟨hauthority.1 rfl, (hgrants _ List.mem_cons_self).2 rfl, hnobody _, hnobody _⟩
      · rw [if_neg hr] at hbuild
        exact absurd hbuild (by simp only [reduceCtorEq, not_false_eq_true])
  | dissolve d authority solDestination =>
      simp only [Mandate.call, Call.build, Option.some.injEq] at hbuild
      subst hbuild
      have hauthority := hgrants ⟨authority, true, false⟩ (by simp only [
        buildCloseRegistrarInstruction, List.mem_cons, true_or, or_true])
      have hdest := hgrants ⟨solDestination, false, true⟩ (by simp only [
        buildCloseRegistrarInstruction, List.mem_cons, true_or, or_true])
      exact ⟨hauthority.1 rfl, (hgrants _ List.mem_cons_self).2 rfl,
        hsomeone _ solDestination (hdest.2 rfl), hnobody _⟩
  | announce d authority payer =>
      simp only [Mandate.call, Call.build, Option.some.injEq] at hbuild
      subst hbuild
      have hauthority := hgrants ⟨authority, true, false⟩ (by simp only [
        buildCreateMaxVoterWeightRecordInstruction, List.mem_cons, true_or, or_true])
      have hpayer := hgrants ⟨payer, true, true⟩ (by simp only [
        buildCreateMaxVoterWeightRecordInstruction, List.mem_cons, true_or, or_true])
      exact ⟨hauthority.1 rfl, (hgrants _ (List.mem_cons_of_mem _ List.mem_cons_self)).2 rfl,
        hsomeone _ payer (hpayer.2 rfl), hsomeone _ payer (hpayer.1 rfl)⟩
  | measure d authority w =>
      simp only [Mandate.call, Call.build, buildUpdateMaxVoterWeightRecordInstruction,
        Option.bind_eq_bind, weight_data] at hbuild
      by_cases hw : 0 ≤ w ∧ w < 2 ^ 64
      · rw [if_pos hw, Option.bind_some, Option.some.injEq] at hbuild
        subst hbuild
        have hauthority := hgrants ⟨authority, true, false⟩ (by simp only [List.mem_cons, true_or,
          or_true])
        exact ⟨hauthority.1 rfl, (hgrants _ (List.mem_cons_of_mem _ List.mem_cons_self)).2 rfl,
          hnobody _, hnobody _⟩
      · rw [if_neg hw] at hbuild
        exact absurd hbuild (by simp only [Option.bind_none, reduceCtorEq, not_false_eq_true])

section
variable (env : Env) (h : History) (s : State) (hrun : Run (plugin env) h s)
variable (hc : Consistent env (origin env h) s.ledger)

include hrun in
/-- The max voter weight record of a quorum's total. -/
theorem quorum_in_force (d : Dao) (total : Registry.Quorum)
    (hm : (registerOf env h s).quorum d = some total) :
    ∃ record : MaxVoterWeightRecord,
      (s.ledger (env.address (.maxVoterWeightRecord d.1 d.2))).owner = programId ∧
      AccountDeserialize.tryDeserialize
        (s.ledger (env.address (.maxVoterWeightRecord d.1 d.2))).data = .ok record ∧
      89 ≤ (s.ledger (env.address (.maxVoterWeightRecord d.1 d.2))).data.length ∧
      record.realm = d.1 ∧ record.governingTokenMint = d.2 := by
  by_cases ho : origin env h (env.address (.maxVoterWeightRecord d.1 d.2)) =
      some (.maxVoterWeightRecord d.1 d.2)
  · have hs := shape_run env h s hrun (env.address (.maxVoterWeightRecord d.1 d.2))
    rw [ho] at hs
    rcases MaxShape.record hs with ⟨r, hload, hf⟩
    refine ⟨r, MaxShape.owned hs, hload, ?_, hf.realm_eq, hf.mint_eq⟩
    rw [MaxShape.length hs, MaxVoterWeightRecord.getSpace]
    omega
  · simp only [registerOf, holding, if_neg ho, reduceCtorEq] at hm

include hrun in
/-- Without a total, the record's address is vacant. -/
theorem vacant_of_no_quorum (d : Dao)
    (hfree : CollisionFreeAt env (.maxVoterWeightRecord d.1 d.2))
    (hm : (registerOf env h s).quorum d = none) :
    s.ledger (env.address (.maxVoterWeightRecord d.1 d.2)) = .vacant := by
  refine vacant_of_not_held env h s hrun quorumIn _ hfree ?_ hm
  intro ho
  have hs := shape_run env h s hrun (env.address (.maxVoterWeightRecord d.1 d.2))
  rw [ho] at hs
  rcases MaxShape.record hs with ⟨r, hload, _⟩
  rw [quorumIn_of_loads _ r hload]
  exact Option.some_ne_none _

include hc in
/-- A registrar that loads fills its account. -/
theorem registrar_length (key : Pubkey) (registrar : Registrar)
    (hown : (s.ledger key).owner = programId)
    (hload : AccountDeserialize.tryDeserialize (s.ledger key).data = .ok registrar) :
    (s.ledger key).data.length = Registrar.len := by
  rcases consistent_registrar env _ s.ledger hc key registrar hown hload with ⟨ho, _⟩
  have hs := hc.shape key
  rw [ho] at hs
  exact RegistrarShape.length hs

/-- The governance program of a body with a registrar. -/
theorem governance_in_force (d : Dao) (registrar : Registrar)
    (hown : (s.ledger (env.address (.registrar d.1 d.2))).owner = programId)
    (hload : AccountDeserialize.tryDeserialize
      (s.ledger (env.address (.registrar d.1 d.2))).data = .ok registrar) :
    governanceOf env s.ledger d = registrar.governanceProgramId := by
  rw [governanceOf, (registrarAt_eq_some ..).mpr ⟨hown, hload⟩, Option.map_some, Option.getD_some]

theorem governance_vacant (d : Dao)
    (hvacant : s.ledger (env.address (.registrar d.1 d.2)) = .vacant) :
    governanceOf env s.ledger d = governanceProgramId := by
  rw [governanceOf, registrarAt, hvacant, if_neg vacant_owner_ne, Option.map_none,
    Option.getD_none]

/-- The program compares the number that the client sent. -/
theorem age_positive (t g : Int) (hr : Configures t g) : 0 < Int64.ofInt g ↔ 0 < g := by
  rw [Int64.lt_iff_toInt_lt, Int64.toInt_ofInt_of_le hr.2.1 hr.2.2]
  rfl

theorem weight_positive (w : Int) (hr : 0 ≤ w ∧ w < 2 ^ 64) :
    0 < UInt64.ofNat w.toNat ↔ 0 < w := by
  rw [UInt64.lt_iff_toNat_lt, UInt64.toNat_ofNat_of_lt' (show w.toNat < 2 ^ 64 by omega)]
  change 0 < w.toNat ↔ 0 < w
  omega

/-- An account of the program is in use. -/
theorem used_of_owned (key : Pubkey) (hown : (s.ledger key).owner = programId) :
    s.ledger key ≠ .vacant := by
  intro hvacant
  rw [hvacant] at hown
  exact absurd hown vacant_owner_ne

/-- The registrar of a mandate's body. -/
structure InForce (env : Env) (s : State) (m : Mandate) (registrar : Registrar) : Prop where
  owned : (s.ledger (m.registrar env)).owner = programId
  loads : (loadAccount Registrar s.ledger (m.registrar env) : Except PluginError Registrar) =
    .ok registrar
  room : Registrar.len ≤ (s.ledger (m.registrar env)).data.length
  seeds : m.registrar env =
    env.address (.registrar registrar.realm registrar.governingTokenMint)
  realm_eq : registrar.realm = m.dao.1
  mint_eq : registrar.governingTokenMint = m.dao.2
  authorized : requireRealmAuthority env registrar.governanceProgramId (s.ledger m.dao.1)
    registrar.governingTokenMint m.authority = m.authorized env s.ledger

include hc in
/-- A body with a policy has a registrar. -/
theorem inForce_of_policy (m : Mandate) (q : Registry.Policy)
    (hq : (registerOf env h s).policy m.dao = some q) :
    ∃ registrar, InForce env s m registrar := by
  rcases registrar_in_force env h s hc m.dao q hq with ⟨reg, hown, hload, _, hrealm, hmint⟩
  refine ⟨reg, hown, (loadAccount_eq_ok ..).mpr ⟨hown, hload⟩,
    (registrar_length env h s hc _ reg hown hload).ge, ?_, hrealm, hmint, ?_⟩
  · rw [hrealm, hmint]
    rfl
  · -- The governance program is the one the registrar names.
    rw [Mandate.authorized, governance_in_force env s m.dao reg hown hload, hmint]

variable (hspec : GovernanceSpec env) (isSigner isWritable : Pubkey → Bool)

/-- What the program makes of a mandate. -/
def Mandate.result (env : Env) (s : State) (isSigner isWritable : Pubkey → Bool) (m : Mandate) :
    Except PluginError Ledger :=
  process env s.clock ((m.call env).instruction env isSigner isWritable) s.ledger

include hrun hc in
/-- Without a policy, all that can be done is to establish the body. -/
theorem process_unestablished (m : Mandate) (hclear : m.Clear env)
    (hne : ∀ d authority payer t g, m ≠ .establish d authority payer t g)
    (hq : (registerOf env h s).policy m.dao = none) :
    m.result env s isSigner isWritable = .error (.anchor .accountOwnedByWrongProgram) := by
  have hload := load_vacant Registrar s.ledger _ rfl
    (vacant_of_no_policy env h s hrun hc m.dao hclear.registrar_free hq)
  -- Every other mandate loads the registrar first.
  cases m with
  | establish d authority payer t g => exact absurd rfl (hne d authority payer t g)
  | revise d authority t g => exact bind_of_error _ hload
  | dissolve d authority solDestination => exact bind_of_error _ hload
  | announce d authority payer => exact bind_of_error _ hload
  | measure d authority w => exact bind_of_error _ hload

section
variable (d : Dao) (authority : Pubkey)

include hrun hc hspec in
/-- A body is established once. -/
theorem told_establish (payer : Pubkey) (t g : Int)
    (hclear : (Mandate.establish d authority payer t g).Clear env)
    (hgranted : (Mandate.establish d authority payer t g).Granted env isSigner isWritable)
    (hrange : Configures t g) :
    told ((Mandate.establish d authority payer t g).result env s isSigner isWritable) =
      (Mandate.establish d authority payer t g).answer env s.ledger (registerOf env h s) := by
  have hout := outcome_createRegistrar env hspec s.ledger
    ⟨⟨_, governanceProgramId, d.1, d.2, authority, payer, systemProgramId⟩, [], isSigner,
      isWritable⟩ (UInt16.ofNat t.toNat) (Int64.ofInt g) rfl hgranted.signs
    (hgranted.payer_signs payer rfl) rfl rfl (hclear.funds_ne payer rfl)
    ⟨hgranted.funds_writable payer rfl, hgranted.writable⟩
  refine (told_outcome _).symm.trans (congrArg told ?_)
  rcases hq : (registerOf env h s).policy d with _ | q
  · have hvacant := vacant_of_no_policy env h s hrun hc d hclear.registrar_free hq
    have hgov := governance_vacant env s d hvacant
    refine (hout.trans (if_pos hvacant)).trans ?_
    rw [require_congr _ _ _ (age_positive t g hrange), Mandate.dao,
      bind_of_ok _ ((require_eq_ok _ _ ()).mpr hq)]
    simp only [Mandate.authorized, Mandate.dao, Mandate.authority, hgov]
  · rcases inForce_of_policy env h s hc (.establish d authority payer t g) q hq with ⟨reg, hreg⟩
    have hused : ¬ (registerOf env h s).policy d = none := by
      rw [hq]
      exact Option.some_ne_none q
    refine (hout.trans (if_neg (used_of_owned s _ hreg.owned))).trans ?_
    exact (bind_of_error _ (require_of_not _ _ hused)).symm

include hrun hc in
/-- A policy is revised where there is one. -/
theorem told_revise (t g : Int) (hclear : (Mandate.revise d authority t g).Clear env)
    (hgranted : (Mandate.revise d authority t g).Granted env isSigner isWritable)
    (hrange : Configures t g) :
    told ((Mandate.revise d authority t g).result env s isSigner isWritable) =
      (Mandate.revise d authority t g).answer env s.ledger (registerOf env h s) := by
  rcases hq : (registerOf env h s).policy d with _ | q
  · rw [process_unestablished env h s hrun hc isSigner isWritable _ hclear
      (fun _ _ _ _ _ => nofun) hq, Mandate.answer, Mandate.dao, hq]
    rfl
  · rcases inForce_of_policy env h s hc (.revise d authority t g) q hq with ⟨reg, hreg⟩
    have hout := outcome_updateRegistrar env s.ledger reg ⟨⟨_, d.1, authority⟩, [], isSigner,
      isWritable⟩ (UInt16.ofNat t.toNat) (Int64.ofInt g) hreg.loads hgranted.signs hreg.seeds
      hgranted.writable hreg.realm_eq.symm hreg.room
    rw [require_congr _ _ _ (age_positive t g hrange)] at hout
    rw [Mandate.answer, Mandate.dao, hq, ← told_outcome]
    refine congrArg told (hout.trans ?_)
    exact congrArg _ (funext fun _ => hreg.authorized)

include hrun hc in
/-- A body is dissolved if it has a policy. -/
theorem told_dissolve (solDestination : Pubkey)
    (hclear : (Mandate.dissolve d authority solDestination).Clear env)
    (hgranted : (Mandate.dissolve d authority solDestination).Granted env isSigner isWritable) :
    told ((Mandate.dissolve d authority solDestination).result env s isSigner isWritable) =
      (Mandate.dissolve d authority solDestination).answer env s.ledger (registerOf env h s) := by
  rcases hq : (registerOf env h s).policy d with _ | q
  · rw [process_unestablished env h s hrun hc isSigner isWritable _ hclear
      (fun _ _ _ _ _ => nofun) hq, Mandate.answer, Mandate.dao, hq]
    rfl
  · rcases inForce_of_policy env h s hc (.dissolve d authority solDestination) q hq with
      ⟨reg, hreg⟩
    have hout := outcome_closeRegistrar env s.ledger reg ⟨⟨_, d.1, authority, solDestination⟩, [],
      isSigner, isWritable⟩ hreg.loads hgranted.signs hreg.seeds hgranted.writable
      (hclear.funds_ne solDestination rfl).symm hreg.realm_eq.symm
      (hgranted.funds_writable solDestination rfl)
    rw [Mandate.answer, Mandate.dao, hq, ← told_outcome]
    exact congrArg told (hout.trans hreg.authorized)

include hrun hc hspec in
/-- A total is announced once. -/
theorem told_announce (payer : Pubkey) (hclear : (Mandate.announce d authority payer).Clear env)
    (hgranted : (Mandate.announce d authority payer).Granted env isSigner isWritable) :
    told ((Mandate.announce d authority payer).result env s isSigner isWritable) =
      (Mandate.announce d authority payer).answer env s.ledger (registerOf env h s) := by
  rcases hq : (registerOf env h s).policy d with _ | q
  · rw [process_unestablished env h s hrun hc isSigner isWritable _ hclear
      (fun _ _ _ _ _ => nofun) hq, Mandate.answer, Mandate.dao, hq]
    rfl
  rcases inForce_of_policy env h s hc (.announce d authority payer) q hq with ⟨reg, hreg⟩
  have hseeds : env.address (.maxVoterWeightRecord d.1 d.2) =
      env.address (.maxVoterWeightRecord reg.realm reg.governingTokenMint) := by
    rw [hreg.realm_eq, hreg.mint_eq]
    rfl
  have hout := outcome_createMaxVoterWeightRecord env hspec s.ledger ⟨⟨_, _, d.1, authority,
    payer, systemProgramId⟩, [], isSigner, isWritable⟩ reg hreg.loads hgranted.signs
    (hgranted.payer_signs payer rfl) rfl hseeds (hclear.funds_ne payer rfl)
    ⟨hgranted.funds_writable payer rfl, hgranted.writable⟩ hreg.seeds hreg.realm_eq.symm
  rw [Mandate.answer, Mandate.dao, hq, ← told_outcome]
  refine congrArg told ?_
  rcases hm : (registerOf env h s).quorum d with _ | total
  · have hvacant := vacant_of_no_quorum env h s hrun d hclear.record_free hm
    rw [bind_of_ok _ ((require_eq_ok _ _ ()).mpr rfl)]
    exact (hout.trans (if_pos hvacant)).trans hreg.authorized
  · rcases quorum_in_force env h s hrun d total hm with ⟨_, hused, _⟩
    rw [bind_of_error _ (require_of_not _ _ (Option.some_ne_none total))]
    exact hout.trans (if_neg (used_of_owned s _ hused))

include hrun hc in
/-- A total is set where one was announced. -/
theorem told_measure (w : Int) (hclear : (Mandate.measure d authority w).Clear env)
    (hgranted : (Mandate.measure d authority w).Granted env isSigner isWritable)
    (hrange : 0 ≤ w ∧ w < 2 ^ 64) :
    told ((Mandate.measure d authority w).result env s isSigner isWritable) =
      (Mandate.measure d authority w).answer env s.ledger (registerOf env h s) := by
  rcases hq : (registerOf env h s).policy d with _ | q
  · rw [process_unestablished env h s hrun hc isSigner isWritable _ hclear
      (fun _ _ _ _ _ => nofun) hq, Mandate.answer, Mandate.dao, hq]
    rfl
  rcases inForce_of_policy env h s hc (.measure d authority w) q hq with ⟨reg, hreg⟩
  rw [Mandate.answer, Mandate.dao, hq]
  rcases hm : (registerOf env h s).quorum d with _ | total
  · have hrecord : (loadAccount MaxVoterWeightRecord s.ledger
        ((Mandate.measure d authority w).maxRecord env) :
          Except PluginError MaxVoterWeightRecord) =
            .error (.anchor .accountOwnedByWrongProgram) :=
      load_vacant MaxVoterWeightRecord s.ledger _ rfl
        (vacant_of_no_quorum env h s hrun d hclear.record_free hm)
    simp only [Mandate.result, Mandate.call, Call.instruction, process,
      updateMaxVoterWeightRecord]
    rw [bind_of_ok _ hreg.loads, bind_of_error _ hrecord]
    rfl
  · rcases quorum_in_force env h s hrun d total hm with
      ⟨record, hrown, hrload, hroom, hrrealm, hrmint⟩
    have hrecord : (loadAccount MaxVoterWeightRecord s.ledger
        (env.address (.maxVoterWeightRecord d.1 d.2)) :
          Except PluginError MaxVoterWeightRecord) = .ok record :=
      (loadAccount_eq_ok ..).mpr ⟨hrown, hrload⟩
    have hout := outcome_updateMaxVoterWeightRecord env s.ledger reg ⟨⟨_, _, d.1, authority⟩, [],
      isSigner, isWritable⟩ (UInt64.ofNat w.toNat) record hreg.loads hrecord hgranted.signs
      hreg.seeds hgranted.writable (hrrealm.trans hreg.realm_eq.symm)
      (hrmint.trans hreg.mint_eq.symm) hreg.realm_eq.symm hroom
    rw [require_congr _ _ _ (weight_positive w hrange)] at hout
    rw [← told_outcome]
    refine congrArg told (hout.trans ?_)
    exact congrArg _ (funext fun _ => hreg.authorized)

end

variable (m : Mandate) (hclear : m.Clear env) (hrange : (m.call env).InRange)

include hrun hc hspec hclear hrange in
/-- The program answers a mandate as the register and the realm do. -/
theorem told_mandate (hgranted : m.Granted env isSigner isWritable) :
    told (m.result env s isSigner isWritable) = m.answer env s.ledger (registerOf env h s) := by
  cases m with
  | establish d authority payer t g =>
      exact told_establish env h s hrun hc hspec isSigner isWritable d authority payer t g hclear
        hgranted hrange
  | revise d authority t g =>
      exact told_revise env h s hrun hc isSigner isWritable d authority t g hclear hgranted hrange
  | dissolve d authority solDestination =>
      exact told_dissolve env h s hrun hc isSigner isWritable d authority solDestination hclear
        hgranted
  | announce d authority payer =>
      exact told_announce env h s hrun hc hspec isSigner isWritable d authority payer hclear
        hgranted
  | measure d authority w =>
      exact told_measure env h s hrun hc isSigner isWritable d authority w hclear hgranted hrange

/-- The policy that is written is the one that was asked for. -/
theorem policy_sent (t g : Int) (hr : Configures t g) :
    (⟨(UInt16.ofNat t.toNat).toNat, (Int64.ofInt g).toInt⟩ : Registry.Policy) = ⟨t.toNat, g⟩ := by
  rcases hr with ⟨⟨_, ht⟩, hlow, hhigh⟩
  rw [UInt16.toNat_ofNat_of_lt' (show t.toNat < 2 ^ 16 by omega),
    Int64.toInt_ofInt_of_le hlow hhigh]

include hrun hc hspec hclear hrange in
/-- A mandate that succeeds is its move. -/
theorem mandate_moves (s' : State) (hclock : s'.clock = s.clock)
    (hp : m.result env s isSigner isWritable = .ok s'.ledger) :
    Registry.Step term lastSlot (registerOf env h s) m.move
      (registerOf env
        (⟨s, .instruction ((m.call env).instruction env isSigner isWritable), s'⟩ :: h) s') := by
  have hdao := dao_of_registrar env h s hc m.dao hclear.registrar_free
  cases m with
  | establish d authority payer t g =>
      have hmove := (move_createRegistrar env h s s' hrun hclock hspec _ _ _ hp).step
      rw [policy_sent t g hrange] at hmove
      exact hmove
  | revise d authority t g =>
      rcases move_updateRegistrar env h s s' hc hclock _ _ _ hp with ⟨registrar, hreg, hmove⟩
      rw [hdao registrar hreg, policy_sent t g hrange] at hmove
      exact hmove.step
  | dissolve d authority solDestination =>
      rcases move_closeRegistrar env h s s' hc hclock _ hp with ⟨registrar, hreg, hmove⟩
      rw [hdao registrar hreg] at hmove
      exact hmove.step
  | announce d authority payer =>
      rcases move_createMaxVoterWeightRecord env h s s' hrun hc hclock hspec _ hp with
        ⟨registrar, hreg, hmove⟩
      rw [hdao registrar hreg] at hmove
      exact hmove.step
  | measure d authority w =>
      -- The address is the body's, so what is there is not a voter's.
      rcases maxUpdated_of_ok env s.clock _ _ s.ledger s'.ledger hp with ⟨registrar, record, hup⟩
      have hreg := (registrarAt_eq_some ..).mpr
        ⟨hup.accepts.registrar_owner, hup.accepts.registrar_loads⟩
      have hd := hdao registrar hreg
      have ho := max_live env _ s.ledger s'.ledger hc d hclear.record_free _ _ registrar record rfl
        hup
      have hpair : some (Place.maxVoterWeightRecord d.1 d.2) =
          some (.maxVoterWeightRecord registrar.realm registrar.governingTokenMint) := by
        rw [← show (registrar.realm, registrar.governingTokenMint) = d from hd]
      rcases move_measured env h s s' hrun hc hclock _ _ registrar record hup (ho.trans hpair) hp
        with ⟨registrar', hreg', hmove⟩
      rw [hdao registrar' hreg', UInt64.toNat_ofNat_of_lt' (show w.toNat < 2 ^ 64 by
        rcases hrange with ⟨_, hw⟩; omega)] at hmove
      exact hmove.step

end

/-- What a client sends for a mandate is read by the program, and answered as
    the register and the realm account say. If it is answered with success,
    the register has made the mandate's move. -/
theorem mandate_answered (env : Env) (hspec : GovernanceSpec env) (h : History) (s : State)
    (hrun : Run (plugin env) h s) (hsep : ∀ e ∈ h, Separated env e.pre.ledger) (m : Mandate)
    (hclear : m.Clear env) (built : TransactionInstruction)
    (hbuild : (m.call env).build env = some built) (isSigner isWritable : Pubkey → Bool)
    (hgrants : Grants built.keys isSigner isWritable) :
    ∃ ix, parse (built.keys.map AccountMeta.pubkey) isSigner isWritable built.data = some ix ∧
      told (process env s.clock ix s.ledger) = m.answer env s.ledger (registerOf env h s) ∧
      ∀ ledger', process env s.clock ix s.ledger = .ok ledger' →
        Registry.Step term lastSlot (registerOf env h s) m.move
          (registerOf env (⟨s, .instruction ix, ⟨ledger', s.clock⟩⟩ :: h) ⟨ledger', s.clock⟩) := by
  have hc := consistent_run env hspec h s hrun hsep
  have hgranted := mandate_granted env m isSigner isWritable built hbuild hgrants
  have hrange : (m.call env).InRange := by
    rcases build_iff env (m.call env) isSigner isWritable with ⟨hr, _⟩ | ⟨_, hnone⟩
    · exact hr
    · rw [hbuild] at hnone
      exact absurd hnone (Option.some_ne_none _)
  refine ⟨_, (parse_call env isSigner isWritable _ _ hbuild).2,
    told_mandate env h s hrun hc hspec isSigner isWritable m hclear hrange hgranted, ?_⟩
  intro ledger' hp
  exact mandate_moves env h s hrun hc hspec isSigner isWritable m hclear hrange
    ⟨ledger', s.clock⟩ rfl hp

namespace Devnet

/-- The authority announces a total. -/
def announcing : Mandate := .announce (realm, mint) authority payer

def announcement : TransactionInstruction :=
  (buildCreateMaxVoterWeightRecordInstruction env (registrar mint) realm mint authority payer).1

def announcingTransaction : Transaction := ⟨payer, [announcement], [payer, authority]⟩

theorem announcing_clear : announcing.Clear env := by
  refine ⟨collisionFreeAt _ (by decide +kernel), collisionFreeAt _ (by decide +kernel), ?_⟩
  intro key hkey
  rw [announcing, Mandate.funds, Option.some.injEq] at hkey
  subst hkey
  decide +kernel

end Devnet

/-- The authority of the realm gets the total announced. -/
theorem mandate_answered_devnet : ∃ ix,
    parse (Devnet.announcement.keys.map AccountMeta.pubkey) Devnet.announcingTransaction.isSigner
      Devnet.announcingTransaction.isWritable Devnet.announcement.data = some ix ∧
    told (process Devnet.env (Devnet.after [Devnet.createRegistrar Devnet.mint]).2.clock ix
      (Devnet.after [Devnet.createRegistrar Devnet.mint]).2.ledger) = .ok () := by
  rcases mandate_answered Devnet.env (cluster_governanceSpec _ _ _) _ _ Devnet.created_calm.run
    (fun e he => (Devnet.created_calm.steps e he).1) Devnet.announcing Devnet.announcing_clear
    Devnet.announcement rfl _ _
    (transaction_grants Devnet.announcingTransaction _ List.mem_cons_self) with
    ⟨ix, hparse, htold, _⟩
  refine ⟨ix, hparse, htold.trans ?_⟩
  decide +kernel

end EntrosVoterWeight
