import EntrosVoterWeight.Wire.Requests

/-!
# What Voters Are Told

The program's answers to voters' requests, errors included.

A request either succeeds or comes back with the error of the first check it
failed, and there are some fifteen checks on the way. For what a client sends,
most of them cannot fail, and the rest fail for reasons that make sense to a
voter: the body has no policy, the ballot is there already or is not there,
the identity account is somebody else's, is none, is not trusted enough or was
verified too long ago. `Request.answer` computes the answer from the register
and the identity account alone, and the program gives that answer.

A registrar or a record that is not there is one answer here and two errors on
the wire. The framework reports an address without a balance as not
initialised, and one that somebody sent lamports to as of the wrong owner.
Balances are left aside, so a `Refusal` does not tell the two apart. Every
other error comes back as it is, and stands for no reason but its own.

## Main definitions

* `identityIn`: What an identity account says.
* `judge`: Whether a policy takes an identity account, and if not, why.
* `Refusal`, `told`: What a client is told.
* `Request.answer`: The answer to a request.
* `outcome`: The answer a handler gives.

## Theorems

* `judge_foreign`, `judge_unreadable`, `judge_identity`: A judgement by cases.
* `outcome_update`: An update with everything in order is a judgement.
* `told_enrol`, `told_confirm`, `told_withdraw`: The requests of a body with a
  policy.
* `told_request`: A request is answered by the register.
* `request_answered`: The same of what the client sends.
-/

namespace EntrosVoterWeight

open Borsh Anchor Transition

/-! ### Answers by the register -/

/-- What an identity account says, if it is one. -/
def identityIn (data : List UInt8) : Option Registry.Identity :=
  if data.take 8 = identityDiscriminator.bytes then
    (IdentityState.codec.decode (data.drop 8)).map fun x =>
      ⟨x.1.trustScore.toNat, x.1.lastVerificationTimestamp.toInt⟩
  else none

/-- Whether a policy takes an identity account, and if not, why. -/
def judge (q : Registry.Policy) (now : Int) (acc : Account) : Except PluginError Unit := do
  require (acc.owner = entrosAnchorProgramId) (.custom .invalidIdentityOwner)
  let id ← okOr (identityIn acc.data) (.custom .invalidIdentityData)
  require (q.minTrust ≤ id.trust) (.custom .insufficientTrustScore)
  require (now - id.verified < q.maxAge) (.custom .verificationExpired)

/-- Why something is refused: an account of the program is not where it should
    be, or a check failed. -/
inductive Refusal
  | missing
  | failed (e : PluginError)
deriving DecidableEq

/-- The reason an error stands for. -/
def Refusal.of : PluginError → Refusal
  | .anchor .accountOwnedByWrongProgram => .missing
  | e => .failed e

/-- What a client is told. -/
def told {α : Type} : Except PluginError α → Except Refusal Unit
  | .ok _ => .ok ()
  | .error e => .error (.of e)

/-- The answer to a request. -/
def Request.answer (env : Env) (ledger : Ledger) (state : Registry.State Dao Pubkey)
    (r : Request) : Except Refusal Unit :=
  match state.policy r.dao with
  | none => .error .missing
  | some q =>
    match r, state.ballot (r.dao, r.voter) with
    | .enrol _ _ _, none => .ok ()
    | .enrol _ _ _, some _ => .error (.failed .accountAlreadyInUse)
    | .confirm _ _, none => .error .missing
    | .confirm _ voter, some _ => told (judge q state.time (ledger (env.identityAddress voter)))
    | .withdraw _ _ _, none => .error .missing
    | .withdraw _ _ _, some _ => .ok ()

/-! ### Answers by the handlers -/

/-- Whether a handler succeeds, and if not, why. -/
def outcome (x : Except PluginError Ledger) : Except PluginError Unit := x.map fun _ => ()

theorem told_outcome (x : Except PluginError Ledger) : told (outcome x) = told x := by
  cases x <;> rfl

theorem told_eq_ok {α : Type} (x : Except PluginError α) :
    told x = .ok () ↔ ∃ a, x = .ok a := by
  cases x with
  | error e => simp only [told, reduceCtorEq, exists_false]
  | ok a => simp only [told, Except.ok.injEq, exists_eq']

theorem outcome_bind {α : Type} (x : Except PluginError α) (f : α → Except PluginError Ledger) :
    outcome (x >>= f) = x >>= fun a => outcome (f a) := by
  cases x <;> rfl

/-- A last check is the answer. -/
theorem bind_done (x : Except PluginError Unit) : (x >>= fun _ => .ok ()) = x := by
  cases x <;> rfl

/-- What has room is written. -/
theorem outcome_exit {α : Type} [AccountSerialize α] (key : Pubkey) (x : α) (ledger : Ledger)
    (hroom : (AccountSerialize.trySerialize x).length ≤ (ledger key).data.length) :
    outcome (exitAccount key x ledger) = .ok () := by
  rw [(exitAccount_eq_ok ..).mpr ⟨hroom, rfl⟩]
  rfl

/-- The program has no account at a vacant address. -/
theorem load_vacant (α : Type) [Owner α] [AccountDeserialize α] (ledger : Ledger) (key : Pubkey)
    (howner : Owner.owner α = programId) (hvacant : ledger key = .vacant) :
    (loadAccount α ledger key : Except PluginError α) =
      .error (.anchor .accountOwnedByWrongProgram) := by
  refine bind_of_error _ (require_of_not _ _ ?_)
  rw [hvacant, howner]
  exact vacant_owner_ne

/-- An account in use is not created again. -/
theorem init_in_use {A : Type} (ctx : Context A) (key payer : Pubkey) (space : Nat)
    (ledger : Ledger) (hne : payer ≠ key)
    (hwritable : ctx.isWritable payer = true ∧ ctx.isWritable key = true)
    (hused : ledger key ≠ .vacant) :
    (initAccount ctx programId key payer space ledger : Except PluginError Ledger) =
      .error .accountAlreadyInUse := by
  unfold initAccount
  rw [bind_of_ok _ ((require_eq_ok _ _ ()).mpr hne),
    bind_of_ok _ ((require_eq_ok _ _ ()).mpr hwritable),
    bind_of_error _ (require_of_not _ _ hused)]

/-- A record is not created for a wallet that has one. -/
theorem createVoterWeightRecord_in_use (env : Env) (ctx : Context CreateVoterWeightRecord)
    (voter : Pubkey) (ledger : Ledger) (registrar : Registrar)
    (hload : (loadAccount Registrar ledger ctx.accounts.registrar : Except PluginError Registrar) =
      .ok registrar)
    (hsigns : ctx.isSigner ctx.accounts.governingTokenOwnerSigner = true)
    (hpays : ctx.isSigner ctx.accounts.payer = true)
    (hsystem : ctx.accounts.systemProgram = systemProgramId)
    (hseeds : ctx.accounts.voterWeightRecord = env.address (.voterWeightRecord registrar.realm
      registrar.governingTokenMint voter))
    (hne : ctx.accounts.payer ≠ ctx.accounts.voterWeightRecord)
    (hwritable : ctx.isWritable ctx.accounts.payer = true ∧
      ctx.isWritable ctx.accounts.voterWeightRecord = true)
    (hused : ledger ctx.accounts.voterWeightRecord ≠ .vacant) :
    createVoterWeightRecord env ctx voter ledger = .error .accountAlreadyInUse := by
  simp only [createVoterWeightRecord]
  rw [bind_of_ok _ hload, bind_of_ok _ ((requireSigner_eq_ok ctx _ ()).mpr hsigns),
    bind_of_ok _ ((requireSigner_eq_ok ctx _ ()).mpr hpays),
    bind_of_ok _ ((requireProgram_systemProgramId _ _ ()).mpr hsystem),
    bind_of_ok _ ((require_eq_ok _ _ ()).mpr hseeds),
    bind_of_error _ (init_in_use ctx _ _ _ ledger hne hwritable hused)]

theorem identityIn_data (identity : IdentityState) (rest : List UInt8) :
    identityIn (identity.data rest) =
      some ⟨identity.trustScore.toNat, identity.lastVerificationTimestamp.toInt⟩ := by
  have hdecode := (IdentityState.codec.decode_iff _ _ _).mpr
    (rfl : IdentityState.codec.encode identity ++ rest = _)
  rw [identityIn, IdentityState.data, if_pos (List.take_left' identityDiscriminator.size),
    List.drop_left' identityDiscriminator.size, hdecode, Option.map_some]

theorem identityIn_eq_none (data : List UInt8)
    (h : ¬ ∃ (identity : IdentityState) (rest : List UInt8), data = identity.data rest) :
    identityIn data = none := by
  by_cases hdisc : data.take 8 = identityDiscriminator.bytes
  · rcases hd : IdentityState.codec.decode (data.drop 8) with _ | ⟨identity, rest⟩
    · rw [identityIn, if_pos hdisc, hd, Option.map_none]
    · have hdata := (IdentityState.codec.decode_iff _ _ _).mp hd
      refine absurd ⟨identity, rest, ?_⟩ h
      rw [IdentityState.data, ← hdata, ← hdisc, List.take_append_drop]
  · rw [identityIn, if_neg hdisc]

/-! ### Judgements -/

section
variable (q : Registry.Policy) (now : Int) (acc : Account)

theorem judge_foreign (hown : acc.owner ≠ entrosAnchorProgramId) :
    judge q now acc = .error (.custom .invalidIdentityOwner) := by
  rw [judge, bind_of_error _ (require_of_not _ _ hown)]

theorem judge_unreadable (hown : acc.owner = entrosAnchorProgramId)
    (h : ¬ ∃ (identity : IdentityState) (rest : List UInt8), acc.data = identity.data rest) :
    judge q now acc = .error (.custom .invalidIdentityData) := by
  have hnone : (okOr (identityIn acc.data) (.custom .invalidIdentityData) :
      Except PluginError Registry.Identity) = .error (.custom .invalidIdentityData) := by
    rw [identityIn_eq_none _ h, okOr]
  rw [judge, bind_of_ok _ ((require_eq_ok _ _ ()).mpr hown), bind_of_error _ hnone]

/-- An identity account is judged by the trust score, and then by the age. -/
theorem judge_identity (hown : acc.owner = entrosAnchorProgramId) (identity : IdentityState)
    (rest : List UInt8) (hdata : acc.data = identity.data rest) :
    judge q now acc =
      (require (q.minTrust ≤ identity.trustScore.toNat) (.custom .insufficientTrustScore) >>=
        fun _ => require (now - identity.lastVerificationTimestamp.toInt < q.maxAge)
          (.custom .verificationExpired)) := by
  rw [judge, bind_of_ok _ ((require_eq_ok _ _ ()).mpr hown),
    bind_of_ok _ ((okOr_eq_ok _ _ _).mpr (by rw [hdata, identityIn_data]))]

end

/-- The age that the program computes is compared as the difference is. -/
theorem age_compared (now last maxAge : Int64) (htime : 0 ≤ now.toInt) :
    (checkedSub now last).getD Int64.maxValue < maxAge ↔ now.toInt - last.toInt < maxAge.toInt := by
  have hlast := int64_bounds last
  rw [age_lt_iff]
  exact ⟨fun h => h.2, fun h => ⟨by omega, h⟩⟩

/-- An update with registrar and record in order goes by the identity. -/
theorem outcome_update (env : Env) (clock : Clock) (ctx : Context UpdateVoterWeightRecord)
    (ledger : Ledger) (registrar : Registrar) (record : VoterWeightRecord)
    (hctl : ControlsRecord env ledger ctx.isSigner ctx.isWritable ctx.accounts.registrar
      ctx.accounts.voterWeightRecord ctx.accounts.voterAuthority registrar record)
    (hfirst : ctx.remainingAccounts.head? =
      some (env.identityAddress ctx.accounts.voterAuthority))
    (hroom : 131 ≤ (ledger ctx.accounts.voterWeightRecord).data.length)
    (htime : 0 ≤ clock.unixTimestamp.toInt) :
    outcome (updateVoterWeightRecord env clock ctx ledger) =
      judge (policyOf registrar) clock.unixTimestamp.toInt
        (ledger (env.identityAddress ctx.accounts.voterAuthority)) := by
  simp only [updateVoterWeightRecord]
  rw [bind_of_ok _ ((loadAccount_eq_ok ..).mpr ⟨hctl.registrar_owner, hctl.registrar_loads⟩),
    bind_of_ok _ ((loadAccount_eq_ok ..).mpr ⟨hctl.record_owner, hctl.record_loads⟩),
    bind_of_ok _ ((requireSigner_eq_ok ctx _ ()).mpr hctl.signs),
    bind_of_ok _ ((require_eq_ok _ _ ()).mpr hctl.seeds),
    bind_of_ok _ ((requireMut_eq_ok ctx _ ()).mpr hctl.writable),
    bind_of_ok _ ((require_eq_ok _ _ ()).mpr hctl.realm_eq),
    bind_of_ok _ ((require_eq_ok _ _ ()).mpr hctl.mint_eq),
    bind_of_ok _ ((require_eq_ok _ _ ()).mpr hctl.owner_eq),
    bind_of_ok _ ((okOr_eq_ok _ _ _).mpr hfirst)]
  have hexit : outcome (exitAccount ctx.accounts.voterWeightRecord (record.activated clock.slot)
      ledger) = .ok () := by
    refine outcome_exit _ _ ledger ?_
    exact (length_voterWeightRecord_codec (record.activated clock.slot) _ rfl rfl rfl).le.trans
      hroom
  by_cases hown : (ledger (env.identityAddress ctx.accounts.voterAuthority)).owner =
      entrosAnchorProgramId
  · rw [bind_of_ok _ ((require_eq_ok _ _ ()).mpr hown),
      bind_of_ok _ ((require_eq_ok _ _ ()).mpr rfl)]
    by_cases hheader : ∃ (identity : IdentityState) (rest : List UInt8),
        (ledger (env.identityAddress ctx.accounts.voterAuthority)).data = identity.data rest
    · rcases hheader with ⟨identity, rest, hdata⟩
      rcases (header_iff _).mpr ⟨identity, rest, hdata⟩ with ⟨hlen, hdisc⟩
      have htrust : registrar.minTrustScore ≤ identity.trustScore ↔
          (policyOf registrar).minTrust ≤ identity.trustScore.toNat :=
        UInt16.le_iff_toNat_le
      -- The two comparisons that are left, in the terms of the policy.
      rw [bind_of_ok _ ((require_eq_ok _ _ ()).mpr hlen),
        bind_of_ok _ ((require_eq_ok _ _ ()).mpr hdisc),
        judge_identity _ _ _ hown identity rest hdata, hdata, trustScore_header,
        lastVerificationTimestamp_header, require_congr _ _ _ htrust,
        require_congr _ _ _ (age_compared clock.unixTimestamp _ _ htime)]
      simp only [VoterWeightRecord.activated] at hexit
      simp only [outcome_bind, hexit, bind_done]
      rfl
    · rw [judge_unreadable _ _ _ hown hheader]
      -- Too short or not with the discriminator, and the error is the same.
      by_cases hlen : identityMinDataLen ≤
          (ledger (env.identityAddress ctx.accounts.voterAuthority)).data.length
      · have hdisc := fun h => hheader ((header_iff _).mp ⟨hlen, h⟩)
        rw [bind_of_ok _ ((require_eq_ok _ _ ()).mpr hlen),
          bind_of_error _ (require_of_not _ _ hdisc)]
        rfl
      · rw [bind_of_error _ (require_of_not _ _ hlen)]
        rfl
  · rw [judge_foreign _ _ _ hown, bind_of_error _ (require_of_not _ _ hown)]
    rfl

/-! ### Requests -/

section
variable (env : Env) (h : History) (s : State) (hrun : Run (plugin env) h s)
variable (hc : Consistent env (origin env h) s.ledger)
variable (hnot : ∀ e ∈ h, ¬ RewritesVoterRecord env e)
variable (isSigner isWritable : Pubkey → Bool)

/-- What the program makes of a request. -/
def Request.result (env : Env) (s : State) (isSigner isWritable : Pubkey → Bool) (r : Request) :
    Except PluginError Ledger :=
  process env s.clock ((r.call env).instruction env isSigner isWritable) s.ledger

/-- Without a registrar, every request fails at once. -/
theorem process_unregistered (r : Request) (hvacant : s.ledger (r.registrar env) = .vacant) :
    r.result env s isSigner isWritable = .error (.anchor .accountOwnedByWrongProgram) := by
  have hload := load_vacant Registrar s.ledger _ rfl hvacant
  cases r <;> exact bind_of_error _ hload

include hrun hc in
/-- Without a ballot, there is nothing to confirm or to withdraw. -/
theorem process_unenrolled (r : Request) (hclear : r.Clear env)
    (hne : ∀ d voter payer, r ≠ .enrol d voter payer) (q : Registry.Policy)
    (hq : (registerOf env h s).policy r.dao = some q)
    (hb : (registerOf env h s).ballot (r.dao, r.voter) = none) :
    r.result env s isSigner isWritable = .error (.anchor .accountOwnedByWrongProgram) := by
  rcases registrar_in_force env h s hc r.dao q hq with ⟨reg, hown, hload, _⟩
  have hreg : (loadAccount Registrar s.ledger (r.registrar env) : Except PluginError Registrar) =
      .ok reg :=
    (loadAccount_eq_ok ..).mpr ⟨hown, hload⟩
  have hrecord : (loadAccount VoterWeightRecord s.ledger (r.record env) :
      Except PluginError VoterWeightRecord) = .error (.anchor .accountOwnedByWrongProgram) :=
    load_vacant VoterWeightRecord s.ledger _ rfl
      (vacant_of_no_ballot env h s hrun r.dao r.voter hclear.record_free hb)
  cases r with
  | enrol d voter payer => exact absurd rfl (hne d voter payer)
  | confirm d voter =>
      simp only [Request.result, Request.call, Call.instruction, process, updateVoterWeightRecord]
      rw [bind_of_ok _ hreg, bind_of_error _ hrecord]
  | withdraw d voter solDestination =>
      simp only [Request.result, Request.call, Call.instruction, process, closeVoterWeightRecord]
      rw [bind_of_ok _ hreg, bind_of_error _ hrecord]

include hrun hc hnot in
/-- A permitted move is answered with success. -/
theorem told_permitted (r : Request) (hclear : r.Clear env)
    (hgrants : Grants (r.built env).keys isSigner isWritable)
    (move : Registry.Event Dao Pubkey) (r' : Registry.State Dao Pubkey)
    (hasks : r.Asks env s.ledger move)
    (hstep : Registry.Step term lastSlot (registerOf env h s) move r') :
    told (r.result env s isSigner isWritable) = .ok () :=
  (told_eq_ok _).mpr (request_succeeds env h s hrun hc hnot r hclear isSigner isWritable hgrants
    move r' hasks hstep)

section
variable (d : Dao) (q : Registry.Policy) (hq : (registerOf env h s).policy d = some q)

include hrun hc hnot hq in
/-- Whoever has a ballot cannot enrol again, and everyone else can. -/
theorem told_enrol (voter payer : Pubkey) (hclear : (Request.enrol d voter payer).Clear env)
    (hgrants : Grants ((Request.enrol d voter payer).built env).keys isSigner isWritable) :
    told ((Request.enrol d voter payer).result env s isSigner isWritable) =
      (Request.enrol d voter payer).answer env s.ledger (registerOf env h s) := by
  rcases hb : (registerOf env h s).ballot (d, voter) with _ | b
  · rw [told_permitted env h s hrun hc hnot isSigner isWritable _ hclear hgrants _ _ rfl
      (.enrol _ _ _ q hq hb), Request.answer, Request.dao, hq, Request.voter, hb]
  · have hsigns := voter_signs env _ isSigner isWritable hgrants
    have hwritable := record_writable env _ isSigner isWritable hgrants
    have hpayer := hgrants ⟨payer, true, true⟩ (by simp only [Request.built,
      buildCreateVoterWeightRecordInstruction, List.mem_cons, true_or, or_true])
    rcases registrar_in_force env h s hc d q hq with ⟨reg, hown, hload, _, hrealm, hmint⟩
    have hreg : (loadAccount Registrar s.ledger ((Request.enrol d voter payer).registrar env) :
        Except PluginError Registrar) = .ok reg :=
      (loadAccount_eq_ok ..).mpr ⟨hown, hload⟩
    -- A ballot is an account in use.
    have hused : s.ledger (env.address (.voterWeightRecord d.1 d.2 voter)) ≠ .vacant := by
      intro hvacant
      rcases record_in_force env h s hrun hnot d voter b hb with ⟨_, hrown, _⟩
      rw [hvacant] at hrown
      exact absurd hrown vacant_owner_ne
    have hseeds : env.address (.voterWeightRecord d.1 d.2 voter) = env.address
        (.voterWeightRecord reg.realm reg.governingTokenMint voter) := by
      rw [hrealm, hmint]
    have hfail := createVoterWeightRecord_in_use env ⟨⟨(Request.enrol d voter payer).registrar
      env, (Request.enrol d voter payer).record env, voter, payer, systemProgramId⟩, [],
        isSigner, isWritable⟩ voter s.ledger reg hreg hsigns (hpayer.1 rfl) rfl hseeds
      (hclear.funds_ne payer rfl) ⟨hpayer.2 rfl, hwritable⟩ hused
    rw [Request.answer, Request.dao, hq, Request.voter, hb]
    exact congrArg told hfail

include hrun hc hnot hq in
/-- A confirmation goes by the identity account, if there is a ballot. -/
theorem told_confirm (voter : Pubkey) (hclear : (Request.confirm d voter).Clear env)
    (hgrants : Grants ((Request.confirm d voter).built env).keys isSigner isWritable) :
    told ((Request.confirm d voter).result env s isSigner isWritable) =
      (Request.confirm d voter).answer env s.ledger (registerOf env h s) := by
  rcases hb : (registerOf env h s).ballot (d, voter) with _ | b
  · rw [process_unenrolled env h s hrun hc isSigner isWritable _ hclear (fun _ _ _ => nofun) q hq
      hb, Request.answer, Request.dao, hq, Request.voter, hb]
    rfl
  · have hsigns := voter_signs env _ isSigner isWritable hgrants
    have hwritable := record_writable env _ isSigner isWritable hgrants
    rcases controls_in_force env h s hrun hc hnot d voter q b hq hb isSigner isWritable hsigns
      hwritable with ⟨reg, record, hpol, hroom, hctl⟩
    have hout := outcome_update env s.clock ⟨⟨(Request.confirm d voter).registrar env,
      (Request.confirm d voter).record env, voter⟩, [env.identityAddress voter], isSigner,
        isWritable⟩ s.ledger reg record hctl rfl hroom (time_nonneg env h s hrun)
    rw [Request.answer, Request.dao, hq, Request.voter, hb, ← hpol, ← told_outcome]
    exact congrArg told hout

include hrun hc hnot hq in
/-- Whoever has a ballot can withdraw. -/
theorem told_withdraw (voter solDestination : Pubkey)
    (hclear : (Request.withdraw d voter solDestination).Clear env)
    (hgrants : Grants ((Request.withdraw d voter solDestination).built env).keys isSigner
      isWritable) :
    told ((Request.withdraw d voter solDestination).result env s isSigner isWritable) =
      (Request.withdraw d voter solDestination).answer env s.ledger (registerOf env h s) := by
  rcases hb : (registerOf env h s).ballot (d, voter) with _ | b
  · rw [process_unenrolled env h s hrun hc isSigner isWritable _ hclear (fun _ _ _ => nofun) q hq
      hb, Request.answer, Request.dao, hq, Request.voter, hb]
    rfl
  · rw [told_permitted env h s hrun hc hnot isSigner isWritable _ hclear hgrants _ _ rfl
      (.withdraw _ _ _ q b hq hb), Request.answer, Request.dao, hq, Request.voter, hb]

end

include hrun hc hnot in
/-- The program answers a request as the register does. -/
theorem told_request (r : Request) (hclear : r.Clear env)
    (hgrants : Grants (r.built env).keys isSigner isWritable) :
    told (r.result env s isSigner isWritable) = r.answer env s.ledger (registerOf env h s) := by
  rcases hq : (registerOf env h s).policy r.dao with _ | q
  · have hvacant := vacant_of_no_policy env h s hrun hc r.dao hclear.registrar_free hq
    rw [process_unregistered env s isSigner isWritable r hvacant, Request.answer, hq]
    rfl
  · cases r with
    | enrol d voter payer =>
        exact told_enrol env h s hrun hc hnot isSigner isWritable d q hq voter payer hclear hgrants
    | confirm d voter =>
        exact told_confirm env h s hrun hc hnot isSigner isWritable d q hq voter hclear hgrants
    | withdraw d voter solDestination =>
        exact told_withdraw env h s hrun hc hnot isSigner isWritable d q hq voter solDestination
          hclear hgrants

end

/-- What a client sends for a request is read by the program, and answered as
    the register and the voter's identity account say. If it is answered with
    success, the register has made the move. -/
theorem request_answered (env : Env) (hspec : GovernanceSpec env) (h : History) (s : State)
    (hcalm : Calm env h s) (r : Request) (hclear : r.Clear env)
    (isSigner isWritable : Pubkey → Bool)
    (hgrants : Grants (r.built env).keys isSigner isWritable) :
    ∃ ix, parse ((r.built env).keys.map AccountMeta.pubkey) isSigner isWritable
        (r.built env).data = some ix ∧
      told (process env s.clock ix s.ledger) = r.answer env s.ledger (registerOf env h s) ∧
      ∀ ledger', process env s.clock ix s.ledger = .ok ledger' →
        ∃ move, r.Asks env s.ledger move ∧
          Registry.Step term lastSlot (registerOf env h s) move
            (registerOf env (⟨s, .instruction ix, ⟨ledger', s.clock⟩⟩ :: h)
              ⟨ledger', s.clock⟩) := by
  have hc := consistent_run env hspec h s hcalm.run (fun e he => (hcalm.steps e he).1)
  have hnot : ∀ e ∈ h, ¬ RewritesVoterRecord env e := fun e he => (hcalm.steps e he).2
  refine ⟨_, (parse_call env isSigner isWritable _ _ (request_build env r)).2,
    told_request env h s hcalm.run hc hnot isSigner isWritable r hclear hgrants, ?_⟩
  intro ledger' hp
  exact request_moves env h s hcalm.run hc hnot r hclear isSigner isWritable
    ⟨ledger', s.clock⟩ rfl hp

/-- A confirmation before the enrolment is told that there is no record. -/
theorem request_answered_devnet : ∃ ix,
    parse (((Request.confirm (Devnet.realm, Devnet.mint) Devnet.voterA).built Devnet.env).keys.map
      AccountMeta.pubkey) Devnet.joiningTransaction.isSigner Devnet.joiningTransaction.isWritable
      ((Request.confirm (Devnet.realm, Devnet.mint) Devnet.voterA).built Devnet.env).data =
        some ix ∧
    told (process Devnet.env (Devnet.after [Devnet.createRegistrar Devnet.mint]).2.clock ix
      (Devnet.after [Devnet.createRegistrar Devnet.mint]).2.ledger) = .error .missing := by
  have hmem : Request.confirm (Devnet.realm, Devnet.mint) Devnet.voterA ∈ Devnet.joining :=
    List.mem_cons_of_mem _ List.mem_cons_self
  rcases request_answered Devnet.env (cluster_governanceSpec _ _ _) _ _ Devnet.created_calm
    (.confirm (Devnet.realm, Devnet.mint) Devnet.voterA) (Devnet.joining_clear _ hmem) _ _
    (transaction_grants Devnet.joiningTransaction _ (List.mem_map_of_mem hmem)) with
    ⟨ix, hparse, htold, _⟩
  refine ⟨ix, hparse, htold.trans ?_⟩
  decide +kernel

end EntrosVoterWeight
