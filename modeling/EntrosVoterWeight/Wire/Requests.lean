import EntrosVoterWeight.Wire.Transaction

/-!
# What Voters Ask For

The transactions of voters, and the moves of the register they stand for.

A voter asks the client for one of three things: to be enrolled with a body,
to have the ballot confirmed, or to be taken off the list. The client knows
nothing of the ledger. It derives addresses, fills a buffer and marks the
signers, and several such instructions can go into one transaction.

The program then does with the transaction what the register says. If the
register permits the moves one after the other, with the identity accounts as
they are, the transaction succeeds and the register is what the moves make of
it. If it does not, the transaction fails. Nothing else decides: no account
that exists elsewhere, no leftover of an earlier life of the record, no clock.

What is assumed of the addresses is that they are derived from their own seeds
only, that no program is at one, and that nobody has a record pay for itself.

## Main definitions

* `Request`: What a voter asks for.
* `Request.built`: The client's instruction for it.
* `Request.Asks`: The move it stands for.
* `Request.Clear`: What is assumed of its addresses.

## Theorems

* `request_succeeds`: A permitted move is made.
* `request_moves`: A request that succeeds is a permitted move.
* `requests_decided`: The same of several requests in one transaction.
-/

namespace EntrosVoterWeight

open Borsh Anchor Transition

/-- What a voter asks for, with who pays for the record or gets the rent
    back. -/
inductive Request
  | enrol (d : Dao) (voter payer : Pubkey)
  | confirm (d : Dao) (voter : Pubkey)
  | withdraw (d : Dao) (voter solDestination : Pubkey)

def Request.dao : Request → Dao
  | .enrol d _ _ => d
  | .confirm d _ => d
  | .withdraw d _ _ => d

def Request.voter : Request → Pubkey
  | .enrol _ voter _ => voter
  | .confirm _ voter => voter
  | .withdraw _ voter _ => voter

/-- Who pays, or is paid. -/
def Request.funds : Request → Option Pubkey
  | .enrol _ _ payer => some payer
  | .confirm _ _ => none
  | .withdraw _ _ solDestination => some solDestination

/-- The registrar a client derives for a request. -/
def Request.registrar (env : Env) (r : Request) : Pubkey :=
  env.address (.registrar r.dao.1 r.dao.2)

/-- The record a client derives for a request. -/
def Request.record (env : Env) (r : Request) : Pubkey :=
  env.address (.voterWeightRecord r.dao.1 r.dao.2 r.voter)

/-- The helper that is called for a request. -/
def Request.call (env : Env) (r : Request) : Call :=
  match r with
  | .enrol d voter payer => .createVoterWeightRecord (r.registrar env) d.1 d.2 voter payer
  | .confirm _ voter =>
    .updateVoterWeightRecord (r.registrar env) (r.record env) voter (env.identityAddress voter)
  | .withdraw _ voter solDestination =>
    .closeVoterWeightRecord (r.registrar env) (r.record env) voter solDestination

/-- The client's instruction for a request. -/
def Request.built (env : Env) (r : Request) : TransactionInstruction :=
  match r with
  | .enrol d voter payer =>
    (buildCreateVoterWeightRecordInstruction env (r.registrar env) d.1 d.2 voter payer).1
  | .confirm _ voter =>
    buildUpdateVoterWeightRecordInstruction (r.registrar env) (r.record env) voter
      (env.identityAddress voter)
  | .withdraw _ voter solDestination =>
    buildCloseVoterWeightRecordInstruction (r.registrar env) (r.record env) voter solDestination

/-- The move a request stands for, with the identity accounts as they are. -/
def Request.Asks (env : Env) (ledger : Ledger) (r : Request)
    (move : Registry.Event Dao Pubkey) : Prop :=
  match r with
  | .enrol d voter _ => move = .enrol d voter
  | .confirm d voter => ∃ id, Identifies env ledger voter id ∧ move = .confirm d voter id
  | .withdraw d voter _ => move = .withdraw d voter

/-- The addresses of a request are its own, and no record pays for itself. -/
structure Request.Clear (env : Env) (r : Request) : Prop where
  registrar_free : CollisionFreeAt env (.registrar r.dao.1 r.dao.2)
  record_free : CollisionFreeAt env (.voterWeightRecord r.dao.1 r.dao.2 r.voter)
  not_executable : env.executable (r.record env) = false
  funds_ne : ∀ key, r.funds = some key → key ≠ r.record env

theorem request_build (env : Env) (r : Request) : (r.call env).build env = some (r.built env) := by
  cases r <;> rfl

/-- The identity account of a wallet has one content. -/
theorem identifies_unique (env : Env) (ledger : Ledger) (voter : Pubkey)
    (id id' : Registry.Identity) (h : Identifies env ledger voter id)
    (h' : Identifies env ledger voter id') : id = id' := by
  rcases h with ⟨_, identity, rest, hdata, rfl⟩
  rcases h' with ⟨_, identity', rest', hdata', rfl⟩
  have htrust := congrArg trustScore (hdata.symm.trans hdata')
  have hlast := congrArg lastVerificationTimestamp (hdata.symm.trans hdata')
  rw [trustScore_header, trustScore_header] at htrust
  rw [lastVerificationTimestamp_header, lastVerificationTimestamp_header] at hlast
  rw [htrust, hlast]

/-- A request stands for one move. -/
theorem asks_unique (env : Env) (ledger : Ledger) (r : Request)
    (move move' : Registry.Event Dao Pubkey) (h : r.Asks env ledger move)
    (h' : r.Asks env ledger move') : move = move' := by
  cases r with
  | enrol d voter payer => exact Eq.trans h h'.symm
  | confirm d voter =>
      rcases h with ⟨id, hid, rfl⟩
      rcases h' with ⟨id', hid', rfl⟩
      rw [identifies_unique env ledger voter id id' hid hid']
  | withdraw d voter solDestination => exact Eq.trans h h'.symm

/-! ### Reading the register back -/

/-- Time starts at zero or later, and goes on. -/
theorem time_nonneg (env : Env) (h : History) (s : State) (hrun : Run (plugin env) h s) :
    0 ≤ s.clock.unixTimestamp.toInt := by
  refine run_induct (plugin env) (fun _ => True) (fun _ s => 0 ≤ s.clock.unixTimestamp.toInt)
    ?_ ?_ h s hrun (fun _ _ => trivial)
  · exact fun s hs => Int64.le_iff_toInt_le.mp hs.time_nonneg
  · intro h s e s' _ ih hst _
    cases hst with
    | instruction ix =>
        rcases hp : process env s.clock ix s.ledger with err | ledger'
        · rw [apply_error env s ix err hp]
          exact ih
        · rw [apply_ok env s ix ledger' hp]
          exact ih
    | tick clock _ htime => exact ih.trans (Int64.le_iff_toInt_le.mp htime)
    | other ledger _ => exact ih

section
variable (env : Env) (h : History) (s : State) (hrun : Run (plugin env) h s)
variable (hc : Consistent env (origin env h) s.ledger)
variable (hnot : ∀ e ∈ h, ¬ RewritesVoterRecord env e)

include hc in
/-- The registrar of a policy in force. -/
theorem registrar_in_force (d : Dao) (q : Registry.Policy)
    (hq : (registerOf env h s).policy d = some q) :
    ∃ registrar, (s.ledger (env.address (.registrar d.1 d.2))).owner = programId ∧
      AccountDeserialize.tryDeserialize (s.ledger (env.address (.registrar d.1 d.2))).data =
        .ok registrar ∧
      policyOf registrar = q ∧ registrar.realm = d.1 ∧ registrar.governingTokenMint = d.2 := by
  by_cases ho : origin env h (env.address (.registrar d.1 d.2)) = some (.registrar d.1 d.2)
  · have hs := hc.shape (env.address (.registrar d.1 d.2))
    have hr := hc.refined (env.address (.registrar d.1 d.2))
    rw [ho] at hs hr
    rcases refined_registrar env _ _ _ hr with ⟨reg, hload, hsound⟩
    simp only [registerOf, holding, if_pos ho, policyIn_of_loads _ reg hload,
      Option.some.injEq] at hq
    exact ⟨reg, RegistrarShape.owned hs, hload, hq, hsound.realm_eq, hsound.mint_eq⟩
  · simp only [registerOf, holding, if_neg ho, reduceCtorEq] at hq

include hc in
/-- A registrar at the address of a body is the body's. -/
theorem dao_of_registrar (d : Dao) (hfree : CollisionFreeAt env (.registrar d.1 d.2))
    (registrar : Registrar)
    (hreg : registrarAt s.ledger (env.address (.registrar d.1 d.2)) = some registrar) :
    (registrar.realm, registrar.governingTokenMint) = d := by
  rcases (registrarAt_eq_some ..).mp hreg with ⟨hown, hload⟩
  rcases consistent_registrar env _ s.ledger hc _ registrar hown hload with ⟨_, haddr, _⟩
  have hplace := place_of_address env _ _ hfree haddr.symm
  rw [Place.registrar.injEq] at hplace
  exact Prod.ext hplace.1 hplace.2

include hrun hnot in
/-- The record of a ballot. -/
theorem record_in_force (d : Dao) (voter : Pubkey) (b : Registry.Ballot)
    (hb : (registerOf env h s).ballot (d, voter) = some b) :
    ∃ record : VoterWeightRecord,
      (s.ledger (env.address (.voterWeightRecord d.1 d.2 voter))).owner = programId ∧
      AccountDeserialize.tryDeserialize
        (s.ledger (env.address (.voterWeightRecord d.1 d.2 voter))).data = .ok record ∧
      131 ≤ (s.ledger (env.address (.voterWeightRecord d.1 d.2 voter))).data.length ∧
      record.realm = d.1 ∧ record.governingTokenMint = d.2 ∧
      record.governingTokenOwner = voter := by
  by_cases ho : origin env h (env.address (.voterWeightRecord d.1 d.2 voter)) =
      some (.voterWeightRecord d.1 d.2 voter)
  · have hs := shape_run env h s hrun (env.address (.voterWeightRecord d.1 d.2 voter))
    rw [ho] at hs
    rcases VoterShape.record hs with ⟨r, hload, hf⟩
    have howner := (owner_kept env h s hrun hnot _ _ _ _ r ho hload).1
    refine ⟨r, VoterShape.owned hs, hload, ?_, hf.realm_eq, hf.mint_eq, howner⟩
    rw [VoterShape.length hs, VoterWeightRecord.getSpace]
    omega
  · simp only [registerOf, holding, if_neg ho, reduceCtorEq] at hb

include hrun hc hnot in
/-- What an update and a close ask for, of a ballot under a policy. -/
theorem controls_in_force (d : Dao) (voter : Pubkey) (q : Registry.Policy) (b : Registry.Ballot)
    (hq : (registerOf env h s).policy d = some q)
    (hb : (registerOf env h s).ballot (d, voter) = some b) (isSigner isWritable : Pubkey → Bool)
    (hsigns : isSigner voter = true)
    (hwritable : isWritable (env.address (.voterWeightRecord d.1 d.2 voter)) = true) :
    ∃ registrar record, policyOf registrar = q ∧
      131 ≤ (s.ledger (env.address (.voterWeightRecord d.1 d.2 voter))).data.length ∧
      ControlsRecord env s.ledger isSigner isWritable (env.address (.registrar d.1 d.2))
        (env.address (.voterWeightRecord d.1 d.2 voter)) voter registrar record := by
  rcases registrar_in_force env h s hc d q hq with ⟨reg, hown, hload, hpol, hrealm, hmint⟩
  rcases record_in_force env h s hrun hnot d voter b hb with
    ⟨record, hrown, hrload, hroom, hrrealm, hrmint, hrowner⟩
  refine ⟨reg, record, hpol, hroom, hown, hload, hrown, hrload, hsigns, ?_, hwritable,
    hrrealm.trans hrealm.symm, hrmint.trans hmint.symm, hrowner⟩
  rw [hrealm, hmint]

include hrun in
/-- Where a place that would be read holds nothing, its address is vacant. -/
theorem vacant_of_not_held {β : Type} (read : Account → Option β) (p : Place)
    (hfree : CollisionFreeAt env p)
    (hread : origin env h (env.address p) = some p → read (s.ledger (env.address p)) ≠ none)
    (hnone : holding env read (origin env h) s.ledger p = none) :
    s.ledger (env.address p) = .vacant := by
  refine derived_vacant env h s hrun p ?_
  rcases ho : origin env h (env.address p) with _ | q
  · rfl
  · -- Whatever was created here was created for this place.
    have hs := shape_run env h s hrun (env.address p)
    rw [ho] at hs
    have hq := place_of_address env _ q hfree (shape_placed env q _ _ hs).2.symm
    subst hq
    rw [holding, if_pos ho] at hnone
    exact absurd hnone (hread ho)

include hrun in
/-- Without a ballot, the record's address is vacant. -/
theorem vacant_of_no_ballot (d : Dao) (voter : Pubkey)
    (hfree : CollisionFreeAt env (.voterWeightRecord d.1 d.2 voter))
    (hb : (registerOf env h s).ballot (d, voter) = none) :
    s.ledger (env.address (.voterWeightRecord d.1 d.2 voter)) = .vacant := by
  refine vacant_of_not_held env h s hrun ballotIn _ hfree ?_ hb
  intro ho
  have hs := shape_run env h s hrun (env.address (.voterWeightRecord d.1 d.2 voter))
  rw [ho] at hs
  rcases VoterShape.record hs with ⟨r, hload, _⟩
  rw [ballotIn_of_loads _ r hload]
  exact Option.some_ne_none _

include hrun hc in
/-- Without a policy, the registrar's address is. -/
theorem vacant_of_no_policy (d : Dao) (hfree : CollisionFreeAt env (.registrar d.1 d.2))
    (hq : (registerOf env h s).policy d = none) :
    s.ledger (env.address (.registrar d.1 d.2)) = .vacant := by
  refine vacant_of_not_held env h s hrun policyIn _ hfree ?_ hq
  intro ho
  have hr := hc.refined (env.address (.registrar d.1 d.2))
  rw [ho] at hr
  rcases refined_registrar env _ _ _ hr with ⟨reg, hload, _⟩
  rw [policyIn_of_loads _ reg hload]
  exact Option.some_ne_none _

include hrun in
/-- An identity the policy admits passes the checks of an update. -/
theorem eligible_of_admits (registrar : Registrar) (voter : Pubkey) (id : Registry.Identity)
    (hid : Identifies env s.ledger voter id)
    (hadm : (policyOf registrar).Admits s.clock.unixTimestamp.toInt id) :
    Eligible env s.clock registrar s.ledger voter := by
  rcases hid with ⟨hown, identity, rest, hdata, rfl⟩
  have hheader := (header_iff _).mpr ⟨identity, rest, hdata⟩
  have hnow := time_nonneg env h s hrun
  have hlast := int64_bounds identity.lastVerificationTimestamp
  refine ⟨⟨hown, hheader.1, hheader.2, ?_⟩, ?_, ?_⟩
  · rw [hdata, trustScore_header]
    exact UInt16.le_iff_toNat_le.mpr hadm.1
  · rw [hdata, lastVerificationTimestamp_header]
    omega
  · rw [hdata, lastVerificationTimestamp_header]
    exact hadm.2

/-! ### One request -/

variable (r : Request) (hclear : r.Clear env) (isSigner isWritable : Pubkey → Bool)
variable (hgrants : Grants (r.built env).keys isSigner isWritable)

include hgrants in
theorem voter_signs : isSigner r.voter = true := by
  cases r with
  | enrol d voter payer =>
      exact (hgrants ⟨voter, true, false⟩ (by simp only [Request.built,
        buildCreateVoterWeightRecordInstruction, List.mem_cons, true_or, or_true])).1 rfl
  | confirm d voter =>
      exact (hgrants ⟨voter, true, false⟩ (by simp only [Request.built,
        buildUpdateVoterWeightRecordInstruction, List.mem_cons, true_or, or_true])).1 rfl
  | withdraw d voter solDestination =>
      exact (hgrants ⟨voter, true, false⟩ (by simp only [Request.built,
        buildCloseVoterWeightRecordInstruction, List.mem_cons, true_or, or_true])).1 rfl

include hgrants in
theorem record_writable : isWritable (r.record env) = true := by
  refine (hgrants ⟨r.record env, false, true⟩ ?_).2 rfl
  cases r <;> exact List.mem_cons_of_mem _ List.mem_cons_self

include hrun hc hnot hclear hgrants in
/-- A move that the register permits is made. -/
theorem request_succeeds (move : Registry.Event Dao Pubkey) (r' : Registry.State Dao Pubkey)
    (hasks : r.Asks env s.ledger move)
    (hstep : Registry.Step term lastSlot (registerOf env h s) move r') :
    ∃ ledger', process env s.clock ((r.call env).instruction env isSigner isWritable) s.ledger =
      .ok ledger' := by
  have hsigns := voter_signs env r isSigner isWritable hgrants
  have hwritable := record_writable env r isSigner isWritable hgrants
  cases r with
  | enrol d voter payer =>
      cases hasks
      cases hstep with
      | enrol _ _ q hq hnone =>
          rcases registrar_in_force env h s hc d q hq with ⟨reg, hown, hload, _, hrealm, hmint⟩
          have hpayer := hgrants ⟨payer, true, true⟩ (by simp only [Request.built,
            buildCreateVoterWeightRecordInstruction, List.mem_cons, true_or, or_true])
          have hvacant := vacant_of_no_ballot env h s hrun d voter hclear.record_free hnone
          -- The record is vacant, and every other check is the client's own doing.
          refine ⟨_, (createVoterWeightRecord_eq_ok ..).mpr ⟨reg, ⟨hown, hload, hsigns,
            hpayer.1 rfl, rfl, ?_, ⟨hclear.funds_ne payer rfl, hpayer.2 rfl, hwritable⟩, hvacant,
            ?_, rfl⟩, rfl⟩⟩
          · rw [hrealm, hmint]
          · rw [hrealm, hmint]
            rfl
  | confirm d voter =>
      rcases hasks with ⟨id, hid, rfl⟩
      cases hstep with
      | confirm _ _ _ q b hq hadm hb =>
          rcases controls_in_force env h s hrun hc hnot d voter q b hq hb isSigner isWritable hsigns
            hwritable with ⟨reg, record, rfl, hroom, hctl⟩
          exact ⟨_, (updateVoterWeightRecord_eq_ok ..).mpr ⟨reg, record, hctl, rfl,
            eligible_of_admits env h s hrun reg voter id hid hadm, hroom, rfl⟩⟩
  | withdraw d voter solDestination =>
      cases hasks
      cases hstep with
      | withdraw _ _ q b hq hb =>
          rcases controls_in_force env h s hrun hc hnot d voter q b hq hb isSigner isWritable hsigns
            hwritable with ⟨reg, record, _, _, hctl⟩
          have hdest := hgrants ⟨solDestination, false, true⟩ (by simp only [Request.built,
            buildCloseVoterWeightRecordInstruction, List.mem_cons, true_or, or_true])
          exact ⟨_, (closeVoterWeightRecord_eq_ok ..).mpr ⟨reg, record, hctl,
            (hclear.funds_ne solDestination rfl).symm, hdest.2 rfl, rfl⟩⟩

include hrun hc hnot hclear in
/-- A request that succeeds is a permitted move of the register. -/
theorem request_moves (s' : State) (hclock : s'.clock = s.clock)
    (hp : process env s.clock ((r.call env).instruction env isSigner isWritable) s.ledger =
      .ok s'.ledger) :
    ∃ move, r.Asks env s.ledger move ∧ Registry.Step term lastSlot (registerOf env h s) move
      (registerOf env
        (⟨s, .instruction ((r.call env).instruction env isSigner isWritable), s'⟩ :: h) s') := by
  have hdao := dao_of_registrar env h s hc r.dao hclear.registrar_free
  cases r with
  | enrol d voter payer =>
      rcases move_createVoterWeightRecord env h s s' hrun hc hclock _ voter hp with
        ⟨registrar, hreg, hmove⟩
      rw [hdao registrar hreg] at hmove
      exact ⟨_, rfl, hmove.step⟩
  | confirm d voter =>
      rcases move_updateVoterWeightRecord env h s s' hrun hc hclock hnot _ hp with
        ⟨id, registrar, hreg, hmove⟩
      rw [hdao registrar hreg] at hmove
      exact ⟨_, ⟨id, hmove.licensed.2, rfl⟩, hmove.step⟩
  | withdraw d voter solDestination =>
      rcases move_closeVoterWeightRecord env h s s' hrun hc hclock hnot _ hp with
        ⟨registrar, hreg, hmove⟩
      rw [hdao registrar hreg] at hmove
      exact ⟨_, rfl, hmove.step⟩

end

/-! ### Several requests -/

/-- A run in which the kinds of account are kept apart. -/
structure Calm (env : Env) (h : History) (s : State) : Prop where
  run : Run (plugin env) h s
  steps : ∀ e ∈ h, Separated env e.pre.ledger ∧ ¬ RewritesVoterRecord env e
  separated : Separated env s.ledger

/-- What a request leaves behind. -/
theorem target_call (env : Env) (r : Request) (isSigner isWritable : Pubkey → Bool) :
    ((r.call env).instruction env isSigner isWritable).target = r.record env := by
  cases r <;> rfl

/-- No account of another program is at an address of this one. -/
theorem derived_owner (env : Env) (h : History) (s : State) (hrun : Run (plugin env) h s)
    (p : Place) : (s.ledger (env.address p)).owner ≠ entrosAnchorProgramId := by
  rcases ho : origin env h (env.address p) with _ | q
  · rw [derived_vacant env h s hrun p ho]
    decide
  · have hs := shape_run env h s hrun (env.address p)
    rw [ho] at hs
    rw [(shape_placed env q _ _ hs).1]
    decide

section
variable (env : Env) (hspec : GovernanceSpec env) (h : History) (s : State)
variable (hcalm : Calm env h s) (r : Request) (isSigner isWritable : Pubkey → Bool)
variable (ledger' : Ledger) (hp : process env s.clock
  ((r.call env).instruction env isSigner isWritable) s.ledger = .ok ledger')

/-- The history after a request. -/
def Request.entry (env : Env) (s : State) (r : Request) (isSigner isWritable : Pubkey → Bool)
    (ledger' : Ledger) : Entry State Event :=
  ⟨s, .instruction ((r.call env).instruction env isSigner isWritable), ⟨ledger', s.clock⟩⟩

include hcalm hp in
/-- A run stays calm over a request. -/
theorem calm_request (hclear : r.Clear env) :
    Calm env (r.entry env s isSigner isWritable ledger' :: h) ⟨ledger', s.clock⟩ := by
  refine ⟨?_, ?_, ?_⟩
  · exact .step h s _ _ hcalm.run (step_ok env s _ ledger' hp)
  · intro e he
    rcases List.mem_cons.mp he with rfl | he
    · refine ⟨hcalm.separated, ?_⟩
      intro hbad
      rcases hbad with ⟨ctx, w, _, _, hev, _⟩
      cases r <;> exact absurd hev (by simp only [Request.entry, Request.call, Call.instruction,
        Event.instruction.injEq, reduceCtorEq, not_false_eq_true])
    · exact hcalm.steps e he
  · -- No program is at the record's address, and nothing else changed.
    intro a governance mint realm hget
    by_cases ha : a = r.record env
    · rw [ha]
      exact hclear.not_executable
    · refine hcalm.separated a governance mint realm ?_
      rw [← process_frame env s.clock _ s.ledger ledger' hp a (by rw [target_call]; exact ha)]
      exact hget

include hcalm hp in
/-- A request leaves the identity accounts alone. -/
theorem identifies_request (hclear : r.Clear env) (voter : Pubkey) (id : Registry.Identity) :
    Identifies env ledger' voter id ↔ Identifies env s.ledger voter id := by
  by_cases ha : env.identityAddress voter = r.record env
  · -- At the record's address there is no identity, before or after.
    have hafter := derived_owner env _ _
      (calm_request env h s hcalm r isSigner isWritable ledger' hp hclear).run
      (.voterWeightRecord r.dao.1 r.dao.2 r.voter)
    have hbefore := derived_owner env h s hcalm.run (.voterWeightRecord r.dao.1 r.dao.2 r.voter)
    constructor
    · intro hid
      rcases hid with ⟨hown, _⟩
      rw [ha] at hown
      exact absurd hown hafter
    · intro hid
      rcases hid with ⟨hown, _⟩
      rw [ha] at hown
      exact absurd hown hbefore
  · have hkept := process_frame env s.clock _ s.ledger ledger' hp _ (by rw [target_call]; exact ha)
    rw [Identifies, Identifies, hkept]

include hcalm hp in
/-- Later requests ask for the same as before. -/
theorem asks_request (hclear : r.Clear env) (r₂ : Request) (move : Registry.Event Dao Pubkey) :
    r₂.Asks env ledger' move ↔ r₂.Asks env s.ledger move := by
  cases r₂ with
  | enrol d voter payer => exact Iff.rfl
  | confirm d voter =>
      simp only [Request.Asks,
        identifies_request env h s hcalm r isSigner isWritable ledger' hp hclear]
  | withdraw d voter solDestination => exact Iff.rfl

end

/-- An instruction of a request runs as what it calls for. -/
theorem run_built (env : Env) (clock : Clock) (tx : Transaction) (ledger : Ledger) (r : Request) :
    tx.runInstruction env clock ledger (r.built env) =
      (process env clock ((r.call env).instruction env tx.isSigner tx.isWritable)
        ledger).toOption :=
  run_call env clock tx ledger (r.call env) _ (request_build env r)

/-- The moves that requests stand for. -/
def Asked (env : Env) (ledger : Ledger) (rs : List Request)
    (moves : List (Registry.Event Dao Pubkey)) : Prop :=
  List.Forall₂ (fun r move => r.Asks env ledger move) rs moves

/-- The instructions of some requests, one after the other, do what the
    register says. -/
theorem requests_run (env : Env) (hspec : GovernanceSpec env) (tx : Transaction)
    (rs : List Request) (h : History) (s : State) (hcalm : Calm env h s)
    (hrs : ∀ r ∈ rs, r.built env ∈ tx.instructions) (hclear : ∀ r ∈ rs, r.Clear env) :
    (∃ ledger' k moves, tx.runAll env s.clock (rs.map (Request.built env)) s.ledger = some ledger' ∧
      Run (plugin env) (k ++ h) ⟨ledger', s.clock⟩ ∧ Asked env s.ledger rs moves ∧
      Registry.Moves term lastSlot (registerOf env h s) moves
        (registerOf env (k ++ h) ⟨ledger', s.clock⟩)) ∨
    (tx.runAll env s.clock (rs.map (Request.built env)) s.ledger = none ∧
      ∀ moves r', Asked env s.ledger rs moves →
        ¬ Registry.Moves term lastSlot (registerOf env h s) moves r') := by
  induction rs generalizing h s with
  | nil => exact Or.inl ⟨s.ledger, [], [], rfl, hcalm.run, .nil, .nil _⟩
  | cons r rs ih =>
      have hcl := hclear r List.mem_cons_self
      have hc := consistent_run env hspec h s hcalm.run (fun e he => (hcalm.steps e he).1)
      have hnot : ∀ e ∈ h, ¬ RewritesVoterRecord env e := fun e he => (hcalm.steps e he).2
      have hgrants := transaction_grants tx _ (hrs r List.mem_cons_self)
      rw [List.map_cons, Transaction.runAll, run_built]
      rcases hp : process env s.clock ((r.call env).instruction env tx.isSigner tx.isWritable)
          s.ledger with err | ledger'
      · -- The first one fails, so its move is not permitted.
        refine Or.inr ⟨rfl, ?_⟩
        intro moves r' hasked hmoves
        cases hasked with
        | cons hasks _ =>
            cases hmoves with
            | cons _ _ t _ _ hstep _ =>
                rcases request_succeeds env h s hcalm.run hc hnot r hcl tx.isSigner tx.isWritable
                  hgrants _ t hasks hstep with ⟨ledger', hok⟩
                rw [hp] at hok
                exact absurd hok (by simp only [reduceCtorEq, not_false_eq_true])
      · rcases request_moves env h s hcalm.run hc hnot r hcl tx.isSigner tx.isWritable
          ⟨ledger', s.clock⟩ rfl hp with ⟨move, hasks, hstep⟩
        have hkept := asks_request env h s hcalm r tx.isSigner tx.isWritable ledger' hp hcl
        have hasked : ∀ moves, Asked env ledger' rs moves ↔ Asked env s.ledger rs moves := by
          intro moves
          simp only [Asked, hkept]
        have hnext := calm_request env h s hcalm r tx.isSigner tx.isWritable ledger' hp hcl
        rcases ih _ _ hnext (fun x hx => hrs x (List.mem_cons_of_mem _ hx))
          (fun x hx => hclear x (List.mem_cons_of_mem _ hx)) with
          ⟨l, k, moves, hrun, hr, ha, hm⟩ | ⟨hnone, hnever⟩
        · -- The rest runs on the ledger the first one leaves.
          refine Or.inl ⟨l, k ++ [r.entry env s tx.isSigner tx.isWritable ledger'], move :: moves,
            hrun, ?_, .cons hasks ((hasked moves).mp ha), .cons _ _ _ _ _ hstep ?_⟩
          · rw [List.append_assoc]
            exact hr
          · rw [List.append_assoc]
            exact hm
        · refine Or.inr ⟨hnone, ?_⟩
          intro moves r' ha hm
          cases ha with
          | cons hasks' hrest =>
              cases hm with
              | cons _ _ t _ _ hstep' hthen =>
                  -- The register's first move is the one the program made.
                  have hsame := asks_unique env s.ledger r _ _ hasks' hasks
                  subst hsame
                  rw [Registry.step_unique term lastSlot _ _ _ _ hstep' hstep] at hthen
                  exact hnever _ r' ((hasked _).mpr hrest) hthen

/-- A transaction of voters' requests succeeds exactly if the register permits
    the moves they stand for, one after the other, and then the register is
    what these moves make of it. -/
theorem requests_decided (env : Env) (hspec : GovernanceSpec env) (h : History) (s : State)
    (hcalm : Calm env h s) (tx : Transaction) (rs : List Request)
    (htx : tx.instructions = rs.map (Request.built env)) (hclear : ∀ r ∈ rs, r.Clear env) :
    ((∃ ledger', tx.run env s.clock s.ledger = some ledger') ↔
      ∃ moves r', Asked env s.ledger rs moves ∧
        Registry.Moves term lastSlot (registerOf env h s) moves r') ∧
    ∀ ledger', tx.run env s.clock s.ledger = some ledger' →
      ∃ k moves, Run (plugin env) (k ++ h) ⟨ledger', s.clock⟩ ∧ Asked env s.ledger rs moves ∧
        Registry.Moves term lastSlot (registerOf env h s) moves
          (registerOf env (k ++ h) ⟨ledger', s.clock⟩) := by
  have hmem : ∀ r ∈ rs, r.built env ∈ tx.instructions := by
    intro r hr
    rw [htx]
    exact List.mem_map_of_mem hr
  rw [Transaction.run, htx]
  rcases requests_run env hspec tx rs h s hcalm hmem hclear with
    ⟨ledger', k, moves, hok, hrun, hasked, hmoves⟩ | ⟨hnone, hnever⟩
  · refine ⟨⟨fun _ => ⟨moves, _, hasked, hmoves⟩, fun _ => ⟨ledger', hok⟩⟩, ?_⟩
    intro l hl
    rw [hok, Option.some.injEq] at hl
    subst hl
    exact ⟨k, moves, hrun, hasked, hmoves⟩
  · refine ⟨⟨?_, ?_⟩, ?_⟩
    · intro hsome
      rcases hsome with ⟨l, hl⟩
      rw [hnone] at hl
      exact absurd hl (by simp only [reduceCtorEq, not_false_eq_true])
    · intro hex
      rcases hex with ⟨moves, r', hasked, hmoves⟩
      exact absurd hmoves (hnever moves r' hasked)
    · intro l hl
      rw [hnone] at hl
      exact absurd hl (by simp only [reduceCtorEq, not_false_eq_true])

namespace Devnet

/-- A wallet is enrolled and confirmed in one transaction. -/
def joining : List Request := [.enrol (realm, mint) voterA payer, .confirm (realm, mint) voterA]

def joiningTransaction : Transaction := ⟨payer, joining.map (Request.built env), [payer, voterA]⟩

theorem created_calm :
    Calm env (after [createRegistrar mint]).1 (after [createRegistrar mint]).2 where
  run := after_run _
  steps := fun e he => by
    refine ⟨after_separated [createRegistrar mint] (by decide +kernel) e he, ?_⟩
    intro hbad
    rcases hbad with ⟨ctx, w, _, _, hev, _⟩
    rcases List.mem_singleton.mp he with rfl
    exact absurd hev (by simp only [createRegistrar, Event.instruction.injEq, reduceCtorEq,
      not_false_eq_true])
  separated := cluster_separated _ _ _ _ (by decide +kernel)

theorem joining_clear : ∀ r ∈ joining, r.Clear env := by
  intro r hr
  simp only [joining, List.mem_cons, List.not_mem_nil, or_false] at hr
  rcases hr with rfl | rfl
  · refine ⟨collisionFreeAt _ (by decide +kernel), collisionFreeAt _ (by decide +kernel),
      by decide +kernel, ?_⟩
    intro key hkey
    rw [Request.funds, Option.some.injEq] at hkey
    subst hkey
    decide +kernel
  · refine ⟨collisionFreeAt _ (by decide +kernel), collisionFreeAt _ (by decide +kernel),
      by decide +kernel, ?_⟩
    intro key hkey
    rw [Request.funds] at hkey
    exact absurd hkey (by simp only [reduceCtorEq, not_false_eq_true])

end Devnet

/-- The register permits the two moves, as the transaction succeeds. -/
theorem requests_decided_devnet :
    ∃ moves r', Asked Devnet.env (Devnet.after [Devnet.createRegistrar Devnet.mint]).2.ledger
        Devnet.joining moves ∧
      Registry.Moves term lastSlot (registerOf Devnet.env
        (Devnet.after [Devnet.createRegistrar Devnet.mint]).1
        (Devnet.after [Devnet.createRegistrar Devnet.mint]).2) moves r' := by
  refine (requests_decided Devnet.env (cluster_governanceSpec _ _ _) _ _ Devnet.created_calm
    Devnet.joiningTransaction Devnet.joining rfl Devnet.joining_clear).1.mp ?_
  exact Option.isSome_iff_exists.mp (by decide +kernel)

end EntrosVoterWeight
