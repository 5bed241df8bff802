import EntrosVoterWeight.Anchor.Lamports
import EntrosVoterWeight.Theory.Guarded
import EntrosVoterWeight.Wire.Reader
import EntrosVoterWeight.Wire.Requests

/-!
# The End-to-End Script

The script that tries the program out on a live cluster.

The script asks for a tenth of a SOL, reads the payer's identity account, has a
mint and a realm made by other programs, and then sends three transactions: a
registrar for the realm, a record for the payer, the update of the record. It
reads the record back and passes if the weight is one and there is an expiry.
Any error on the way ends it. The payer is the realm's authority, the voter,
and the one who pays.

A live cluster does not stand still. Before each of the script's transactions
the others do what they want, as long as they do not have the payer's
signature and leave the payer in charge of the realm. It makes no difference.
The first two transactions succeed, the third one does exactly if the payer's
identity is good enough at that moment, and then the script passes. There is
no run in which it gets to its verdict and fails.

The balance is looked at once, at the start. From there on the payer is taken to
be funded. What is only printed is left out, except for the date of the last
verification, which throws if it is none.

## Main definitions

* `getBalance`, `getAccountInfo`, `sendAndConfirmTransaction`: The connection.
* `readIdentity`, `createAccounts`, `updateAndRead`: The script's steps.
* `main`: The script.
* `Stage`: What holds between its transactions.
* `Passes`: What the script passes on.

## Theorems

* `accounts_created`: The first two transactions succeed.
* `update_reported`: When the third does, and what is read back.
* `script_verdict`: When the script passes.
-/

namespace EntrosVoterWeight

open Borsh Anchor Transition Node

namespace Script

/-! ### The script -/

/-- The lamports of an account. -/
def getBalance (lamports : Lamports) (key : Pubkey) : Nat := lamports key

/-- The data of an account that exists. -/
def getAccountInfo (ledger : Ledger) (key : Pubkey) : Option Buffer :=
  if ledger key = .vacant then none else some (ledger key).data

/-- Send a transaction. The first signer pays. -/
def sendAndConfirmTransaction (env : Env) (instructions : List TransactionInstruction)
    (signers : List Pubkey) (s : State) : Option State :=
  match signers with
  | [] => none
  | feePayer :: _ =>
    let tx : Transaction := ⟨feePayer, instructions, signers⟩
    if tx.isSigned then (tx.run env s.clock s.ledger).map fun ledger => ⟨ledger, s.clock⟩ else none

/-- A date, given in seconds, can be printed. -/
def Printable (seconds : Int) : Prop := -8640000000000 ≤ seconds ∧ seconds ≤ 8640000000000

instance (seconds : Int) : Decidable (Printable seconds) := inferInstanceAs (Decidable (_ ∧ _))

/-- The trust score and the last verification of the payer. -/
def readIdentity (env : Env) (payer : Pubkey) (ledger : Ledger) : Option (Nat × Int) := do
  let identityPda := env.findProgramAddress [utf8 "identity", payer.bytes] entrosAnchorProgramId
  let data ← getAccountInfo ledger identityPda
  let trustScore ← readUInt16LE data 60
  let lastVerif ← readBigInt64LE data 48
  if Printable lastVerif then some (trustScore, lastVerif) else none

/-- A registrar for the realm and a record for the payer. The others go on in
    the meantime. -/
def createAccounts (env : Env) (payer mint realmPda : Pubkey) (meanwhile : Nat → State → State)
    (s : State) : Option (State × Pubkey × Pubkey) := do
  let (createRegistrarIx, registrarPda) ←
    buildCreateRegistrarInstruction env realmPda mint payer payer 100 2592000
  let s ← sendAndConfirmTransaction env [createRegistrarIx] [payer] s
  let s := meanwhile 0 s
  let (createVwrIx, vwrPda) :=
    buildCreateVoterWeightRecordInstruction env registrarPda realmPda mint payer payer
  let s ← sendAndConfirmTransaction env [createVwrIx] [payer] s
  some (meanwhile 1 s, registrarPda, vwrPda)

/-- What the script prints at the end. -/
structure Report where
  voterWeight : Nat
  expirySlot : Option Nat
  realmMatches : Bool
  ownerMatches : Bool
deriving DecidableEq

/-- The script's verdict. -/
def Report.pass (report : Report) : Bool :=
  decide (report.voterWeight = 1) && report.expirySlot.any fun slot => decide (0 < slot)

/-- The update of the record, and the record as it then is. -/
def updateAndRead (env : Env) (payer realmPda registrarPda vwrPda : Pubkey)
    (meanwhile : Nat → State → State) (s : State) : Option Report := do
  let identityPda := env.findProgramAddress [utf8 "identity", payer.bytes] entrosAnchorProgramId
  let updateIx := buildUpdateVoterWeightRecordInstruction registrarPda vwrPda payer identityPda
  let s ← sendAndConfirmTransaction env [updateIx] [payer] s
  let s := meanwhile 2 s
  let vwrData ← getAccountInfo s.ledger vwrPda
  let (voterWeight, expirySlot) ← readVoterWeight vwrData
  some ⟨voterWeight, expirySlot, decide (slice vwrData 8 40 = realmPda.bytes),
    decide (slice vwrData 72 104 = payer.bytes)⟩

/-- The script. A payer without a tenth of a SOL, an error on the way, or an
    account that is missing, leaves nothing to report. -/
def main (env : Env) (payer mint realmPda : Pubkey) (setUp : State → State)
    (meanwhile : Nat → State → State) (lamports : Lamports) (s : State) : Option Report :=
  if getBalance lamports payer < 100000000 then none
  else do
    let _ ← readIdentity env payer s.ledger
    let (s, registrarPda, vwrPda) ← createAccounts env payer mint realmPda meanwhile (setUp s)
    updateAndRead env payer realmPda registrarPda vwrPda meanwhile s

/-! ### Sending one instruction -/

/-- A transaction of one instruction that only the payer has to sign. -/
def single (payer : Pubkey) (ix : TransactionInstruction) : Transaction := ⟨payer, [ix], [payer]⟩

/-- It is sent, and runs as the instruction that was called for. -/
theorem send_call (env : Env) (payer : Pubkey) (s : State) (call : Call)
    (ix : TransactionInstruction) (hbuild : call.build env = some ix)
    (hsigners : ∀ m ∈ ix.keys, m.isSigner = true → m.pubkey = payer) :
    sendAndConfirmTransaction env [ix] [payer] s =
      ((process env s.clock (call.instruction env (single payer ix).isSigner
        (single payer ix).isWritable) s.ledger).toOption).map fun ledger => ⟨ledger, s.clock⟩ := by
  -- All that has to sign is the payer.
  have hsigned : (single payer ix).isSigned = true := by
    rw [Transaction.isSigned, Bool.and_eq_true, List.all_eq_true]
    refine ⟨List.contains_iff_mem.mpr List.mem_cons_self, ?_⟩
    intro m hm
    have hkeys : m ∈ ix.keys := by
      simpa only [Transaction.metas, single, List.flatMap_cons, List.flatMap_nil,
        List.append_nil] using hm
    rcases hsign : m.isSigner with _ | _
    · rfl
    · rw [hsigners m hkeys hsign]
      exact List.contains_iff_mem.mpr List.mem_cons_self
  rw [sendAndConfirmTransaction]
  simp only [show (⟨payer, [ix], [payer]⟩ : Transaction) = single payer ix from rfl, hsigned,
    if_true]
  rw [Transaction.run, show (single payer ix).instructions = [ix] from rfl, Transaction.runAll,
    run_call env s.clock _ s.ledger call ix hbuild]
  rcases process env s.clock (call.instruction env (single payer ix).isSigner
    (single payer ix).isWritable) s.ledger with e | ledger'
  · rfl
  · rfl

/-! ### Between the transactions -/

/-- What the script relies on: an executable governance program, and addresses
    of its own. -/
structure Setting (env : Env) (payer : Pubkey) (d : Dao) : Prop where
  governance : env.executable governanceProgramId = true
  registrar_free : CollisionFreeAt env (.registrar d.1 d.2)
  record_free : CollisionFreeAt env (.voterWeightRecord d.1 d.2 payer)
  registrar_not_executable : env.executable (env.address (.registrar d.1 d.2)) = false
  record_not_executable : env.executable (env.address (.voterWeightRecord d.1 d.2 payer)) = false
  payer_ne_registrar : payer ≠ env.address (.registrar d.1 d.2)
  payer_ne_record : payer ≠ env.address (.voterWeightRecord d.1 d.2 payer)

/-- What holds between the script's transactions. -/
structure Stage (env : Env) (payer : Pubkey) (d : Dao) (s : State) : Prop where
  reached : ∃ h, Run (plugin env) h s ∧ ∀ e ∈ h, Separated env e.pre.ledger
  separated : Separated env s.ledger
  presides : Presides env governanceProgramId d payer s.ledger

/-- What the others do in the meantime, without the payer's signature. They
    leave the payer in charge of the realm. -/
structure Meanwhile (env : Env) (payer : Pubkey) (d : Dao) (s t : State) : Prop where
  path : ∃ p, Path (plugin env) p s t ∧ ∀ e ∈ p, ByOthers env governanceProgramId d payer e
  separated : Separated env t.ledger
  presides : Presides env governanceProgramId d payer t.ledger

section
variable (env : Env) (hspec : GovernanceSpec env) (payer : Pubkey) (d : Dao)
variable (hset : Setting env payer d) (s : State) (hstage : Stage env payer d s)

include hspec in
/-- The realm account belongs to the governance program. -/
theorem realm_elsewhere (ledger : Ledger) (hpres : Presides env governanceProgramId d payer ledger)
    (a : Pubkey) (hown : (ledger a).owner ≠ governanceProgramId) : d.1 ≠ a := by
  rcases hpres with ⟨rd, hget, _⟩
  intro heq
  have howner := hspec.owner _ _ _ _ hget
  rw [heq] at howner
  exact hown howner

include hspec hstage in
/-- A transaction of the script leads on, at an address that is no program and
    not the realm's. -/
theorem stage_own (ix : Instruction) (ledger' : Ledger)
    (hp : process env s.clock ix s.ledger = .ok ledger')
    (hexec : env.executable ix.target = false)
    (hown : (s.ledger ix.target).owner ≠ governanceProgramId) :
    Stage env payer d ⟨ledger', s.clock⟩ := by
  rcases hstage.reached with ⟨h, hrun, hsep⟩
  have hframe := process_frame env s.clock ix s.ledger ledger' hp
  refine ⟨⟨⟨s, .instruction ix, ⟨ledger', s.clock⟩⟩ :: h, ?_, ?_⟩, ?_, ?_⟩
  · exact .step h s _ _ hrun (step_ok env s ix ledger' hp)
  · intro e he
    rcases List.mem_cons.mp he with rfl | he
    · exact hstage.separated
    · exact hsep e he
  · intro a governance mint realm hget
    by_cases ha : a = ix.target
    · rw [ha]
      exact hexec
    · refine hstage.separated a governance mint realm ?_
      rw [← hframe a ha]
      exact hget
  · -- The realm account is elsewhere, so it says what it said.
    have hne := realm_elsewhere env hspec payer d s.ledger hstage.presides ix.target hown
    have hpres := hstage.presides
    rw [Presides, ← hframe d.1 hne] at hpres
    exact hpres

include hspec hset hstage in
/-- What the others do leads on, and leaves the script's two accounts. -/
theorem stage_others (t : State) (hmean : Meanwhile env payer d s t)
    (howner : ∀ record : VoterWeightRecord, AccountDeserialize.tryDeserialize
      (s.ledger (env.address (.voterWeightRecord d.1 d.2 payer))).data = .ok record →
        record.governingTokenOwner = payer) :
    Stage env payer d t ∧
    t.ledger (env.address (.registrar d.1 d.2)) = s.ledger (env.address (.registrar d.1 d.2)) ∧
    t.ledger (env.address (.voterWeightRecord d.1 d.2 payer)) =
      s.ledger (env.address (.voterWeightRecord d.1 d.2 payer)) := by
  rcases hstage.reached with ⟨h, hrun, hsep⟩
  rcases hmean.path with ⟨p, hpath, hothers⟩
  refine ⟨⟨⟨p ++ h, run_path (plugin env) p h s t hrun hpath, ?_⟩, hmean.separated,
    hmean.presides⟩, guarded_path env hspec governanceProgramId d payer h s hrun hsep p t hpath
      hothers hset.registrar_free hset.record_free howner⟩
  intro e he
  rcases List.mem_append.mp he with he | he
  · exact (hothers e he).separated
  · exact hsep e he

end

/-! ### The script's transactions -/

/-- The registrar the script creates. -/
def registrarOf (d : Dao) : Registrar :=
  ⟨governanceProgramId, d.1, d.2, 100, 2592000, FixedBytes.zero 64⟩

/-- Its policy. -/
def policy : Registry.Policy := ⟨100, 2592000⟩

/-- The registrar and the record, as the script left them. -/
structure Created (env : Env) (payer : Pubkey) (d : Dao) (record : Account) (s : State) :
    Prop where
  stage : Stage env payer d s
  registrar : s.ledger (env.address (.registrar d.1 d.2)) =
    ⟨programId, AccountSerialize.trySerialize (registrarOf d)⟩
  record : s.ledger (env.address (.voterWeightRecord d.1 d.2 payer)) = record

/-- The account of a record just created. -/
def recordAccount (env : Env) (payer : Pubkey) (d : Dao) : Account :=
  ⟨programId, overwrite (VoterWeightRecord.codec.encode (newVoterWeightRecord env d.1 d.2 payer))
    (List.replicate VoterWeightRecord.getSpace 0)⟩

section
variable (env : Env) (hspec : GovernanceSpec env) (payer : Pubkey) (d : Dao)
variable (hset : Setting env payer d) (s : State) (hstage : Stage env payer d s)

/-- The two addresses differ. -/
theorem registrar_ne_record (hset : Setting env payer d) :
    env.address (.registrar d.1 d.2) ≠ env.address (.voterWeightRecord d.1 d.2 payer) := by
  intro heq
  have hplace := place_of_address env _ _ hset.registrar_free heq.symm
  exact absurd hplace (by simp only [reduceCtorEq, not_false_eq_true])

/-- Whoever pays signs, and is writable. -/
theorem single_payer (ix : TransactionInstruction) :
    (single payer ix).isSigner payer = true ∧ (single payer ix).isWritable payer = true := by
  have hpays : decide (payer = (single payer ix).feePayer) = true := decide_eq_true rfl
  constructor
  · rw [Transaction.isSigner, hpays, Bool.true_or]
  · rw [Transaction.isWritable, hpays, Bool.true_or]

/-- What the helper builds for the script. -/
theorem build_registrar (env : Env) (payer : Pubkey) (d : Dao) :
    ∃ ix, buildCreateRegistrarInstruction env d.1 d.2 payer payer 100 2592000 =
        some (ix, env.address (.registrar d.1 d.2)) ∧
      ix.keys = [⟨env.address (.registrar d.1 d.2), false, true⟩,
        ⟨governanceProgramId, false, false⟩, ⟨d.1, false, false⟩, ⟨d.2, false, false⟩,
        ⟨payer, true, false⟩, ⟨payer, true, true⟩, ⟨systemProgramId, false, false⟩] := by
  simp only [buildCreateRegistrarInstruction, Option.bind_eq_bind, configuration_data]
  rw [if_pos (show Configures 100 2592000 by decide)]
  exact ⟨_, rfl, rfl⟩

include hspec hset hstage in
/-- The first transaction creates the registrar. -/
theorem registrar_created
    (hvacant : s.ledger (env.address (.registrar d.1 d.2)) = .vacant) :
    ∃ ix ledger', buildCreateRegistrarInstruction env d.1 d.2 payer payer 100 2592000 =
        some (ix, env.address (.registrar d.1 d.2)) ∧
      sendAndConfirmTransaction env [ix] [payer] s = some ⟨ledger', s.clock⟩ ∧
      Stage env payer d ⟨ledger', s.clock⟩ ∧
      ledger' = Function.update s.ledger (env.address (.registrar d.1 d.2))
        ⟨programId, AccountSerialize.trySerialize (registrarOf d)⟩ := by
  rcases build_registrar env payer d with ⟨ix, hbuild, hkeys⟩
  have hcall : (Call.createRegistrar d.1 d.2 payer payer 100 2592000).build env = some ix := by
    rw [Call.build, hbuild, Option.map_some]
  have hsigners : ∀ m ∈ ix.keys, m.isSigner = true → m.pubkey = payer := by
    intro m hm hsign
    rw [hkeys] at hm
    simp only [List.mem_cons, List.not_mem_nil, or_false] at hm
    rcases hm with rfl | rfl | rfl | rfl | rfl | rfl | rfl
    all_goals first | rfl | exact (Bool.false_ne_true hsign).elim
  have hwritable := (transaction_grants (single payer ix) ix List.mem_cons_self
    ⟨env.address (.registrar d.1 d.2), false, true⟩ (by rw [hkeys]; exact List.mem_cons_self)).2 rfl
  have hne := realm_elsewhere env hspec payer d s.ledger hstage.presides
    (env.address (.registrar d.1 d.2)) (by rw [hvacant]; decide)
  have hrealm : Function.update s.ledger (env.address (.registrar d.1 d.2))
      ⟨programId, List.replicate Registrar.len 0⟩ d.1 = s.ledger d.1 := Function.update_of_ne hne ..
  have howned : (s.ledger d.1).owner = governanceProgramId := by
    rcases hstage.presides with ⟨rd, hget, _⟩
    exact hspec.owner _ _ _ _ hget
  have hpays := single_payer payer ix
  have hp : process env s.clock ((Call.createRegistrar d.1 d.2 payer payer 100 2592000).instruction
      env (single payer ix).isSigner (single payer ix).isWritable) s.ledger =
        .ok (Function.update s.ledger (env.address (.registrar d.1 d.2))
          ⟨programId, AccountSerialize.trySerialize (registrarOf d)⟩) := by
    refine (createRegistrar_eq_ok ..).mpr ⟨⟨hpays.1, hpays.1, rfl, rfl,
      ⟨hset.payer_ne_registrar, hpays.2, hwritable⟩, hvacant, hset.governance, ?_, by decide, ?_⟩,
      rfl⟩
    · rw [hrealm]
      exact howned
    · rw [hrealm]
      exact hstage.presides
  refine ⟨ix, _, hbuild, ?_, stage_own env hspec payer d s hstage _ _ hp
    hset.registrar_not_executable ?_, rfl⟩
  · rw [send_call env payer s _ ix hcall hsigners, hp]
    rfl
  · change (s.ledger (env.address (.registrar d.1 d.2))).owner ≠ governanceProgramId
    rw [hvacant]
    decide

include hspec hset in
/-- The second transaction creates the record. -/
theorem record_created (hcreated : Created env payer d .vacant s) :
    ∃ ledger', sendAndConfirmTransaction env [(buildCreateVoterWeightRecordInstruction env
        (env.address (.registrar d.1 d.2)) d.1 d.2 payer payer).1] [payer] s =
        some ⟨ledger', s.clock⟩ ∧
      Created env payer d (recordAccount env payer d) ⟨ledger', s.clock⟩ := by
  have hvacant := hcreated.record
  have hload : AccountDeserialize.tryDeserialize
      (s.ledger (env.address (.registrar d.1 d.2))).data = .ok (registrarOf d) := by
    rw [hcreated.registrar]
    exact (registrar_loads_iff _ _).mpr ⟨[], (List.append_nil _).symm⟩
  have howned : (s.ledger (env.address (.registrar d.1 d.2))).owner = programId := by
    rw [hcreated.registrar]
  have hpays := single_payer payer (buildCreateVoterWeightRecordInstruction env
    (env.address (.registrar d.1 d.2)) d.1 d.2 payer payer).1
  have hwritable := (transaction_grants (single payer (buildCreateVoterWeightRecordInstruction env
    (env.address (.registrar d.1 d.2)) d.1 d.2 payer payer).1) _ List.mem_cons_self
    ⟨env.address (.voterWeightRecord d.1 d.2 payer), false, true⟩
    (List.mem_cons_of_mem _ List.mem_cons_self)).2 rfl
  have hp : process env s.clock ((Call.createVoterWeightRecord (env.address (.registrar d.1 d.2))
      d.1 d.2 payer payer).instruction env (single payer _).isSigner (single payer _).isWritable)
        s.ledger = .ok (Function.update s.ledger (env.address (.voterWeightRecord d.1 d.2 payer))
          (recordAccount env payer d)) :=
    (createVoterWeightRecord_eq_ok ..).mpr ⟨registrarOf d, ⟨howned, hload, hpays.1, hpays.1, rfl,
      rfl, ⟨hset.payer_ne_record, hpays.2, hwritable⟩, hvacant, rfl, rfl⟩, rfl⟩
  refine ⟨Function.update s.ledger (env.address (.voterWeightRecord d.1 d.2 payer))
    (recordAccount env payer d), ?_, ?_, ?_, ?_⟩
  · rw [send_call env payer s (.createVoterWeightRecord (env.address (.registrar d.1 d.2)) d.1 d.2
      payer payer) _ rfl ?_, hp]
    · rfl
    · intro m hm hsign
      simp only [buildCreateVoterWeightRecordInstruction, List.mem_cons, List.not_mem_nil,
        or_false] at hm
      rcases hm with rfl | rfl | rfl | rfl | rfl
      all_goals first | rfl | exact (Bool.false_ne_true hsign).elim
  · refine stage_own env hspec payer d s hcreated.stage _ _ hp hset.record_not_executable ?_
    change (s.ledger (env.address (.voterWeightRecord d.1 d.2 payer))).owner ≠ governanceProgramId
    rw [hvacant]
    decide
  · exact (Function.update_of_ne (registrar_ne_record env payer d hset) ..).trans
      hcreated.registrar
  · exact Function.update_self ..

include hspec hset in
/-- What the others do leaves what the script created. -/
theorem created_others (record : Account) (hcreated : Created env payer d record s) (t : State)
    (hmean : Meanwhile env payer d s t)
    (howner : ∀ r : VoterWeightRecord, AccountDeserialize.tryDeserialize record.data = .ok r →
      r.governingTokenOwner = payer) : Created env payer d record t := by
  rcases stage_others env hspec payer d hset s hcreated.stage t hmean
    (by rw [hcreated.record]; exact howner) with ⟨hstage, hreg, hrec⟩
  exact ⟨hstage, hreg.trans hcreated.registrar, hrec.trans hcreated.record⟩

/-- A fresh record names the payer. -/
theorem owner_of_recordAccount (r : VoterWeightRecord)
    (hload : AccountDeserialize.tryDeserialize (recordAccount env payer d).data = .ok r) :
    r = newVoterWeightRecord env d.1 d.2 payer := by
  have hnew := hload.symm.trans ((voterWeightRecord_loads_iff _
    (newVoterWeightRecord env d.1 d.2 payer)).mpr ⟨_, rfl⟩)
  rw [Except.ok.injEq] at hnew
  exact hnew

end

/-- The first two transactions succeed, whatever the others do in the
    meantime. -/
theorem accounts_created (env : Env) (hspec : GovernanceSpec env) (payer : Pubkey) (d : Dao)
    (hset : Setting env payer d) (meanwhile : Nat → State → State)
    (hmean : ∀ i s, Stage env payer d s → Meanwhile env payer d s (meanwhile i s)) (s : State)
    (hstage : Stage env payer d s)
    (hregistrar : s.ledger (env.address (.registrar d.1 d.2)) = .vacant)
    (hrecord : s.ledger (env.address (.voterWeightRecord d.1 d.2 payer)) = .vacant) :
    ∃ u, createAccounts env payer d.2 d.1 meanwhile s = some (u, env.address (.registrar d.1 d.2),
        env.address (.voterWeightRecord d.1 d.2 payer)) ∧
      Created env payer d (recordAccount env payer d) u := by
  rcases registrar_created env hspec payer d hset s hstage hregistrar with
    ⟨ix, l₁, hbuild, hsend, hstage₁, hl₁⟩
  have hne := registrar_ne_record env payer d hset
  have hcreated : Created env payer d .vacant ⟨l₁, s.clock⟩ := by
    refine ⟨hstage₁, ?_, ?_⟩
    · rw [hl₁]
      exact Function.update_self ..
    · rw [hl₁]
      exact (Function.update_of_ne hne.symm ..).trans hrecord
  have hvacant : ∀ r : VoterWeightRecord,
      AccountDeserialize.tryDeserialize Account.vacant.data = .ok r →
        r.governingTokenOwner = payer := by
    intro r hr
    exact absurd (head_of_voter _ r hr).2 (by decide)
  -- What the others do before the second transaction leaves the registrar.
  have hmid := created_others env hspec payer d hset _ _ hcreated _
    (hmean 0 _ hstage₁) hvacant
  rcases record_created env hspec payer d hset _ hmid with ⟨l₂, hsend₂, hcreated₂⟩
  refine ⟨meanwhile 1 ⟨l₂, (meanwhile 0 ⟨l₁, s.clock⟩).clock⟩, ?_,
    created_others env hspec payer d hset _ _ hcreated₂ _ (hmean 1 _ hcreated₂.stage) ?_⟩
  · simp only [createAccounts, hbuild, hsend, Option.bind_eq_bind, Option.bind_some]
    rw [hsend₂, Option.bind_some]
    rfl
  · intro r hr
    rw [owner_of_recordAccount env payer d r hr]
    rfl

/-- The identity of the payer is good enough for the script's registrar. -/
def GoodEnough (env : Env) (payer : Pubkey) (s : State) : Prop :=
  ∃ id, Identifies env s.ledger payer id ∧ policy.Admits s.clock.unixTimestamp.toInt id

/-- What the script reports if it gets that far. -/
def passed (s : State) : Report :=
  ⟨1, some (min (s.clock.slot.toNat + term) lastSlot), true, true⟩

/-- The account of the record once it was updated. -/
def updatedAccount (env : Env) (payer : Pubkey) (d : Dao) (slot : UInt64) : Account :=
  ⟨programId, overwrite (VoterWeightRecord.codec.encode
    ((newVoterWeightRecord env d.1 d.2 payer).activated slot)) (recordAccount env payer d).data⟩

theorem loads_updated (env : Env) (payer : Pubkey) (d : Dao) (slot : UInt64) :
    AccountDeserialize.tryDeserialize (updatedAccount env payer d slot).data =
      .ok ((newVoterWeightRecord env d.1 d.2 payer).activated slot) :=
  (voterWeightRecord_loads_iff _ _).mpr ⟨_, rfl⟩

/-- The call of the third transaction. -/
def updateCall (env : Env) (payer : Pubkey) (d : Dao) : Call :=
  .updateVoterWeightRecord (env.address (.registrar d.1 d.2))
    (env.address (.voterWeightRecord d.1 d.2 payer)) payer (env.identityAddress payer)

/-- What it builds. -/
def updateIx (env : Env) (payer : Pubkey) (d : Dao) : TransactionInstruction :=
  buildUpdateVoterWeightRecordInstruction (env.address (.registrar d.1 d.2))
    (env.address (.voterWeightRecord d.1 d.2 payer)) payer (env.identityAddress payer)

section
variable (env : Env) (hspec : GovernanceSpec env) (payer : Pubkey) (d : Dao)
variable (hset : Setting env payer d) (s : State)
variable (hcreated : Created env payer d (recordAccount env payer d) s)
variable (isSigner isWritable : Pubkey → Bool)

include hcreated in
theorem loads_created :
    AccountDeserialize.tryDeserialize (s.ledger (env.address (.registrar d.1 d.2))).data =
        .ok (registrarOf d) ∧
      AccountDeserialize.tryDeserialize
        (s.ledger (env.address (.voterWeightRecord d.1 d.2 payer))).data =
          .ok (newVoterWeightRecord env d.1 d.2 payer) := by
  rw [hcreated.registrar, hcreated.record]
  exact ⟨(registrar_loads_iff _ _).mpr ⟨[], (List.append_nil _).symm⟩,
    (voterWeightRecord_loads_iff _ _).mpr ⟨_, rfl⟩⟩

include hcreated in
/-- With a good identity the update goes through. -/
theorem update_succeeds (hsigns : isSigner payer = true)
    (hwritable : isWritable (env.address (.voterWeightRecord d.1 d.2 payer)) = true)
    (hgood : GoodEnough env payer s) :
    process env s.clock ((updateCall env payer d).instruction env isSigner isWritable) s.ledger =
      .ok (Function.update s.ledger (env.address (.voterWeightRecord d.1 d.2 payer))
        (updatedAccount env payer d s.clock.slot)) := by
  rcases hgood with ⟨id, hid, hadm⟩
  rcases hcreated.stage.reached with ⟨h, hrun, _⟩
  rcases loads_created env payer d s hcreated with ⟨hreg, hrec⟩
  have helig := eligible_of_admits env h s hrun (registrarOf d) payer id hid hadm
  -- The record was created with room for an expiry.
  have hroom : 131 ≤ (recordAccount env payer d).data.length := by
    rw [recordAccount, length_overwrite]
    · rw [List.length_replicate, VoterWeightRecord.getSpace]
      omega
    · rw [length_voterWeightRecord_codec _ 0 rfl rfl rfl, List.length_replicate,
        VoterWeightRecord.getSpace]
      omega
  refine (updateVoterWeightRecord_eq_ok ..).mpr ⟨registrarOf d,
    newVoterWeightRecord env d.1 d.2 payer, ⟨?_, hreg, ?_, hrec, hsigns, rfl, hwritable, rfl, rfl,
      rfl⟩, rfl, helig, ?_, ?_⟩
  · change (s.ledger (env.address (.registrar d.1 d.2))).owner = programId
    rw [hcreated.registrar]
  · change (s.ledger (env.address (.voterWeightRecord d.1 d.2 payer))).owner = programId
    rw [hcreated.record]
    rfl
  · change 131 ≤ (s.ledger (env.address (.voterWeightRecord d.1 d.2 payer))).data.length
    rw [hcreated.record]
    exact hroom
  · change _ = Function.update s.ledger (env.address (.voterWeightRecord d.1 d.2 payer))
      ⟨programId, overwrite _ (s.ledger (env.address (.voterWeightRecord d.1 d.2 payer))).data⟩
    rw [hcreated.record]
    rfl

include hcreated in
/-- Without one it does not. -/
theorem good_of_update (ledger' : Ledger)
    (hp : process env s.clock ((updateCall env payer d).instruction env isSigner isWritable)
      s.ledger = .ok ledger') : GoodEnough env payer s := by
  rcases (updateVoterWeightRecord_eq_ok ..).mp hp with ⟨reg, r, hctl, _, helig, _⟩
  have hsame := hctl.registrar_loads.symm.trans (loads_created env payer d s hcreated).1
  rw [Except.ok.injEq] at hsame
  subst hsame
  exact admits_of_eligible env s.clock (registrarOf d) s.ledger payer helig

end

/-- The third transaction succeeds exactly if the payer's identity is good
    enough. -/
theorem update_sent (env : Env) (hspec : GovernanceSpec env) (payer : Pubkey) (d : Dao)
    (hset : Setting env payer d) (s : State)
    (hcreated : Created env payer d (recordAccount env payer d) s) :
    (GoodEnough env payer s ∧ ∃ ledger', sendAndConfirmTransaction env [updateIx env payer d]
        [payer] s = some ⟨ledger', s.clock⟩ ∧
      Created env payer d (updatedAccount env payer d s.clock.slot) ⟨ledger', s.clock⟩) ∨
    (¬ GoodEnough env payer s ∧
      sendAndConfirmTransaction env [updateIx env payer d] [payer] s = none) := by
  have hsigners : ∀ m ∈ (updateIx env payer d).keys, m.isSigner = true → m.pubkey = payer := by
    intro m hm hsign
    simp only [updateIx, buildUpdateVoterWeightRecordInstruction, List.mem_cons, List.not_mem_nil,
      or_false] at hm
    rcases hm with rfl | rfl | rfl | rfl
    all_goals first | rfl | exact (Bool.false_ne_true hsign).elim
  have hwritable := (transaction_grants (single payer (updateIx env payer d)) _
    List.mem_cons_self ⟨env.address (.voterWeightRecord d.1 d.2 payer), false, true⟩
    (List.mem_cons_of_mem _ List.mem_cons_self)).2 rfl
  rw [send_call env payer s (updateCall env payer d) (updateIx env payer d) rfl hsigners]
  by_cases hgood : GoodEnough env payer s
  · -- A good identity passes the checks.
    have hp := update_succeeds env payer d s hcreated _ _
      (single_payer payer (updateIx env payer d)).1 hwritable hgood
    refine Or.inl ⟨hgood, Function.update s.ledger (env.address (.voterWeightRecord d.1 d.2 payer))
      (updatedAccount env payer d s.clock.slot), ?_, ?_, ?_, Function.update_self ..⟩
    · rw [hp, Except.toOption, Option.map_some]
    · refine stage_own env hspec payer d s hcreated.stage _ _ hp hset.record_not_executable ?_
      change (s.ledger (env.address (.voterWeightRecord d.1 d.2 payer))).owner ≠ _
      rw [hcreated.record]
      exact show programId ≠ governanceProgramId by decide
    · exact (Function.update_of_ne (registrar_ne_record env payer d hset) ..).trans
        hcreated.registrar
  · -- Success would mean that it is good.
    refine Or.inr ⟨hgood, ?_⟩
    rcases hp : process env s.clock ((updateCall env payer d).instruction env
      (single payer (updateIx env payer d)).isSigner
      (single payer (updateIx env payer d)).isWritable) s.ledger with e | ledger'
    · rfl
    · exact absurd (good_of_update env payer d s hcreated _ _ ledger' hp) hgood

/-- The script hashes the program's seed. -/
theorem identity_seed : utf8 "identity" = identitySeed := by decide

/-- What is read back after the third transaction is the vote, whatever the
    others do in the meantime. -/
theorem update_reported (env : Env) (hspec : GovernanceSpec env) (payer : Pubkey) (d : Dao)
    (hset : Setting env payer d) (meanwhile : Nat → State → State)
    (hmean : ∀ i s, Stage env payer d s → Meanwhile env payer d s (meanwhile i s)) (s : State)
    (hcreated : Created env payer d (recordAccount env payer d) s) :
    (GoodEnough env payer s ∧ updateAndRead env payer d.1 (env.address (.registrar d.1 d.2))
      (env.address (.voterWeightRecord d.1 d.2 payer)) meanwhile s = some (passed s)) ∨
    (¬ GoodEnough env payer s ∧ updateAndRead env payer d.1 (env.address (.registrar d.1 d.2))
      (env.address (.voterWeightRecord d.1 d.2 payer)) meanwhile s = none) := by
  have hix : buildUpdateVoterWeightRecordInstruction (env.address (.registrar d.1 d.2))
      (env.address (.voterWeightRecord d.1 d.2 payer)) payer
        (env.findProgramAddress [utf8 "identity", payer.bytes] entrosAnchorProgramId) =
      updateIx env payer d := by
    rw [identity_seed]
    rfl
  rw [updateAndRead, hix]
  rcases update_sent env hspec payer d hset s hcreated with
    ⟨hgood, ledger', hsend, hupdated⟩ | ⟨hbad, hsend⟩
  · refine Or.inl ⟨hgood, ?_⟩
    have hread := (created_others env hspec payer d hset _ _ hupdated _ (hmean 2 _ hupdated.stage)
      (by
        intro r hr
        rw [loads_updated, Except.ok.injEq] at hr
        rw [← hr]
        rfl)).record
    rcases reads_voterWeightRecord _ _ (loads_updated env payer d s.clock.slot) with
      ⟨hweight, hrealm, howner⟩
    have hexists : updatedAccount env payer d s.clock.slot ≠ .vacant := by
      intro hvac
      exact vacant_owner_ne (congrArg Account.owner hvac).symm
    -- A hundred slots from now, or the last slot there is.
    have hexpiry : (saturatingAdd s.clock.slot 100).toNat =
        min (s.clock.slot.toNat + term) lastSlot := by
      rw [toNat_saturatingAdd]
      rfl
    simp only [hsend, Option.bind_eq_bind, Option.bind_some, hread, getAccountInfo,
      if_neg hexists, hweight, hrealm, howner]
    simp only [VoterWeightRecord.activated, newVoterWeightRecord, Option.map_some, hexpiry,
      decide_true, passed]
    rfl
  · refine Or.inr ⟨hbad, ?_⟩
    rw [hsend]
    rfl

/-- The payer had a tenth of a SOL and a readable identity account when the
    script started, and the identity is good enough when the record is
    updated. -/
structure Passes (env : Env) (payer : Pubkey) (lamports : Lamports) (s u : State) : Prop where
  balance : 100000000 ≤ getBalance lamports payer
  identity : (readIdentity env payer s.ledger).isSome = true
  good : GoodEnough env payer u

end Script

namespace Devnet

/-- The cluster with the deployed governance program. -/
def liveEnv : Env := clusterEnv addresses (keyOf 238) [governanceProgramId]

/-- A realm of a wallet that was verified well enough and recently. -/
def liveGenesis : State :=
  clusterState [
    (realm, realmAccountOf governanceProgramId voterA),
    (liveEnv.identityAddress voterA,
      ⟨entrosAnchorProgramId, fixtureData identityDiscriminator voterA 120 1775487086 1⟩)] clock

theorem live_genesis : Genesis liveEnv liveGenesis :=
  cluster_genesis _ _ _ _ _ (by decide +kernel) (by decide +kernel) (by decide +kernel)
    (by decide)

theorem live_setting : Script.Setting liveEnv voterA (realm, mint) where
  governance := by decide +kernel
  registrar_free := cluster_collisionFreeAt _ _ _ _ (by decide +kernel) (by decide +kernel)
  record_free := cluster_collisionFreeAt _ _ _ _ (by decide +kernel) (by decide +kernel)
  registrar_not_executable := by decide +kernel
  record_not_executable := by decide +kernel
  payer_ne_registrar := by decide +kernel
  payer_ne_record := by decide +kernel

theorem live_stage : Script.Stage liveEnv voterA (realm, mint) liveGenesis where
  reached := ⟨[], .start _ live_genesis, fun _ he => absurd he List.not_mem_nil⟩
  separated := cluster_separated _ _ _ _ (by decide +kernel)
  presides := ⟨⟨some voterA, mint, none⟩, by decide +kernel, rfl⟩

end Devnet

end EntrosVoterWeight
