import EntrosVoterWeight.Theory.Deposits
import EntrosVoterWeight.Wire.Answers

/-!
# What Voting Costs

Voters' requests, with the lamports they move.

A vote costs a deposit and no fee to the program. An enrolment takes from the
payer what the record needs to be exempt from rent, a confirmation takes
nothing, and a withdrawal pays out all the record holds, which is the deposit
and whatever else it was sent.

So a request goes through if the register permits it and the payer can pay.
Lamports sent ahead to the address of a record do not keep its voter out, they
make the record cheaper. What does keep a deposit in is the other condition.
Without a policy no withdrawal is permitted, so after a body is dissolved the
deposits of its voters stay where they are until it is established again.

## Main definitions

* `Funded.Succeeds`: An instruction passes its checks and is paid for.
* `Request.Affordable`: The payer can pay.
* `Request.Paid`: What a request does to the balances.

## Theorems

* `settle_iff`: Which instructions can be paid for.
* `request_funded`: Which requests succeed, and what they move.
-/

namespace EntrosVoterWeight

open Borsh Anchor Funds Transition

/-- An instruction passes its checks and is paid for. -/
def Funded.Succeeds (env : Env) (rent : Rent) (f : Funded) (ix : Instruction) : Prop :=
  ∃ ledger' lamports', process env f.state.clock ix f.state.ledger = .ok ledger' ∧
    ix.settle rent f.state.ledger f.lamports = some lamports'

/-- The payer of an enrolment has what the record is short of. -/
def Request.Affordable (env : Env) (rent : Rent) (f : Funded) (r : Request) : Prop :=
  match r with
  | .enrol _ _ payer =>
    shortfall rent VoterWeightRecord.getSpace (f.lamports (r.record env)) = 0 ∨
      f.state.ledger payer = .vacant ∧
        shortfall rent VoterWeightRecord.getSpace (f.lamports (r.record env)) ≤ f.lamports payer
  | .confirm _ _ => True
  | .withdraw _ _ _ => True

/-- What a request does to the balances. -/
def Request.Paid (env : Env) (rent : Rent) (f f' : Funded) (r : Request) : Prop :=
  match r with
  | .enrol _ _ payer =>
    Funding rent payer (r.record env) VoterWeightRecord.getSpace f.state.ledger f.lamports
      f'.lamports
  | .confirm _ _ => f'.lamports = f.lamports
  | .withdraw _ _ solDestination =>
    Draining (r.record env) solDestination f.lamports f'.lamports ∧
      rent.minimumBalance VoterWeightRecord.getSpace ≤ f.lamports (r.record env)

/-- Which requests can be paid for. -/
theorem settle_iff (env : Env) (rent : Rent) (f : Funded) (hcap : Capped f.lamports)
    (r : Request) (isSigner isWritable : Pubkey → Bool) :
    (∃ lamports', ((r.call env).instruction env isSigner isWritable).settle rent f.state.ledger
      f.lamports = some lamports') ↔ r.Affordable env rent f := by
  cases r with
  | enrol d voter payer => exact fund_covered rent payer _ _ f.state.ledger f.lamports hcap
  | confirm d voter => exact iff_of_true ⟨f.lamports, rfl⟩ trivial
  | withdraw d voter solDestination =>
      exact iff_of_true (drain_succeeds _ solDestination f.lamports hcap) trivial

/-- A ballot is at a live account. -/
theorem origin_of_ballot (env : Env) (h : History) (s : State) (d : Dao) (voter : Pubkey)
    (b : Registry.Ballot) (hb : (registerOf env h s).ballot (d, voter) = some b) :
    origin env h (env.address (.voterWeightRecord d.1 d.2 voter)) =
      some (.voterWeightRecord d.1 d.2 voter) := by
  by_contra hne
  simp only [registerOf, holding, if_neg hne, reduceCtorEq] at hb

/-- Of what a client sends for a request: it succeeds if the register permits
    it and it can be paid for, and then it moves the deposit and nothing
    else. -/
theorem request_funded (env : Env) (hspec : GovernanceSpec env) (rent : Rent)
    (h : List (Entry Funded Event)) (f : Funded) (hrun : Run (funded env rent) h f)
    (hcalm : Calm env (paidHistory rent h) f.state) (r : Request) (hclear : r.Clear env)
    (isSigner isWritable : Pubkey → Bool)
    (hgrants : Grants (r.built env).keys isSigner isWritable) :
    ∃ ix, parse ((r.built env).keys.map AccountMeta.pubkey) isSigner isWritable
        (r.built env).data = some ix ∧
      (f.Succeeds env rent ix ↔
        r.answer env f.state.ledger (registerOf env (paidHistory rent h) f.state) = .ok () ∧
          r.Affordable env rent f) ∧
      (f.Succeeds env rent ix → r.Paid env rent f (f.apply env rent ix)) := by
  have hc := consistent_run env hspec _ _ hcalm.run (fun e he => (hcalm.steps e he).1)
  have hnot : ∀ e ∈ paidHistory rent h, ¬ RewritesVoterRecord env e :=
    fun e he => (hcalm.steps e he).2
  have hanswer := told_request env _ f.state hcalm.run hc hnot isSigner isWritable r hclear
    hgrants
  have hpays := settle_iff env rent f (capped_run env rent h f hrun) r isSigner isWritable
  refine ⟨_, (parse_call env isSigner isWritable _ _ (request_build env r)).2, ?_, ?_⟩
  · rw [← hanswer, told_eq_ok, ← hpays]
    constructor
    · intro hok
      rcases hok with ⟨ledger', lamports', hp, hsettle⟩
      exact ⟨⟨ledger', hp⟩, lamports', hsettle⟩
    · intro hok
      rcases hok with ⟨⟨ledger', hp⟩, lamports', hsettle⟩
      exact ⟨ledger', lamports', hp, hsettle⟩
  · intro hok
    rcases hok with ⟨ledger', lamports', hp, hsettle⟩
    rw [funded_ok env rent f _ ledger' lamports' hp hsettle]
    cases r with
    | enrol d voter payer => exact fund_spec _ _ _ _ _ _ _ (hclear.funds_ne payer rfl) hsettle
    | confirm d voter => exact (Option.some.inj hsettle).symm
    | withdraw d voter solDestination =>
        -- The register permits it, so the record is live and holds its deposit.
        refine ⟨drain_spec _ _ _ _ (hclear.funds_ne solDestination rfl).symm hsettle, ?_⟩
        rcases request_moves env _ f.state hcalm.run hc hnot (.withdraw d voter solDestination)
          hclear isSigner isWritable ⟨ledger', f.state.clock⟩ rfl hp with ⟨move, hasks, hstep⟩
        cases hasks
        generalize registerOf env (_ :: _) _ = r' at hstep
        cases hstep with
        | withdraw _ _ q b _ hb =>
            exact solvent_run env rent h f hrun _ _ (origin_of_ballot env _ _ d voter b hb)

namespace Devnet

/-- A wallet enrols, and the payer pays. -/
def enrolling : Request := .enrol (realm, mint) voterA payer

theorem created_funded_calm :
    Calm env (paidHistory rent (afterFunded [createRegistrar mint]).1)
      (afterFunded [createRegistrar mint]).2.state := by
  have hpaid := replayFunded_paid env rent [createRegistrar mint] [] treasury (by decide +kernel)
  rw [afterFunded, hpaid.1, hpaid.2]
  exact created_calm

end Devnet

/-- The payer's ten SOL cover what the record needs. -/
theorem request_funded_devnet : ∃ ix,
    parse ((Devnet.enrolling.built Devnet.env).keys.map AccountMeta.pubkey)
      Devnet.joiningTransaction.isSigner Devnet.joiningTransaction.isWritable
      (Devnet.enrolling.built Devnet.env).data = some ix ∧
    Devnet.enrolling.Paid Devnet.env Devnet.rent
      (Devnet.afterFunded [Devnet.createRegistrar Devnet.mint]).2
      ((Devnet.afterFunded [Devnet.createRegistrar Devnet.mint]).2.apply Devnet.env Devnet.rent
        ix) := by
  have hmem : Devnet.enrolling ∈ Devnet.joining := List.mem_cons_self
  rcases request_funded Devnet.env (cluster_governanceSpec _ _ _) Devnet.rent _ _
    (Devnet.afterFunded_run _) Devnet.created_funded_calm Devnet.enrolling
    (Devnet.joining_clear _ hmem) _ _
    (transaction_grants Devnet.joiningTransaction _ (List.mem_map_of_mem hmem)) with
    ⟨ix, hparse, hiff, hpaid⟩
  refine ⟨ix, hparse, hpaid (hiff.mpr ⟨by decide +kernel, Or.inr ⟨by decide +kernel, ?_⟩⟩)⟩
  decide +kernel

end EntrosVoterWeight
