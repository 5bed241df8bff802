import EntrosVoterWeight.Cluster
import EntrosVoterWeight.Theory.History

/-!
# Weight Soundness

Where the weight in a record comes from.

Whoever counts the votes is handed accounts and takes for a voter weight record
any account of the program that starts with the record's discriminator and
decodes. Every such account either carries no weight and was expired from the
start, or carries one vote that a verified update wrote: at some earlier slot,
after the account was last created, the wallet the record then named signed,
and its identity account passed the checks under the registrar of the record's
realm and mint.

The statement is about the history, so the invariant is too. Creation starts
it, a verified update renews it, and what else can reach the record leaves
the fields behind the owner as they were.

## Main definitions

* `AcceptedByGovernance`: What is taken for a voter weight record.
* `VerifiedUpdate`: A step that gave a record its weight.
* `Backed`: Such a step since the account was last created.
* `WeightBacked`: The invariant of a single record.

## Theorems

* `voter_weight_backed`: The invariant, for accounts created as records.
* `accepted_weight_backed`: Every accepted record has its weight backed.
-/

namespace EntrosVoterWeight

open Borsh Anchor Transition

/-- What is taken for a voter weight record of this plugin. -/
structure AcceptedByGovernance (env : Env) (acc : Account) (record : VoterWeightRecord) : Prop where
  owned : acc.owner = programId
  discriminator : acc.data.take 8 = env.voterWeightRecordDiscriminator.bytes
  decodes : ∃ rest, VoterWeightRecord.codec.decode acc.data = some (record, rest)

/-- A successful update of the record at `a` in slot `slot`, signed by the
    wallet the record named, with an eligible identity account of that wallet
    under the registrar of the record's realm and mint. -/
def VerifiedUpdate (env : Env) (a : Pubkey) (slot : UInt64) (e : Entry State Event) : Prop :=
  ∃ (ctx : Context UpdateVoterWeightRecord) (registrar : Registrar)
      (record : VoterWeightRecord),
    Acts env (.updateVoterWeightRecord ctx) a e ∧
    e.pre.clock.slot = slot ∧
    AccountDeserialize.tryDeserialize (e.pre.ledger a).data = .ok record ∧
    ctx.isSigner record.governingTokenOwner = true ∧
    registrarAt e.pre.ledger
      (env.address (.registrar record.realm record.governingTokenMint)) = some registrar ∧
    ctx.remainingAccounts.head? = some (env.identityAddress record.governingTokenOwner) ∧
    Eligible env e.pre.clock registrar e.pre.ledger record.governingTokenOwner

/-- A verified update in slot `slot`, with the account neither created nor
    closed after it. -/
def Backed (env : Env) (h : History) (a : Pubkey) (slot : UInt64) : Prop :=
  Since (fun e => ¬ Renews env a e) (VerifiedUpdate env a slot) h

/-- A successful update is a verified one. -/
theorem verifiedUpdate_of_acts (env : Env) (a : Pubkey) (e : Entry State Event)
    (ctx : Context UpdateVoterWeightRecord) (reg : Registrar) (record : VoterWeightRecord)
    (hact : Acts env (.updateVoterWeightRecord ctx) a e)
    (h : RecordUpdated env e.pre.clock e.pre.ledger e.post.ledger ctx reg record) :
    VerifiedUpdate env a e.pre.clock.slot e := by
  have ha : ctx.accounts.voterWeightRecord = a := hact.2.1
  have hc := h.controls
  refine ⟨ctx, reg, record, hact, rfl, ?_, ?_, ?_, ?_, ?_⟩
  · rw [← ha]
    exact hc.record_loads
  · rw [hc.owner_eq]
    exact hc.signs
  · rw [hc.realm_eq, hc.mint_eq, ← hc.seeds]
    exact (registrarAt_eq_some ..).mpr ⟨hc.registrar_owner, hc.registrar_loads⟩
  · rw [hc.owner_eq]
    exact h.identity
  · rw [hc.owner_eq]
    exact h.eligible

/-- The record carries no weight, or weight that a verified update wrote. -/
def WeightBacked (env : Env) (h : History) (a : Pubkey) (record : VoterWeightRecord) : Prop :=
  (record.voterWeight = 0 ∧ record.voterWeightExpiry = some 0) ∨
  (record.voterWeight = 1 ∧ ∃ slot, Backed env h a slot ∧
    record.voterWeightExpiry = some (saturatingAdd slot 100))

/-- Weight stays backed over a step that neither creates nor closes the
    account and leaves weight and expiry alone, whatever it does to the
    owner. -/
theorem weightBacked_cons (env : Env) (h : History) (a : Pubkey) (e : Entry State Event)
    (record : VoterWeightRecord) (owner : Pubkey) (hkeep : ¬ Renews env a e)
    (hw : WeightBacked env h a record) :
    WeightBacked env (e :: h) a { record with governingTokenOwner := owner } := by
  rcases hw with hzero | ⟨hone, slot, hback, hexp⟩
  · exact Or.inl hzero
  · exact Or.inr ⟨hone, slot, Or.inr ⟨hkeep, hback⟩, hexp⟩

/-- An account created as a voter weight record holds no weight, or weight
    that a verified update wrote. -/
theorem voter_weight_backed (env : Env) (h : History) (s : State) (hrun : Run (plugin env) h s)
    (a realm mint owner : Pubkey) (record : VoterWeightRecord)
    (ho : origin env h a = some (.voterWeightRecord realm mint owner))
    (hload : AccountDeserialize.tryDeserialize (s.ledger a).data = .ok record) :
    WeightBacked env h a record := by
  refine voter_run env (fun _ => True) a realm mint owner (fun h r => WeightBacked env h a r)
    ?_ ?_ ?_ ?_ h s hrun (fun _ _ => trivial) record ho hload
  · exact fun _ _ _ _ => Or.inl ⟨rfl, rfl⟩
  · -- The update writes the weight, so it is the step that backs it.
    intro h e ctx reg record hact hup _
    exact Or.inr ⟨rfl, _, Or.inl (verifiedUpdate_of_acts env a e ctx reg record hact hup), rfl⟩
  · -- The other record's update reaches the owner and nothing behind it.
    intro h e ctx w reg m record owner' hact _ _ _ _ _ hw
    exact weightBacked_cons env h a e record owner' (not_renews env _ a e hact rfl rfl) hw
  · intro h e record hnone hw
    exact weightBacked_cons env h a e record record.governingTokenOwner
      (fun ⟨ix, hact, _⟩ => hnone ix hact) hw

/-- Every account governance accepts as a voter weight record carries no
    weight, or one vote for a hundred slots that a verified update wrote. -/
theorem accepted_weight_backed (env : Env) (h : History) (s : State) (hrun : Run (plugin env) h s)
    (a : Pubkey) (record : VoterWeightRecord)
    (hacc : AcceptedByGovernance env (s.ledger a) record) :
    (record.voterWeight = 0 ∧ record.voterWeightExpiry = some 0) ∨
    (record.voterWeight = 1 ∧ record.weightAction = none ∧ record.weightActionTarget = none ∧
      ∃ slot expiry, record.voterWeightExpiry = some expiry ∧
        expiry.toNat = min (slot.toNat + 100) (2 ^ 64 - 1) ∧
        slot ≤ s.clock.slot ∧ Backed env h a slot) := by
  rcases hacc.decodes with ⟨rest, hdec⟩
  have hload : AccountDeserialize.tryDeserialize (s.ledger a).data = .ok record :=
    (voterWeightRecord_loads_iff _ _).mpr
      ⟨rest, (VoterWeightRecord.codec.decode_iff _ _ _).mp hdec⟩
  have hdisc : record.accountDiscriminator = env.voterWeightRecordDiscriminator :=
    FixedBytes.ext ((head_of_voter _ _ hload).1.symm.trans hacc.discriminator)
  have hs := shape_run env h s hrun a
  -- Only an account created as a record starts like one.
  rcases accepted_is_voter env _ a _ hs hacc.owned record hload hdisc with ⟨realm, mint, owner, ho⟩
  rw [ho] at hs
  rcases VoterShape.record hs with ⟨r, hrl, hf⟩
  rw [hload, Except.ok.injEq] at hrl
  subst hrl
  rcases voter_weight_backed env h s hrun a realm mint owner record ho hload with
    hzero | ⟨hone, slot, hback, hexp⟩
  · exact Or.inl hzero
  · refine Or.inr ⟨hone, hf.action, hf.target, slot, _, hexp, toNat_saturatingAdd slot 100, ?_,
      hback⟩
    -- The slot is the clock's at a past step.
    rcases (since_iff _ _ _).mp hback with ⟨h₁, e, h₀, rfl, ⟨_, _, _, _, hslot, _⟩, _⟩
    rw [← hslot]
    exact run_clock env _ s hrun e (List.mem_append_right _ List.mem_cons_self)

/-- A wallet verified a day before has its vote backed. -/
theorem accepted_weight_backed_devnet :
    ((newVoterWeightRecord Devnet.env Devnet.realm Devnet.mint Devnet.voterA).activated
      1000).voterWeight = 1 ∧
    ∃ slot, slot ≤ (Devnet.after Devnet.votes).2.clock.slot ∧
      Backed Devnet.env (Devnet.after Devnet.votes).1
        (Devnet.record Devnet.mint Devnet.voterA) slot := by
  have hacc : AcceptedByGovernance Devnet.env
      ((Devnet.after Devnet.votes).2.ledger (Devnet.record Devnet.mint Devnet.voterA))
      ((newVoterWeightRecord Devnet.env Devnet.realm Devnet.mint Devnet.voterA).activated 1000) :=
    ⟨by decide +kernel, by decide +kernel, List.replicate 33 0, by decide +kernel⟩
  refine ⟨rfl, ?_⟩
  rcases accepted_weight_backed Devnet.env _ _ (Devnet.after_run _) _ _ hacc with
    ⟨hzero, _⟩ | ⟨_, _, _, slot, _, _, _, hslot, hback⟩
  · exact absurd hzero (by decide)
  · exact ⟨slot, hslot, hback⟩

end EntrosVoterWeight
