import EntrosVoterWeight.Cluster
import EntrosVoterWeight.Theory.History

/-!
# Creating and Closing Records

When a voter can create a record, and when they can give it back.

Creation is theirs alone. The address of a record determines the realm, the
mint and the wallet, across all three kinds of account, so an account there
was created by that wallet's signature; and where there is none, the signature
is also all that is missing.

Closing is not. The close instruction loads the registrar of the record's
realm and mint, at its own address, and compares the two. There is no count of
the records that depend on a registrar, and the realm's authority can close it
while there are some; what is left of the law is an equivalence. A record can
be closed exactly while the registrar of its realm and mint is live.

## Main definitions

* `RegistrarLive`: The registrar of a realm and mint is there.
* `CreatesOwnRecord`: A wallet's creation of its record.
* `CreationCall`, `ClosingCall`: The accounts of a well-formed call.

## Theorems

* `no_front_running`: Only the wallet creates its record, and it always can.
* `close_iff_registrarLive`: A record can be closed while its registrar is
  live.
-/

namespace EntrosVoterWeight

open Borsh Anchor Transition

/-- The address derived for the registrar of a realm and mint holds the
    registrar of that realm and mint. -/
def RegistrarLive (env : Env) (ledger : Ledger) (realm mint : Pubkey) : Prop :=
  ∃ registrar, registrarAt ledger (env.address (.registrar realm mint)) = some registrar ∧
    registrar.realm = realm ∧ registrar.governingTokenMint = mint

/-! ### Creation -/

/-- A successful creation of the record of `voter`, signed by `voter`, under
    the registrar of the realm and mint. -/
def CreatesOwnRecord (env : Env) (realm mint voter : Pubkey) (e : Entry State Event) : Prop :=
  ∃ ctx registrar, e.event = .instruction (.createVoterWeightRecord ctx voter) ∧
    process env e.pre.clock (.createVoterWeightRecord ctx voter) e.pre.ledger =
      .ok e.post.ledger ∧
    registrarAt e.pre.ledger ctx.accounts.registrar = some registrar ∧
    registrar.realm = realm ∧ registrar.governingTokenMint = mint ∧ ctx.isSigner voter = true

/-- A live record of a wallet was created by that wallet's signature. -/
theorem record_created_by_owner (env : Env) (h : History) (s : State)
    (hrun : Run (plugin env) h s) (a realm mint voter : Pubkey)
    (ho : origin env h a = some (.voterWeightRecord realm mint voter)) :
    ∃ e ∈ h, CreatesOwnRecord env realm mint voter e := by
  rcases (since_iff _ _ _).mp ((origin_eq_some env h s hrun a _).mp ho) with
    ⟨h₁, e, h₀, rfl, ⟨ix, ⟨hev, _, hok⟩, hb, hbec⟩, _⟩
  rcases voter_created env _ ix _ _ hok hb none realm mint voter hbec with
    ⟨ctx, reg, rfl, hacc, hrealm, hmint, _⟩
  refine ⟨e, List.mem_append_right _ List.mem_cons_self, ctx, reg, hev, hok, ?_, hrealm, hmint, ?_⟩
  · exact (registrarAt_eq_some ..).mpr ⟨hacc.registrar_owner, hacc.registrar_loads⟩
  · rw [← hacc.owner_eq]
    exact hacc.owner_signs

/-- The accounts of a call that creates the record of `voter`, with a payer
    that signs and is not the record itself. -/
structure CreationCall (env : Env) (realm mint voter : Pubkey)
    (ctx : Context CreateVoterWeightRecord) : Prop where
  registrar : ctx.accounts.registrar = env.address (.registrar realm mint)
  target : ctx.accounts.voterWeightRecord = env.address (.voterWeightRecord realm mint voter)
  owner : ctx.accounts.governingTokenOwnerSigner = voter
  system : ctx.accounts.systemProgram = systemProgramId
  payer_signs : ctx.isSigner ctx.accounts.payer = true
  payer_ne : ctx.accounts.payer ≠ ctx.accounts.voterWeightRecord
  payer_writable : ctx.isWritable ctx.accounts.payer = true
  record_writable : ctx.isWritable ctx.accounts.voterWeightRecord = true

/-- The address of a wallet's record is vacant until the wallet creates it;
    while it is vacant the wallet can, and nobody else. -/
theorem no_front_running (env : Env) (h : History) (s : State) (hrun : Run (plugin env) h s)
    (realm mint voter : Pubkey)
    (hfree : CollisionFreeAt env (.voterWeightRecord realm mint voter)) :
    ((∀ e ∈ h, ¬ CreatesOwnRecord env realm mint voter e) →
      s.ledger (env.address (.voterWeightRecord realm mint voter)) = .vacant) ∧
    (s.ledger (env.address (.voterWeightRecord realm mint voter)) = .vacant →
      RegistrarLive env s.ledger realm mint →
      ∀ ctx, CreationCall env realm mint voter ctx → ctx.isSigner voter = true →
        ∃ (ledger' : Ledger) (record : VoterWeightRecord),
          process env s.clock (.createVoterWeightRecord ctx voter) s.ledger = .ok ledger' ∧
          (ledger' ctx.accounts.voterWeightRecord).owner = programId ∧
          AccountDeserialize.tryDeserialize (ledger' ctx.accounts.voterWeightRecord).data =
            .ok record ∧
          record.realm = realm ∧ record.governingTokenMint = mint ∧
          record.governingTokenOwner = voter ∧ record.voterWeight = 0 ∧
          record.voterWeightExpiry = some 0) ∧
    ∀ ctx ledger', ctx.isSigner voter = false →
      process env s.clock (.createVoterWeightRecord ctx voter) s.ledger ≠ .ok ledger' := by
  refine ⟨?_, ?_, ?_⟩
  · intro hnever
    rcases ho : origin env h (env.address (.voterWeightRecord realm mint voter)) with _ | p
    · exact derived_vacant env h s hrun _ ho
    · -- Whatever is there was created for this very place.
      have hs := shape_run env h s hrun (env.address (.voterWeightRecord realm mint voter))
      rw [ho] at hs
      have hp := place_of_address env _ p hfree (shape_placed env p _ _ hs).2.symm
      rw [hp] at ho
      rcases record_created_by_owner env h s hrun _ realm mint voter ho with ⟨e, he, hcr⟩
      exact absurd hcr (hnever e he)
  · intro hvac hlive ctx hcall hsign
    rcases hlive with ⟨reg, hreg, rfl, rfl⟩
    rcases (registrarAt_eq_some ..).mp hreg with ⟨hown, hload⟩
    have hok := (createVoterWeightRecord_eq_ok env ctx voter s.ledger _).mpr ⟨reg, {
      registrar_owner := by rw [hcall.registrar]; exact hown
      registrar_loads := by rw [hcall.registrar]; exact hload
      owner_signs := by rw [hcall.owner]; exact hsign
      payer_signs := hcall.payer_signs
      system := hcall.system
      record_seeds := hcall.target
      pays := ⟨hcall.payer_ne, hcall.payer_writable, hcall.record_writable⟩
      vacant := by rw [hcall.target]; exact hvac
      registrar_seeds := hcall.registrar
      owner_eq := hcall.owner }, rfl⟩
    refine ⟨_, newVoterWeightRecord env reg.realm reg.governingTokenMint voter, hok, ?_, ?_,
      rfl, rfl, rfl, rfl, rfl⟩
    · rw [Function.update_self]
    · rw [Function.update_self]
      exact (voterWeightRecord_loads_iff _ _).mpr ⟨_, rfl⟩
  · intro ctx ledger' hno hok
    -- The signer slot is checked, and has to name the owner.
    rcases (createVoterWeightRecord_eq_ok ..).mp hok with ⟨reg, hacc, _⟩
    have hsign := hacc.owner_signs
    rw [hacc.owner_eq, hno] at hsign
    exact Bool.false_ne_true hsign

/-- A wallet's record, before and at its creation. -/
theorem no_front_running_devnet :
    (Devnet.after [Devnet.createRegistrar Devnet.mint]).2.ledger
      (Devnet.env.address (.voterWeightRecord Devnet.realm Devnet.mint Devnet.voterA)) = .vacant ∧
    ∃ ledger', process Devnet.env (Devnet.after [Devnet.createRegistrar Devnet.mint]).2.clock
      (.createVoterWeightRecord (Devnet.createRecordContext Devnet.mint Devnet.voterA)
        Devnet.voterA)
      (Devnet.after [Devnet.createRegistrar Devnet.mint]).2.ledger = .ok ledger' := by
  rcases no_front_running Devnet.env _ _ (Devnet.after_run [Devnet.createRegistrar Devnet.mint])
    Devnet.realm Devnet.mint Devnet.voterA
    (cluster_collisionFreeAt _ _ _ _ (by decide +kernel) (by decide +kernel)) with
    ⟨hvacant, hcreate, _⟩
  have hvac := hvacant (by
    intro e he hcreates
    rcases hcreates with ⟨ctx, _, hev, _⟩
    simp only [Devnet.after, replay, List.mem_cons, List.not_mem_nil, or_false] at he
    rw [he] at hev
    simp only [Devnet.createRegistrar, Event.instruction.injEq, reduceCtorEq] at hev)
  have hlive : RegistrarLive Devnet.env
      (Devnet.after [Devnet.createRegistrar Devnet.mint]).2.ledger Devnet.realm Devnet.mint :=
    ⟨⟨Devnet.governance, Devnet.realm, Devnet.mint, 50, 2592000, FixedBytes.zero 64⟩,
      by decide +kernel, rfl, rfl⟩
  refine ⟨hvac, ?_⟩
  rcases hcreate hvac hlive (Devnet.createRecordContext Devnet.mint Devnet.voterA)
    ⟨rfl, rfl, rfl, rfl, by decide, by decide +kernel, rfl, rfl⟩ (by decide) with
    ⟨ledger', _, hok, _⟩
  exact ⟨ledger', hok⟩

/-! ### Closing -/

/-- The accounts of a call that closes a record, signed by the wallet the
    record names. -/
structure ClosingCall (env : Env) (a : Pubkey) (record : VoterWeightRecord)
    (ctx : Context CloseVoterWeightRecord) : Prop where
  registrar : ctx.accounts.registrar =
    env.address (.registrar record.realm record.governingTokenMint)
  target : ctx.accounts.voterWeightRecord = a
  owner : ctx.accounts.voterAuthority = record.governingTokenOwner
  signs : ctx.isSigner record.governingTokenOwner = true
  record_writable : ctx.isWritable a = true
  destination_ne : ctx.accounts.solDestination ≠ a
  destination_writable : ctx.isWritable ctx.accounts.solDestination = true

/-- The wallet a live record names can close it exactly while the registrar
    of the record's realm and mint is live. -/
theorem close_iff_registrarLive (env : Env) (h : History) (s : State)
    (hrun : Run (plugin env) h s) (a : Pubkey) (record : VoterWeightRecord)
    (hlive : LiveRecord env h s a record) (ctx : Context CloseVoterWeightRecord)
    (hcall : ClosingCall env a record ctx) :
    (∃ ledger', process env s.clock (.closeVoterWeightRecord ctx) s.ledger = .ok ledger' ∧
      ledger' a = .vacant) ↔
    RegistrarLive env s.ledger record.realm record.governingTokenMint := by
  rcases hlive with ⟨⟨realm, mint, owner, ho⟩, hload⟩
  have hs := shape_run env h s hrun a
  rw [ho] at hs
  constructor
  · intro hok
    rcases hok with ⟨ledger', hok, _⟩
    rcases controlsRecord_of_close env s.clock ctx s.ledger ledger' hok with ⟨reg, r, hc⟩
    have hr := hc.record_loads
    -- The record loaded is the live one, so the registrar loaded is of its pair.
    rw [hcall.target, hload, Except.ok.injEq] at hr
    subst hr
    refine ⟨reg, ?_, hc.realm_eq.symm, hc.mint_eq.symm⟩
    rw [← hcall.registrar]
    exact (registrarAt_eq_some ..).mpr ⟨hc.registrar_owner, hc.registrar_loads⟩
  · intro hreg
    rcases hreg with ⟨reg, hreg, hrealm, hmint⟩
    rcases (registrarAt_eq_some ..).mp hreg with ⟨hown, hregl⟩
    have hok := (closeVoterWeightRecord_eq_ok env ctx s.ledger _).mpr ⟨reg, record, {
      registrar_owner := by rw [hcall.registrar]; exact hown
      registrar_loads := by rw [hcall.registrar]; exact hregl
      record_owner := by rw [hcall.target]; exact VoterShape.owned hs
      record_loads := by rw [hcall.target]; exact hload
      signs := by rw [hcall.owner]; exact hcall.signs
      seeds := by rw [hrealm, hmint]; exact hcall.registrar
      writable := by rw [hcall.target]; exact hcall.record_writable
      realm_eq := hrealm.symm
      mint_eq := hmint.symm
      owner_eq := hcall.owner.symm },
      by rw [hcall.target]; exact hcall.destination_ne.symm, hcall.destination_writable, rfl⟩
    refine ⟨_, hok, ?_⟩
    rw [hcall.target, Function.update_self]

/-- A record outlives its registrar, and can then not be closed. -/
theorem record_outlives_registrar :
    Run (plugin Devnet.env) (Devnet.after Devnet.orphaned).1 (Devnet.after Devnet.orphaned).2 ∧
    LiveRecord Devnet.env (Devnet.after Devnet.orphaned).1 (Devnet.after Devnet.orphaned).2
      (Devnet.record Devnet.mint Devnet.voterA)
      (newVoterWeightRecord Devnet.env Devnet.realm Devnet.mint Devnet.voterA) ∧
    ClosingCall Devnet.env (Devnet.record Devnet.mint Devnet.voterA)
      (newVoterWeightRecord Devnet.env Devnet.realm Devnet.mint Devnet.voterA)
      (Devnet.closeRecordContext Devnet.mint Devnet.voterA) ∧
    ∀ ledger', process Devnet.env (Devnet.after Devnet.orphaned).2.clock
      (.closeVoterWeightRecord (Devnet.closeRecordContext Devnet.mint Devnet.voterA))
      (Devnet.after Devnet.orphaned).2.ledger ≠ .ok ledger' := by
  refine ⟨Devnet.after_run _, ⟨⟨Devnet.realm, Devnet.mint, Devnet.voterA, by decide +kernel⟩,
    by decide +kernel⟩, ⟨rfl, rfl, rfl, by decide, rfl, by decide +kernel, rfl⟩, ?_⟩
  intro ledger' hok
  have hfails : (process Devnet.env (Devnet.after Devnet.orphaned).2.clock
      (.closeVoterWeightRecord (Devnet.closeRecordContext Devnet.mint Devnet.voterA))
      (Devnet.after Devnet.orphaned).2.ledger).isOk = false := by
    decide +kernel
  rw [hok] at hfails
  exact Bool.noConfusion hfails

/-- With the registrar live, the same call closes the record. -/
theorem close_iff_registrarLive_devnet :
    ∃ ledger', process Devnet.env (Devnet.after Devnet.votes).2.clock
      (.closeVoterWeightRecord (Devnet.closeRecordContext Devnet.mint Devnet.voterA))
      (Devnet.after Devnet.votes).2.ledger = .ok ledger' ∧
        ledger' (Devnet.record Devnet.mint Devnet.voterA) = .vacant := by
  refine (close_iff_registrarLive Devnet.env _ _ (Devnet.after_run Devnet.votes)
    (Devnet.record Devnet.mint Devnet.voterA)
    ((newVoterWeightRecord Devnet.env Devnet.realm Devnet.mint Devnet.voterA).activated 1000)
    ⟨⟨Devnet.realm, Devnet.mint, Devnet.voterA, by decide +kernel⟩, by decide +kernel⟩
    (Devnet.closeRecordContext Devnet.mint Devnet.voterA)
    ⟨rfl, rfl, rfl, by decide, rfl, by decide +kernel, rfl⟩).mpr ?_
  exact ⟨⟨Devnet.governance, Devnet.realm, Devnet.mint, 50, 2592000, FixedBytes.zero 64⟩,
    by decide +kernel, rfl, rfl⟩

end EntrosVoterWeight
