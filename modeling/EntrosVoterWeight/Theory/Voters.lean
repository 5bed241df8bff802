import EntrosVoterWeight.Theory.Reads
import EntrosVoterWeight.Theory.Separation
import EntrosVoterWeight.Transition.Machine

/-!
# Voters Do Not Interfere

Any number of wallets create, update and close their records, in any order,
passing each other's accounts as they like. No wallet can tell what the others
do.

The argument is an unwinding. Two ledgers are compared, the one after all
steps and the one after a wallet's own steps only. Both differ from the ledger
at the start only by records at the addresses their fields put them, on ground
that was vacant (`Voting`), and they hold the same at the wallet's own
addresses. A successful step of a wallet is then confined to an address
derived from that wallet's key: a record that was there at the start would
have to be one the program created, and there were none; any other is where
its fields put it, and they name the wallet. So a step of another wallet is at
another address, and a step of the wallet itself finds the same accounts in
both ledgers.

## Main definitions

* `VoterInstruction`, `VoterStep`: What a wallet does, with a clock reading.
* `voters`: The ledger as a machine that answers with success or failure.
* `Voting`: A ledger reached from another by steps of wallets.
* `Indistinguishable`: The relation of the unwinding.

## Theorems

* `wallet_step`: What a wallet's step looks at and changes.
* `indistinguishable_other`, `indistinguishable_own`: The two step conditions.
* `voters_do_not_interfere`: Deleting the other wallets' steps changes nothing
  for a wallet.
-/

namespace EntrosVoterWeight

open Borsh Anchor Transition

/-- The instructions a wallet gives about its record. -/
inductive VoterInstruction
  | create (ctx : Context CreateVoterWeightRecord) (governingTokenOwner : Pubkey)
  | update (ctx : Context UpdateVoterWeightRecord)
  | close (ctx : Context CloseVoterWeightRecord)

def VoterInstruction.instruction : VoterInstruction → Instruction
  | .create ctx governingTokenOwner => .createVoterWeightRecord ctx governingTokenOwner
  | .update ctx => .updateVoterWeightRecord ctx
  | .close ctx => .closeVoterWeightRecord ctx

/-- The wallet that has to sign. -/
def VoterInstruction.wallet : VoterInstruction → Pubkey
  | .create ctx _ => ctx.accounts.governingTokenOwnerSigner
  | .update ctx => ctx.accounts.voterAuthority
  | .close ctx => ctx.accounts.voterAuthority

structure VoterStep where
  clock : Clock
  call : VoterInstruction

/-- The ledger under the steps of wallets, answering with success or
    failure. -/
def voters (env : Env) : Machine Ledger VoterStep Bool where
  step ledger x := ((process env x.clock x.call.instruction ledger).isOk,
    (State.apply env ⟨ledger, x.clock⟩ x.call.instruction).ledger)

/-- Whether a step belongs to a wallet. -/
def ownedBy (voter : Pubkey) (x : VoterStep) : Bool := x.call.wallet = voter

/-- A voter weight record where its own fields put it. -/
structure HoldsRecord (env : Env) (a : Pubkey) (acc : Account) (record : VoterWeightRecord) :
    Prop where
  owned : acc.owner = programId
  loads : AccountDeserialize.tryDeserialize acc.data = .ok record
  discriminator : record.accountDiscriminator = env.voterWeightRecordDiscriminator
  address : a = env.address (.voterWeightRecord record.realm record.governingTokenMint
    record.governingTokenOwner)

/-- The ledger is `base`, with records on what was vacant. -/
def Voting (env : Env) (base ledger : Ledger) : Prop :=
  ∀ a, ledger a = base a ∨ (base a = .vacant ∧ ∃ record, HoldsRecord env a (ledger a) record)

/-- An account that was there from the start. -/
def Settled (base ledger : Ledger) (a : Pubkey) : Prop :=
  ledger a = base a ∧ base a ≠ .vacant

/-- What a successful step of a wallet looks at and changes. -/
structure WalletStep (env : Env) (o : Pubkey → Option Place) (base ledger ledger' : Ledger)
    (call : VoterInstruction) : Prop where
  registrar : Settled base ledger call.instruction.registrar
  foreign : ∀ a, call.instruction.foreign = some a → Settled base ledger a
  vacant : base call.instruction.target = .vacant
  place : ∃ key realm mint, o key = some (.registrar realm mint) ∧
    call.instruction.target = env.address (.voterWeightRecord realm mint call.wallet)
  result : ledger' call.instruction.target = .vacant ∨
    ∃ record, HoldsRecord env call.instruction.target (ledger' call.instruction.target) record

variable (env : Env) (o : Pubkey → Option Place) (base : Ledger)

/-! ### What a wallet's step does -/

/-- What was there from the start is there in every such ledger. -/
theorem settled_same (l₁ l₂ : Ledger) (hv : Voting env base l₂) (a : Pubkey)
    (h : Settled base l₁ a) : l₁ a = l₂ a := by
  rcases hv a with heq | ⟨hvac, _⟩
  · rw [heq]
    exact h.1
  · exact absurd hvac h.2

/-- A program's account that is not vacant at the start and not a record is
    settled. -/
theorem settled_of_not_record (ledger : Ledger) (hv : Voting env base ledger) (a : Pubkey)
    (hne : ledger a ≠ .vacant) (hnot : ∀ record, ¬ HoldsRecord env a (ledger a) record) :
    Settled base ledger a := by
  rcases hv a with heq | ⟨_, record, hrec⟩
  · exact ⟨heq, heq ▸ hne⟩
  · exact absurd hrec (hnot record)

/-- Registrars do not come about by steps of wallets. -/
theorem settled_registrar (ledger : Ledger) (hv : Voting env base ledger) (key : Pubkey)
    (registrar : Registrar) (hown : (ledger key).owner = programId)
    (hload : AccountDeserialize.tryDeserialize (ledger key).data = .ok registrar) :
    Settled base ledger key := by
  refine settled_of_not_record env base ledger hv key ?_ ?_
  · intro hvac
    rw [hvac] at hown
    exact vacant_owner_ne hown
  · intro record hrec
    have hhead := (head_of_voter _ _ hrec.loads).1
    rw [(head_of_registrar _ _ hload).1, hrec.discriminator] at hhead
    exact env.voter_ne_registrar (FixedBytes.ext hhead).symm

/-- The registrar a wallet's step loads is one that was live at the start. -/
theorem live_registrar (hc : Consistent env o base) (ledger : Ledger)
    (hv : Voting env base ledger) (key : Pubkey) (registrar : Registrar)
    (hown : (ledger key).owner = programId)
    (hload : AccountDeserialize.tryDeserialize (ledger key).data = .ok registrar) :
    o key = some (.registrar registrar.realm registrar.governingTokenMint) := by
  have hset := settled_registrar env base ledger hv key registrar hown hload
  rw [hset.1] at hown hload
  exact (consistent_registrar env o base hc key registrar hown hload).1

/-- The record a wallet controls came about by steps of wallets, so it is
    where its fields put it. -/
theorem controlled_record (hc : Consistent env o base)
    (hnone : ∀ a realm mint owner, o a ≠ some (.voterWeightRecord realm mint owner))
    (ledger : Ledger) (hv : Voting env base ledger) (isSigner isWritable : Pubkey → Bool)
    (registrarKey key voter : Pubkey) (registrar : Registrar) (record : VoterWeightRecord)
    (h : ControlsRecord env ledger isSigner isWritable registrarKey key voter registrar record) :
    base key = .vacant ∧ HoldsRecord env key (ledger key) record := by
  rcases hv key with heq | ⟨hvac, r, hrec⟩
  · have hset := settled_registrar env base ledger hv registrarKey registrar h.registrar_owner
      h.registrar_loads
    have hbase := controlsRecord_congr env ledger base isSigner isWritable registrarKey key voter
      registrar record hset.1 heq h
    rcases consistent_controls env o base hc _ _ _ _ _ registrar record hbase with ⟨owner, ho⟩
    exact absurd ho (hnone key _ _ owner)
  · have hr := h.record_loads.symm.trans hrec.loads
    rw [Except.ok.injEq] at hr
    rw [hr]
    exact ⟨hvac, hrec⟩

/-- A successful step of a wallet is confined to an address of its own, under
    a registrar that was live at the start. -/
theorem wallet_step (hc : Consistent env o base)
    (hnone : ∀ a realm mint owner, o a ≠ some (.voterWeightRecord realm mint owner))
    (clock : Clock) (call : VoterInstruction) (ledger ledger' : Ledger)
    (hv : Voting env base ledger)
    (hp : process env clock call.instruction ledger = .ok ledger') :
    WalletStep env o base ledger ledger' call := by
  cases call with
  | create ctx owner =>
      rcases (createVoterWeightRecord_eq_ok ..).mp hp with ⟨reg, h, rfl⟩
      have hset := settled_registrar env base ledger hv _ reg h.registrar_owner h.registrar_loads
      have hlive := live_registrar env o base hc ledger hv _ reg h.registrar_owner
        h.registrar_loads
      refine ⟨hset, ?_, ?_, ⟨_, reg.realm, reg.governingTokenMint, hlive, ?_⟩, Or.inr ?_⟩
      · intro a ha
        simp only [VoterInstruction.instruction, Instruction.foreign, reduceCtorEq] at ha
      · -- What is vacant now was vacant at the start.
        rcases hv ctx.accounts.voterWeightRecord with heq | ⟨hvac, _⟩
        · exact heq.symm.trans h.vacant
        · exact hvac
      · rw [VoterInstruction.wallet, h.owner_eq]
        exact h.record_seeds
      · refine ⟨newVoterWeightRecord env reg.realm reg.governingTokenMint owner, ?_, ?_, rfl,
          h.record_seeds⟩
        · simp only [VoterInstruction.instruction, Instruction.target, Function.update_self]
        · simp only [VoterInstruction.instruction, Instruction.target, Function.update_self]
          exact (voterWeightRecord_loads_iff _ _).mpr ⟨_, rfl⟩
  | update ctx =>
      rcases recordUpdated_of_ok env clock ctx ledger ledger' hp with ⟨reg, r, h⟩
      have hset := settled_registrar env base ledger hv _ reg h.controls.registrar_owner
        h.controls.registrar_loads
      have hlive := live_registrar env o base hc ledger hv _ reg h.controls.registrar_owner
        h.controls.registrar_loads
      rcases controlled_record env o base hc hnone ledger hv _ _ _ _ _ reg r h.controls with
        ⟨hvac, hrec⟩
      refine ⟨hset, ?_, hvac, ⟨_, reg.realm, reg.governingTokenMint, hlive, ?_⟩, Or.inr ?_⟩
      · -- The identity belongs to another program, so it is no record.
        intro a ha
        simp only [VoterInstruction.instruction, Instruction.foreign, h.identity,
          Option.some.injEq] at ha
        have hown := h.eligible.owner
        rw [ha] at hown
        refine settled_of_not_record env base ledger hv a ?_ ?_
        · intro hvac
          rw [hvac] at hown
          exact absurd hown (by decide)
        · intro record hrec
          exact absurd (hown.symm.trans hrec.owned) (by decide)
      · have haddr := hrec.address
        rw [h.controls.realm_eq, h.controls.mint_eq, h.controls.owner_eq] at haddr
        exact haddr
      · refine ⟨r.activated clock.slot, ?_, ?_, hrec.discriminator, hrec.address⟩
        · simp only [VoterInstruction.instruction, Instruction.target, h.result]
        · simp only [VoterInstruction.instruction, Instruction.target, h.result]
          exact (voterWeightRecord_loads_iff _ _).mpr ⟨_, rfl⟩
  | close ctx =>
      rcases controlsRecord_of_close env clock ctx ledger ledger' hp with ⟨reg, r, h⟩
      have hset := settled_registrar env base ledger hv _ reg h.registrar_owner h.registrar_loads
      have hlive := live_registrar env o base hc ledger hv _ reg h.registrar_owner
        h.registrar_loads
      rcases controlled_record env o base hc hnone ledger hv _ _ _ _ _ reg r h with ⟨hvac, hrec⟩
      refine ⟨hset, ?_, hvac, ⟨_, reg.realm, reg.governingTokenMint, hlive, ?_⟩,
        Or.inl (ends_vacant env clock _ ledger ledger' hp rfl)⟩
      · intro a ha
        simp only [VoterInstruction.instruction, Instruction.foreign, reduceCtorEq] at ha
      · have haddr := hrec.address
        rw [h.realm_eq, h.mint_eq, h.owner_eq] at haddr
        exact haddr

theorem voting_start : Voting env base base := fun _ => Or.inl rfl

/-- Steps of wallets lead from such a ledger to such a ledger. -/
theorem voting_step (hc : Consistent env o base)
    (hnone : ∀ a realm mint owner, o a ≠ some (.voterWeightRecord realm mint owner))
    (clock : Clock) (call : VoterInstruction) (ledger ledger' : Ledger)
    (hv : Voting env base ledger)
    (hp : process env clock call.instruction ledger = .ok ledger') : Voting env base ledger' := by
  have hstep := wallet_step env o base hc hnone clock call ledger ledger' hv hp
  intro a
  by_cases ha : a = call.instruction.target
  · rw [ha]
    rcases hstep.result with hvac | hrec
    · exact Or.inl (hvac.trans hstep.vacant.symm)
    · exact Or.inr ⟨hstep.vacant, hrec⟩
  · rw [process_frame env clock call.instruction ledger ledger' hp a ha]
    exact hv a

/-! ### The unwinding -/

/-- Two ledgers a wallet cannot tell apart. -/
structure Indistinguishable (env : Env) (base : Ledger) (voter : Pubkey) (l₁ l₂ : Ledger) :
    Prop where
  left : Voting env base l₁
  right : Voting env base l₂
  records : ∀ realm mint, CollisionFreeAt env (.voterWeightRecord realm mint voter) →
    l₁ (env.address (.voterWeightRecord realm mint voter)) =
      l₂ (env.address (.voterWeightRecord realm mint voter))

theorem Indistinguishable.symm (env : Env) (base : Ledger) (voter : Pubkey) (l₁ l₂ : Ledger)
    (h : Indistinguishable env base voter l₁ l₂) : Indistinguishable env base voter l₂ l₁ where
  left := h.right
  right := h.left
  records realm mint hfree := (h.records realm mint hfree).symm

theorem voters_step_ok (ledger ledger' : Ledger) (x : VoterStep)
    (hp : process env x.clock x.call.instruction ledger = .ok ledger') :
    (voters env).step ledger x = (true, ledger') := by
  have happ := apply_ok env ⟨ledger, x.clock⟩ x.call.instruction ledger' hp
  simp only [voters, hp, happ]
  rfl

theorem voters_step_error (ledger : Ledger) (x : VoterStep) (e : PluginError)
    (hp : process env x.clock x.call.instruction ledger = .error e) :
    (voters env).step ledger x = (false, ledger) := by
  have happ := apply_error env ⟨ledger, x.clock⟩ x.call.instruction e hp
  simp only [voters, hp, happ]
  rfl

/-- A step of another wallet is at an address of that wallet. -/
theorem indistinguishable_other (hc : Consistent env o base)
    (hnone : ∀ a realm mint owner, o a ≠ some (.voterWeightRecord realm mint owner))
    (voter : Pubkey) (l₁ l₂ : Ledger) (x : VoterStep)
    (hR : Indistinguishable env base voter l₁ l₂) (hx : ownedBy voter x = false) :
    Indistinguishable env base voter ((voters env).step l₁ x).2 l₂ := by
  rcases hp : process env x.clock x.call.instruction l₁ with e | l₁'
  · rw [voters_step_error env l₁ x e hp]
    exact hR
  · rw [voters_step_ok env l₁ l₁' x hp]
    have hother : x.call.wallet ≠ voter := by simpa only [ownedBy, decide_eq_false_iff_not] using hx
    rcases (wallet_step env o base hc hnone x.clock x.call l₁ l₁' hR.left hp).place with
      ⟨_, realm', mint', _, haddr⟩
    refine ⟨voting_step env o base hc hnone x.clock x.call l₁ l₁' hR.left hp, hR.right, ?_⟩
    intro realm mint hfree
    -- Equal addresses would make the two wallets one.
    have hne : env.address (.voterWeightRecord realm mint voter) ≠ x.call.instruction.target := by
      intro heq
      have hplace := place_of_address env _ _ hfree (haddr.symm.trans heq.symm)
      simp only [Place.voterWeightRecord.injEq] at hplace
      exact hother hplace.2.2
    exact (process_frame env x.clock _ l₁ l₁' hp _ hne).trans (hR.records realm mint hfree)

/-- A wallet's step that succeeds in one of the ledgers succeeds in the other
    and leaves the same account. -/
theorem same_step (hc : Consistent env o base)
    (hnone : ∀ a realm mint owner, o a ≠ some (.voterWeightRecord realm mint owner))
    (voter : Pubkey) (hfree : ∀ a realm mint, o a = some (.registrar realm mint) →
      CollisionFreeAt env (.voterWeightRecord realm mint voter))
    (l₁ l₂ l₁' : Ledger) (x : VoterStep) (hR : Indistinguishable env base voter l₁ l₂)
    (hx : x.call.wallet = voter)
    (hp : process env x.clock x.call.instruction l₁ = .ok l₁') :
    ∃ l₂', process env x.clock x.call.instruction l₂ = .ok l₂' ∧
      l₂' x.call.instruction.target = l₁' x.call.instruction.target := by
  have hstep := wallet_step env o base hc hnone x.clock x.call l₁ l₁' hR.left hp
  rcases hstep.place with ⟨key, realm, mint, hlive, haddr⟩
  rw [hx] at haddr
  refine process_congr env x.clock x.call.instruction l₁ l₂ l₁' ?_ ?_ ?_ hp
  · exact settled_same env base l₁ l₂ hR.right _ hstep.registrar
  · rw [haddr]
    exact hR.records realm mint (hfree key realm mint hlive)
  · intro a ha
    exact settled_same env base l₁ l₂ hR.right a (hstep.foreign a ha)

/-- A wallet's own step is answered alike and keeps the ledgers alike. -/
theorem indistinguishable_own (hc : Consistent env o base)
    (hnone : ∀ a realm mint owner, o a ≠ some (.voterWeightRecord realm mint owner))
    (voter : Pubkey) (hfree : ∀ a realm mint, o a = some (.registrar realm mint) →
      CollisionFreeAt env (.voterWeightRecord realm mint voter))
    (l₁ l₂ : Ledger) (x : VoterStep) (hR : Indistinguishable env base voter l₁ l₂)
    (hx : ownedBy voter x = true) :
    ((voters env).step l₁ x).1 = ((voters env).step l₂ x).1 ∧
      Indistinguishable env base voter ((voters env).step l₁ x).2 ((voters env).step l₂ x).2 := by
  have hwallet : x.call.wallet = voter := by simpa only [ownedBy, decide_eq_true_eq] using hx
  rcases hp : process env x.clock x.call.instruction l₁ with e | l₁'
  · rcases hp₂ : process env x.clock x.call.instruction l₂ with e₂ | l₂'
    · rw [voters_step_error env l₁ x e hp, voters_step_error env l₂ x e₂ hp₂]
      exact ⟨rfl, hR⟩
    · -- A success in the second ledger would be one in the first.
      rcases same_step env o base hc hnone voter hfree l₂ l₁ l₂' x hR.symm hwallet hp₂ with
        ⟨l, hl, _⟩
      rw [hp] at hl
      exact absurd hl (by simp only [reduceCtorEq, not_false_eq_true])
  · rcases same_step env o base hc hnone voter hfree l₁ l₂ l₁' x hR hwallet hp with
      ⟨l₂', hp₂, heq⟩
    rw [voters_step_ok env l₁ l₁' x hp, voters_step_ok env l₂ l₂' x hp₂]
    refine ⟨rfl, voting_step env o base hc hnone x.clock x.call l₁ l₁' hR.left hp,
      voting_step env o base hc hnone x.clock x.call l₂ l₂' hR.right hp₂, ?_⟩
    intro realm mint hrec
    by_cases ha : env.address (.voterWeightRecord realm mint voter) = x.call.instruction.target
    · rw [ha]
      exact heq.symm
    · calc l₁' (env.address (.voterWeightRecord realm mint voter))
          = l₁ (env.address (.voterWeightRecord realm mint voter)) :=
            process_frame env x.clock _ l₁ l₁' hp _ ha
        _ = l₂ (env.address (.voterWeightRecord realm mint voter)) :=
            hR.records realm mint hrec
        _ = l₂' (env.address (.voterWeightRecord realm mint voter)) :=
            (process_frame env x.clock _ l₂ l₂' hp₂ _ ha).symm

/-- Whatever the other wallets do in between, a wallet's steps succeed or fail
    as they would without it, and its records end up the same. -/
theorem voters_do_not_interfere (hspec : GovernanceSpec env) (h : History) (s : State)
    (hrun : Run (plugin env) h s) (hsep : ∀ e ∈ h, Separated env e.pre.ledger)
    (hnone : ∀ a realm mint owner,
      origin env h a ≠ some (.voterWeightRecord realm mint owner))
    (voter : Pubkey) (hfree : ∀ a realm mint, origin env h a = some (.registrar realm mint) →
      CollisionFreeAt env (.voterWeightRecord realm mint voter))
    (steps : List VoterStep) :
    (voters env).answers (ownedBy voter) s.ledger steps =
      (voters env).answers (ownedBy voter) s.ledger (steps.filter (ownedBy voter)) ∧
    ∀ realm mint, CollisionFreeAt env (.voterWeightRecord realm mint voter) →
      (voters env).final s.ledger steps (env.address (.voterWeightRecord realm mint voter)) =
        (voters env).final s.ledger (steps.filter (ownedBy voter))
          (env.address (.voterWeightRecord realm mint voter)) := by
  have hc := consistent_run env hspec h s hrun hsep
  have hstart : Indistinguishable env s.ledger voter s.ledger s.ledger :=
    ⟨voting_start env s.ledger, voting_start env s.ledger, fun _ _ _ => rfl⟩
  rcases unwind (voters env) (ownedBy voter) (Indistinguishable env s.ledger voter)
    (indistinguishable_other env _ s.ledger hc hnone voter)
    (indistinguishable_own env _ s.ledger hc hnone voter hfree) steps s.ledger s.ledger hstart with
    ⟨hans, hfin⟩
  exact ⟨hans, hfin.records⟩

/-! ### Two wallets on the cluster of the examples -/

/-- Two wallets at work on their records, and the second one also on the
    first one's. -/
def Devnet.crossing : List VoterStep := [
  ⟨Devnet.clock, .create (Devnet.createRecordContext Devnet.mint Devnet.voterA) Devnet.voterA⟩,
  ⟨Devnet.clock, .create (Devnet.createRecordContext Devnet.mint Devnet.voterB) Devnet.voterB⟩,
  ⟨Devnet.clock, .close { Devnet.closeRecordContext Devnet.mint Devnet.voterB with
    accounts := ⟨Devnet.registrar Devnet.mint, Devnet.record Devnet.mint Devnet.voterA,
      Devnet.voterB, Devnet.payer⟩ }⟩,
  ⟨Devnet.clock, .update (Devnet.updateRecordContext Devnet.mint Devnet.voterA)⟩,
  ⟨Devnet.clock, .close (Devnet.closeRecordContext Devnet.mint Devnet.voterB)⟩]

example : (voters Devnet.env).answers (ownedBy Devnet.voterA)
    (Devnet.after [Devnet.createRegistrar Devnet.mint]).2.ledger Devnet.crossing =
      [true, true] := by decide +kernel

theorem Devnet.origin_createRegistrar :
    origin Devnet.env (Devnet.after [Devnet.createRegistrar Devnet.mint]).1 =
      Function.update (fun _ => none) (Devnet.registrar Devnet.mint)
        (some (.registrar Devnet.realm Devnet.mint)) := by
  rcases exists_of_isOk Devnet.env Devnet.genesis.clock (Devnet.createRegistrar Devnet.mint)
    Devnet.genesis.ledger (by decide +kernel) with ⟨ledger', hp⟩
  exact origin_ok Devnet.env Devnet.genesis _ _ [] ledger' hp

/-- The first wallet's creation and update succeed, and its record is what it
    would be without the second. -/
theorem voters_do_not_interfere_devnet :
    (voters Devnet.env).answers (ownedBy Devnet.voterA)
        (Devnet.after [Devnet.createRegistrar Devnet.mint]).2.ledger Devnet.crossing =
      (voters Devnet.env).answers (ownedBy Devnet.voterA)
        (Devnet.after [Devnet.createRegistrar Devnet.mint]).2.ledger
        (Devnet.crossing.filter (ownedBy Devnet.voterA)) ∧
    (voters Devnet.env).final (Devnet.after [Devnet.createRegistrar Devnet.mint]).2.ledger
        Devnet.crossing (Devnet.record Devnet.mint Devnet.voterA) =
      (voters Devnet.env).final (Devnet.after [Devnet.createRegistrar Devnet.mint]).2.ledger
        (Devnet.crossing.filter (ownedBy Devnet.voterA))
        (Devnet.record Devnet.mint Devnet.voterA) := by
  have hfree := Devnet.collisionFreeAt
    (.voterWeightRecord Devnet.realm Devnet.mint Devnet.voterA) (by decide +kernel)
  have hnone : ∀ a realm mint owner,
      origin Devnet.env (Devnet.after [Devnet.createRegistrar Devnet.mint]).1 a ≠
        some (.voterWeightRecord realm mint owner) := by
    intro a realm mint owner ho
    rw [Devnet.origin_createRegistrar] at ho
    by_cases ha : a = Devnet.registrar Devnet.mint
    · simp only [ha, Function.update_self, Option.some.injEq, reduceCtorEq] at ho
    · simp only [Function.update_of_ne ha, reduceCtorEq] at ho
  have hlive : ∀ a realm mint,
      origin Devnet.env (Devnet.after [Devnet.createRegistrar Devnet.mint]).1 a =
        some (.registrar realm mint) →
      CollisionFreeAt Devnet.env (.voterWeightRecord realm mint Devnet.voterA) := by
    intro a realm mint ho
    rw [Devnet.origin_createRegistrar] at ho
    by_cases ha : a = Devnet.registrar Devnet.mint
    · simp only [ha, Function.update_self, Option.some.injEq, Place.registrar.injEq] at ho
      rw [← ho.1, ← ho.2]
      exact hfree
    · simp only [Function.update_of_ne ha, reduceCtorEq] at ho
  rcases voters_do_not_interfere Devnet.env (cluster_governanceSpec _ _ _) _ _
    (Devnet.after_run [Devnet.createRegistrar Devnet.mint])
    (Devnet.after_separated _ (by decide +kernel)) hnone Devnet.voterA hlive Devnet.crossing with
    ⟨hans, hfin⟩
  exact ⟨hans, hfin Devnet.realm Devnet.mint hfree⟩

end EntrosVoterWeight
