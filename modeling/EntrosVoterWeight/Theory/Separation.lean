import EntrosVoterWeight.Cluster
import EntrosVoterWeight.Theory.History

/-!
# The Kinds Kept Apart

What the invariant becomes once executable programs are not accepted as
realms.

`Shape` leaves room for a registrar, or for zeros, to be loaded as a record.
The instruction that does it then compares the record's realm with the realm
of a registrar. A registrar read as a record has its governance program there,
which is executable; zeros have the system program's address, which is too;
and the realm of a registrar was accepted as a realm when it was created. So
the comparison fails, registrars stay what the realm's authority made them,
and zeros stay zeros.

`Consistent` is the two invariants together, as a property of a ledger and the
origins of its accounts. The lemmas below it read an account's kind, realm and
mint off a successful load, and everything about several accounts at once goes
through them.

## Main definitions

* `SoundRegistrar`: What a registrar holds.
* `Refined`: What an account holds beyond its shape.
* `Consistent`: A ledger in which every account has its shape and more.

## Theorems

* `consistent_run`: Every ledger of a separated run is consistent.
* `consistent_registrar`, `consistent_voter`, `consistent_max`: What a loaded
  account is.
-/

namespace EntrosVoterWeight

open Borsh Anchor Transition

/-- What a registrar holds from creation to close. -/
structure SoundRegistrar (env : Env) (realm mint : Pubkey) (registrar : Registrar) : Prop where
  realm_eq : registrar.realm = realm
  mint_eq : registrar.governingTokenMint = mint
  age_pos : 0 < registrar.maxVerificationAge
  governance_executable : env.executable registrar.governanceProgramId = true
  realm_not_executable : env.executable realm = false

/-- What an account holds beyond its shape. -/
def Refined (env : Env) : Option Place → Account → Prop
  | none, acc => acc.owner = programId → ∃ n, acc.data = List.replicate n 0
  | some (.registrar realm mint), acc =>
    ∃ registrar, acc.data = AccountSerialize.trySerialize registrar ∧
      SoundRegistrar env realm mint registrar
  | some (.voterWeightRecord _ _ _), _ => True
  | some (.maxVoterWeightRecord _ _), _ => True

/-- Every account of the ledger is what its origin says. -/
structure Consistent (env : Env) (o : Pubkey → Option Place) (ledger : Ledger) : Prop where
  shape : ∀ a, Shape env (o a) a (ledger a)
  refined : ∀ a, Refined env (o a) (ledger a)

variable (env : Env) (o : Pubkey → Option Place) (ledger : Ledger)

/-! ### What a loaded account is -/

/-- A registrar loads, and is sound. -/
theorem refined_registrar (realm mint : Pubkey) (acc : Account)
    (h : Refined env (some (.registrar realm mint)) acc) :
    ∃ registrar, AccountDeserialize.tryDeserialize acc.data = .ok registrar ∧
      SoundRegistrar env realm mint registrar := by
  rcases h with ⟨reg, hdata, hsound⟩
  exact ⟨reg, (registrar_loads_iff _ _).mpr ⟨[], by rw [hdata, List.append_nil]⟩, hsound⟩

/-- What loads as a registrar was created for the realm and mint it stores, is
    at their address, and is sound. -/
theorem consistent_registrar (hc : Consistent env o ledger) (key : Pubkey) (registrar : Registrar)
    (hown : (ledger key).owner = programId)
    (hload : AccountDeserialize.tryDeserialize (ledger key).data = .ok registrar) :
    o key = some (.registrar registrar.realm registrar.governingTokenMint) ∧
      key = env.address (.registrar registrar.realm registrar.governingTokenMint) ∧
      SoundRegistrar env registrar.realm registrar.governingTokenMint registrar := by
  have hs := hc.shape key
  have hr := hc.refined key
  rcases registrar_of_loads env _ key _ hs hown registrar hload with ⟨realm, mint, ho⟩
  rw [ho] at hs hr
  rcases refined_registrar env realm mint _ hr with ⟨reg, hreg, hsound⟩
  rw [hload, Except.ok.injEq] at hreg
  subst hreg
  rw [ho, hsound.realm_eq, hsound.mint_eq]
  exact ⟨rfl, RegistrarShape.address hs, hsound⟩

/-- What loads as a voter weight record of a key that is no program was
    created as one, for the realm and mint it stores. -/
theorem consistent_voter (hc : Consistent env o ledger) (key : Pubkey) (record : VoterWeightRecord)
    (hown : (ledger key).owner = programId)
    (hload : AccountDeserialize.tryDeserialize (ledger key).data = .ok record)
    (hrealm : env.executable record.realm = false) :
    ∃ owner, o key =
      some (.voterWeightRecord record.realm record.governingTokenMint owner) := by
  have hs := hc.shape key
  have hr := hc.refined key
  rcases ho : o key with _ | p
  · rw [ho] at hr
    -- Zeros name the system program as their realm.
    rcases hr hown with ⟨n, hn⟩
    rw [hn] at hload
    rw [voter_of_zeros n record hload, env.executable_systemProgramId] at hrealm
    exact Bool.noConfusion hrealm
  cases p with
  | registrar realm mint =>
      rw [ho] at hr
      -- A registrar has its governance program where a record has its realm.
      rcases refined_registrar env realm mint _ hr with ⟨reg, hreg, hsound⟩
      rw [voter_of_registrar _ reg record hreg hload, hsound.governance_executable] at hrealm
      exact Bool.noConfusion hrealm
  | voterWeightRecord realm mint owner =>
      rw [ho] at hs
      rcases VoterShape.record hs with ⟨r, hrl, hf⟩
      rw [hload, Except.ok.injEq] at hrl
      subst hrl
      exact ⟨owner, by rw [hf.realm_eq, hf.mint_eq]⟩
  | maxVoterWeightRecord realm mint =>
      rw [ho] at hs
      exact absurd hload (voter_of_short _ (MaxShape.length hs) record)

/-- What loads as a max voter weight record of a key that is no program was
    created as one of the two records, for the realm and mint it stores. -/
theorem consistent_max (hc : Consistent env o ledger) (key : Pubkey)
    (record : MaxVoterWeightRecord) (hown : (ledger key).owner = programId)
    (hload : AccountDeserialize.tryDeserialize (ledger key).data = .ok record)
    (hrealm : env.executable record.realm = false) :
    (∃ owner, o key =
      some (.voterWeightRecord record.realm record.governingTokenMint owner)) ∨
    o key = some (.maxVoterWeightRecord record.realm record.governingTokenMint) := by
  have hs := hc.shape key
  have hr := hc.refined key
  rcases ho : o key with _ | p
  · rw [ho] at hr
    rcases hr hown with ⟨n, hn⟩
    rw [hn] at hload
    rw [max_of_zeros n record hload, env.executable_systemProgramId] at hrealm
    exact Bool.noConfusion hrealm
  cases p with
  | registrar realm mint =>
      rw [ho] at hr
      -- A registrar has its governance program where a record has its realm.
      rcases refined_registrar env realm mint _ hr with ⟨reg, hreg, hsound⟩
      rw [max_of_registrar _ reg record hreg hload, hsound.governance_executable] at hrealm
      exact Bool.noConfusion hrealm
  | voterWeightRecord realm mint owner =>
      rw [ho] at hs
      rcases VoterShape.record hs with ⟨r, hrl, hf⟩
      -- Nothing tells a voter weight record from the max record here.
      rcases max_of_voter _ r record hrl hload with ⟨_, hre, hmi⟩
      exact Or.inl ⟨owner, by rw [hre, hmi, hf.realm_eq, hf.mint_eq]⟩
  | maxVoterWeightRecord realm mint =>
      rw [ho] at hs
      rcases MaxShape.record hs with ⟨r, hrl, hf⟩
      rw [hload, Except.ok.injEq] at hrl
      subst hrl
      exact Or.inr (by rw [hf.realm_eq, hf.mint_eq])

/-- The target of an instruction on a voter weight record was created as one,
    under the registrar the instruction works under. -/
theorem consistent_controls (hc : Consistent env o ledger) (isSigner isWritable : Pubkey → Bool)
    (registrarKey key voter : Pubkey) (registrar : Registrar) (record : VoterWeightRecord)
    (h : ControlsRecord env ledger isSigner isWritable registrarKey key voter registrar record) :
    ∃ owner, o key =
      some (.voterWeightRecord registrar.realm registrar.governingTokenMint owner) := by
  rcases consistent_registrar env o ledger hc registrarKey registrar h.registrar_owner
    h.registrar_loads with ⟨_, _, hsound⟩
  have hexec : env.executable record.realm = false := by
    rw [h.realm_eq]
    exact hsound.realm_not_executable
  rcases consistent_voter env o ledger hc key record h.record_owner h.record_loads hexec with
    ⟨owner, ho⟩
  exact ⟨owner, by rw [ho, h.realm_eq, h.mint_eq]⟩

/-- The target of an update of a max voter weight record was created as one of
    the two records, under the registrar the instruction works under. -/
theorem consistent_accepts (hc : Consistent env o ledger)
    (ctx : Context UpdateMaxVoterWeightRecord) (registrar : Registrar)
    (record : MaxVoterWeightRecord)
    (h : UpdateMaxVoterWeightRecord.Accepts env ctx ledger registrar record) :
    (∃ owner, o ctx.accounts.maxVoterWeightRecord =
      some (.voterWeightRecord registrar.realm registrar.governingTokenMint owner)) ∨
    o ctx.accounts.maxVoterWeightRecord =
      some (.maxVoterWeightRecord registrar.realm registrar.governingTokenMint) := by
  rcases consistent_registrar env o ledger hc ctx.accounts.registrar registrar h.registrar_owner
    h.registrar_loads with ⟨_, _, hsound⟩
  have hexec : env.executable record.realm = false := by
    rw [h.record_realm]
    exact hsound.realm_not_executable
  have hkind := consistent_max env o ledger hc _ record h.record_owner h.record_loads hexec
  rw [h.record_realm, h.record_mint] at hkind
  exact hkind

/-! ### The invariant -/

/-- A successful instruction leaves its target refined. -/
theorem refined_process (hspec : GovernanceSpec env) (hsep : Separated env ledger) (clock : Clock)
    (ix : Instruction) (ledger' : Ledger) (hc : Consistent env o ledger)
    (hp : process env clock ix ledger = .ok ledger') :
    Refined env (ix.becomes ledger (o ix.target)) (ledger' ix.target) := by
  cases ix with
  | createRegistrar ctx t g =>
      rcases (createRegistrar_eq_ok ..).mp hp with ⟨h, rfl⟩
      refine ⟨newRegistrar ctx.accounts t g, ?_, rfl, rfl, h.age_pos, h.executable, ?_⟩
      · simp only [Instruction.target, Function.update_self]
      · -- The realm was accepted as one, so it is no program.
        rcases h.authority with ⟨rd, hget, _⟩
        rw [realm_not_created env hspec _ _ _ _ _ _ _ h.authority] at hget
        exact hsep _ _ _ _ hget
  | createVoterWeightRecord ctx owner =>
      rcases (createVoterWeightRecord_eq_ok ..).mp hp with ⟨reg, h, rfl⟩
      have hreg := (registrarAt_eq_some ..).mpr ⟨h.registrar_owner, h.registrar_loads⟩
      simp only [Instruction.becomes, hreg, Option.map_some]
      exact trivial
  | createMaxVoterWeightRecord ctx =>
      rcases (createMaxVoterWeightRecord_eq_ok ..).mp hp with ⟨reg, h, rfl⟩
      have hreg := (registrarAt_eq_some ..).mpr ⟨h.registrar_owner, h.registrar_loads⟩
      simp only [Instruction.becomes, hreg, Option.map_some]
      exact trivial
  | closeRegistrar ctx =>
      rw [ends_vacant env clock _ ledger ledger' hp rfl]
      exact fun habs => absurd habs vacant_owner_ne
  | closeVoterWeightRecord ctx =>
      rw [ends_vacant env clock _ ledger ledger' hp rfl]
      exact fun habs => absurd habs vacant_owner_ne
  | updateRegistrar ctx t g =>
      rcases (updateRegistrar_eq_ok ..).mp hp with ⟨reg, h, hage, _, rfl⟩
      rcases consistent_registrar env o ledger hc _ reg h.owner h.loads with ⟨ho, _, hsound⟩
      have hs := hc.shape ctx.accounts.registrar
      rw [ho] at hs
      -- A registrar fills its account, so nothing stale is left behind it.
      have hfull : ∀ r : Registrar,
          overwrite (AccountSerialize.trySerialize r) (ledger ctx.accounts.registrar).data =
            AccountSerialize.trySerialize r := by
        intro r
        rw [overwrite, List.drop_of_length_le, List.append_nil]
        rw [RegistrarShape.length hs, length_trySerialize_registrar]
      simp only [Instruction.target, Instruction.becomes, Function.update_self, ho]
      exact ⟨_, hfull _, ⟨rfl, rfl, hage, hsound.governance_executable,
        hsound.realm_not_executable⟩⟩
  | updateVoterWeightRecord ctx =>
      rcases recordUpdated_of_ok env clock ctx ledger ledger' hp with ⟨reg, r, h⟩
      -- Only a record can be the target, and of records nothing more is asked.
      rcases consistent_controls env o ledger hc _ _ _ _ _ reg r h.controls with ⟨owner, ho⟩
      simp only [Instruction.target, Instruction.becomes, ho]
      exact trivial
  | updateMaxVoterWeightRecord ctx w =>
      rcases maxUpdated_of_ok env clock ctx w ledger ledger' hp with ⟨reg, m, h⟩
      rcases consistent_accepts env o ledger hc ctx reg m h.accepts with ⟨owner, ho⟩ | ho
      · simp only [Instruction.target, Instruction.becomes, ho]
        exact trivial
      · simp only [Instruction.target, Instruction.becomes, ho]
        exact trivial

/-- Every ledger of a run in which programs are not accepted as realms is
    consistent. -/
theorem consistent_run (hspec : GovernanceSpec env) (h : History) (s : State)
    (hrun : Run (plugin env) h s) (hsep : ∀ e ∈ h, Separated env e.pre.ledger) :
    Consistent env (origin env h) s.ledger where
  shape := shape_run env h s hrun
  refined := by
    intro a
    refine (run_accounts env (fun e => Separated env e.pre.ledger)
      (fun o a acc => Shape env o a acc ∧ Refined env o acc) ?_ ?_ ?_ ?_ ?_ h s hrun hsep a).2
    · intro a acc hown hder
      exact ⟨⟨hder, fun habs => absurd habs hown⟩, fun habs => absurd habs hown⟩
    · intro a n hne
      refine ⟨⟨fun ⟨seeds, hs⟩ => absurd hs (hne seeds), fun _ => ⟨min 8 n, ?_⟩⟩, fun _ => ⟨n, rfl⟩⟩
      rw [List.take_replicate]
    · exact fun p a acc hs => (shape_placed env p a acc hs.1).1
    · exact fun seeds acc hs => hs.1.derived ⟨seeds, rfl⟩
    · intro h s ix s' _ ih hp hsep
      exact ⟨shape_process env s.clock ix s.ledger s'.ledger _ (fun a => (ih a).1) hp,
        refined_process env _ s.ledger hspec hsep s.clock ix s'.ledger
          ⟨fun a => (ih a).1, fun a => (ih a).2⟩ hp⟩

end EntrosVoterWeight
