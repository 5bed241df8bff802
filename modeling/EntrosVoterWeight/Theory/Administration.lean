import EntrosVoterWeight.Theory.Separation

/-!
# Who Administers a Registrar

The realm's authority, and what its settings can do.

A registrar and a max voter weight record belong to a realm and a mint. Every
step that creates, changes or closes one is signed by the authority the realm
account names at that step, the realm account being one of the registrar's
governance program that lists the mint. In between, the three keys a registrar
stores do not change, whatever becomes of the realm account.

What the authority can set is bounded by two checks that are repeated in
several handlers. A registrar always has a positive window, so a wallet
verified in the very second of the update is never refused for its age. A max
voter weight record is expired until it is first set, and positive from then
on, so no quorum is computed from an unexpired zero.

## Main definitions

* `AdminPlace`: The places administered by the realm's authority.
* `SignedByAuthority`: The authority of a realm signs an instruction.
* `Unexpired`: A max voter weight record that is taken into account.

## Theorems

* `createRegistrar_signed`, `createMaxVoterWeightRecord_signed`,
  `signed_of_administers`, `updateMaxVoterWeightRecord_signed`: The
  instructions that administer, one by one.
* `admin_signed`: Instructions on administered accounts are signed.
* `administration_reserved`: In every run, and the keys of a registrar stay.
* `no_lockout`: No setting locks a fresh verification out or leaves a quorum
  of nothing.
-/

namespace EntrosVoterWeight

open Borsh Anchor Transition

/-- The accounts of a realm and mint that its authority administers. -/
def AdminPlace (realm mint : Pubkey) (p : Place) : Prop :=
  p = .registrar realm mint ∨ p = .maxVoterWeightRecord realm mint

/-- The instruction is signed by the authority stored in the realm account,
    which belongs to the governance program of the registrar and lists the
    mint. The registrar is the one of the realm and mint, before the step or,
    where the step creates it, after. -/
def SignedByAuthority (env : Env) (ix : Instruction) (realm mint : Pubkey)
    (ledger ledger' : Ledger) : Prop :=
  ∃ (registrar : Registrar) (realmData : RealmV2) (authority : Pubkey),
    (registrarAt ledger (env.address (.registrar realm mint)) = some registrar ∨
      registrarAt ledger' (env.address (.registrar realm mint)) = some registrar) ∧
    registrar.realm = realm ∧ registrar.governingTokenMint = mint ∧
    (ledger realm).owner = registrar.governanceProgramId ∧
    env.realmData (ledger realm).data = some realmData ∧
    (realmData.communityMint = mint ∨ realmData.councilMint = some mint) ∧
    realmData.authority = some authority ∧ ix.isSigner authority = true

/-- No voter weight record is administered. -/
theorem admin_not_voter (realm mint realm' mint' owner : Pubkey) (p : Place)
    (hadmin : AdminPlace realm mint p) : p ≠ .voterWeightRecord realm' mint' owner := by
  rcases hadmin with rfl | rfl
  · simp only [ne_eq, reduceCtorEq, not_false_eq_true]
  · simp only [ne_eq, reduceCtorEq, not_false_eq_true]

/-- What the governance package's answer says about the realm account. -/
theorem realm_of_authority (env : Env) (hspec : GovernanceSpec env) (governance : Pubkey)
    (acc : Account) (mint key : Pubkey) (h : IsRealmAuthority env governance acc mint key) :
    ∃ realmData, acc.owner = governance ∧ env.realmData acc.data = some realmData ∧
      (realmData.communityMint = mint ∨ realmData.councilMint = some mint) ∧
      realmData.authority = some key := by
  rcases h with ⟨rd, hget, hauth⟩
  exact ⟨rd, hspec.owner _ _ _ _ hget, hspec.data _ _ _ _ hget, hspec.mint _ _ _ _ hget, hauth⟩

/-- The signature of the authority that the checks of an instruction under a
    live registrar establish. -/
theorem signed_of_authority (env : Env) (hspec : GovernanceSpec env) (ix : Instruction)
    (ledger ledger' : Ledger) (key authority : Pubkey) (reg : Registrar)
    (hreg : registrarAt ledger key = some reg)
    (hkey : key = env.address (.registrar reg.realm reg.governingTokenMint))
    (hauth : IsRealmAuthority env reg.governanceProgramId (ledger reg.realm)
      reg.governingTokenMint authority)
    (hsign : ix.isSigner authority = true) :
    SignedByAuthority env ix reg.realm reg.governingTokenMint ledger ledger' := by
  rcases realm_of_authority env hspec _ _ _ _ hauth with ⟨rd, hown, hdata, hmint, hauthority⟩
  refine ⟨reg, rd, authority, Or.inl ?_, rfl, rfl, hown, hdata, hmint, hauthority, hsign⟩
  rw [← hkey]
  exact hreg

/-- The registrar that is administered has the keys. -/
theorem registrar_of_admin (realm mint realm' mint' : Pubkey)
    (hadmin : AdminPlace realm mint (.registrar realm' mint')) :
    realm' = realm ∧ mint' = mint := by
  rcases hadmin with h | h
  · simp only [Place.registrar.injEq] at h
    exact h
  · simp only [reduceCtorEq] at h

/-- And so does the max voter weight record. -/
theorem maxVoterWeightRecord_of_admin (realm mint realm' mint' : Pubkey)
    (hadmin : AdminPlace realm mint (.maxVoterWeightRecord realm' mint')) :
    realm' = realm ∧ mint' = mint := by
  rcases hadmin with h | h
  · simp only [reduceCtorEq] at h
  · simp only [Place.maxVoterWeightRecord.injEq] at h
    exact h

/-! ### The instructions that administer -/

section
variable (env : Env) (hspec : GovernanceSpec env) (o : Pubkey → Option Place) (clock : Clock)
variable (ledger ledger' : Ledger) (realm mint : Pubkey) (p : Place)
variable (hadmin : AdminPlace realm mint p)

include hspec hadmin in
/-- The authority signs the creation of a registrar. -/
theorem createRegistrar_signed (ctx : Context CreateRegistrar) (t : UInt16) (g : Int64)
    (hp : createRegistrar env ctx t g ledger = .ok ledger')
    (hbec : (Instruction.createRegistrar ctx t g).becomes ledger none = some p) :
    SignedByAuthority env (.createRegistrar ctx t g) realm mint ledger ledger' := by
  rcases (createRegistrar_eq_ok ..).mp hp with ⟨h, rfl⟩
  simp only [Instruction.becomes, Option.some.injEq] at hbec
  subst hbec
  rcases registrar_of_admin _ _ _ _ hadmin with ⟨rfl, rfl⟩
  -- The realm was read after the allocation, and is not what was allocated.
  have hauth := h.authority
  rw [realm_not_created env hspec _ _ _ _ _ _ _ hauth] at hauth
  rcases realm_of_authority env hspec _ _ _ _ hauth with ⟨rd, hown, hdata, hmint, hkey⟩
  refine ⟨newRegistrar ctx.accounts t g, rd, ctx.accounts.realmAuthority, Or.inr ?_, rfl, rfl,
    hown, hdata, hmint, hkey, h.authority_signs⟩
  rw [← h.seeds]
  refine (registrarAt_eq_some ..).mpr ⟨?_, ?_⟩
  · rw [Function.update_self]
  · rw [Function.update_self]
    exact (registrar_loads_iff _ _).mpr ⟨[], (List.append_nil _).symm⟩

include hspec hadmin in
/-- The authority signs the creation of a max voter weight record. -/
theorem createMaxVoterWeightRecord_signed (ctx : Context CreateMaxVoterWeightRecord)
    (hp : createMaxVoterWeightRecord env ctx ledger = .ok ledger')
    (hbec : (Instruction.createMaxVoterWeightRecord ctx).becomes ledger none = some p) :
    SignedByAuthority env (.createMaxVoterWeightRecord ctx) realm mint ledger ledger' := by
  rcases (createMaxVoterWeightRecord_eq_ok ..).mp hp with ⟨reg, h, _⟩
  have hreg := (registrarAt_eq_some ..).mpr ⟨h.registrar_owner, h.registrar_loads⟩
  simp only [Instruction.becomes, hreg, Option.map_some, Option.some.injEq] at hbec
  subst hbec
  rcases maxVoterWeightRecord_of_admin _ _ _ _ hadmin with ⟨rfl, rfl⟩
  have hauth := h.authority
  rw [realm_not_created env hspec _ _ _ _ _ _ _ hauth, h.realm_eq] at hauth
  exact signed_of_authority env hspec (.createMaxVoterWeightRecord ctx) ledger ledger' _ _ reg
    hreg h.registrar_seeds hauth h.authority_signs

include hadmin in
/-- The creation of a voter weight record administers nothing. -/
theorem createVoterWeightRecord_not_admin (ctx : Context CreateVoterWeightRecord) (owner : Pubkey)
    (hp : createVoterWeightRecord env ctx owner ledger = .ok ledger') :
    (Instruction.createVoterWeightRecord ctx owner).becomes ledger none ≠ some p := by
  intro hbec
  rcases (createVoterWeightRecord_eq_ok ..).mp hp with ⟨reg, h, _⟩
  have hreg := (registrarAt_eq_some ..).mpr ⟨h.registrar_owner, h.registrar_loads⟩
  simp only [Instruction.becomes, hreg, Option.map_some, Option.some.injEq] at hbec
  exact admin_not_voter realm mint _ _ _ p hadmin hbec.symm

variable (hc : Consistent env o ledger)

include hspec hadmin hc in
/-- What updating and closing a registrar ask for is the authority's
    signature. -/
theorem signed_of_administers (ix : Instruction) (isWritable : Pubkey → Bool)
    (key realmKey authority : Pubkey) (reg : Registrar)
    (h : AdministersRegistrar env ledger ix.isSigner isWritable key realmKey authority reg)
    (ho : o key = some p) : SignedByAuthority env ix realm mint ledger ledger' := by
  rcases consistent_registrar env o ledger hc key reg h.owner h.loads with ⟨hreg, _, _⟩
  rw [ho, Option.some.injEq] at hreg
  subst hreg
  rcases registrar_of_admin _ _ _ _ hadmin with ⟨rfl, rfl⟩
  have hauth := h.authority
  rw [h.realm_eq] at hauth
  exact signed_of_authority env hspec ix ledger ledger' key authority reg
    ((registrarAt_eq_some ..).mpr ⟨h.owner, h.loads⟩) h.seeds hauth h.signs

include hadmin hc in
/-- What voters control is not administered. -/
theorem controlsRecord_not_admin (isSigner isWritable : Pubkey → Bool)
    (registrarKey key voter : Pubkey) (reg : Registrar) (record : VoterWeightRecord)
    (h : ControlsRecord env ledger isSigner isWritable registrarKey key voter reg record) :
    o key ≠ some p := by
  intro ho
  rcases consistent_controls env o ledger hc _ _ _ _ _ reg record h with ⟨owner, hvoter⟩
  rw [ho, Option.some.injEq] at hvoter
  exact admin_not_voter realm mint _ _ _ p hadmin hvoter

include hspec hadmin hc in
/-- The authority signs the update of a max voter weight record. -/
theorem updateMaxVoterWeightRecord_signed (ctx : Context UpdateMaxVoterWeightRecord) (w : UInt64)
    (hp : process env clock (.updateMaxVoterWeightRecord ctx w) ledger = .ok ledger')
    (ho : o ctx.accounts.maxVoterWeightRecord = some p) :
    SignedByAuthority env (.updateMaxVoterWeightRecord ctx w) realm mint ledger ledger' := by
  rcases maxUpdated_of_ok env clock ctx w ledger ledger' hp with ⟨reg, m, h⟩
  have ha := h.accepts
  have hreg := (registrarAt_eq_some ..).mpr ⟨ha.registrar_owner, ha.registrar_loads⟩
  -- A voter weight record passes the same checks, but is not administered.
  rcases consistent_accepts env o ledger hc ctx reg m ha with ⟨owner, hvoter⟩ | hmax
  · rw [ho, Option.some.injEq] at hvoter
    exact absurd hvoter (admin_not_voter realm mint _ _ _ p hadmin)
  · rw [ho, Option.some.injEq] at hmax
    subst hmax
    rcases maxVoterWeightRecord_of_admin _ _ _ _ hadmin with ⟨rfl, rfl⟩
    have hauth := ha.authority
    rw [ha.realm_eq] at hauth
    exact signed_of_authority env hspec (.updateMaxVoterWeightRecord ctx w) ledger ledger' _ _
      reg hreg ha.seeds hauth ha.signs

end

/-- A successful instruction on an administered account, or one that makes its
    target such an account, is signed by the realm's authority. -/
theorem admin_signed (env : Env) (hspec : GovernanceSpec env) (o : Pubkey → Option Place)
    (clock : Clock) (ix : Instruction) (ledger ledger' : Ledger) (hc : Consistent env o ledger)
    (hp : process env clock ix ledger = .ok ledger') (realm mint : Pubkey) (p : Place)
    (hadmin : AdminPlace realm mint p)
    (ho : o ix.target = some p ∨ ix.becomes ledger (o ix.target) = some p) :
    SignedByAuthority env ix realm mint ledger ledger' := by
  -- An instruction that creates its target does not find it live.
  have hfresh : ix.begins = true → ix.becomes ledger (o ix.target) = some p := by
    intro hb
    rcases ho with ho | ho
    · have hs := hc.shape ix.target
      rw [ho] at hs
      rw [not_begins_of_owned env clock ix ledger ledger' hp (shape_placed env p _ _ hs).1] at hb
      exact (Bool.false_ne_true hb).elim
    · exact ho
  cases ix with
  | createRegistrar ctx t g =>
      exact createRegistrar_signed env hspec ledger ledger' realm mint p hadmin ctx t g hp
        (hfresh rfl)
  | createVoterWeightRecord ctx owner =>
      exact absurd (hfresh rfl) (createVoterWeightRecord_not_admin env ledger ledger' realm mint p
        hadmin ctx owner hp)
  | createMaxVoterWeightRecord ctx =>
      exact createMaxVoterWeightRecord_signed env hspec ledger ledger' realm mint p hadmin ctx hp
        (hfresh rfl)
  | updateRegistrar ctx t g =>
      rcases (updateRegistrar_eq_ok ..).mp hp with ⟨reg, h, _⟩
      exact signed_of_administers env hspec o ledger ledger' realm mint p hadmin hc
        (.updateRegistrar ctx t g) _ _ _ _ reg h (ho.elim id id)
  | closeRegistrar ctx =>
      rcases (closeRegistrar_eq_ok ..).mp hp with ⟨reg, h, _⟩
      exact signed_of_administers env hspec o ledger ledger' realm mint p hadmin hc
        (.closeRegistrar ctx) _ _ _ _ reg h (ho.elim id nofun)
  | updateVoterWeightRecord ctx =>
      rcases recordUpdated_of_ok env clock ctx ledger ledger' hp with ⟨reg, r, h⟩
      exact absurd (ho.elim id id) (controlsRecord_not_admin env o ledger realm mint p hadmin hc
        _ _ _ _ _ reg r h.controls)
  | closeVoterWeightRecord ctx =>
      rcases controlsRecord_of_close env clock ctx ledger ledger' hp with ⟨reg, r, h⟩
      exact absurd (ho.elim id nofun) (controlsRecord_not_admin env o ledger realm mint p hadmin hc
        _ _ _ _ _ reg r h)
  | updateMaxVoterWeightRecord ctx w =>
      exact updateMaxVoterWeightRecord_signed env hspec o clock ledger ledger' realm mint p hadmin
        hc ctx w hp (ho.elim id id)

/-- A successful instruction on a registrar that does not close it leaves all
    but its two settings. -/
theorem registrar_kept (env : Env) (o : Pubkey → Option Place) (clock : Clock) (ix : Instruction)
    (ledger ledger' : Ledger) (hc : Consistent env o ledger)
    (hp : process env clock ix ledger = .ok ledger') (realm mint : Pubkey)
    (ho : o ix.target = some (.registrar realm mint))
    (hstays : ix.becomes ledger (o ix.target) = some (.registrar realm mint)) :
    ∃ registrar t g, registrarAt ledger ix.target = some registrar ∧
      registrarAt ledger' ix.target =
        some { registrar with minTrustScore := t, maxVerificationAge := g } := by
  have hs := hc.shape ix.target
  rw [ho] at hs
  have hlive := not_begins_of_owned env clock ix ledger ledger' hp (RegistrarShape.owned hs)
  cases ix with
  | updateRegistrar ctx t g =>
      rcases (updateRegistrar_eq_ok ..).mp hp with ⟨reg, h, _, _, rfl⟩
      refine ⟨reg, t, g, (registrarAt_eq_some ..).mpr ⟨h.owner, h.loads⟩, ?_⟩
      refine (registrarAt_eq_some ..).mpr ⟨?_, ?_⟩
      · simp only [Instruction.target, Function.update_self]
      · simp only [Instruction.target, Function.update_self]
        exact (registrar_loads_iff _ _).mpr ⟨_, rfl⟩
  | closeRegistrar ctx => simp only [Instruction.becomes, reduceCtorEq] at hstays
  | closeVoterWeightRecord ctx => simp only [Instruction.becomes, reduceCtorEq] at hstays
  | updateVoterWeightRecord ctx =>
      rcases recordUpdated_of_ok env clock ctx ledger ledger' hp with ⟨reg, r, h⟩
      rcases consistent_controls env o ledger hc _ _ _ _ _ reg r h.controls with ⟨owner, hvoter⟩
      have habs := ho.symm.trans hvoter
      simp only [Option.some.injEq, reduceCtorEq] at habs
  | updateMaxVoterWeightRecord ctx w =>
      rcases maxUpdated_of_ok env clock ctx w ledger ledger' hp with ⟨reg, m, h⟩
      rcases consistent_accepts env o ledger hc ctx reg m h.accepts with ⟨owner, hrec⟩ | hrec
      · have habs := ho.symm.trans hrec
        simp only [Option.some.injEq, reduceCtorEq] at habs
      · have habs := ho.symm.trans hrec
        simp only [Option.some.injEq, reduceCtorEq] at habs
  | createRegistrar _ _ _ => exact (Bool.false_ne_true hlive.symm).elim
  | createVoterWeightRecord _ _ => exact (Bool.false_ne_true hlive.symm).elim
  | createMaxVoterWeightRecord _ => exact (Bool.false_ne_true hlive.symm).elim

/-- A live registrar of a consistent ledger. -/
theorem registrar_of_origin (env : Env) (o : Pubkey → Option Place) (ledger : Ledger)
    (hc : Consistent env o ledger) (a realm mint : Pubkey)
    (ho : o a = some (.registrar realm mint)) :
    ∃ registrar, registrarAt ledger a = some registrar ∧
      SoundRegistrar env realm mint registrar ∧ a = env.address (.registrar realm mint) := by
  have hs := hc.shape a
  have hr := hc.refined a
  rw [ho] at hs hr
  rcases refined_registrar env realm mint _ hr with ⟨reg, hreg, hsound⟩
  exact ⟨reg, (registrarAt_eq_some ..).mpr ⟨RegistrarShape.owned hs, hreg⟩, hsound,
    RegistrarShape.address hs⟩

/-- Every step that creates, changes or closes an administered account is
    signed by the realm's authority of that moment; and from one step to the
    next a live registrar keeps its three keys and its address. -/
theorem administration_reserved (env : Env) (hspec : GovernanceSpec env) (h : History) (s : State)
    (hrun : Run (plugin env) h s) (hsep : ∀ e ∈ h, Separated env e.pre.ledger) :
    (∀ h₁ e h₀, h = h₁ ++ e :: h₀ → ∀ a realm mint p, AdminPlace realm mint p →
      (origin env h₀ a = some p ∨ origin env (e :: h₀) a = some p) →
      e.post.ledger a ≠ e.pre.ledger a →
        ∃ ix, e.event = .instruction ix ∧ ix.target = a ∧
          SignedByAuthority env ix realm mint e.pre.ledger e.post.ledger) ∧
    (∀ h₁ e h₀, h = h₁ ++ e :: h₀ → ∀ a realm mint,
      origin env h₀ a = some (.registrar realm mint) →
      origin env (e :: h₀) a = some (.registrar realm mint) →
        ∃ before after, registrarAt e.pre.ledger a = some before ∧
          registrarAt e.post.ledger a = some after ∧
          after.governanceProgramId = before.governanceProgramId ∧
          before.realm = realm ∧ after.realm = realm ∧
          before.governingTokenMint = mint ∧ after.governingTokenMint = mint ∧
          a = env.address (.registrar realm mint)) := by
  constructor
  · intro h₁ e h₀ heq a realm mint p hadmin ho hne
    subst heq
    rcases run_entry (plugin env) e h₁ h₀ s hrun with ⟨hr, hst⟩
    have hc := consistent_run env hspec h₀ e.pre hr
      (fun x hx => hsep x (List.mem_append_right _ (List.mem_cons_of_mem _ hx)))
    rcases step_account env h₀ e.pre e.post e.event hst a with
      ⟨ix, ⟨hev, htgt, hok⟩, horig⟩ | ⟨_, horig, hkept⟩
    · subst htgt
      change origin env (e :: h₀) ix.target = _ at horig
      rw [horig] at ho
      exact ⟨ix, hev, rfl, admin_signed env hspec (origin env h₀) e.pre.clock ix e.pre.ledger
        e.post.ledger hc hok realm mint p hadmin ho⟩
    · -- The account was live before, so the step leaves it alone.
      change origin env (e :: h₀) a = _ at horig
      rw [horig, or_self] at ho
      have hs := hc.shape a
      rw [ho] at hs
      exact absurd (hkept (shape_placed env p a _ hs).1) hne
  · intro h₁ e h₀ heq a realm mint hbefore hafter
    subst heq
    rcases run_entry (plugin env) e h₁ h₀ s hrun with ⟨hr, hst⟩
    have hc := consistent_run env hspec h₀ e.pre hr
      (fun x hx => hsep x (List.mem_append_right _ (List.mem_cons_of_mem _ hx)))
    rcases registrar_of_origin env _ _ hc a realm mint hbefore with ⟨reg, hreg, hsound, haddr⟩
    rcases step_account env h₀ e.pre e.post e.event hst a with
      ⟨ix, ⟨hev, htgt, hok⟩, horig⟩ | ⟨_, _, hkept⟩
    · subst htgt
      change origin env (e :: h₀) ix.target = _ at horig
      rw [horig] at hafter
      rcases registrar_kept env (origin env h₀) e.pre.clock ix e.pre.ledger e.post.ledger hc hok
        realm mint hbefore hafter with ⟨reg', t, g, hreg', hnew⟩
      rw [hreg, Option.some.injEq] at hreg'
      subst hreg'
      exact ⟨reg, _, hreg, hnew, rfl, hsound.realm_eq, hsound.realm_eq, hsound.mint_eq,
        hsound.mint_eq, haddr⟩
    · -- No instruction acted on the registrar, so it is the same account.
      have hsame := hkept ((registrarAt_eq_some ..).mp hreg).1
      refine ⟨reg, reg, hreg, ?_, rfl, hsound.realm_eq, hsound.realm_eq, hsound.mint_eq,
        hsound.mint_eq, haddr⟩
      rw [registrarAt, hsame, ← registrarAt]
      exact hreg

/-- Setting a max voter weight takes the signature of the realm's
    authority. -/
theorem administration_reserved_devnet :
    SignedByAuthority Devnet.env (Devnet.updateMaxRecord Devnet.maxRecord 21) Devnet.realm
      Devnet.mint
      (Devnet.after [Devnet.createRegistrar Devnet.mint, Devnet.createMaxRecord]).2.ledger
      (Devnet.after Devnet.quorum).2.ledger := by
  rcases (administration_reserved Devnet.env (cluster_governanceSpec _ _ _) _ _
    (Devnet.after_run Devnet.quorum) (Devnet.after_separated _ (by decide +kernel))).1 []
    _ (Devnet.after [Devnet.createRegistrar Devnet.mint, Devnet.createMaxRecord]).1 rfl
    Devnet.maxRecord Devnet.realm Devnet.mint (.maxVoterWeightRecord Devnet.realm Devnet.mint)
    (Or.inr rfl) (Or.inl (by decide +kernel)) (by decide +kernel) with ⟨ix, hev, _, hsigned⟩
  simp only [Event.instruction.injEq] at hev
  subst hev
  exact hsigned

/-! ### Settings -/

/-- A max voter weight record is taken into account at a slot unless it expired
    before. -/
def Unexpired (record : MaxVoterWeightRecord) (slot : UInt64) : Prop :=
  ∀ expiry, record.maxVoterWeightExpiry = some expiry → slot ≤ expiry

/-- The accounts of a call that updates the record at `key` of the wallet
    `voter`. -/
structure UpdatingCall (env : Env) (registrarKey key voter : Pubkey)
    (ctx : Context UpdateVoterWeightRecord) : Prop where
  registrar : ctx.accounts.registrar = registrarKey
  target : ctx.accounts.voterWeightRecord = key
  voter_eq : ctx.accounts.voterAuthority = voter
  signs : ctx.isSigner voter = true
  writable : ctx.isWritable key = true
  identity : ctx.remainingAccounts.head? = some (env.identityAddress voter)

/-- Such a call controls every record of the registrar's realm and mint, and
    the record has room for an expiry. -/
theorem controls_of_call (env : Env) (o : Pubkey → Option Place) (ledger : Ledger)
    (hc : Consistent env o ledger) (a realm mint : Pubkey) (registrar : Registrar)
    (hreg : registrarAt ledger a = some registrar)
    (hsound : SoundRegistrar env realm mint registrar)
    (haddr : a = env.address (.registrar realm mint)) (key voter : Pubkey)
    (record : VoterWeightRecord) (hown : (ledger key).owner = programId)
    (hload : AccountDeserialize.tryDeserialize (ledger key).data = .ok record)
    (hrealm : record.realm = realm) (hmint : record.governingTokenMint = mint)
    (hvoter : record.governingTokenOwner = voter) (ctx : Context UpdateVoterWeightRecord)
    (hcall : UpdatingCall env a key voter ctx) :
    ControlsRecord env ledger ctx.isSigner ctx.isWritable ctx.accounts.registrar
      ctx.accounts.voterWeightRecord ctx.accounts.voterAuthority registrar record ∧
    131 ≤ (ledger ctx.accounts.voterWeightRecord).data.length := by
  rcases (registrarAt_eq_some ..).mp hreg with ⟨hgown, hgload⟩
  have hcontrols : ControlsRecord env ledger ctx.isSigner ctx.isWritable ctx.accounts.registrar
      ctx.accounts.voterWeightRecord ctx.accounts.voterAuthority registrar record := {
    registrar_owner := by rw [hcall.registrar]; exact hgown
    registrar_loads := by rw [hcall.registrar]; exact hgload
    record_owner := by rw [hcall.target]; exact hown
    record_loads := by rw [hcall.target]; exact hload
    signs := by rw [hcall.voter_eq]; exact hcall.signs
    seeds := by rw [hcall.registrar, hsound.realm_eq, hsound.mint_eq]; exact haddr
    writable := by rw [hcall.target]; exact hcall.writable
    realm_eq := hrealm.trans hsound.realm_eq.symm
    mint_eq := hmint.trans hsound.mint_eq.symm
    owner_eq := hvoter.trans hcall.voter_eq.symm }
  refine ⟨hcontrols, ?_⟩
  -- The record is one the program created, and those have room for every field.
  rcases consistent_controls env o ledger hc _ _ _ _ _ registrar record hcontrols with
    ⟨owner, hrec⟩
  have hs := hc.shape ctx.accounts.voterWeightRecord
  rw [hrec] at hs
  rw [VoterShape.length hs, VoterWeightRecord.getSpace]
  omega

/-- A live registrar has a positive window, so an update with an identity
    verified in the same second succeeds for every record of its realm and
    mint; and a live max voter weight record is expired or positive. -/
theorem no_lockout (env : Env) (hspec : GovernanceSpec env) (h : History) (s : State)
    (hrun : Run (plugin env) h s) (hsep : ∀ e ∈ h, Separated env e.pre.ledger) :
    (∀ a realm mint, origin env h a = some (.registrar realm mint) →
      ∃ registrar, registrarAt s.ledger a = some registrar ∧ registrar.realm = realm ∧
        registrar.governingTokenMint = mint ∧ 0 < registrar.maxVerificationAge ∧
        ∀ (clock : Clock) (key voter : Pubkey) (record : VoterWeightRecord)
          (ctx : Context UpdateVoterWeightRecord),
          (s.ledger key).owner = programId →
          AccountDeserialize.tryDeserialize (s.ledger key).data = .ok record →
          record.realm = realm → record.governingTokenMint = mint →
          record.governingTokenOwner = voter →
          TrustedIdentity env registrar s.ledger voter →
          lastVerificationTimestamp (s.ledger (env.identityAddress voter)).data =
            clock.unixTimestamp →
          UpdatingCall env a key voter ctx →
          ∃ ledger', process env clock (.updateVoterWeightRecord ctx) s.ledger = .ok ledger') ∧
    (∀ a realm mint, origin env h a = some (.maxVoterWeightRecord realm mint) →
      ∃ record : MaxVoterWeightRecord,
        AccountDeserialize.tryDeserialize (s.ledger a).data = .ok record ∧
        ((record.maxVoterWeight = 0 ∧ record.maxVoterWeightExpiry = some 0) ∨
          (0 < record.maxVoterWeight ∧ record.maxVoterWeightExpiry = none)) ∧
        ∀ slot, 0 < slot → Unexpired record slot → 0 < record.maxVoterWeight) := by
  have hc := consistent_run env hspec h s hrun hsep
  constructor
  · intro a realm mint ho
    rcases registrar_of_origin env _ _ hc a realm mint ho with ⟨reg, hreg, hsound, haddr⟩
    refine ⟨reg, hreg, hsound.realm_eq, hsound.mint_eq, hsound.age_pos, ?_⟩
    intro clock key voter record ctx hown hload hrealm hmint hvoter hid hlast hcall
    rcases controls_of_call env _ _ hc a realm mint reg hreg hsound haddr key voter record hown
      hload hrealm hmint hvoter ctx hcall with ⟨hcontrols, hroom⟩
    have hage := Int64.lt_iff_toInt_lt.mp hsound.age_pos
    rw [Int64.toInt_zero] at hage
    have heligible : Eligible env clock reg s.ledger ctx.accounts.voterAuthority := by
      rw [hcall.voter_eq]
      -- Verified in this very second, the identity has age zero.
      refine ⟨hid, ?_, ?_⟩
      · rw [hlast]
        omega
      · rw [hlast]
        omega
    refine ⟨_, (updateVoterWeightRecord_eq_ok env clock ctx s.ledger _).mpr
      ⟨reg, record, hcontrols, ?_, heligible, hroom, rfl⟩⟩
    rw [hcall.voter_eq]
    exact hcall.identity
  · intro a realm mint ho
    have hs := hc.shape a
    rw [ho] at hs
    rcases MaxShape.record hs with ⟨r, hr, hf⟩
    refine ⟨r, hr, hf.weight, ?_⟩
    intro slot hslot hunexp
    -- Expiry zero is in the past of every positive slot.
    rcases hf.weight with ⟨_, hexp⟩ | ⟨hpos, _⟩
    · have hle := UInt64.le_iff_toNat_le.mp (hunexp 0 hexp)
      have hlt := UInt64.lt_iff_toNat_lt.mp hslot
      omega
    · exact hpos

/-- A quorum that was set, and a wallet verified in the same second. -/
theorem no_lockout_devnet :
    (∃ record : MaxVoterWeightRecord,
      AccountDeserialize.tryDeserialize ((Devnet.after Devnet.configured).2.ledger
        Devnet.maxRecord).data = .ok record ∧
      ∀ slot, 0 < slot → Unexpired record slot → 0 < record.maxVoterWeight) ∧
    ∃ ledger', process Devnet.env ⟨1000, 1775487086⟩ (Devnet.updateRecord Devnet.mint Devnet.voterA)
      (Devnet.after Devnet.configured).2.ledger = .ok ledger' := by
  rcases no_lockout Devnet.env (cluster_governanceSpec _ _ _) _ _
    (Devnet.after_run Devnet.configured) (Devnet.after_separated _ (by decide +kernel)) with
    ⟨hreg, hmax⟩
  rcases hreg (Devnet.registrar Devnet.mint) Devnet.realm Devnet.mint (by decide +kernel) with
    ⟨registrar, hat, _, _, _, hupdate⟩
  rcases hmax Devnet.maxRecord Devnet.realm Devnet.mint (by decide +kernel) with
    ⟨record, hload, _, hweight⟩
  refine ⟨⟨record, hload, hweight⟩, ?_⟩
  have htrust : registrar.minTrustScore ≤ trustScore ((Devnet.after Devnet.configured).2.ledger
      (Devnet.env.identityAddress Devnet.voterA)).data := by
    have hscore : (registrarAt (Devnet.after Devnet.configured).2.ledger
        (Devnet.registrar Devnet.mint)).map Registrar.minTrustScore = some 50 := by decide +kernel
    rw [hat, Option.map_some, Option.some.injEq] at hscore
    rw [hscore]
    decide +kernel
  exact hupdate ⟨1000, 1775487086⟩ (Devnet.record Devnet.mint Devnet.voterA) Devnet.voterA
    (newVoterWeightRecord Devnet.env Devnet.realm Devnet.mint Devnet.voterA)
    (Devnet.updateRecordContext Devnet.mint Devnet.voterA) (by decide +kernel)
    (by decide +kernel) rfl rfl rfl
    ⟨by decide +kernel, by decide +kernel, by decide +kernel, htrust⟩ (by decide +kernel)
    ⟨rfl, rfl, rfl, by decide +kernel, rfl, by decide +kernel⟩

end EntrosVoterWeight
