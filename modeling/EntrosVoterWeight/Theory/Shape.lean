import EntrosVoterWeight.Theory.Steps

/-!
# What the Program's Accounts Hold

The invariant every account of the program satisfies, whatever accounts,
signers and arguments the instructions were given, and without any assumption
on realms or on address derivation.

The invariant is indexed by the account's origin. It says as much as survives
the loaders that compare no discriminator. An account the program never
created starts with zeros. A registrar keeps its discriminator and its length.
A max voter weight record is whole. A voter weight record keeps its realm, its
mint and everything behind the owner; the owner is left out, because a write
through the other record's loader can reach it.

Each handler's write is shown to preserve the invariant from the step lemmas
and the layout lemmas, and `shape_run` is the induction.

## Main definitions

* `ForeignShape`, `RegistrarShape`, `VoterShape`, `MaxShape`: What an account
  holds, by origin.
* `Shape`: The four of them, as one property of an account.

## Theorems

* `registrar_of_loads`: Only registrars load as registrars.
* `shape_run`: The invariant, in every run.
* `accepted_is_voter`: Only records created as voter weight records look like
  voter weight records.
* `derived_vacant`: An address derived from the program's id that no live
  account was created at is vacant.
* `voter_step`: The steps that reach a voter weight record, with what each
  leaves of it.
-/

namespace EntrosVoterWeight

open Borsh Anchor Transition

/-- An account the program did not create. -/
structure ForeignShape (env : Env) (a : Pubkey) (acc : Account) : Prop where
  derived : (∃ seeds, a = env.deriveAddress seeds programId) → acc = .vacant
  zeros : acc.owner = programId → ∃ k, acc.data.take 8 = List.replicate k 0

structure RegistrarShape (env : Env) (realm mint a : Pubkey) (acc : Account) : Prop where
  owned : acc.owner = programId
  address : a = env.address (.registrar realm mint)
  length : acc.data.length = Registrar.len
  head : acc.data.take 8 = Registrar.discriminator.bytes

/-- The fields of a voter weight record that stay what they were, and the
    states the others can be in. -/
structure VoterFields (env : Env) (realm mint : Pubkey) (record : VoterWeightRecord) : Prop where
  discriminator : record.accountDiscriminator = env.voterWeightRecordDiscriminator
  realm_eq : record.realm = realm
  mint_eq : record.governingTokenMint = mint
  action : record.weightAction = none
  target : record.weightActionTarget = none
  weight : (record.voterWeight = 0 ∧ record.voterWeightExpiry = some 0) ∨
    (record.voterWeight = 1 ∧ ∃ slot, record.voterWeightExpiry = some slot)

structure VoterShape (env : Env) (realm mint owner a : Pubkey) (acc : Account) : Prop where
  owned : acc.owner = programId
  address : a = env.address (.voterWeightRecord realm mint owner)
  length : acc.data.length = VoterWeightRecord.getSpace
  record : ∃ record, AccountDeserialize.tryDeserialize acc.data = .ok record ∧
    VoterFields env realm mint record

/-- The fields of a max voter weight record. -/
structure MaxFields (env : Env) (realm mint : Pubkey) (record : MaxVoterWeightRecord) : Prop where
  discriminator : record.accountDiscriminator = env.maxVoterWeightRecordDiscriminator
  realm_eq : record.realm = realm
  mint_eq : record.governingTokenMint = mint
  weight : (record.maxVoterWeight = 0 ∧ record.maxVoterWeightExpiry = some 0) ∨
    (0 < record.maxVoterWeight ∧ record.maxVoterWeightExpiry = none)

structure MaxShape (env : Env) (realm mint a : Pubkey) (acc : Account) : Prop where
  owned : acc.owner = programId
  address : a = env.address (.maxVoterWeightRecord realm mint)
  length : acc.data.length = MaxVoterWeightRecord.getSpace
  record : ∃ record, AccountDeserialize.tryDeserialize acc.data = .ok record ∧
    MaxFields env realm mint record

/-- What an account holds, by origin. -/
def Shape (env : Env) : Option Place → Pubkey → Account → Prop
  | none => ForeignShape env
  | some (.registrar realm mint) => RegistrarShape env realm mint
  | some (.voterWeightRecord realm mint owner) => VoterShape env realm mint owner
  | some (.maxVoterWeightRecord realm mint) => MaxShape env realm mint

/-- Every live account belongs to the program and is at its place. -/
theorem shape_placed (env : Env) (p : Place) (a : Pubkey) (acc : Account)
    (h : Shape env (some p) a acc) : acc.owner = programId ∧ a = env.address p := by
  cases p with
  | registrar realm mint => exact ⟨RegistrarShape.owned h, RegistrarShape.address h⟩
  | voterWeightRecord realm mint owner => exact ⟨VoterShape.owned h, VoterShape.address h⟩
  | maxVoterWeightRecord realm mint => exact ⟨MaxShape.owned h, MaxShape.address h⟩

theorem shape_vacant (env : Env) (a : Pubkey) : Shape env none a .vacant where
  derived _ := rfl
  zeros h := absurd h vacant_owner_ne

/-! ### Which loader takes which kind -/

/-- Zeros carry no discriminator. -/
theorem head_ne_zeros (d : FixedBytes 8) (hd : d ≠ FixedBytes.zero 8) (data : List UInt8)
    (h : data.take 8 = d.bytes) : ¬ ∃ k, data.take 8 = List.replicate k 0 := by
  intro hz
  rcases hz with ⟨k, hk⟩
  rw [h] at hk
  have hlen := congrArg List.length hk
  rw [d.size, List.length_replicate] at hlen
  subst hlen
  exact hd (FixedBytes.ext hk)

/-- Only registrars load as registrars. -/
theorem registrar_of_loads (env : Env) (o : Option Place) (a : Pubkey) (acc : Account)
    (hs : Shape env o a acc) (hown : acc.owner = programId) (reg : Registrar)
    (hload : AccountDeserialize.tryDeserialize acc.data = .ok reg) :
    ∃ realm mint, o = some (.registrar realm mint) := by
  rcases head_of_registrar _ _ hload with ⟨hhead, hlen⟩
  -- Zeros lack the discriminator, records have another one or are too short.
  match o, hs with
  | none, hs =>
    exact absurd (ForeignShape.zeros hs hown) (head_ne_zeros _ (by decide) _ hhead)
  | some (.registrar realm mint), _ => exact ⟨realm, mint, rfl⟩
  | some (.voterWeightRecord realm mint owner), hs =>
    rcases VoterShape.record hs with ⟨r, hr, hf⟩
    rw [(head_of_voter _ _ hr).1, hf.discriminator] at hhead
    exact absurd (FixedBytes.ext hhead) env.voter_ne_registrar
  | some (.maxVoterWeightRecord realm mint), hs =>
    rw [MaxShape.length hs, MaxVoterWeightRecord.getSpace, Registrar.len] at hlen
    omega

/-- Only a voter weight record starts with its discriminator and loads as
    one. -/
theorem accepted_is_voter (env : Env) (o : Option Place) (a : Pubkey) (acc : Account)
    (hs : Shape env o a acc) (hown : acc.owner = programId) (record : VoterWeightRecord)
    (hload : AccountDeserialize.tryDeserialize acc.data = .ok record)
    (hdisc : record.accountDiscriminator = env.voterWeightRecordDiscriminator) :
    ∃ realm mint owner, o = some (.voterWeightRecord realm mint owner) := by
  have hhead := (head_of_voter _ _ hload).1
  rw [hdisc] at hhead
  -- The zeros, the registrar and the short record are told apart by their bytes.
  match o, hs with
  | none, hs =>
    exact absurd (ForeignShape.zeros hs hown) (head_ne_zeros _ env.voter_ne_zero _ hhead)
  | some (.registrar realm mint), hs =>
    rw [RegistrarShape.head hs] at hhead
    exact absurd (FixedBytes.ext hhead).symm env.voter_ne_registrar
  | some (.voterWeightRecord realm mint owner), _ => exact ⟨realm, mint, owner, rfl⟩
  | some (.maxVoterWeightRecord realm mint), hs =>
    exact absurd hload (voter_of_short _ (MaxShape.length hs) record)

/-! ### What each write preserves -/

theorem shape_createRegistrar (env : Env) (acc : CreateRegistrar) (t : UInt16) (g : Int64)
    (ha : acc.registrar = env.address (.registrar acc.realm acc.governingTokenMint)) :
    Shape env (some (.registrar acc.realm acc.governingTokenMint)) acc.registrar
      ⟨programId, AccountSerialize.trySerialize (newRegistrar acc t g)⟩ where
  owned := rfl
  address := ha
  length := length_trySerialize_registrar _
  head := by rw [encode_registrar, List.take_left' (FixedBytes.size _)]

theorem shape_createVoterWeightRecord (env : Env) (realm mint owner a : Pubkey)
    (ha : a = env.address (.voterWeightRecord realm mint owner)) :
    Shape env (some (.voterWeightRecord realm mint owner)) a
      ⟨programId, overwrite (VoterWeightRecord.codec.encode
        (newVoterWeightRecord env realm mint owner))
        (List.replicate VoterWeightRecord.getSpace 0)⟩ where
  owned := rfl
  address := ha
  length := by
    rw [length_overwrite, List.length_replicate]
    rw [length_voterWeightRecord_codec _ 0 rfl rfl rfl, List.length_replicate,
      VoterWeightRecord.getSpace]
    omega
  record := ⟨newVoterWeightRecord env realm mint owner,
    (voterWeightRecord_loads_iff _ _).mpr ⟨_, rfl⟩, ⟨rfl, rfl, rfl, rfl, rfl, Or.inl ⟨rfl, rfl⟩⟩⟩

theorem shape_createMaxVoterWeightRecord (env : Env) (realm mint a : Pubkey)
    (ha : a = env.address (.maxVoterWeightRecord realm mint)) :
    Shape env (some (.maxVoterWeightRecord realm mint)) a
      ⟨programId, MaxVoterWeightRecord.codec.encode
        (newMaxVoterWeightRecord env realm mint)⟩ where
  owned := rfl
  address := ha
  length := length_maxVoterWeightRecord_codec _
  record := ⟨newMaxVoterWeightRecord env realm mint,
    (maxVoterWeightRecord_loads_iff _ _).mpr ⟨[], (List.append_nil _).symm⟩,
    ⟨rfl, rfl, rfl, Or.inl ⟨rfl, rfl⟩⟩⟩

theorem shape_updateRegistrar (env : Env) (o : Option Place) (a : Pubkey) (acc : Account)
    (hs : Shape env o a acc) (hown : acc.owner = programId) (reg reg' : Registrar)
    (hload : AccountDeserialize.tryDeserialize acc.data = .ok reg) :
    Shape env o a ⟨programId, overwrite (AccountSerialize.trySerialize reg') acc.data⟩ := by
  rcases registrar_of_loads env o a acc hs hown reg hload with ⟨realm, mint, rfl⟩
  have hlen : (AccountSerialize.trySerialize reg').length = acc.data.length := by
    rw [length_trySerialize_registrar, RegistrarShape.length hs]
  refine ⟨rfl, RegistrarShape.address hs, ?_, ?_⟩
  · rw [length_overwrite _ _ hlen.le, RegistrarShape.length hs]
  · rw [take_overwrite _ _ _ (by rw [length_trySerialize_registrar, Registrar.len]; omega),
      encode_registrar, List.take_left' (FixedBytes.size _)]

/-- An account the program did not create stays one when bytes behind its
    first eight are written. -/
theorem foreign_rewritten (env : Env) (a : Pubkey) (acc : Account) (hs : ForeignShape env a acc)
    (hown : acc.owner = programId) (data : List UInt8) (htake : data.take 8 = acc.data.take 8) :
    ForeignShape env a ⟨programId, data⟩ where
  derived hder := by
    rw [hs.derived hder] at hown
    exact absurd hown vacant_owner_ne
  zeros _ := by
    rw [htake]
    exact hs.zeros hown

/-- So does a registrar. -/
theorem registrar_rewritten (env : Env) (realm mint a : Pubkey) (acc : Account)
    (hs : RegistrarShape env realm mint a acc) (data : List UInt8)
    (hlen : data.length = acc.data.length) (htake : data.take 8 = acc.data.take 8) :
    RegistrarShape env realm mint a ⟨programId, data⟩ where
  owned := rfl
  address := hs.address
  length := hlen.trans hs.length
  head := htake.trans hs.head

/-- Writing back a voter weight record, to whatever it was read from. -/
theorem shape_updateVoterWeightRecord (env : Env) (o : Option Place) (a : Pubkey) (acc : Account)
    (hs : Shape env o a acc) (hown : acc.owner = programId) (record : VoterWeightRecord)
    (slot : UInt64) (hload : AccountDeserialize.tryDeserialize acc.data = .ok record)
    (hroom : 131 ≤ acc.data.length) :
    Shape env o a ⟨programId,
      overwrite (VoterWeightRecord.codec.encode (record.activated slot)) acc.data⟩ := by
  have htake := take_overwrite_voter acc.data record slot hload
  have hlen : (overwrite (VoterWeightRecord.codec.encode (record.activated slot))
      acc.data).length = acc.data.length :=
    length_overwrite _ _ (by rw [length_voterWeightRecord_codec _ _ rfl rfl rfl]; exact hroom)
  match o, hs with
  | none, hs => exact foreign_rewritten env a acc hs hown _ htake
  | some (.registrar realm mint), hs =>
    exact registrar_rewritten env realm mint a acc hs _ hlen htake
  | some (.voterWeightRecord realm mint owner), hs =>
    rcases VoterShape.record hs with ⟨r, hr, hf⟩
    rw [hr, Except.ok.injEq] at hload
    subst hload
    refine ⟨rfl, VoterShape.address hs, hlen.trans (VoterShape.length hs), r.activated slot,
      (voterWeightRecord_loads_iff _ _).mpr ⟨_, rfl⟩, ?_⟩
    exact ⟨hf.discriminator, hf.realm_eq, hf.mint_eq, rfl, rfl, Or.inr ⟨rfl, _, rfl⟩⟩
  | some (.maxVoterWeightRecord realm mint), hs =>
    exact absurd hload (voter_of_short _ (MaxShape.length hs) record)

/-- Writing back a max voter weight record, to whatever it was read from. -/
theorem shape_updateMaxVoterWeightRecord (env : Env) (o : Option Place) (a : Pubkey)
    (acc : Account) (hs : Shape env o a acc) (hown : acc.owner = programId)
    (record : MaxVoterWeightRecord) (w : UInt64) (hpos : 0 < w)
    (hload : AccountDeserialize.tryDeserialize acc.data = .ok record)
    (hroom : 89 ≤ acc.data.length) :
    Shape env o a ⟨programId,
      overwrite (MaxVoterWeightRecord.codec.encode (record.withWeight w)) acc.data⟩ := by
  have htake := take_overwrite_max acc.data record w hload
  have hlen : (overwrite (MaxVoterWeightRecord.codec.encode (record.withWeight w))
      acc.data).length = acc.data.length :=
    length_overwrite _ _ (by
      rw [show (MaxVoterWeightRecord.codec.encode (record.withWeight w)).length = 89 from
        length_maxVoterWeightRecord_codec _]
      exact hroom)
  match o, hs with
  | none, hs => exact foreign_rewritten env a acc hs hown _ htake
  | some (.registrar realm mint), hs =>
    exact registrar_rewritten env realm mint a acc hs _ hlen htake
  | some (.voterWeightRecord realm mint owner), hs =>
    rcases VoterShape.record hs with ⟨r, hr, hf⟩
    -- The other record's write lands on the first three fields, which it agrees
    -- with, and on the owner.
    rcases (voterWeightRecord_loads_iff _ _).mp hr with ⟨rest, hdata⟩
    rcases overwrite_max_voter acc.data r record w rest hdata hload with ⟨owner', _, hnew⟩
    refine ⟨rfl, VoterShape.address hs, hlen.trans (VoterShape.length hs),
      { r with governingTokenOwner := owner' },
      (voterWeightRecord_loads_iff _ _).mpr ⟨rest, hnew⟩, ?_⟩
    exact ⟨hf.discriminator, hf.realm_eq, hf.mint_eq, hf.action, hf.target, hf.weight⟩
  | some (.maxVoterWeightRecord realm mint), hs =>
    rcases MaxShape.record hs with ⟨r, hr, hf⟩
    rw [hr, Except.ok.injEq] at hload
    subst hload
    refine ⟨rfl, MaxShape.address hs, hlen.trans (MaxShape.length hs), r.withWeight w,
      (maxVoterWeightRecord_loads_iff _ _).mpr ⟨_, rfl⟩, ?_⟩
    exact ⟨hf.discriminator, hf.realm_eq, hf.mint_eq, Or.inr ⟨hpos, rfl⟩⟩

/-! ### The invariant -/

/-- A successful instruction leaves its target in the shape of its origin. -/
theorem shape_process (env : Env) (clock : Clock) (ix : Instruction) (ledger ledger' : Ledger)
    (o : Pubkey → Option Place) (hs : ∀ a, Shape env (o a) a (ledger a))
    (hp : process env clock ix ledger = .ok ledger') :
    Shape env (ix.becomes ledger (o ix.target)) ix.target (ledger' ix.target) := by
  -- Creations start a shape, closes leave a vacant account, updates write back
  -- what they loaded.
  cases ix with
  | createRegistrar ctx t g =>
      rcases (createRegistrar_eq_ok ..).mp hp with ⟨h, rfl⟩
      simp only [Instruction.target, Function.update_self]
      exact shape_createRegistrar env ctx.accounts t g h.seeds
  | createVoterWeightRecord ctx owner =>
      rcases (createVoterWeightRecord_eq_ok ..).mp hp with ⟨reg, h, rfl⟩
      have hreg := (registrarAt_eq_some ..).mpr ⟨h.registrar_owner, h.registrar_loads⟩
      simp only [Instruction.target, Function.update_self, Instruction.becomes, hreg,
        Option.map_some]
      exact shape_createVoterWeightRecord env _ _ _ _ h.record_seeds
  | createMaxVoterWeightRecord ctx =>
      rcases (createMaxVoterWeightRecord_eq_ok ..).mp hp with ⟨reg, h, rfl⟩
      have hreg := (registrarAt_eq_some ..).mpr ⟨h.registrar_owner, h.registrar_loads⟩
      simp only [Instruction.target, Function.update_self, Instruction.becomes, hreg,
        Option.map_some]
      exact shape_createMaxVoterWeightRecord env _ _ _ h.record_seeds
  | closeRegistrar ctx =>
      rw [ends_vacant env clock _ ledger ledger' hp rfl]
      exact shape_vacant env _
  | closeVoterWeightRecord ctx =>
      rw [ends_vacant env clock _ ledger ledger' hp rfl]
      exact shape_vacant env _
  | updateRegistrar ctx t g =>
      rcases (updateRegistrar_eq_ok ..).mp hp with ⟨reg, h, _, _, rfl⟩
      simp only [Instruction.target, Function.update_self]
      exact shape_updateRegistrar env _ _ _ (hs _) h.owner reg _ h.loads
  | updateVoterWeightRecord ctx =>
      rcases recordUpdated_of_ok env clock ctx ledger ledger' hp with ⟨reg, r, h⟩
      simp only [Instruction.target, h.result]
      exact shape_updateVoterWeightRecord env _ _ _ (hs _) h.controls.record_owner r clock.slot
        h.controls.record_loads h.room
  | updateMaxVoterWeightRecord ctx w =>
      rcases maxUpdated_of_ok env clock ctx w ledger ledger' hp with ⟨reg, r, h⟩
      simp only [Instruction.target, h.result]
      exact shape_updateMaxVoterWeightRecord env _ _ _ (hs _) h.accepts.record_owner r w
        h.weight_pos h.accepts.record_loads h.room

theorem shape_run (env : Env) (h : History) (s : State) (hrun : Run (plugin env) h s)
    (a : Pubkey) : Shape env (origin env h a) a (s.ledger a) := by
  refine run_accounts env (fun _ => True) (Shape env) ?_ ?_ ?_ ?_ ?_ h s hrun
    (fun _ _ => trivial) a
  · intro a acc hown hder
    exact ⟨hder, fun h => absurd h hown⟩
  · intro a n hne
    refine ⟨fun ⟨seeds, hs⟩ => absurd hs (hne seeds), fun _ => ⟨min 8 n, ?_⟩⟩
    rw [List.take_replicate]
  · exact fun p a acc hs => (shape_placed env p a acc hs).1
  · exact fun seeds acc hs => hs.derived ⟨seeds, rfl⟩
  · exact fun h s ix s' _ ih hp _ => shape_process env s.clock ix s.ledger s'.ledger _ ih hp

/-- An address derived from the program's id is vacant unless a live account
    was created there. -/
theorem derived_vacant (env : Env) (h : History) (s : State) (hrun : Run (plugin env) h s)
    (p : Place) (ho : origin env h (env.address p) = none) :
    s.ledger (env.address p) = .vacant := by
  have hs := shape_run env h s hrun (env.address p)
  rw [ho] at hs
  exact ForeignShape.derived hs ⟨_, rfl⟩

/-! ### What reaches a record -/

/-- A voter weight record is reached by its own two instructions and by the
    update of a max voter weight record, which leaves all but the owner. -/
theorem voter_step (env : Env) (clock : Clock) (ix : Instruction) (ledger ledger' : Ledger)
    (realm mint owner : Pubkey)
    (hs : VoterShape env realm mint owner ix.target (ledger ix.target))
    (record : VoterWeightRecord)
    (hload : AccountDeserialize.tryDeserialize (ledger ix.target).data = .ok record)
    (hp : process env clock ix ledger = .ok ledger') :
    (∃ ctx reg, ix = .updateVoterWeightRecord ctx ∧
      RecordUpdated env clock ledger ledger' ctx reg record) ∨
    (∃ ctx reg, ix = .closeVoterWeightRecord ctx ∧
      ControlsRecord env ledger ctx.isSigner ctx.isWritable ctx.accounts.registrar
        ctx.accounts.voterWeightRecord ctx.accounts.voterAuthority reg record) ∨
    ∃ ctx w reg m, ix = .updateMaxVoterWeightRecord ctx w ∧
      MaxUpdated env ledger ledger' ctx w reg m ∧
      ∃ owner' : Pubkey,
        owner'.bytes = Codec.u64.encode w ++ (0 :: m.reserved.bytes) ++
          record.governingTokenOwner.bytes.drop 17 ∧
        AccountDeserialize.tryDeserialize (ledger' ix.target).data =
          .ok { record with governingTokenOwner := owner' } := by
  -- The account does not load as a registrar, so three instructions are left.
  have hnot : ∀ r : Registrar,
      AccountDeserialize.tryDeserialize (ledger ix.target).data ≠ .ok r := by
    intro r hr
    rcases registrar_of_loads env (some (.voterWeightRecord realm mint owner)) _ _ hs hs.owned r hr
      with ⟨_, _, habs⟩
    simp only [Option.some.injEq, reduceCtorEq] at habs
  rcases record_step env clock ix ledger ledger' hp hs.owned hnot with
    ⟨ctx, rfl⟩ | ⟨ctx, rfl⟩ | ⟨ctx, w, rfl⟩
  · rcases recordUpdated_of_ok env clock ctx ledger ledger' hp with ⟨reg, r, h⟩
    have hr := h.controls.record_loads.symm.trans hload
    rw [Except.ok.injEq] at hr
    subst hr
    exact Or.inl ⟨ctx, reg, rfl, h⟩
  · rcases controlsRecord_of_close env clock ctx ledger ledger' hp with ⟨reg, r, h⟩
    have hr := h.record_loads.symm.trans hload
    rw [Except.ok.injEq] at hr
    subst hr
    exact Or.inr (Or.inl ⟨ctx, reg, rfl, h⟩)
  · rcases maxUpdated_of_ok env clock ctx w ledger ledger' hp with ⟨reg, m, h⟩
    rcases (voterWeightRecord_loads_iff _ _).mp hload with ⟨rest, hdata⟩
    rcases overwrite_max_voter _ record m w rest hdata h.accepts.record_loads with
      ⟨owner', hbytes, hnew⟩
    refine Or.inr (Or.inr ⟨ctx, w, reg, m, rfl, h, owner', hbytes, ?_⟩)
    refine (voterWeightRecord_loads_iff _ _).mpr ⟨rest, ?_⟩
    simp only [Instruction.target, h.result]
    exact hnew

end EntrosVoterWeight
