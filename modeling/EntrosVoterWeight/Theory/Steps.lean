import EntrosVoterWeight.Layout
import EntrosVoterWeight.Program

/-!
# What an Instruction Can Do to Each Kind of Account

The loaders decide which instructions reach an account. Given the bytes of an
account, the theorems here list the successful instructions that can have it
as their target, what they checked and what they leave.

An instruction that creates an account finds it vacant. Any other one loads
it, as a registrar or as one of the two records, and the registrar's loader
compares a discriminator. So whatever does not load as a registrar is reached
by the three instructions that work on records, and by no other.

## Main definitions

* `Instruction.begins`: Instructions that create their target.
* `Instruction.ends`: Instructions that close their target.

## Theorems

* `begins_vacant`: What is created was vacant.
* `ends_vacant`: What is closed is vacant afterwards.
* `not_begins_of_owned`: What is there is not created.
* `voter_created`: What creates a voter weight record.
* `record_step`: The instructions that reach an account that does not load as
  a registrar.
* `recordUpdated_of_ok`, `maxUpdated_of_ok`: What the two updates of records
  found and left.
* `becomes_of_ends`, `becomes_of_keeps`: The origin after an instruction.
-/

namespace EntrosVoterWeight

open Borsh Anchor Transition

/-- Instructions that create their target. -/
def Instruction.begins : Instruction → Bool
  | .createRegistrar _ _ _ => true
  | .createVoterWeightRecord _ _ => true
  | .createMaxVoterWeightRecord _ => true
  | _ => false

/-- Instructions that close their target. -/
def Instruction.ends : Instruction → Bool
  | .closeRegistrar _ => true
  | .closeVoterWeightRecord _ => true
  | _ => false

/-- What is created was vacant, at an address the place determines, and then
    belongs to the program. -/
theorem begins_vacant (env : Env) (clock : Clock) (ix : Instruction) (ledger ledger' : Ledger)
    (hp : process env clock ix ledger = .ok ledger') (hb : ix.begins = true) :
    ledger ix.target = .vacant ∧ ∃ p, (∀ old, ix.becomes ledger old = some p) ∧
      ix.target = env.address p ∧ (ledger' ix.target).owner = programId := by
  cases ix with
  | createRegistrar ctx t g =>
      rcases (createRegistrar_eq_ok ..).mp hp with ⟨h, rfl⟩
      refine ⟨h.vacant, _, fun _ => rfl, h.seeds, ?_⟩
      simp only [Instruction.target, Function.update_self]
  | createVoterWeightRecord ctx o =>
      rcases (createVoterWeightRecord_eq_ok ..).mp hp with ⟨reg, h, rfl⟩
      have hreg := (registrarAt_eq_some ..).mpr ⟨h.registrar_owner, h.registrar_loads⟩
      refine ⟨h.vacant, .voterWeightRecord reg.realm reg.governingTokenMint o, fun _ => ?_,
        h.record_seeds, ?_⟩
      · simp only [Instruction.becomes, hreg, Option.map_some]
      · simp only [Instruction.target, Function.update_self]
  | createMaxVoterWeightRecord ctx =>
      rcases (createMaxVoterWeightRecord_eq_ok ..).mp hp with ⟨reg, h, rfl⟩
      have hreg := (registrarAt_eq_some ..).mpr ⟨h.registrar_owner, h.registrar_loads⟩
      refine ⟨h.vacant, .maxVoterWeightRecord reg.realm reg.governingTokenMint, fun _ => ?_,
        h.record_seeds, ?_⟩
      · simp only [Instruction.becomes, hreg, Option.map_some]
      · simp only [Instruction.target, Function.update_self]
  | updateRegistrar _ _ _ => exact (Bool.false_ne_true hb).elim
  | updateVoterWeightRecord _ => exact (Bool.false_ne_true hb).elim
  | closeRegistrar _ => exact (Bool.false_ne_true hb).elim
  | closeVoterWeightRecord _ => exact (Bool.false_ne_true hb).elim
  | updateMaxVoterWeightRecord _ _ => exact (Bool.false_ne_true hb).elim

/-- What belongs to the program is not created again. -/
theorem not_begins_of_owned (env : Env) (clock : Clock) (ix : Instruction)
    (ledger ledger' : Ledger) (hp : process env clock ix ledger = .ok ledger')
    (hown : (ledger ix.target).owner = programId) : ix.begins = false := by
  by_contra hb
  have hvac := (begins_vacant env clock ix ledger ledger' hp
    (by simpa only [Bool.not_eq_false] using hb)).1
  rw [hvac] at hown
  exact vacant_owner_ne hown

/-- A voter weight record is created by its own instruction only. -/
theorem voter_created (env : Env) (clock : Clock) (ix : Instruction) (ledger ledger' : Ledger)
    (hp : process env clock ix ledger = .ok ledger') (hb : ix.begins = true) (old : Option Place)
    (realm mint owner : Pubkey)
    (ho : ix.becomes ledger old = some (.voterWeightRecord realm mint owner)) :
    ∃ ctx reg, ix = .createVoterWeightRecord ctx owner ∧
      CreateVoterWeightRecord.Accepts env ctx owner ledger reg ∧
      reg.realm = realm ∧ reg.governingTokenMint = mint ∧
      ledger' ix.target = ⟨programId, overwrite (VoterWeightRecord.codec.encode
        (newVoterWeightRecord env realm mint owner))
        (List.replicate VoterWeightRecord.getSpace 0)⟩ := by
  cases ix with
  | createVoterWeightRecord ctx o =>
      rcases (createVoterWeightRecord_eq_ok ..).mp hp with ⟨reg, h, rfl⟩
      have hreg := (registrarAt_eq_some ..).mpr ⟨h.registrar_owner, h.registrar_loads⟩
      simp only [Instruction.becomes, hreg, Option.map_some, Option.some.injEq,
        Place.voterWeightRecord.injEq] at ho
      rcases ho with ⟨rfl, rfl, rfl⟩
      refine ⟨ctx, reg, rfl, h, rfl, rfl, ?_⟩
      simp only [Instruction.target, Function.update_self]
  -- The other two create accounts of other kinds.
  | createRegistrar ctx t g =>
      simp only [Instruction.becomes, Option.some.injEq, reduceCtorEq] at ho
  | createMaxVoterWeightRecord ctx =>
      rcases hreg : registrarAt ledger ctx.accounts.registrar with _ | reg
      · simp only [Instruction.becomes, hreg, Option.map_none, reduceCtorEq] at ho
      · simp only [Instruction.becomes, hreg, Option.map_some, Option.some.injEq,
          reduceCtorEq] at ho
  | updateRegistrar _ _ _ => exact (Bool.false_ne_true hb).elim
  | updateVoterWeightRecord _ => exact (Bool.false_ne_true hb).elim
  | closeRegistrar _ => exact (Bool.false_ne_true hb).elim
  | closeVoterWeightRecord _ => exact (Bool.false_ne_true hb).elim
  | updateMaxVoterWeightRecord _ _ => exact (Bool.false_ne_true hb).elim

/-- What is closed is vacant afterwards. -/
theorem ends_vacant (env : Env) (clock : Clock) (ix : Instruction) (ledger ledger' : Ledger)
    (hp : process env clock ix ledger = .ok ledger') (he : ix.ends = true) :
    ledger' ix.target = .vacant := by
  cases ix with
  | closeRegistrar ctx =>
      rcases (closeRegistrar_eq_ok ..).mp hp with ⟨_, _, _, _, rfl⟩
      exact Function.update_self ..
  | closeVoterWeightRecord ctx =>
      rcases (closeVoterWeightRecord_eq_ok ..).mp hp with ⟨_, _, _, _, _, rfl⟩
      exact Function.update_self ..
  | createRegistrar _ _ _ => exact (Bool.false_ne_true he).elim
  | updateRegistrar _ _ _ => exact (Bool.false_ne_true he).elim
  | createVoterWeightRecord _ _ => exact (Bool.false_ne_true he).elim
  | updateVoterWeightRecord _ => exact (Bool.false_ne_true he).elim
  | createMaxVoterWeightRecord _ => exact (Bool.false_ne_true he).elim
  | updateMaxVoterWeightRecord _ _ => exact (Bool.false_ne_true he).elim

theorem becomes_of_ends (ledger : Ledger) (ix : Instruction) (old : Option Place)
    (he : ix.ends = true) : ix.becomes ledger old = none := by
  cases ix <;> first | rfl | exact (Bool.false_ne_true he).elim

theorem becomes_of_keeps (ledger : Ledger) (ix : Instruction) (old : Option Place)
    (hb : ix.begins = false) (he : ix.ends = false) : ix.becomes ledger old = old := by
  cases ix <;>
    first
    | rfl
    | exact (Bool.false_ne_true hb.symm).elim
    | exact (Bool.false_ne_true he.symm).elim

/-! ### Through which loader -/

/-- A successful update of a voter weight record, with what it found and what
    it left. -/
structure RecordUpdated (env : Env) (clock : Clock) (ledger ledger' : Ledger)
    (ctx : Context UpdateVoterWeightRecord) (registrar : Registrar)
    (record : VoterWeightRecord) : Prop where
  controls : ControlsRecord env ledger ctx.isSigner ctx.isWritable ctx.accounts.registrar
    ctx.accounts.voterWeightRecord ctx.accounts.voterAuthority registrar record
  identity : ctx.remainingAccounts.head? = some (env.identityAddress ctx.accounts.voterAuthority)
  eligible : Eligible env clock registrar ledger ctx.accounts.voterAuthority
  room : 131 ≤ (ledger ctx.accounts.voterWeightRecord).data.length
  result : ledger' ctx.accounts.voterWeightRecord = ⟨programId,
    overwrite (VoterWeightRecord.codec.encode (record.activated clock.slot))
      (ledger ctx.accounts.voterWeightRecord).data⟩

/-- A successful update of a max voter weight record, with what it found and
    what it left. -/
structure MaxUpdated (env : Env) (ledger ledger' : Ledger)
    (ctx : Context UpdateMaxVoterWeightRecord) (maxVoterWeight : UInt64) (registrar : Registrar)
    (record : MaxVoterWeightRecord) : Prop where
  accepts : UpdateMaxVoterWeightRecord.Accepts env ctx ledger registrar record
  weight_pos : 0 < maxVoterWeight
  room : 89 ≤ (ledger ctx.accounts.maxVoterWeightRecord).data.length
  result : ledger' ctx.accounts.maxVoterWeightRecord = ⟨programId,
    overwrite (MaxVoterWeightRecord.codec.encode (record.withWeight maxVoterWeight))
      (ledger ctx.accounts.maxVoterWeightRecord).data⟩

theorem recordUpdated_of_ok (env : Env) (clock : Clock) (ctx : Context UpdateVoterWeightRecord)
    (ledger ledger' : Ledger)
    (hp : process env clock (.updateVoterWeightRecord ctx) ledger = .ok ledger') :
    ∃ registrar record, RecordUpdated env clock ledger ledger' ctx registrar record := by
  rcases (updateVoterWeightRecord_eq_ok ..).mp hp with ⟨reg, r, hc, hid, he, hroom, rfl⟩
  exact ⟨reg, r, hc, hid, he, hroom, Function.update_self ..⟩

theorem controlsRecord_of_close (env : Env) (clock : Clock) (ctx : Context CloseVoterWeightRecord)
    (ledger ledger' : Ledger)
    (hp : process env clock (.closeVoterWeightRecord ctx) ledger = .ok ledger') :
    ∃ registrar record, ControlsRecord env ledger ctx.isSigner ctx.isWritable
      ctx.accounts.registrar ctx.accounts.voterWeightRecord ctx.accounts.voterAuthority
      registrar record := by
  rcases (closeVoterWeightRecord_eq_ok ..).mp hp with ⟨reg, r, hc, _⟩
  exact ⟨reg, r, hc⟩

theorem maxUpdated_of_ok (env : Env) (clock : Clock) (ctx : Context UpdateMaxVoterWeightRecord)
    (maxVoterWeight : UInt64) (ledger ledger' : Ledger)
    (hp : process env clock (.updateMaxVoterWeightRecord ctx maxVoterWeight) ledger
      = .ok ledger') :
    ∃ registrar record,
      MaxUpdated env ledger ledger' ctx maxVoterWeight registrar record := by
  rcases (updateMaxVoterWeightRecord_eq_ok ..).mp hp with ⟨reg, r, ha, hpos, hroom, rfl⟩
  exact ⟨reg, r, ha, hpos, hroom, Function.update_self ..⟩

/-- The instructions that reach an existing account its registrar's loader
    refuses. -/
theorem record_step (env : Env) (clock : Clock) (ix : Instruction) (ledger ledger' : Ledger)
    (hp : process env clock ix ledger = .ok ledger')
    (hown : (ledger ix.target).owner = programId)
    (hnot : ∀ r : Registrar, AccountDeserialize.tryDeserialize (ledger ix.target).data ≠ .ok r) :
    (∃ ctx, ix = .updateVoterWeightRecord ctx) ∨ (∃ ctx, ix = .closeVoterWeightRecord ctx) ∨
      ∃ ctx w, ix = .updateMaxVoterWeightRecord ctx w := by
  have hlive := not_begins_of_owned env clock ix ledger ledger' hp hown
  cases ix with
  -- The loader of a registrar refuses the account, which leaves the two records'.
  | updateRegistrar ctx t g =>
      rcases (updateRegistrar_eq_ok ..).mp hp with ⟨r, h, _⟩
      exact absurd h.loads (hnot r)
  | closeRegistrar ctx =>
      rcases (closeRegistrar_eq_ok ..).mp hp with ⟨r, h, _⟩
      exact absurd h.loads (hnot r)
  | updateVoterWeightRecord ctx => exact Or.inl ⟨ctx, rfl⟩
  | closeVoterWeightRecord ctx => exact Or.inr (Or.inl ⟨ctx, rfl⟩)
  | updateMaxVoterWeightRecord ctx w => exact Or.inr (Or.inr ⟨ctx, w, rfl⟩)
  | createRegistrar _ _ _ => exact (Bool.false_ne_true hlive.symm).elim
  | createVoterWeightRecord _ _ => exact (Bool.false_ne_true hlive.symm).elim
  | createMaxVoterWeightRecord _ => exact (Bool.false_ne_true hlive.symm).elim

end EntrosVoterWeight
