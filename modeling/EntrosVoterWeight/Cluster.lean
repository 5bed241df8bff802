import EntrosVoterWeight.Assumptions

/-!
# Clusters Given by a Table

Environments and runs small enough to compute with.

A table lists the addresses some seeds derive, and everything else derives one
fallback address; the executable programs are a list, and so are the accounts
that exist before the program is deployed. Every assumption about the
surroundings then comes down to a check of the table. Realms are read in the
two layouts of the governance program, which differ in the account type and in
what is behind the name.

`replay` runs a list of instructions and keeps the history, and `replay_run`
says the result is a run.

`devnet` is the cluster the examples of this development are about: one realm
with two governing mints, two wallets, and the addresses the program derives
for them.

## Main definitions

* `tabulated`: Address derivation by a table.
* `readRealm`: The part of a realm account the program looks at.
* `clusterEnv`, `clusterState`: The environment and the first state of a
  cluster.
* `replay`: Running a list of instructions.
* `devnet`: The cluster of the examples.

## Theorems

* `cluster_governanceSpec`, `cluster_separated`, `cluster_collisionFreeAt`,
  `cluster_genesis`: The assumptions, as checks of the table.
* `replay_run`: Running instructions is a run.
* `replay_concat`: One more instruction is one more entry.
-/

namespace EntrosVoterWeight

open Borsh Anchor Transition

/-- Seeds and program with the address they derive. -/
abbrev AddressTable := List ((List UInt8 × Pubkey) × Pubkey)

/-- The value a table gives, or the fallback. -/
def tabulated {α β : Type} [DecidableEq α] : List (α × β) → β → α → β
  | [], fallback, _ => fallback
  | (key, value) :: table, fallback, x =>
    if key = x then value else tabulated table fallback x

/-- Text in UTF-8, with `owed` bytes of a character still to come, the next of
    them between `low` and `high`. -/
def isUtf8 : Nat → UInt8 → UInt8 → List UInt8 → Bool
  | owed, _, _, [] => decide (owed = 0)
  | 0, _, _, b :: bs =>
    if b < 0x80 then isUtf8 0 0 0 bs
    else if 0xC2 ≤ b ∧ b ≤ 0xDF then isUtf8 1 0x80 0xBF bs
    else if b = 0xE0 then isUtf8 2 0xA0 0xBF bs
    else if b = 0xED then isUtf8 2 0x80 0x9F bs
    else if 0xE1 ≤ b ∧ b ≤ 0xEF then isUtf8 2 0x80 0xBF bs
    else if b = 0xF0 then isUtf8 3 0x90 0xBF bs
    else if 0xF1 ≤ b ∧ b ≤ 0xF3 then isUtf8 3 0x80 0xBF bs
    else if b = 0xF4 then isUtf8 3 0x80 0x8F bs
    else false
  | owed + 1, low, high, b :: bs =>
    decide (low ≤ b ∧ b ≤ high) && isUtf8 owed 0x80 0xBF bs

/-- What is behind a text with its length in front. -/
def afterText (data : List UInt8) : Option (List UInt8) :=
  match Codec.u32.decode data with
  | some (length, rest) =>
    if length.toNat ≤ rest.length ∧ isUtf8 0 0 0 (rest.take length.toNat) = true then
      some (rest.drop length.toNat)
    else none
  | none => none

/-- A realm account up to its authority: account type, community mint, sixteen
    bytes of configuration, the kind and the value of the maximal vote weight,
    council mint, eight reserved bytes, authority. -/
def realmLayout : Codec (FixedBytes 1 × Pubkey × FixedBytes 16 × FixedBytes 1 × FixedBytes 8 ×
    Option Pubkey × FixedBytes 8 × Option Pubkey) :=
  (Codec.bytes 1).prod <| (Codec.bytes 32).prod <| (Codec.bytes 16).prod <|
    (Codec.bytes 1).prod <| (Codec.bytes 8).prod <| (Codec.bytes 32).option.prod <|
      (Codec.bytes 8).prod (Codec.bytes 32).option

/-- What follows the authority in an account of that type. The first version
    of a realm ends with its name, the second with 128 reserved bytes. -/
def realmEnds (kind : FixedBytes 1) (rest : List UInt8) : Bool :=
  if kind.bytes = [1] then (afterText rest).isSome
  else if kind.bytes = [16] then (afterText rest).any fun reserved => decide (128 ≤ reserved.length)
  else false

/-- A realm of either version. -/
def readRealm (data : List UInt8) : Option RealmV2 :=
  match realmLayout.decode data with
  | some ((kind, community, _, source, _, council, _, authority), rest) =>
    if source.bytes.all (fun tag => decide (tag ≤ 1)) && realmEnds kind rest then
      some ⟨authority, community, council⟩
    else none
  | none => none

/-- The environment of a cluster. -/
def clusterEnv (table : AddressTable) (fallback : Pubkey) (programs : List Pubkey) : Env where
  deriveAddress seeds program := tabulated table fallback (seeds, program)
  executable key := key = systemProgramId || programs.contains key
  executable_systemProgramId := by simp only [decide_true, Bool.true_or]
  realmData := readRealm
  getRealmDataForGoverningTokenMint governance acc mint :=
    match readRealm acc.data with
    | some realm =>
      if acc.owner = governance ∧ (realm.communityMint = mint ∨ realm.councilMint = some mint) then
        some realm
      else none
    | none => none
  voterWeightRecordDiscriminator := ⟨[46, 249, 155, 75, 153, 248, 116, 9], rfl⟩
  maxVoterWeightRecordDiscriminator := ⟨[157, 95, 242, 151, 16, 98, 26, 118], rfl⟩
  voter_ne_registrar := by decide
  voter_ne_max := by decide
  voter_ne_zero := by decide

theorem cluster_getRealm (table : AddressTable) (fallback : Pubkey) (programs : List Pubkey)
    (governance : Pubkey) (acc : Account) (mint : Pubkey) (realm : RealmV2) :
    (clusterEnv table fallback programs).getRealmDataForGoverningTokenMint governance acc mint =
        some realm ↔
      readRealm acc.data = some realm ∧ acc.owner = governance ∧
        (realm.communityMint = mint ∨ realm.councilMint = some mint) := by
  simp only [clusterEnv]
  rcases hr : readRealm acc.data with _ | r
  · simp only [reduceCtorEq, false_and]
  · by_cases hc : acc.owner = governance ∧ (r.communityMint = mint ∨ r.councilMint = some mint)
    · simp only [if_pos hc, Option.some.injEq]
      constructor
      · intro heq
        subst heq
        exact ⟨rfl, hc⟩
      · exact fun h => h.1
    · simp only [if_neg hc, reduceCtorEq, Option.some.injEq, false_iff]
      intro hget
      rcases hget with ⟨rfl, h⟩
      exact hc h

theorem readRealm_zeros (n : Nat) : readRealm (List.replicate n 0) = none := by
  rcases hd : realmLayout.decode (List.replicate n 0) with
    _ | ⟨⟨kind, community, config, source, weight, council, reserved, authority⟩, rest⟩
  · simp only [readRealm, hd]
  · -- The account type is the first byte, and no version is zero.
    have hmem : ∀ b ∈ kind.bytes, b = 0 := by
      intro b hb
      refine List.eq_of_mem_replicate (n := n) ?_
      rw [(realmLayout.decode_iff _ _ _).mp hd]
      exact List.mem_append_left _ (List.mem_append_left _ hb)
    have hkind : ∀ b, b ≠ 0 → kind.bytes ≠ [b] := by
      intro b hb heq
      exact hb (hmem b (by rw [heq]; exact List.mem_cons_self))
    have hends : realmEnds kind rest = false := by
      rw [realmEnds, if_neg (hkind 1 (by decide)), if_neg (hkind 16 (by decide))]
    simp only [readRealm, hd, hends, Bool.and_false, Bool.false_eq_true, if_false]

theorem cluster_governanceSpec (table : AddressTable) (fallback : Pubkey)
    (programs : List Pubkey) : GovernanceSpec (clusterEnv table fallback programs) where
  owner _ _ _ _ h := ((cluster_getRealm ..).mp h).2.1
  data _ _ _ _ h := ((cluster_getRealm ..).mp h).1
  mint _ _ _ _ h := ((cluster_getRealm ..).mp h).2.2
  zeros := readRealm_zeros

/-- Only the programs have to be looked at. -/
theorem cluster_separated (table : AddressTable) (fallback : Pubkey) (programs : List Pubkey)
    (ledger : Ledger)
    (h : ∀ key ∈ systemProgramId :: programs, readRealm (ledger key).data = none) :
    Separated (clusterEnv table fallback programs) ledger := by
  intro a governance mint realm hget
  have hreal := ((cluster_getRealm ..).mp hget).1
  by_contra hexec
  -- An executable address is one of the listed programs.
  have hmem : a ∈ systemProgramId :: programs := by
    simp only [clusterEnv, Bool.not_eq_false, Bool.or_eq_true, decide_eq_true_eq,
      List.contains_eq_mem] at hexec
    exact List.mem_cons.mpr hexec
  rw [h a hmem] at hreal
  exact absurd hreal (by simp only [reduceCtorEq, not_false_eq_true])

/-- A value is the fallback or in the table. -/
theorem tabulated_mem {α β : Type} [DecidableEq α] (table : List (α × β)) (fallback : β) (x : α) :
    tabulated table fallback x = fallback ∨ (x, tabulated table fallback x) ∈ table := by
  induction table with
  | nil => exact Or.inl rfl
  | cons entry table ih =>
      by_cases hx : entry.1 = x
      · simp only [tabulated, if_pos hx]
        refine Or.inr (List.mem_cons.mpr (Or.inl ?_))
        rw [← hx]
      · simp only [tabulated, if_neg hx]
        exact ih.imp_right (List.mem_cons_of_mem _)

/-- A table without repetitions gives a value other than the fallback once. -/
theorem tabulated_inj {α β : Type} [DecidableEq α] (table : List (α × β)) (fallback : β)
    (hnodup : (table.map Prod.snd).Nodup) (x y : α) (hx : tabulated table fallback x ≠ fallback)
    (h : tabulated table fallback y = tabulated table fallback x) : y = x := by
  induction table with
  | nil => exact absurd rfl hx
  | cons entry table ih =>
      rw [List.map_cons, List.nodup_cons] at hnodup
      -- The first value does not come up again further down.
      have hfirst : ∀ z, tabulated table fallback z ≠ fallback →
          entry.2 ≠ tabulated table fallback z := by
        intro z hz heq
        rcases tabulated_mem table fallback z with hf | hm
        · exact hz hf
        · exact hnodup.1 (List.mem_map.mpr ⟨_, hm, heq.symm⟩)
      by_cases hxe : entry.1 = x
      · by_cases hye : entry.1 = y
        · rw [← hxe, ← hye]
        · simp only [tabulated, if_pos hxe, if_neg hye] at hx h
          exact absurd h.symm (hfirst y (by rw [h]; exact hx))
      · by_cases hye : entry.1 = y
        · simp only [tabulated, if_neg hxe, if_pos hye] at hx h
          exact absurd h (hfirst x hx)
        · simp only [tabulated, if_neg hxe, if_neg hye] at hx h
          exact ih hnodup.2 hx h

theorem cluster_collisionFreeAt (table : AddressTable) (fallback : Pubkey)
    (programs : List Pubkey) (p : Place) (hnodup : (table.map Prod.snd).Nodup)
    (hp : (clusterEnv table fallback programs).address p ≠ fallback) :
    CollisionFreeAt (clusterEnv table fallback programs) p := by
  intro q hq
  have heq := tabulated_inj table fallback hnodup (p.seeds.flatten, programId)
    (q.seeds.flatten, programId) hp hq
  exact congrArg Prod.fst heq

/-- Identities are derived from another program's id, so they are elsewhere. -/
theorem cluster_identityAddress_ne (table : AddressTable) (fallback : Pubkey)
    (programs : List Pubkey) (p : Place) (hnodup : (table.map Prod.snd).Nodup)
    (hp : (clusterEnv table fallback programs).address p ≠ fallback) (voter : Pubkey) :
    (clusterEnv table fallback programs).identityAddress voter ≠
      (clusterEnv table fallback programs).address p := by
  intro h
  have heq := tabulated_inj table fallback hnodup (p.seeds.flatten, programId)
    ([identitySeed, voter.bytes].flatten, entrosAnchorProgramId) hp h
  have hid : entrosAnchorProgramId = programId := congrArg Prod.snd heq
  exact absurd hid (by decide)

/-! ### The first state -/

/-- The accounts of a list, and vacancy elsewhere. -/
def clusterState (accounts : List (Pubkey × Account)) (clock : Clock) : State :=
  ⟨tabulated accounts .vacant, clock⟩

theorem cluster_genesis (table : AddressTable) (fallback : Pubkey) (programs : List Pubkey)
    (accounts : List (Pubkey × Account)) (clock : Clock)
    (howns : ∀ x ∈ accounts, x.2.owner ≠ programId)
    (hfallback : tabulated accounts .vacant fallback = .vacant)
    (hvacant : ∀ entry ∈ table, entry.1.2 = programId →
      tabulated accounts .vacant entry.2 = .vacant)
    (htime : 0 ≤ clock.unixTimestamp) :
    Genesis (clusterEnv table fallback programs) (clusterState accounts clock) where
  owns_nothing a := by
    simp only [clusterState]
    rcases tabulated_mem accounts .vacant a with hv | hm
    · rw [hv]
      exact vacant_owner_ne
    · exact howns _ hm
  derived_vacant seeds := by
    rcases tabulated_mem table fallback (seeds, programId) with hf | hm
    · simp only [clusterEnv, clusterState, hf]
      exact hfallback
    · exact hvacant _ hm rfl
  time_nonneg := htime

/-! ### Running instructions -/

/-- Run a list of instructions, keeping the history. -/
def replay (env : Env) : History → State → List Instruction → History × State
  | h, s, [] => (h, s)
  | h, s, ix :: ixs =>
    replay env (⟨s, .instruction ix, s.apply env ix⟩ :: h) (s.apply env ix) ixs

theorem replay_run (env : Env) (h : History) (s : State) (ixs : List Instruction)
    (hrun : Run (plugin env) h s) :
    Run (plugin env) (replay env h s ixs).1 (replay env h s ixs).2 := by
  induction ixs generalizing h s with
  | nil => exact hrun
  | cons ix ixs ih => exact ih _ _ (.step h s _ _ hrun (.instruction s ix))

/-- Success, which can be computed, gives a result, which cannot be compared
    with another: ledgers are functions. -/
theorem exists_of_isOk (env : Env) (clock : Clock) (ix : Instruction) (ledger : Ledger)
    (h : (process env clock ix ledger).isOk = true) :
    ∃ ledger', process env clock ix ledger = .ok ledger' := by
  rcases hp : process env clock ix ledger with e | ledger'
  · rw [hp] at h
    exact (Bool.false_ne_true h).elim
  · exact ⟨ledger', rfl⟩

/-- One more instruction is one more entry. -/
theorem replay_concat (env : Env) (h : History) (s : State) (ixs : List Instruction)
    (ix : Instruction) :
    replay env h s (ixs ++ [ix]) =
      (⟨(replay env h s ixs).2, .instruction ix, (replay env h s ixs).2.apply env ix⟩ ::
        (replay env h s ixs).1, (replay env h s ixs).2.apply env ix) := by
  induction ixs generalizing h s with
  | nil => rfl
  | cons x ixs ih => exact ih _ _

/-! ### The cluster of the examples -/

/-- Thirty-two equal bytes. -/
def keyOf (n : UInt8) : Pubkey := ⟨List.replicate 32 n, List.length_replicate⟩

namespace Devnet

def realm : Pubkey := keyOf 1

def mint : Pubkey := keyOf 2

def otherMint : Pubkey := keyOf 3

def authority : Pubkey := keyOf 4

def payer : Pubkey := keyOf 5

def governance : Pubkey := keyOf 6

/-- A wallet whose key has a zero behind its first eight bytes. -/
def voterA : Pubkey := ⟨List.replicate 8 7 ++ 0 :: List.replicate 23 7, rfl⟩

/-- One that differs from it in the first eight bytes only. -/
def voterB : Pubkey := ⟨List.replicate 8 9 ++ 0 :: List.replicate 23 7, rfl⟩

/-- The addresses that the derivation gives for these keys. -/
def addresses : AddressTable := [
  (((Place.registrar realm mint).seeds.flatten, programId),
    ⟨[0x8d, 0xa8, 0xde, 0xa7, 0xc1, 0x92, 0x72, 0xc8, 0xa2, 0x73, 0x4a, 0xef,
      0x13, 0xf3, 0x74, 0x6f, 0xee, 0x81, 0x36, 0x66, 0x70, 0x9e, 0xd8, 0x5d,
      0xb7, 0x36, 0x04, 0xcf, 0xa9, 0x45, 0x34, 0x4e],
      rfl⟩),
  (((Place.registrar realm otherMint).seeds.flatten, programId),
    ⟨[0xb0, 0xb2, 0x51, 0x81, 0xb2, 0xd7, 0x58, 0x85, 0x00, 0xed, 0x49, 0x80,
      0x81, 0x87, 0xb8, 0xbe, 0xa2, 0xee, 0xc3, 0xab, 0x5c, 0x5e, 0x42, 0x8c,
      0xa4, 0xfa, 0x8b, 0x8f, 0x2e, 0x7f, 0x1d, 0x36],
      rfl⟩),
  (((Place.voterWeightRecord realm mint voterA).seeds.flatten, programId),
    ⟨[0xa5, 0xb8, 0x6b, 0x4e, 0x8c, 0xac, 0xa0, 0x70, 0xd2, 0x08, 0xfe, 0xe3,
      0xdc, 0xc3, 0xe2, 0x41, 0x43, 0x9b, 0x80, 0x37, 0x0c, 0xab, 0x24, 0x22,
      0xf7, 0x48, 0x45, 0x34, 0x17, 0x0a, 0x93, 0x0e],
      rfl⟩),
  (((Place.voterWeightRecord realm mint voterB).seeds.flatten, programId),
    ⟨[0x86, 0x4e, 0xc5, 0x4e, 0x5a, 0x59, 0x39, 0x9b, 0x81, 0xfd, 0x8d, 0xc1,
      0x32, 0x8d, 0x45, 0xd6, 0x25, 0x9a, 0xd4, 0x93, 0x1c, 0x51, 0x9b, 0xec,
      0x7a, 0xa4, 0x4b, 0x3f, 0x68, 0x94, 0x7c, 0xd4],
      rfl⟩),
  (((Place.voterWeightRecord realm otherMint voterA).seeds.flatten, programId),
    ⟨[0x65, 0xc8, 0x40, 0x8d, 0x0a, 0x2c, 0xe3, 0x37, 0xe1, 0xa5, 0x09, 0x8d,
      0x41, 0x23, 0xdb, 0xd9, 0xe3, 0x0b, 0x16, 0x24, 0xca, 0x67, 0x36, 0x3f,
      0x8d, 0x1a, 0x82, 0x70, 0x25, 0xf6, 0x33, 0x78],
      rfl⟩),
  (((Place.maxVoterWeightRecord realm mint).seeds.flatten, programId),
    ⟨[0x42, 0xed, 0xb6, 0xaa, 0x63, 0x3b, 0x30, 0x01, 0xd2, 0x8c, 0x21, 0x04,
      0x79, 0x03, 0x79, 0x4b, 0x52, 0x0a, 0xf9, 0x08, 0x00, 0x7f, 0xab, 0x3e,
      0xd4, 0xab, 0x61, 0x08, 0x7d, 0x57, 0x8a, 0xef],
      rfl⟩),
  ((identitySeed ++ voterA.bytes, entrosAnchorProgramId),
    ⟨[0x58, 0xaa, 0x57, 0xf8, 0xc8, 0x7a, 0x6b, 0x53, 0xc4, 0x55, 0x96, 0xed,
      0x7d, 0xa8, 0x54, 0x00, 0xa9, 0x6d, 0xdf, 0x35, 0x23, 0x74, 0x7c, 0x0a,
      0x19, 0x9e, 0xac, 0x0e, 0x50, 0x90, 0x20, 0x35],
      rfl⟩),
  ((identitySeed ++ voterB.bytes, entrosAnchorProgramId),
    ⟨[0x11, 0x3f, 0xbf, 0x98, 0xfe, 0x1d, 0x1e, 0x4c, 0xa5, 0x44, 0xe9, 0xa3,
      0xf8, 0xfc, 0x73, 0x25, 0x77, 0x0c, 0xf0, 0xd1, 0x3f, 0x1e, 0xd7, 0x68,
      0x02, 0x04, 0xbd, 0xbf, 0xdf, 0xb0, 0x8e, 0xeb],
      rfl⟩)]

def env : Env := clusterEnv addresses (keyOf 238) [governance]

/-- The bytes of a realm named Entros. -/
def realmData (council authority : Option Pubkey) : List UInt8 :=
  realmLayout.encode (⟨[16], rfl⟩, mint, FixedBytes.zero 16, FixedBytes.zero 1, FixedBytes.zero 8,
    council, FixedBytes.zero 8, authority) ++ Codec.u32.encode 6 ++
    [69, 110, 116, 114, 111, 115] ++ List.replicate 128 0

/-- A realm with two governing mints. -/
def realmAccount : Account := ⟨governance, realmData (some otherMint) (some authority)⟩

/-- A realm of any governance program, with one governing mint. -/
def realmAccountOf (governance authority : Pubkey) : Account :=
  ⟨governance, realmData none (some authority)⟩

/-- The identity account of a wallet, with its last verification. -/
def identityAccount (voter : Pubkey) (lastVerification : Int64) : Account :=
  ⟨entrosAnchorProgramId, identityDiscriminator.bytes ++ voter.bytes ++
    Codec.i64.encode 1600000000 ++ Codec.i64.encode lastVerification ++ leEncode 4 3 ++
    Codec.u16.encode 80⟩

def clock : Clock := ⟨1000, 1775573486⟩

/-- One wallet was verified a day ago; the other's verification is dated a
    thousand seconds ahead. -/
def genesis : State :=
  clusterState [(realm, realmAccount),
    (env.identityAddress voterA, identityAccount voterA 1775487086),
    (env.identityAddress voterB, identityAccount voterB 1775574486)] clock

theorem genesis_run : Run (plugin env) [] genesis :=
  .start _ (cluster_genesis _ _ _ _ _ (by decide +kernel) (by decide +kernel) (by decide +kernel)
    (by decide))

/-- Signers of an instruction; every account is writable. -/
def context {A : Type} (accounts : A) (signers remaining : List Pubkey) : Context A :=
  ⟨accounts, remaining, fun key => signers.contains key, fun _ => true⟩

def registrar (mint : Pubkey) : Pubkey := env.address (.registrar realm mint)

def record (mint voter : Pubkey) : Pubkey := env.address (.voterWeightRecord realm mint voter)

def maxRecord : Pubkey := env.address (.maxVoterWeightRecord realm mint)

def createRegistrar (mint : Pubkey) : Instruction :=
  .createRegistrar (context ⟨registrar mint, governance, realm, mint, authority, payer,
    systemProgramId⟩ [authority, payer] []) 50 2592000

def createRecordContext (mint voter : Pubkey) : Context CreateVoterWeightRecord :=
  context ⟨registrar mint, record mint voter, voter, payer, systemProgramId⟩ [voter, payer] []

def createRecord (mint voter : Pubkey) : Instruction :=
  .createVoterWeightRecord (createRecordContext mint voter) voter

def updateRecordContext (mint voter : Pubkey) : Context UpdateVoterWeightRecord :=
  context ⟨registrar mint, record mint voter, voter⟩ [voter] [env.identityAddress voter]

def updateRecord (mint voter : Pubkey) : Instruction :=
  .updateVoterWeightRecord (updateRecordContext mint voter)

def createMaxRecord : Instruction :=
  .createMaxVoterWeightRecord (context ⟨registrar mint, maxRecord, realm, authority, payer,
    systemProgramId⟩ [authority, payer] [])

def updateMaxRecord (key : Pubkey) (weight : UInt64) : Instruction :=
  .updateMaxVoterWeightRecord (context ⟨registrar mint, key, realm, authority⟩ [authority] [])
    weight

def closeRegistrar (mint : Pubkey) : Instruction :=
  .closeRegistrar (context ⟨registrar mint, realm, authority, payer⟩ [authority] [])

def closeRecordContext (mint voter : Pubkey) : Context CloseVoterWeightRecord :=
  context ⟨registrar mint, record mint voter, voter, payer⟩ [voter] []

/-- A wallet's record, created and updated. -/
def votes : List Instruction := [createRegistrar mint, createRecord mint voterA,
  updateRecord mint voterA]

/-- Two wallets with a record each. -/
def bothRecords : List Instruction := [createRegistrar mint, createRecord mint voterA,
  createRecord mint voterB]

/-- The first wallet's record, passed as the max voter weight record. -/
def takeover : List Instruction :=
  bothRecords ++ [updateMaxRecord (record mint voterA) 0x0909090909090909]

/-- A max voter weight record, created and set. -/
def quorum : List Instruction := [createRegistrar mint, createMaxRecord,
  updateMaxRecord maxRecord 21]

/-- The same with a wallet's record. -/
def configured : List Instruction := quorum ++ [createRecord mint voterA]

/-- A record whose registrar is closed. -/
def orphaned : List Instruction := [createRegistrar mint, createRecord mint voterA,
  closeRegistrar mint]

/-- A registrar with a record. -/
def oneDao : List Instruction := [createRegistrar mint, createRecord mint voterA]

/-- The same, and then a registrar for the realm's other mint. -/
def twoDaos : List Instruction := oneDao ++ [createRegistrar otherMint]

/-- The history and the state after a list of instructions. -/
def after (ixs : List Instruction) : History × State := replay env [] genesis ixs

theorem after_run (ixs : List Instruction) : Run (plugin env) (after ixs).1 (after ixs).2 :=
  replay_run env [] genesis ixs genesis_run

theorem after_concat (ixs : List Instruction) (ix : Instruction) :
    after (ixs ++ [ix]) = (⟨(after ixs).2, .instruction ix, (after ixs).2.apply env ix⟩ ::
      (after ixs).1, (after ixs).2.apply env ix) :=
  replay_concat env [] genesis ixs ix

/-- Along a run, only the two programs have to be looked at. -/
theorem after_separated (ixs : List Instruction)
    (h : ∀ e ∈ (after ixs).1, ∀ key ∈ [systemProgramId, governance],
      readRealm (e.pre.ledger key).data = none) :
    ∀ e ∈ (after ixs).1, Separated env e.pre.ledger := by
  intro e he
  exact cluster_separated _ _ _ _ (h e he)

theorem collisionFreeAt (p : Place) (hp : env.address p ≠ keyOf 238) : CollisionFreeAt env p :=
  cluster_collisionFreeAt _ _ _ p (by decide +kernel) hp

end Devnet

end EntrosVoterWeight
