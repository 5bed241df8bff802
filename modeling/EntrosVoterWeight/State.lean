import EntrosVoterWeight.Error

/-!
# Account Types and Addresses

The three kinds of account the program owns, byte for byte, and the addresses
it derives for them.

`Registrar` is an Anchor account type: its bytes start with an eight-byte
discriminator, which loading compares. `VoterWeightRecord` and
`MaxVoterWeightRecord` wrap the records of the governance addin interface.
Those carry their discriminator as an ordinary field, and the wrappers define
only the unchecked deserializer, so loading one compares no discriminator at
all: any bytes of the right shape will do.

The layouts of the two records agree on their first 72 bytes, and every
record has its fields in the order the space computation lists them.

`Place` names the accounts the program creates. A place determines the seeds
of its address; whether distinct places have distinct addresses depends on
the derivation, and is not assumed here.

## Main definitions

* `programId`, `entrosAnchorProgramId`: The two program ids.
* `Registrar`, `VoterWeightRecord`, `MaxVoterWeightRecord`: The account types.
* `Registrar.codec`, `VoterWeightRecord.codec`, `MaxVoterWeightRecord.codec`:
  Their Borsh layouts.
* `RealmV2`, `Env`: What the program takes from outside.
* `Place`, `Env.address`: The accounts the program creates, and where.

## Theorems

* `Place.seeds_injective`: Concatenated seeds determine the place, across the
  three kinds and although nothing separates the seeds.
-/

namespace EntrosVoterWeight

open Borsh Anchor

/-- 99nwXzcugse3x8kxE9v6mxZiq8T9gHDoznaaG6qcw534 -/
def programId : Pubkey :=
  ⟨[0x79, 0x1e, 0x16, 0x31, 0x21, 0x19, 0xef, 0xce, 0x37, 0x4a, 0x1d, 0xa9, 0xdc, 0x8f, 0x23, 0x48,
    0xb2, 0x9a, 0x97, 0xe5, 0xe8, 0x0a, 0x63, 0x7d, 0x95, 0xfc, 0xe2, 0x2c, 0xb9, 0x3f, 0x84, 0x67],
    rfl⟩

/-- GZYwTp2ozeuRA5Gof9vs4ya961aANcJBdUzB7LN6q4b2 -/
def entrosAnchorProgramId : Pubkey :=
  ⟨[0xe7, 0x36, 0x00, 0xda, 0x70, 0x7e, 0xbf, 0x19, 0x90, 0x7d, 0x32, 0xec, 0x88, 0x42, 0xa4, 0x5f,
    0xb4, 0xd5, 0x32, 0x63, 0xa1, 0x49, 0x68, 0x01, 0x6d, 0xb4, 0xe6, 0x29, 0x37, 0xe0, 0x93, 0xd1],
    rfl⟩

/-! ### Registrar -/

structure Registrar where
  governanceProgramId : Pubkey
  realm : Pubkey
  governingTokenMint : Pubkey
  minTrustScore : UInt16
  maxVerificationAge : Int64
  reserved : FixedBytes 64
deriving DecidableEq

/-- discriminator, governance_program_id, realm, governing_token_mint,
    min_trust_score, max_verification_age, reserved -/
def Registrar.len : Nat := 8 + 32 + 32 + 32 + 2 + 8 + 64

/-- The fields in Borsh order, without the discriminator. -/
def Registrar.codec : Codec Registrar :=
  ((Codec.bytes 32).prod <| (Codec.bytes 32).prod <| (Codec.bytes 32).prod <| Codec.u16.prod <|
    Codec.i64.prod <| Codec.bytes 64).iso
    (fun (a, b, c, d, e, f) => ⟨a, b, c, d, e, f⟩)
    (fun r => (r.governanceProgramId, r.realm, r.governingTokenMint, r.minTrustScore,
      r.maxVerificationAge, r.reserved))
    (fun _ => rfl) (fun _ => rfl)

/-- The first eight bytes of the SHA-256 hash of `account:Registrar`, which
    is how Anchor's `#[account]` marks a type. -/
def Registrar.discriminator : FixedBytes 8 := ⟨[193, 202, 205, 51, 78, 168, 150, 128], rfl⟩

instance : Owner Registrar where
  owner := programId

instance : AccountDeserialize Registrar where
  tryDeserializeUnchecked buf :=
    match Registrar.codec.decode (buf.drop 8) with
    | some (registrar, _) => .ok registrar
    | none => .error .accountDidNotDeserialize
  tryDeserialize buf :=
    if buf.length < 8 then .error .accountDiscriminatorNotFound
    else if buf.take 8 ≠ Registrar.discriminator.bytes then .error .accountDiscriminatorMismatch
    else
      match Registrar.codec.decode (buf.drop 8) with
      | some (registrar, _) => .ok registrar
      | none => .error .accountDidNotDeserialize

instance : AccountSerialize Registrar where
  trySerialize registrar := Registrar.discriminator.bytes ++ Registrar.codec.encode registrar

/-! ### Voter weight record -/

/-- The governance actions a voter weight can be limited to. -/
inductive VoterWeightAction
  | castVote
  | commentProposal
  | createGovernance
  | createProposal
  | signOffProposal
deriving DecidableEq

def VoterWeightAction.codec : Codec VoterWeightAction :=
  Codec.tag [.castVote, .commentProposal, .createGovernance, .createProposal, .signOffProposal]
    (fun x => by cases x <;> decide) (by decide) (by decide)

structure VoterWeightRecord where
  accountDiscriminator : FixedBytes 8
  realm : Pubkey
  governingTokenMint : Pubkey
  governingTokenOwner : Pubkey
  voterWeight : UInt64
  voterWeightExpiry : Option UInt64
  weightAction : Option VoterWeightAction
  weightActionTarget : Option Pubkey
  reserved : FixedBytes 8
deriving DecidableEq

/-- account_discriminator, realm, governing_token_mint, governing_token_owner,
    voter_weight, voter_weight_expiry, weight_action, weight_action_target,
    reserved -/
def VoterWeightRecord.getSpace : Nat := 8 + 32 + 32 + 32 + 8 + 9 + 2 + 33 + 8

def VoterWeightRecord.codec : Codec VoterWeightRecord :=
  ((Codec.bytes 8).prod <| (Codec.bytes 32).prod <| (Codec.bytes 32).prod <|
    (Codec.bytes 32).prod <| Codec.u64.prod <| Codec.u64.option.prod <|
    VoterWeightAction.codec.option.prod <| (Codec.bytes 32).option.prod <| Codec.bytes 8).iso
    (fun (a, b, c, d, e, f, g, h, i) => ⟨a, b, c, d, e, f, g, h, i⟩)
    (fun r => (r.accountDiscriminator, r.realm, r.governingTokenMint, r.governingTokenOwner,
      r.voterWeight, r.voterWeightExpiry, r.weightAction, r.weightActionTarget, r.reserved))
    (fun _ => rfl) (fun _ => rfl)

instance : Owner VoterWeightRecord where
  owner := programId

instance : AccountDeserialize VoterWeightRecord where
  tryDeserializeUnchecked buf :=
    match VoterWeightRecord.codec.decode buf with
    | some (record, _) => .ok record
    | none => .error .accountDidNotDeserialize

instance : AccountSerialize VoterWeightRecord where
  trySerialize := VoterWeightRecord.codec.encode

/-! ### Max voter weight record -/

structure MaxVoterWeightRecord where
  accountDiscriminator : FixedBytes 8
  realm : Pubkey
  governingTokenMint : Pubkey
  maxVoterWeight : UInt64
  maxVoterWeightExpiry : Option UInt64
  reserved : FixedBytes 8
deriving DecidableEq

/-- account_discriminator, realm, governing_token_mint, max_voter_weight,
    max_voter_weight_expiry, reserved -/
def MaxVoterWeightRecord.getSpace : Nat := 8 + 32 + 32 + 8 + 9 + 8

def MaxVoterWeightRecord.codec : Codec MaxVoterWeightRecord :=
  ((Codec.bytes 8).prod <| (Codec.bytes 32).prod <| (Codec.bytes 32).prod <| Codec.u64.prod <|
    Codec.u64.option.prod <| Codec.bytes 8).iso
    (fun (a, b, c, d, e, f) => ⟨a, b, c, d, e, f⟩)
    (fun r => (r.accountDiscriminator, r.realm, r.governingTokenMint, r.maxVoterWeight,
      r.maxVoterWeightExpiry, r.reserved))
    (fun _ => rfl) (fun _ => rfl)

instance : Owner MaxVoterWeightRecord where
  owner := programId

instance : AccountDeserialize MaxVoterWeightRecord where
  tryDeserializeUnchecked buf :=
    match MaxVoterWeightRecord.codec.decode buf with
    | some (record, _) => .ok record
    | none => .error .accountDidNotDeserialize

instance : AccountSerialize MaxVoterWeightRecord where
  trySerialize := MaxVoterWeightRecord.codec.encode

/-! ### What comes from outside -/

/-- The part of a realm account the program looks at. -/
structure RealmV2 where
  authority : Option Pubkey
  communityMint : Pubkey
  councilMint : Option Pubkey
deriving DecidableEq

/-- The cluster and the packages the program is linked against. `realmData`
    is the realm an account's bytes hold, and
    `getRealmDataForGoverningTokenMint` the accessor of the governance
    package; the two discriminators are constants of the addin interface. -/
structure Env extends Runtime where
  realmData : List UInt8 → Option RealmV2
  getRealmDataForGoverningTokenMint : Pubkey → Account → Pubkey → Option RealmV2
  voterWeightRecordDiscriminator : FixedBytes 8
  maxVoterWeightRecordDiscriminator : FixedBytes 8
  voter_ne_registrar : voterWeightRecordDiscriminator ≠ Registrar.discriminator
  voter_ne_max : voterWeightRecordDiscriminator ≠ maxVoterWeightRecordDiscriminator
  voter_ne_zero : voterWeightRecordDiscriminator ≠ FixedBytes.zero 8

/-! ### Addresses -/

/-- b"registrar" -/
def registrarSeed : List UInt8 := [114, 101, 103, 105, 115, 116, 114, 97, 114]

/-- b"voter-weight-record" -/
def voterWeightRecordSeed : List UInt8 :=
  [118, 111, 116, 101, 114, 45, 119, 101, 105, 103, 104, 116, 45, 114, 101, 99, 111, 114, 100]

/-- b"max-voter-weight-record" -/
def maxVoterWeightRecordSeed : List UInt8 :=
  [109, 97, 120, 45, 118, 111, 116, 101, 114, 45, 119, 101, 105, 103, 104, 116, 45, 114, 101, 99,
    111, 114, 100]

/-- b"identity" -/
def identitySeed : List UInt8 := [105, 100, 101, 110, 116, 105, 116, 121]

example : registrarSeed = "registrar".toUTF8.data.toList := by decide

example : voterWeightRecordSeed = "voter-weight-record".toUTF8.data.toList := by decide

example : maxVoterWeightRecordSeed = "max-voter-weight-record".toUTF8.data.toList := by decide

example : identitySeed = "identity".toUTF8.data.toList := by decide

/-- The accounts the program creates, by the seeds of their address. -/
inductive Place
  | registrar (realm governingTokenMint : Pubkey)
  | voterWeightRecord (realm governingTokenMint governingTokenOwner : Pubkey)
  | maxVoterWeightRecord (realm governingTokenMint : Pubkey)
deriving DecidableEq

/-- The realm and the governing token mint a place belongs to. -/
def Place.pair : Place → Pubkey × Pubkey
  | .registrar realm mint => (realm, mint)
  | .voterWeightRecord realm mint _ => (realm, mint)
  | .maxVoterWeightRecord realm mint => (realm, mint)

def Place.seeds : Place → List (List UInt8)
  | .registrar realm mint => [registrarSeed, realm.bytes, mint.bytes]
  | .voterWeightRecord realm mint owner =>
    [voterWeightRecordSeed, realm.bytes, mint.bytes, owner.bytes]
  | .maxVoterWeightRecord realm mint => [maxVoterWeightRecordSeed, realm.bytes, mint.bytes]

/-- The seeds of the three kinds have different total lengths, and within a
    kind every seed has a fixed length. -/
theorem Place.seeds_injective (p q : Place) (h : p.seeds.flatten = q.seeds.flatten) : p = q := by
  have hlen := congrArg List.length h
  have hkeys : ∀ (s : List UInt8) (a b c d : Pubkey),
      s ++ (a.bytes ++ b.bytes) = s ++ (c.bytes ++ d.bytes) → a = c ∧ b = d := by
    intro s a b c d hs
    rcases List.append_inj (List.append_cancel_left hs) (by rw [a.size, c.size]) with ⟨ha, hb⟩
    exact ⟨FixedBytes.ext ha, FixedBytes.ext hb⟩
  cases p <;> cases q <;>
    simp only [Place.seeds, List.flatten_cons, List.flatten_nil, List.append_nil,
      List.length_append, FixedBytes.length_bytes, registrarSeed, voterWeightRecordSeed,
      maxVoterWeightRecordSeed, List.length_cons, List.length_nil] at hlen h
  case registrar.registrar =>
    rcases hkeys _ _ _ _ _ h with ⟨rfl, rfl⟩
    rfl
  case voterWeightRecord.voterWeightRecord r m o r' m' o' =>
    have h' := List.append_cancel_left h
    rcases List.append_inj h' (by rw [r.size, r'.size]) with ⟨hr, hmo⟩
    rcases List.append_inj hmo (by rw [m.size, m'.size]) with ⟨hm, ho⟩
    rw [FixedBytes.ext hr, FixedBytes.ext hm, FixedBytes.ext ho]
  case maxVoterWeightRecord.maxVoterWeightRecord =>
    rcases hkeys _ _ _ _ _ h with ⟨rfl, rfl⟩
    rfl
  all_goals omega

/-- The address of a place. -/
def Env.address (env : Env) (p : Place) : Pubkey := env.findProgramAddress p.seeds programId

/-- The address of a wallet's identity account. -/
def Env.identityAddress (env : Env) (voter : Pubkey) : Pubkey :=
  env.findProgramAddress [identitySeed, voter.bytes] entrosAnchorProgramId

end EntrosVoterWeight
