import EntrosVoterWeight.Node.Buffer
import EntrosVoterWeight.Cluster
import EntrosVoterWeight.Layout
import EntrosVoterWeight.Theory.Decision

/-!
# What the Client Reads and Writes of Accounts

Accounts, as client code sees them: bytes with numbers at fixed offsets.

The scripts and the tests do not decode Borsh. They read a registrar's minimum
score at byte 104, and of either record the weight, the tag of the expiry
behind it, and the expiry behind that. This is right for every account the
program's loaders take, because everything in front of these fields has a
fixed size. What comes behind the expiry does not, and is not read.

The other direction are the identity accounts made up for tests. The builder
fills a buffer front to back, with the discriminator as a parameter so that a
test can get it wrong, and the program takes the account exactly if the
discriminator is right and the score and the date are good enough.

Numbers are whole and stay within what a double holds exactly.

## Main definitions

* `readMinTrustScore`, `readVoterWeight`, `readMaxVoterWeight`: The reads.
* `fillIdentityState`, `buildIdentityStateData`: An identity account for
  tests.
* `Safe`: Times whose arithmetic is exact.
* `Usable`: What a test can rely on.

## Theorems

* `client_reads`: The reads agree with the program's loaders.
* `fill_identity`: What the builder fills its buffer with.
* `fixture_decides`: What both builders build, and when the program takes it.
-/

namespace EntrosVoterWeight

open Borsh Anchor Node

/-! ### Reading records -/

/-- The minimum score of a registrar. -/
def readMinTrustScore (data : Buffer) : Option Nat := readUInt16LE data 104

/-- A weight at an offset, and the expiry behind it. -/
def readWeight (offset : Nat) (data : Buffer) : Option (Nat × Option Nat) := do
  let weight ← readBigUInt64LE data offset
  let expiryTag ← readUInt8 data (offset + 8)
  let expiry ←
    if expiryTag = 1 then (readBigUInt64LE data (offset + 9)).map some else some none
  some (weight, expiry)

def readVoterWeight (data : Buffer) : Option (Nat × Option Nat) := readWeight 104 data

def readMaxVoterWeight (data : Buffer) : Option (Nat × Option Nat) := readWeight 72 data

/-- A weight and its expiry are read where they were encoded. -/
theorem readWeight_at (weight : UInt64) (expiry : Option UInt64) (offset : Nat)
    (before after : List UInt8) (hoffset : before.length = offset) :
    readWeight offset (before ++ (Codec.u64.encode weight ++
      (Codec.u64.option.encode expiry ++ after))) =
      some (weight.toNat, expiry.map UInt64.toNat) := by
  have htag : (before ++ Codec.u64.encode weight).length = offset + 8 := by
    rw [List.length_append, hoffset]
    rfl
  rw [readWeight, readBigUInt64LE_at weight offset before _ hoffset]
  simp only [Option.bind_eq_bind, Option.bind_some]
  rw [← List.append_assoc]
  cases expiry with
  | none =>
      rw [show Codec.u64.option.encode none ++ after = 0 :: after from rfl,
        readUInt8_at 0 _ _ after htag]
      rfl
  | some slot =>
      rw [show Codec.u64.option.encode (some slot) ++ after =
        1 :: (Codec.u64.encode slot ++ after) from rfl, readUInt8_at 1 _ _ _ htag,
        List.append_cons, readBigUInt64LE_at slot (offset + 9) _ after (by
          rw [List.length_append, htag, List.length_singleton])]
      rfl

theorem reads_registrar (data : List UInt8) (registrar : Registrar)
    (hload : AccountDeserialize.tryDeserialize data = .ok registrar) :
    readMinTrustScore data = some registrar.minTrustScore.toNat := by
  rcases (registrar_loads_iff _ _).mp hload with ⟨rest, rfl⟩
  rw [encode_registrar]
  simp only [List.append_assoc]
  rw [← List.append_assoc, ← List.append_assoc, ← List.append_assoc]
  refine readUInt16LE_at _ 104 _ _ ?_
  simp only [List.length_append, FixedBytes.length_bytes]

theorem reads_voterWeightRecord (data : List UInt8) (record : VoterWeightRecord)
    (hload : AccountDeserialize.tryDeserialize data = .ok record) :
    readVoterWeight data =
        some (record.voterWeight.toNat, record.voterWeightExpiry.map UInt64.toNat) ∧
      slice data 8 40 = record.realm.bytes ∧
      slice data 72 104 = record.governingTokenOwner.bytes := by
  rcases (voterWeightRecord_loads_iff _ _).mp hload with ⟨rest, rfl⟩
  rw [encode_voterWeightRecord, VoterWeightRecord.tail]
  simp only [List.append_assoc]
  refine ⟨?_, ?_, ?_⟩
  · rw [← List.append_assoc, ← List.append_assoc, ← List.append_assoc]
    refine readWeight_at _ _ 104 _ _ ?_
    simp only [List.length_append, FixedBytes.length_bytes]
  · exact slice_at _ _ _ 8 40 (FixedBytes.length_bytes _)
      (by rw [FixedBytes.length_bytes])
  · rw [← List.append_assoc, ← List.append_assoc]
    refine slice_at _ _ _ 72 104 ?_ (by rw [FixedBytes.length_bytes])
    simp only [List.length_append, FixedBytes.length_bytes]

theorem reads_maxVoterWeightRecord (data : List UInt8) (record : MaxVoterWeightRecord)
    (hload : AccountDeserialize.tryDeserialize data = .ok record) :
    readMaxVoterWeight data =
      some (record.maxVoterWeight.toNat, record.maxVoterWeightExpiry.map UInt64.toNat) := by
  rcases (maxVoterWeightRecord_loads_iff _ _).mp hload with ⟨rest, rfl⟩
  rw [encode_maxVoterWeightRecord]
  simp only [List.append_assoc]
  rw [← List.append_assoc, ← List.append_assoc]
  refine readWeight_at _ _ 72 _ _ ?_
  simp only [List.length_append, FixedBytes.length_bytes]

/-- The offsets at which clients read are right for whatever the program's
    loaders take, of all three kinds. -/
theorem client_reads (data : List UInt8) :
    (∀ registrar : Registrar, AccountDeserialize.tryDeserialize data = .ok registrar →
      readMinTrustScore data = some registrar.minTrustScore.toNat) ∧
    (∀ record : VoterWeightRecord, AccountDeserialize.tryDeserialize data = .ok record →
      readVoterWeight data =
          some (record.voterWeight.toNat, record.voterWeightExpiry.map UInt64.toNat) ∧
        slice data 8 40 = record.realm.bytes ∧
        slice data 72 104 = record.governingTokenOwner.bytes) ∧
    ∀ record : MaxVoterWeightRecord, AccountDeserialize.tryDeserialize data = .ok record →
      readMaxVoterWeight data =
        some (record.maxVoterWeight.toNat, record.maxVoterWeightExpiry.map UInt64.toNat) :=
  ⟨reads_registrar data, reads_voterWeightRecord data, reads_maxVoterWeightRecord data⟩

/-- A fresh record reads as weight zero, expired at slot zero. -/
theorem client_reads_devnet :
    readVoterWeight ((Devnet.after Devnet.oneDao).2.ledger
      (Devnet.record Devnet.mint Devnet.voterA)).data = some (0, some 0) := by
  have hload : AccountDeserialize.tryDeserialize ((Devnet.after Devnet.oneDao).2.ledger
      (Devnet.record Devnet.mint Devnet.voterA)).data =
        .ok (newVoterWeightRecord Devnet.env Devnet.realm Devnet.mint Devnet.voterA) := by
    decide +kernel
  exact ((client_reads _).2.1 _ hload).1

/-! ### Identity accounts for tests -/

def identityStateSize : Nat := 207

/-- An identity account's data, filled front to back. -/
def fillIdentityState (discriminator : Buffer) (owner : Pubkey)
    (trustScore lastVerificationTimestamp verificationCount : Int) : Option Buffer := do
  let data := alloc identityStateSize
  let offset := 0
  let data := copy discriminator data offset
  let offset := offset + 8
  let data := copy owner.bytes data offset
  let offset := offset + 32
  -- The account was created a day before.
  let data ← writeBigInt64LE data (lastVerificationTimestamp - 86400) offset
  let offset := offset + 8
  let data ← writeBigInt64LE data lastVerificationTimestamp offset
  let offset := offset + 8
  let data ← writeUInt32LE data verificationCount offset
  let offset := offset + 4
  writeUInt16LE data trustScore offset

/-- The fixture of the script. A fractional count is cut off when it is
    written. -/
def buildIdentityStateData (owner : Pubkey) (trustScore lastVerificationTimestamp : Int)
    (discriminator : Buffer) : Option Buffer :=
  fillIdentityState discriminator owner trustScore lastVerificationTimestamp
    (if 0 < trustScore then trustScore / 100 else 0)

/-- The one of the unit tests. -/
def buildUnitIdentityStateData (owner : Pubkey) (trustScore lastVerificationTimestamp : Int) :
    Option Buffer :=
  fillIdentityState identityDiscriminator.bytes owner trustScore lastVerificationTimestamp 1

/-- Times whose arithmetic is exact in a double. -/
def Safe (lastVerificationTimestamp : Int) : Prop :=
  -2 ^ 53 < lastVerificationTimestamp - 86400 ∧ lastVerificationTimestamp < 2 ^ 53

/-- The fields the builder writes. -/
def fixtureState (owner : Pubkey) (trustScore lastVerificationTimestamp verificationCount : Int) :
    IdentityState :=
  ⟨owner, Int64.ofInt (lastVerificationTimestamp - 86400), Int64.ofInt lastVerificationTimestamp,
    UInt32.ofNat verificationCount.toNat, UInt16.ofNat trustScore.toNat⟩

/-- The bytes the builder makes of them, with zeros for the rest of the
    account. -/
def fixtureData (discriminator : FixedBytes 8) (owner : Pubkey)
    (trustScore lastVerificationTimestamp verificationCount : Int) : List UInt8 :=
  discriminator.bytes ++ (IdentityState.codec.encode
    (fixtureState owner trustScore lastVerificationTimestamp verificationCount) ++
      List.replicate 145 0)

/-- What the builder fills its buffer with. -/
theorem fill_identity (discriminator : FixedBytes 8) (owner : Pubkey)
    (trustScore lastVerificationTimestamp verificationCount : Int)
    (hsafe : Safe lastVerificationTimestamp) :
    fillIdentityState discriminator.bytes owner trustScore lastVerificationTimestamp
      verificationCount =
      if (0 ≤ verificationCount ∧ verificationCount < 2 ^ 32) ∧
          (0 ≤ trustScore ∧ trustScore < 2 ^ 16) then
        some (fixtureData discriminator owner trustScore lastVerificationTimestamp
          verificationCount)
      else none := by
  have hlow := hsafe.1
  have hhigh := hsafe.2
  have hdisc := copy_fill [] discriminator.bytes 0 8 199 discriminator.size rfl
  have howner := copy_fill discriminator.bytes owner.bytes 8 32 167 owner.size discriminator.size
  rw [List.nil_append, List.nil_append] at hdisc
  -- The two dates are always written.
  have h40 : (discriminator.bytes ++ owner.bytes).length = 40 := by
    rw [List.length_append, discriminator.size, owner.size]
  have hcreated := write_fill 8 (-2 ^ 63) (2 ^ 63) (lastVerificationTimestamp - 86400) _ 40 159
    (by omega) (by omega) h40
  rw [leEncode_i64] at hcreated
  have h48 : (discriminator.bytes ++ owner.bytes ++
      Codec.i64.encode (Int64.ofInt (lastVerificationTimestamp - 86400))).length = 48 := by
    rw [List.length_append, h40, Codec.fixed_i64.length]
  have hverified := write_fill 8 (-2 ^ 63) (2 ^ 63) lastVerificationTimestamp _ 48 151 (by omega)
    (by omega) h48
  rw [leEncode_i64] at hverified
  simp only [fillIdentityState, identityStateSize, alloc, writeBigInt64LE,
    show (207 : Nat) = 8 + 199 from rfl, hdisc, show (199 : Nat) = 32 + 167 from rfl, howner,
    show (167 : Nat) = 8 + 159 from rfl, hcreated, show (159 : Nat) = 8 + 151 from rfl, hverified,
    Option.bind_eq_bind, Option.bind_some, Nat.zero_add, Nat.reduceAdd]
  by_cases hcount : 0 ≤ verificationCount ∧ verificationCount < 2 ^ 32
  · have h56 : (discriminator.bytes ++ owner.bytes ++
        Codec.i64.encode (Int64.ofInt (lastVerificationTimestamp - 86400)) ++
        Codec.i64.encode (Int64.ofInt lastVerificationTimestamp)).length = 56 := by
      rw [List.length_append, h48, Codec.fixed_i64.length]
    have hwrite := write_fill 4 0 (2 ^ 32) verificationCount _ 56 147 hcount.1 hcount.2 h56
    rw [leEncode_u32 _ hcount.1 hcount.2] at hwrite
    rw [writeUInt32LE, hwrite, Option.bind_some]
    by_cases htrust : 0 ≤ trustScore ∧ trustScore < 2 ^ 16
    · have h60 : (discriminator.bytes ++ owner.bytes ++
          Codec.i64.encode (Int64.ofInt (lastVerificationTimestamp - 86400)) ++
          Codec.i64.encode (Int64.ofInt lastVerificationTimestamp) ++
          Codec.u32.encode (UInt32.ofNat verificationCount.toNat)).length = 60 := by
        rw [List.length_append, h56, Codec.fixed_u32.length]
      have hscore := write_fill 2 0 (2 ^ 16) trustScore _ 60 145 htrust.1 htrust.2 h60
      rw [if_pos ⟨hcount, htrust⟩, writeUInt16LE, hscore, leEncode_u16 _ htrust.1 htrust.2]
      simp only [fixtureData, encode_identityState, fixtureState, List.append_assoc]
    · rw [if_neg (fun h => htrust h.2), writeUInt16LE, write_range _ _ _ _ _ _ htrust]
  · rw [if_neg (fun h => hcount h.1), writeUInt32LE, write_range _ _ _ _ _ _ hcount,
      Option.bind_none]

/-- Clients read the score and the date off what was built. -/
theorem reads_fixture (discriminator : FixedBytes 8) (owner : Pubkey)
    (trustScore lastVerificationTimestamp verificationCount : Int)
    (hsafe : Safe lastVerificationTimestamp) (htrust : 0 ≤ trustScore ∧ trustScore < 2 ^ 16) :
    readUInt16LE (fixtureData discriminator owner trustScore lastVerificationTimestamp
      verificationCount) 60 = some trustScore.toNat ∧
    readBigInt64LE (fixtureData discriminator owner trustScore lastVerificationTimestamp
      verificationCount) 48 = some lastVerificationTimestamp := by
  constructor
  · -- Sixty bytes stand in front of the score.
    have hread := readUInt16LE_at (UInt16.ofNat trustScore.toNat) 60 (discriminator.bytes ++
      (owner.bytes ++ (Codec.i64.encode (Int64.ofInt (lastVerificationTimestamp - 86400)) ++
        (Codec.i64.encode (Int64.ofInt lastVerificationTimestamp) ++
          Codec.u32.encode (UInt32.ofNat verificationCount.toNat))))) (List.replicate 145 0) (by
      simp only [List.length_append, FixedBytes.length_bytes, Codec.fixed_i64.length,
        Codec.fixed_u32.length])
    rw [UInt16.toNat_ofNat_of_lt' (show trustScore.toNat < 2 ^ 16 by omega)] at hread
    rw [← hread]
    simp only [fixtureData, encode_identityState, fixtureState, List.append_assoc]
  · have hlow := hsafe.1
    have hhigh := hsafe.2
    have hread := readBigInt64LE_at (Int64.ofInt lastVerificationTimestamp) 48
      (discriminator.bytes ++ (owner.bytes ++
        Codec.i64.encode (Int64.ofInt (lastVerificationTimestamp - 86400))))
      (Codec.u32.encode (UInt32.ofNat verificationCount.toNat) ++
        (Codec.u16.encode (UInt16.ofNat trustScore.toNat) ++ List.replicate 145 0)) (by
      simp only [List.length_append, FixedBytes.length_bytes, Codec.fixed_i64.length])
    rw [Int64.toInt_ofInt_of_le (by omega) (by omega)] at hread
    rw [← hread]
    simp only [fixtureData, encode_identityState, fixtureState, List.append_assoc]

/-- The program takes what was built exactly if the discriminator is the one
    of identities, the score is high enough and the date recent enough. -/
theorem eligible_fixture (env : Env) (clock : Clock) (registrar : Registrar) (ledger : Ledger)
    (voter : Pubkey) (htime : 0 ≤ clock.unixTimestamp) (discriminator : FixedBytes 8)
    (owner : Pubkey) (trustScore lastVerificationTimestamp verificationCount : Int)
    (hsafe : Safe lastVerificationTimestamp) (htrust : 0 ≤ trustScore ∧ trustScore < 2 ^ 16)
    (hacc : ledger (env.identityAddress voter) = ⟨entrosAnchorProgramId,
      fixtureData discriminator owner trustScore lastVerificationTimestamp verificationCount⟩) :
    Eligible env clock registrar ledger voter ↔
      discriminator = identityDiscriminator ∧ (registrar.minTrustScore.toNat : Int) ≤ trustScore ∧
        clock.unixTimestamp.toInt - lastVerificationTimestamp <
          registrar.maxVerificationAge.toInt := by
  have hlow := hsafe.1
  have hhigh := hsafe.2
  have hlast : (Int64.ofInt lastVerificationTimestamp).toInt = lastVerificationTimestamp :=
    Int64.toInt_ofInt_of_le (by omega) (by omega)
  have hscore : (UInt16.ofNat trustScore.toNat).toNat = trustScore.toNat :=
    UInt16.toNat_ofNat_of_lt' (show trustScore.toNat < 2 ^ 16 by omega)
  rw [eligible_iff env clock registrar ledger voter htime, hacc]
  constructor
  · intro h
    rcases h with ⟨_, identity, ⟨rest, hdata⟩, hmin, hrecent⟩
    rcases bytes_append_inj _ _ _ _ hdata with ⟨rfl, hfields⟩
    -- Equal bytes are equal fields.
    have hsame := (IdentityState.codec.encode_append_inj _ _ _ _ hfields).1
    rw [← hsame, UInt16.le_iff_toNat_le] at hmin
    rw [← hsame] at hrecent
    simp only [fixtureState, hscore, hlast] at hmin hrecent
    exact ⟨rfl, by omega, hrecent⟩
  · intro h
    rcases h with ⟨rfl, hmin, hrecent⟩
    refine ⟨rfl, fixtureState owner trustScore lastVerificationTimestamp verificationCount,
      ⟨List.replicate 145 0, rfl⟩, ?_, ?_⟩
    · rw [UInt16.le_iff_toNat_le]
      simp only [fixtureState, hscore]
      omega
    · simp only [fixtureState, hlast]
      exact hrecent

/-- What a test can rely on of data it made up: the size of a real account,
    what a client reads of it, and when the program takes it. -/
structure Usable (discriminator : FixedBytes 8) (trustScore lastVerificationTimestamp : Int)
    (data : Buffer) : Prop where
  size : data.length = identityStateSize
  score : readUInt16LE data 60 = some trustScore.toNat
  date : readBigInt64LE data 48 = some lastVerificationTimestamp
  decides : ∀ (env : Env) (clock : Clock) (registrar : Registrar) (ledger : Ledger)
    (voter : Pubkey), 0 ≤ clock.unixTimestamp →
      ledger (env.identityAddress voter) = ⟨entrosAnchorProgramId, data⟩ →
      (Eligible env clock registrar ledger voter ↔
        discriminator = identityDiscriminator ∧ (registrar.minTrustScore.toNat : Int) ≤ trustScore ∧
          clock.unixTimestamp.toInt - lastVerificationTimestamp <
            registrar.maxVerificationAge.toInt)

theorem fixture_usable (discriminator : FixedBytes 8) (owner : Pubkey)
    (trustScore lastVerificationTimestamp verificationCount : Int)
    (hsafe : Safe lastVerificationTimestamp) (htrust : 0 ≤ trustScore ∧ trustScore < 2 ^ 16) :
    Usable discriminator trustScore lastVerificationTimestamp (fixtureData discriminator owner
      trustScore lastVerificationTimestamp verificationCount) where
  size := by
    simp only [fixtureData, List.length_append, FixedBytes.length_bytes,
      fixed_identityState.length, List.length_replicate, identityStateSize]
  score := (reads_fixture discriminator owner _ _ _ hsafe htrust).1
  date := (reads_fixture discriminator owner _ _ _ hsafe htrust).2
  decides env clock registrar ledger voter htime hacc :=
    eligible_fixture env clock registrar ledger voter htime discriminator owner _ _ _ hsafe htrust
      hacc

theorem fill_usable (discriminator : FixedBytes 8) (owner : Pubkey)
    (trustScore lastVerificationTimestamp verificationCount : Int)
    (hsafe : Safe lastVerificationTimestamp) (htrust : 0 ≤ trustScore ∧ trustScore < 2 ^ 16)
    (hcount : 0 ≤ verificationCount ∧ verificationCount < 2 ^ 32) :
    ∃ data, fillIdentityState discriminator.bytes owner trustScore lastVerificationTimestamp
        verificationCount = some data ∧
      Usable discriminator trustScore lastVerificationTimestamp data := by
  refine ⟨fixtureData discriminator owner trustScore lastVerificationTimestamp verificationCount,
    ?_, fixture_usable discriminator owner _ _ _ hsafe htrust⟩
  rw [fill_identity discriminator owner _ _ _ hsafe, if_pos ⟨hcount, htrust⟩]

theorem fill_refuses (discriminator : FixedBytes 8) (owner : Pubkey)
    (trustScore lastVerificationTimestamp verificationCount : Int)
    (hsafe : Safe lastVerificationTimestamp) (htrust : ¬ (0 ≤ trustScore ∧ trustScore < 2 ^ 16)) :
    fillIdentityState discriminator.bytes owner trustScore lastVerificationTimestamp
      verificationCount = none := by
  rw [fill_identity discriminator owner _ _ _ hsafe]
  exact if_neg (fun h => htrust h.2)

/-- Both builders make identity accounts of the size of a real one, which read
    back on the client's side. The program takes such an account, for any
    policy and at any time, exactly if the discriminator, the score and the
    date are good enough. A score that is no 16-bit number builds nothing. -/
theorem fixture_decides (discriminator : FixedBytes 8) (owner : Pubkey)
    (trustScore lastVerificationTimestamp : Int) (hsafe : Safe lastVerificationTimestamp) :
    ((0 ≤ trustScore ∧ trustScore < 2 ^ 16) ∧
      (∃ data, buildIdentityStateData owner trustScore lastVerificationTimestamp
          discriminator.bytes = some data ∧
        Usable discriminator trustScore lastVerificationTimestamp data) ∧
      ∃ data, buildUnitIdentityStateData owner trustScore lastVerificationTimestamp = some data ∧
        Usable identityDiscriminator trustScore lastVerificationTimestamp data) ∨
    (¬ (0 ≤ trustScore ∧ trustScore < 2 ^ 16) ∧
      buildIdentityStateData owner trustScore lastVerificationTimestamp discriminator.bytes =
        none ∧
      buildUnitIdentityStateData owner trustScore lastVerificationTimestamp = none) := by
  by_cases htrust : 0 ≤ trustScore ∧ trustScore < 2 ^ 16
  · -- The count is a hundredth of the score, or one, so it fits.
    have hcount : 0 ≤ (if 0 < trustScore then trustScore / 100 else 0) ∧
        (if 0 < trustScore then trustScore / 100 else 0) < 2 ^ 32 := by
      split
      · omega
      · decide
    exact Or.inl ⟨htrust, fill_usable discriminator owner _ _ _ hsafe htrust hcount,
      fill_usable identityDiscriminator owner _ _ _ hsafe htrust (by decide)⟩
  · exact Or.inr ⟨htrust, fill_refuses discriminator owner _ _ _ hsafe htrust,
      fill_refuses identityDiscriminator owner _ _ _ hsafe htrust⟩

/-- A score of two hundred behind the wrong discriminator builds, and never
    passes. -/
theorem fixture_decides_devnet : ∃ data,
    buildIdentityStateData Devnet.voterA 200 1700000000 [1, 2, 3, 4, 5, 6, 7, 8] = some data ∧
    ∀ (env : Env) (clock : Clock) (registrar : Registrar) (ledger : Ledger) (voter : Pubkey),
      0 ≤ clock.unixTimestamp →
      ledger (env.identityAddress voter) = ⟨entrosAnchorProgramId, data⟩ →
      ¬ Eligible env clock registrar ledger voter := by
  rcases fixture_decides ⟨[1, 2, 3, 4, 5, 6, 7, 8], rfl⟩ Devnet.voterA 200 1700000000
    ⟨by decide, by decide⟩ with ⟨_, ⟨data, hbuild, husable⟩, _⟩ | ⟨habs, _⟩
  · refine ⟨data, hbuild, ?_⟩
    intro env clock registrar ledger voter htime hacc helig
    have hdisc := ((husable.decides env clock registrar ledger voter htime hacc).mp helig).1
    exact absurd hdisc (by decide)
  · exact absurd ⟨by decide, by decide⟩ habs

end EntrosVoterWeight
