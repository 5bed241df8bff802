import EntrosVoterWeight.Borsh.Size
import EntrosVoterWeight.Instructions.VoterWeightRecord

/-!
# Identity Accounts

The account another program keeps for a wallet, as far as this one relies on
it.

The update of a voter weight record does not deserialize the identity it is
given. It compares eight bytes with a discriminator, asks for sixty-two bytes
in all, and reads two numbers at fixed offsets. Here the same account is
described by its fields. A length and a discriminator are all there is to
being such an account, since every field takes any bytes, and the two offsets
are where the fields begin.

## Main definitions

* `IdentityState`: The fields up to the trust score.

## Theorems

* `header_iff`: The checks of length and discriminator, as a layout.
* `lastVerificationTimestamp_header`, `trustScore_header`: The two reads.
-/

namespace EntrosVoterWeight

open Borsh Anchor

/-- The fields of an identity account up to the trust score. Whatever follows
    is not looked at. -/
structure IdentityState where
  owner : Pubkey
  creationTimestamp : Int64
  lastVerificationTimestamp : Int64
  verificationCount : UInt32
  trustScore : UInt16
deriving DecidableEq

/-- owner, creation_timestamp, last_verification_timestamp,
    verification_count, trust_score -/
def IdentityState.codec : Codec IdentityState :=
  ((Codec.bytes 32).prod <| Codec.i64.prod <| Codec.i64.prod <| Codec.u32.prod Codec.u16).iso
    (fun (a, b, c, d, e) => ⟨a, b, c, d, e⟩)
    (fun i => (i.owner, i.creationTimestamp, i.lastVerificationTimestamp, i.verificationCount,
      i.trustScore))
    (fun _ => rfl) (fun _ => rfl)

theorem encode_identityState (i : IdentityState) :
    IdentityState.codec.encode i = i.owner.bytes ++ (Codec.i64.encode i.creationTimestamp ++
      (Codec.i64.encode i.lastVerificationTimestamp ++ (Codec.u32.encode i.verificationCount ++
        Codec.u16.encode i.trustScore))) :=
  rfl

theorem fixed_identityState : IdentityState.codec.Fixed 54 := by
  have h := Codec.fixed_prod _ _ _ _ Codec.fixed_u32 Codec.fixed_u16
  have h := Codec.fixed_prod _ _ _ _ Codec.fixed_i64 h
  have h := Codec.fixed_prod _ _ _ _ Codec.fixed_i64 h
  have h := Codec.fixed_prod _ _ _ _ (Codec.fixed_bytes 32) h
  exact Codec.fixed_iso _ _ _ _ _ _ h

/-- The bytes of an identity account with this header and these further
    bytes. -/
def IdentityState.data (i : IdentityState) (rest : List UInt8) : List UInt8 :=
  identityDiscriminator.bytes ++ (IdentityState.codec.encode i ++ rest)

/-- Data with the discriminator that reaches through the trust score is the
    data of some identity, and nothing else is. -/
theorem header_iff (data : List UInt8) :
    (identityMinDataLen ≤ data.length ∧ data.take 8 = identityDiscriminator.bytes) ↔
      ∃ (i : IdentityState) (rest : List UInt8), data = i.data rest := by
  constructor
  · intro h
    rcases h with ⟨hlen, hdisc⟩
    have hroom : 54 ≤ (data.drop 8).length := by
      rw [List.length_drop]
      simp only [identityMinDataLen] at hlen
      omega
    rcases (Codec.accepts_fixed _ 54 fixed_identityState _).mpr hroom with ⟨i, rest, hrest⟩
    refine ⟨i, rest, ?_⟩
    unfold IdentityState.data
    rw [← hrest, ← hdisc, List.take_append_drop]
  · intro h
    rcases h with ⟨i, rest, rfl⟩
    constructor
    · unfold IdentityState.data
      rw [List.length_append, List.length_append, FixedBytes.length_bytes,
        fixed_identityState.length, identityMinDataLen]
      omega
    · unfold IdentityState.data
      rw [List.take_left' (FixedBytes.size _)]

/-- Bytes read at the offset where they begin. -/
theorem take_drop_append (a b c : List UInt8) (m n : Nat) (ha : a.length = m) (hb : b.length = n) :
    ((a ++ (b ++ c)).drop m).take n = b := by
  rw [List.drop_left' ha, List.take_left' hb]

/-- The read at byte 48 is the field of that name. -/
theorem lastVerificationTimestamp_header (i : IdentityState) (rest : List UInt8) :
    lastVerificationTimestamp (i.data rest) = i.lastVerificationTimestamp := by
  have hbytes : ((i.data rest).drop identityLastVerificationOffset).take 8 =
      Codec.i64.encode i.lastVerificationTimestamp := by
    unfold IdentityState.data
    rw [encode_identityState]
    simp only [List.append_assoc]
    rw [← List.append_assoc, ← List.append_assoc]
    refine take_drop_append _ _ _ _ _ ?_ (Codec.fixed_i64.length _)
    simp only [List.length_append, FixedBytes.length_bytes, Codec.fixed_i64.length,
      identityLastVerificationOffset]
  have hword : Codec.i64.encode i.lastVerificationTimestamp =
      leEncode 8 i.lastVerificationTimestamp.toUInt64.toNat := rfl
  have hlt := i.lastVerificationTimestamp.toUInt64.toNat_lt
  unfold lastVerificationTimestamp
  rw [hbytes, hword, leDecode_leEncode_of_lt _ _ (by omega),
    UInt64.ofNat_toNat, Int64.toInt64_toUInt64]

/-- The read at byte 60 is the field of that name. -/
theorem trustScore_header (i : IdentityState) (rest : List UInt8) :
    trustScore (i.data rest) = i.trustScore := by
  have hbytes : ((i.data rest).drop identityTrustScoreOffset).take 2 =
      Codec.u16.encode i.trustScore := by
    unfold IdentityState.data
    rw [encode_identityState]
    simp only [List.append_assoc]
    rw [← List.append_assoc, ← List.append_assoc, ← List.append_assoc, ← List.append_assoc]
    refine take_drop_append _ _ _ _ _ ?_ (Codec.fixed_u16.length _)
    simp only [List.length_append, FixedBytes.length_bytes, Codec.fixed_i64.length,
      Codec.fixed_u32.length, identityTrustScoreOffset]
  have hword : Codec.u16.encode i.trustScore = leEncode 2 i.trustScore.toNat := rfl
  have hlt := i.trustScore.toNat_lt
  unfold trustScore
  rw [hbytes, hword, leDecode_leEncode_of_lt _ _ (by omega), UInt16.ofNat_toNat]

end EntrosVoterWeight
