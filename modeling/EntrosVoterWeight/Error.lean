import EntrosVoterWeight.Anchor.Account

/-!
# Program Errors

The error enum of the program, with the number and text a client sees.
Anchor numbers the variants of an error enum from 6000 in order.

## Main definitions

* `EntrosVoterError`: The program's own errors.
* `PluginError`: Every error an instruction can return.

## Theorems

* `EntrosVoterError.code_injective`, `EntrosVoterError.msg_injective`: Errors
  have distinct numbers and distinct texts.
-/

namespace EntrosVoterWeight

inductive EntrosVoterError
  | invalidRealmAuthority
  | missingIdentityAccount
  | invalidIdentityPda
  | invalidIdentityOwner
  | invalidIdentityData
  | insufficientTrustScore
  | verificationExpired
  | voterWeightRecordRealmMismatch
  | voterWeightRecordMintMismatch
  | voterWeightRecordOwnerMismatch
  | realmHasNoAuthority
  | governingTokenOwnerSignerMismatch
  | invalidMaxVerificationAge
  | invalidMaxVoterWeight
deriving DecidableEq

/-- The number a client sees. -/
def EntrosVoterError.code : EntrosVoterError → Nat
  | .invalidRealmAuthority => 6000
  | .missingIdentityAccount => 6001
  | .invalidIdentityPda => 6002
  | .invalidIdentityOwner => 6003
  | .invalidIdentityData => 6004
  | .insufficientTrustScore => 6005
  | .verificationExpired => 6006
  | .voterWeightRecordRealmMismatch => 6007
  | .voterWeightRecordMintMismatch => 6008
  | .voterWeightRecordOwnerMismatch => 6009
  | .realmHasNoAuthority => 6010
  | .governingTokenOwnerSignerMismatch => 6011
  | .invalidMaxVerificationAge => 6012
  | .invalidMaxVoterWeight => 6013

/-- The text a client sees. -/
def EntrosVoterError.msg : EntrosVoterError → String
  | .invalidRealmAuthority => "Invalid realm authority"
  | .missingIdentityAccount => "Identity account missing from remaining_accounts"
  | .invalidIdentityPda => "Identity account address does not match expected PDA"
  | .invalidIdentityOwner => "Identity account is not owned by the Entros Anchor program"
  | .invalidIdentityData => "Identity account data too short"
  | .insufficientTrustScore => "Trust score below minimum required by this DAO"
  | .verificationExpired => "Verification has expired"
  | .voterWeightRecordRealmMismatch => "Voter weight record realm does not match registrar"
  | .voterWeightRecordMintMismatch => "Voter weight record mint does not match registrar"
  | .voterWeightRecordOwnerMismatch =>
    "Voter weight record owner does not match voter authority"
  | .realmHasNoAuthority => "Realm has no authority configured"
  | .governingTokenOwnerSignerMismatch =>
    "Voter weight record owner mismatch — instruction's governing_token_owner must match the signer"
  | .invalidMaxVerificationAge => "max_verification_age must be greater than zero"
  | .invalidMaxVoterWeight => "max_voter_weight must be greater than zero"

theorem EntrosVoterError.code_injective (e f : EntrosVoterError) (h : e.code = f.code) :
    e = f := by
  revert h
  cases e <;> cases f <;> decide

theorem EntrosVoterError.msg_injective (e f : EntrosVoterError) (h : e.msg = f.msg) : e = f := by
  revert h
  cases e <;> cases f <;> decide

/-- Every error an instruction can return. -/
abbrev PluginError := Anchor.Error EntrosVoterError

end EntrosVoterWeight
