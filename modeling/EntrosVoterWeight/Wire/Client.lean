import EntrosVoterWeight.Node.Buffer
import EntrosVoterWeight.Wire.Entry

/-!
# The Client's Instructions

The helpers that build the program's instructions on the client's side.

A helper derives the address of what it creates, hashes the name of the
method, fills a buffer with the discriminator and the arguments, and lists the
accounts with their flags. Nothing it shares with the program but the order of
the accounts, the names of the methods and the seeds. Arguments are numbers
without a width there, and one that does not fit makes the helper throw.

What the program then reads is the instruction that was meant, with the
accounts in the slots they were meant for, whatever flags the transaction
around it gives the accounts.

## Main definitions

* `AccountMeta`, `TransactionInstruction`: An instruction on the client's
  side.
* `anchorDiscriminator`: The discriminator a client hashes.
* `buildCreateRegistrarInstruction` and seven more: The helpers.
* `Call`, `Call.build`: A call of one of them.
* `Call.instruction`: What the call means.

## Theorems

* `build_iff`: Calls with numbers in range build, and what they build.
* `parse_build`: The entry point reads what the call means.
-/

namespace EntrosVoterWeight

open Borsh Anchor Node

/-- GovER5Lthms3bLBqWub97yVrMmEogzX7xNjdXpPPCVZw -/
def governanceProgramId : Pubkey :=
  ⟨[0xea, 0xe4, 0x35, 0xbd, 0xee, 0x75, 0xb7, 0x34, 0xcd, 0x59, 0x3e, 0xcf, 0x9a, 0x30, 0x4b, 0x80,
    0x24, 0xba, 0x28, 0x98, 0x67, 0xb7, 0x69, 0xb1, 0xf9, 0x3c, 0xa7, 0xbb, 0xb8, 0x8e, 0x46, 0xfe],
    rfl⟩

/-- An account of an instruction, with its flags. -/
structure AccountMeta where
  pubkey : Pubkey
  isSigner : Bool
  isWritable : Bool
deriving DecidableEq

structure TransactionInstruction where
  programId : Pubkey
  keys : List AccountMeta
  data : Buffer
deriving DecidableEq

def anchorDiscriminator (name : String) : Buffer :=
  (Hash.sha256 (utf8 ("global:" ++ name))).take 8

/-- The client hashes what the program compares. -/
theorem anchorDiscriminator_text (n : Name) :
    anchorDiscriminator n.text = n.discriminator.bytes :=
  congrArg FixedBytes.bytes (sighash_name n)

/-! ### The helpers -/

def buildCreateRegistrarInstruction (env : Env)
    (realmPda communityMint realmAuthority payerKey : Pubkey)
    (minTrustScore maxVerificationAge : Int) : Option (TransactionInstruction × Pubkey) := do
  let registrarPda := env.findProgramAddress
    [utf8 "registrar", realmPda.bytes, communityMint.bytes] programId
  let disc := anchorDiscriminator "create_registrar"
  let data := copy disc (alloc (8 + 2 + 8)) 0
  let data ← writeUInt16LE data minTrustScore 8
  let data ← writeBigInt64LE data maxVerificationAge 10
  some (⟨programId, [
    ⟨registrarPda, false, true⟩,
    ⟨governanceProgramId, false, false⟩,
    ⟨realmPda, false, false⟩,
    ⟨communityMint, false, false⟩,
    ⟨realmAuthority, true, false⟩,
    ⟨payerKey, true, true⟩,
    ⟨systemProgramId, false, false⟩], data⟩, registrarPda)

def buildUpdateRegistrarInstruction (registrarPda realmPda realmAuthority : Pubkey)
    (minTrustScore maxVerificationAge : Int) : Option TransactionInstruction := do
  let disc := anchorDiscriminator "update_registrar"
  let data := copy disc (alloc (8 + 2 + 8)) 0
  let data ← writeUInt16LE data minTrustScore 8
  let data ← writeBigInt64LE data maxVerificationAge 10
  some ⟨programId, [
    ⟨registrarPda, false, true⟩,
    ⟨realmPda, false, false⟩,
    ⟨realmAuthority, true, false⟩], data⟩

def buildCreateVoterWeightRecordInstruction (env : Env)
    (registrarPda realmPda communityMint voterKey payerKey : Pubkey) :
    TransactionInstruction × Pubkey :=
  let vwrPda := env.findProgramAddress
    [utf8 "voter-weight-record", realmPda.bytes, communityMint.bytes, voterKey.bytes] programId
  let disc := anchorDiscriminator "create_voter_weight_record"
  let data := copy disc (alloc (8 + 32)) 0
  let data := copy voterKey.bytes data 8
  (⟨programId, [
    ⟨registrarPda, false, false⟩,
    ⟨vwrPda, false, true⟩,
    ⟨voterKey, true, false⟩,
    ⟨payerKey, true, true⟩,
    ⟨systemProgramId, false, false⟩], data⟩, vwrPda)

def buildUpdateVoterWeightRecordInstruction (registrarPda vwrPda voterKey identityPda : Pubkey) :
    TransactionInstruction :=
  let disc := anchorDiscriminator "update_voter_weight_record"
  ⟨programId, [
    ⟨registrarPda, false, false⟩,
    ⟨vwrPda, false, true⟩,
    ⟨voterKey, true, false⟩,
    ⟨identityPda, false, false⟩], disc⟩

def buildCloseVoterWeightRecordInstruction
    (registrarPda vwrPda voterAuthority solDestination : Pubkey) : TransactionInstruction :=
  let disc := anchorDiscriminator "close_voter_weight_record"
  ⟨programId, [
    ⟨registrarPda, false, false⟩,
    ⟨vwrPda, false, true⟩,
    ⟨voterAuthority, true, false⟩,
    ⟨solDestination, false, true⟩], disc⟩

def buildCloseRegistrarInstruction (registrarPda realmPda realmAuthority solDestination : Pubkey) :
    TransactionInstruction :=
  let disc := anchorDiscriminator "close_registrar"
  ⟨programId, [
    ⟨registrarPda, false, true⟩,
    ⟨realmPda, false, false⟩,
    ⟨realmAuthority, true, false⟩,
    ⟨solDestination, false, true⟩], disc⟩

def buildCreateMaxVoterWeightRecordInstruction (env : Env)
    (registrarPda realmPda communityMint realmAuthority payerKey : Pubkey) :
    TransactionInstruction × Pubkey :=
  let maxVwrPda := env.findProgramAddress
    [utf8 "max-voter-weight-record", realmPda.bytes, communityMint.bytes] programId
  let disc := anchorDiscriminator "create_max_voter_weight_record"
  (⟨programId, [
    ⟨registrarPda, false, false⟩,
    ⟨maxVwrPda, false, true⟩,
    ⟨realmPda, false, false⟩,
    ⟨realmAuthority, true, false⟩,
    ⟨payerKey, true, true⟩,
    ⟨systemProgramId, false, false⟩], disc⟩, maxVwrPda)

def buildUpdateMaxVoterWeightRecordInstruction
    (registrarPda maxVwrPda realmPda realmAuthority : Pubkey) (maxVoterWeight : Int) :
    Option TransactionInstruction := do
  let disc := anchorDiscriminator "update_max_voter_weight_record"
  let data := copy disc (alloc (8 + 8)) 0
  let data ← writeBigUInt64LE data maxVoterWeight 8
  some ⟨programId, [
    ⟨registrarPda, false, false⟩,
    ⟨maxVwrPda, false, true⟩,
    ⟨realmPda, false, false⟩,
    ⟨realmAuthority, true, false⟩], data⟩

/-! ### Calls -/

/-- A call of one of the helpers. -/
inductive Call
  | createRegistrar (realmPda communityMint realmAuthority payerKey : Pubkey)
      (minTrustScore maxVerificationAge : Int)
  | updateRegistrar (registrarPda realmPda realmAuthority : Pubkey)
      (minTrustScore maxVerificationAge : Int)
  | createVoterWeightRecord (registrarPda realmPda communityMint voterKey payerKey : Pubkey)
  | updateVoterWeightRecord (registrarPda vwrPda voterKey identityPda : Pubkey)
  | closeVoterWeightRecord (registrarPda vwrPda voterAuthority solDestination : Pubkey)
  | closeRegistrar (registrarPda realmPda realmAuthority solDestination : Pubkey)
  | createMaxVoterWeightRecord
      (registrarPda realmPda communityMint realmAuthority payerKey : Pubkey)
  | updateMaxVoterWeightRecord (registrarPda maxVwrPda realmPda realmAuthority : Pubkey)
      (maxVoterWeight : Int)

/-- The instruction a call builds, if it does not throw. -/
def Call.build (env : Env) : Call → Option TransactionInstruction
  | .createRegistrar realmPda communityMint realmAuthority payerKey minTrustScore
      maxVerificationAge =>
    (buildCreateRegistrarInstruction env realmPda communityMint realmAuthority payerKey
      minTrustScore maxVerificationAge).map Prod.fst
  | .updateRegistrar registrarPda realmPda realmAuthority minTrustScore maxVerificationAge =>
    buildUpdateRegistrarInstruction registrarPda realmPda realmAuthority minTrustScore
      maxVerificationAge
  | .createVoterWeightRecord registrarPda realmPda communityMint voterKey payerKey =>
    some (buildCreateVoterWeightRecordInstruction env registrarPda realmPda communityMint voterKey
      payerKey).1
  | .updateVoterWeightRecord registrarPda vwrPda voterKey identityPda =>
    some (buildUpdateVoterWeightRecordInstruction registrarPda vwrPda voterKey identityPda)
  | .closeVoterWeightRecord registrarPda vwrPda voterAuthority solDestination =>
    some (buildCloseVoterWeightRecordInstruction registrarPda vwrPda voterAuthority
      solDestination)
  | .closeRegistrar registrarPda realmPda realmAuthority solDestination =>
    some (buildCloseRegistrarInstruction registrarPda realmPda realmAuthority solDestination)
  | .createMaxVoterWeightRecord registrarPda realmPda communityMint realmAuthority payerKey =>
    some (buildCreateMaxVoterWeightRecordInstruction env registrarPda realmPda communityMint
      realmAuthority payerKey).1
  | .updateMaxVoterWeightRecord registrarPda maxVwrPda realmPda realmAuthority maxVoterWeight =>
    buildUpdateMaxVoterWeightRecordInstruction registrarPda maxVwrPda realmPda realmAuthority
      maxVoterWeight

/-- The instruction a call means, with the flags a transaction gives the
    accounts. -/
def Call.instruction (env : Env) (isSigner isWritable : Pubkey → Bool) : Call → Instruction
  | .createRegistrar realmPda communityMint realmAuthority payerKey minTrustScore
      maxVerificationAge =>
    .createRegistrar ⟨⟨env.address (.registrar realmPda communityMint), governanceProgramId,
      realmPda, communityMint, realmAuthority, payerKey, systemProgramId⟩, [], isSigner,
      isWritable⟩ (UInt16.ofNat minTrustScore.toNat) (Int64.ofInt maxVerificationAge)
  | .updateRegistrar registrarPda realmPda realmAuthority minTrustScore maxVerificationAge =>
    .updateRegistrar ⟨⟨registrarPda, realmPda, realmAuthority⟩, [], isSigner, isWritable⟩
      (UInt16.ofNat minTrustScore.toNat) (Int64.ofInt maxVerificationAge)
  | .createVoterWeightRecord registrarPda realmPda communityMint voterKey payerKey =>
    .createVoterWeightRecord ⟨⟨registrarPda,
      env.address (.voterWeightRecord realmPda communityMint voterKey), voterKey, payerKey,
      systemProgramId⟩, [], isSigner, isWritable⟩ voterKey
  | .updateVoterWeightRecord registrarPda vwrPda voterKey identityPda =>
    .updateVoterWeightRecord ⟨⟨registrarPda, vwrPda, voterKey⟩, [identityPda], isSigner,
      isWritable⟩
  | .closeVoterWeightRecord registrarPda vwrPda voterAuthority solDestination =>
    .closeVoterWeightRecord ⟨⟨registrarPda, vwrPda, voterAuthority, solDestination⟩, [],
      isSigner, isWritable⟩
  | .closeRegistrar registrarPda realmPda realmAuthority solDestination =>
    .closeRegistrar ⟨⟨registrarPda, realmPda, realmAuthority, solDestination⟩, [], isSigner,
      isWritable⟩
  | .createMaxVoterWeightRecord registrarPda realmPda communityMint realmAuthority payerKey =>
    .createMaxVoterWeightRecord ⟨⟨registrarPda,
      env.address (.maxVoterWeightRecord realmPda communityMint), realmPda, realmAuthority,
      payerKey, systemProgramId⟩, [], isSigner, isWritable⟩
  | .updateMaxVoterWeightRecord registrarPda maxVwrPda realmPda realmAuthority maxVoterWeight =>
    .updateMaxVoterWeightRecord ⟨⟨registrarPda, maxVwrPda, realmPda, realmAuthority⟩, [],
      isSigner, isWritable⟩ (UInt64.ofNat maxVoterWeight.toNat)

/-! ### What is built -/

theorem length_anchorDiscriminator (name : String) : (anchorDiscriminator name).length = 8 :=
  (sighash name).size

/-- A buffer with the discriminator in front. -/
theorem copy_discriminator (name : String) (n : Nat) :
    copy (anchorDiscriminator name) (alloc (8 + n)) 0 =
      anchorDiscriminator name ++ List.replicate n 0 := by
  have hfill := copy_fill [] (anchorDiscriminator name) 0 8 n (length_anchorDiscriminator name) rfl
  rw [List.nil_append, List.nil_append] at hfill
  exact hfill

/-- The arguments of the two calls that configure a registrar. -/
def configuration (minTrustScore maxVerificationAge : Int) : List UInt8 :=
  (Codec.u16.prod Codec.i64).encode
    (UInt16.ofNat minTrustScore.toNat, Int64.ofInt maxVerificationAge)

/-- The range of these arguments. -/
def Configures (minTrustScore maxVerificationAge : Int) : Prop :=
  (0 ≤ minTrustScore ∧ minTrustScore < 2 ^ 16) ∧
    (-2 ^ 63 ≤ maxVerificationAge ∧ maxVerificationAge < 2 ^ 63)

instance (minTrustScore maxVerificationAge : Int) :
    Decidable (Configures minTrustScore maxVerificationAge) :=
  inferInstanceAs (Decidable (_ ∧ _))

/-- What these calls fill their buffer with, on the way to what they make of
    it. -/
theorem configuration_data {β : Type} (name : String) (minTrustScore maxVerificationAge : Int)
    (f : Buffer → Option β) :
    ((writeUInt16LE (copy (anchorDiscriminator name) (alloc (8 + 2 + 8)) 0) minTrustScore 8).bind
      fun data => (writeBigInt64LE data maxVerificationAge 10).bind f) =
      if Configures minTrustScore maxVerificationAge then
        f (anchorDiscriminator name ++ configuration minTrustScore maxVerificationAge)
      else none := by
  have hdisc := length_anchorDiscriminator name
  rw [copy_discriminator name (2 + 8)]
  by_cases ht : 0 ≤ minTrustScore ∧ minTrustScore < 2 ^ 16
  · rw [writeUInt16LE, write_fill 2 _ _ _ _ 8 8 ht.1 ht.2 hdisc, Option.bind_some]
    by_cases hg : -2 ^ 63 ≤ maxVerificationAge ∧ maxVerificationAge < 2 ^ 63
    · have hlen : (anchorDiscriminator name ++
          leEncode 2 (minTrustScore % 256 ^ 2).toNat).length = 10 := by
        rw [List.length_append, hdisc, length_leEncode]
      have hfill := write_fill 8 _ _ _ _ 10 0 hg.1 hg.2 hlen
      rw [if_pos ⟨ht, hg⟩, writeBigInt64LE, hfill, List.replicate_zero, List.append_nil,
        List.append_assoc, leEncode_u16 _ ht.1 ht.2, leEncode_i64]
      rfl
    · rw [if_neg (fun h => hg h.2), writeBigInt64LE, write_range _ _ _ _ _ _ hg,
        Option.bind_none]
  · rw [if_neg (fun h => ht h.1), writeUInt16LE, write_range _ _ _ _ _ _ ht, Option.bind_none]

/-- What the update of a max voter weight record fills its buffer with. -/
theorem weight_data (name : String) (maxVoterWeight : Int) :
    writeBigUInt64LE (copy (anchorDiscriminator name) (alloc (8 + 8)) 0) maxVoterWeight 8 =
      if 0 ≤ maxVoterWeight ∧ maxVoterWeight < 2 ^ 64 then
        some (anchorDiscriminator name ++ Codec.u64.encode (UInt64.ofNat maxVoterWeight.toNat))
      else none := by
  have hdisc := length_anchorDiscriminator name
  rw [copy_discriminator name 8]
  by_cases hw : 0 ≤ maxVoterWeight ∧ maxVoterWeight < 2 ^ 64
  · have hfill := write_fill 8 _ _ _ _ 8 0 hw.1 hw.2 hdisc
    rw [if_pos hw, writeBigUInt64LE, hfill, List.replicate_zero, List.append_nil,
      leEncode_u64 _ hw.1 hw.2]
  · rw [if_neg hw, writeBigUInt64LE, write_range _ _ _ _ _ _ hw]

/-- What the creation of a voter weight record fills its buffer with. -/
theorem owner_data (name : String) (voterKey : Pubkey) :
    copy voterKey.bytes (copy (anchorDiscriminator name) (alloc (8 + 32)) 0) 8 =
      anchorDiscriminator name ++ voterKey.bytes := by
  rw [copy_discriminator name 32]
  have hfill := copy_fill (anchorDiscriminator name) voterKey.bytes 8 32 0 voterKey.size
    (length_anchorDiscriminator name)
  rw [hfill, List.replicate_zero, List.append_nil]

/-- The numbers of a call are in the range of their widths. -/
def Call.InRange : Call → Prop
  | .createRegistrar _ _ _ _ minTrustScore maxVerificationAge =>
    Configures minTrustScore maxVerificationAge
  | .updateRegistrar _ _ _ minTrustScore maxVerificationAge =>
    Configures minTrustScore maxVerificationAge
  | .updateMaxVoterWeightRecord _ _ _ _ maxVoterWeight =>
    0 ≤ maxVoterWeight ∧ maxVoterWeight < 2 ^ 64
  | _ => True

/-- The discriminator of a name in front of some arguments. -/
theorem anchorDiscriminator_append (n : Name) (args : List UInt8) :
    anchorDiscriminator n.text ++ args = n.discriminator.bytes ++ args := by
  rw [anchorDiscriminator_text]

/-- An instruction on the client's side that carries the accounts and the data
    of one of the program's. -/
structure Carries (ix : TransactionInstruction) (instruction : Instruction) : Prop where
  program : ix.programId = programId
  keys : ix.keys.map AccountMeta.pubkey = instruction.keys
  data : ix.data = instruction.data

/-- A call builds exactly when its numbers are in range, and then it builds an
    instruction that carries what it means. -/
theorem build_iff (env : Env) (call : Call) (isSigner isWritable : Pubkey → Bool) :
    (call.InRange ∧ ∃ ix, call.build env = some ix ∧
      Carries ix (call.instruction env isSigner isWritable)) ∨
    (¬ call.InRange ∧ call.build env = none) := by
  cases call with
  | createRegistrar realmPda communityMint realmAuthority payerKey t g =>
      simp only [Call.build, buildCreateRegistrarInstruction, Option.bind_eq_bind,
        configuration_data, Call.InRange]
      by_cases hr : Configures t g
      · rw [if_pos hr]
        exact Or.inl ⟨hr, _, rfl, rfl, rfl, anchorDiscriminator_append .createRegistrar _⟩
      · rw [if_neg hr]
        exact Or.inr ⟨hr, rfl⟩
  | updateRegistrar registrarPda realmPda realmAuthority t g =>
      simp only [Call.build, buildUpdateRegistrarInstruction, Option.bind_eq_bind,
        configuration_data, Call.InRange]
      by_cases hr : Configures t g
      · rw [if_pos hr]
        exact Or.inl ⟨hr, _, rfl, rfl, rfl, anchorDiscriminator_append .updateRegistrar _⟩
      · rw [if_neg hr]
        exact Or.inr ⟨hr, rfl⟩
  | createVoterWeightRecord registrarPda realmPda communityMint voterKey payerKey =>
      -- Keys always fit, so there is no other case from here on.
      refine Or.inl ⟨trivial, _, rfl, rfl, rfl, ?_⟩
      exact (owner_data _ voterKey).trans (anchorDiscriminator_append .createVoterWeightRecord _)
  | updateVoterWeightRecord registrarPda vwrPda voterKey identityPda =>
      refine Or.inl ⟨trivial, _, rfl, rfl, rfl, ?_⟩
      exact (List.append_nil _).symm.trans (anchorDiscriminator_append .updateVoterWeightRecord [])
  | closeVoterWeightRecord registrarPda vwrPda voterAuthority solDestination =>
      refine Or.inl ⟨trivial, _, rfl, rfl, rfl, ?_⟩
      exact (List.append_nil _).symm.trans (anchorDiscriminator_append .closeVoterWeightRecord [])
  | closeRegistrar registrarPda realmPda realmAuthority solDestination =>
      refine Or.inl ⟨trivial, _, rfl, rfl, rfl, ?_⟩
      exact (List.append_nil _).symm.trans (anchorDiscriminator_append .closeRegistrar [])
  | createMaxVoterWeightRecord registrarPda realmPda communityMint realmAuthority payerKey =>
      refine Or.inl ⟨trivial, _, rfl, rfl, rfl, ?_⟩
      exact (List.append_nil _).symm.trans
        (anchorDiscriminator_append .createMaxVoterWeightRecord [])
  | updateMaxVoterWeightRecord registrarPda maxVwrPda realmPda realmAuthority w =>
      simp only [Call.build, buildUpdateMaxVoterWeightRecordInstruction, Option.bind_eq_bind,
        weight_data, Call.InRange]
      by_cases hw : 0 ≤ w ∧ w < 2 ^ 64
      · rw [if_pos hw]
        exact Or.inl ⟨hw, _, rfl, rfl, rfl,
          anchorDiscriminator_append .updateMaxVoterWeightRecord _⟩
      · rw [if_neg hw]
        exact Or.inr ⟨hw, rfl⟩

/-- The flags of what a call means are the ones it is sent with. -/
theorem call_flags (env : Env) (call : Call) (isSigner isWritable : Pubkey → Bool) :
    (call.instruction env isSigner isWritable).isSigner = isSigner ∧
      (call.instruction env isSigner isWritable).isWritable = isWritable := by
  cases call <;> exact ⟨rfl, rfl⟩

/-- What carries an instruction is read as that instruction. -/
theorem parse_of_carries (ix : TransactionInstruction) (instruction : Instruction)
    (h : Carries ix instruction) :
    parse (ix.keys.map AccountMeta.pubkey) instruction.isSigner instruction.isWritable ix.data =
      some instruction :=
  parse_of_onWire _ _ _ _ _ ⟨h.keys, rfl, rfl, [], h.data.trans (List.append_nil _).symm⟩

/-- With whatever flags, it is read as what was called for. -/
theorem parse_of_call (env : Env) (call : Call) (isSigner isWritable : Pubkey → Bool)
    (ix : TransactionInstruction) (hc : Carries ix (call.instruction env isSigner isWritable)) :
    parse (ix.keys.map AccountMeta.pubkey) isSigner isWritable ix.data =
      some (call.instruction env isSigner isWritable) := by
  have hparse := parse_of_carries ix _ hc
  rw [(call_flags env call isSigner isWritable).1,
    (call_flags env call isSigner isWritable).2] at hparse
  exact hparse

/-- The program reads what a helper builds as the instruction that was meant,
    whatever the flags it arrives with. Numbers out of range build nothing. -/
theorem parse_build (env : Env) (call : Call) (isSigner isWritable : Pubkey → Bool) :
    (call.InRange ∧ ∃ ix, call.build env = some ix ∧ ix.programId = programId ∧
      parse (ix.keys.map AccountMeta.pubkey) isSigner isWritable ix.data =
        some (call.instruction env isSigner isWritable)) ∨
    (¬ call.InRange ∧ call.build env = none) := by
  rcases build_iff env call isSigner isWritable with ⟨hr, ix, hb, hc⟩ | h
  · exact Or.inl ⟨hr, ix, hb, hc.program, parse_of_call env call isSigner isWritable ix hc⟩
  · exact Or.inr h

end EntrosVoterWeight
