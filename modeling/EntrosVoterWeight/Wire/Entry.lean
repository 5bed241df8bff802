import EntrosVoterWeight.Anchor.Entry
import EntrosVoterWeight.Hash.Sha256
import EntrosVoterWeight.Program

/-!
# The Program's Wire Format

What the eight instructions look like on the wire, and how the entry point
reads them.

An instruction is a list of accounts and a string of bytes. The bytes start
with a discriminator, eight bytes of the hash of the method's name, and go on
with the arguments in Borsh. The accounts come in the order of the fields of
the method's struct, and whatever is behind them are remaining accounts.

`parse` is the entry point up to the handler. What it accepts are exactly the
encodings of instructions, up to bytes behind the arguments, and no two
instructions have the same encoding.

The framework adds instructions of its own, which manage the interface
description that it stores on the chain. The program leaves the feature
`no-idl` off, so they are there, behind a tag that is no method's
discriminator. `route` says where a call goes. What those instructions do is
the framework's code, so `entry` runs the methods only.

## Main definitions

* `Name`, `Name.discriminator`: The methods, and what selects them.
* `Name.method`, `methods`: The dispatch table.
* `Instruction.data`, `Instruction.keys`: An instruction on the wire.
* `parse`, `entry`: Reading an instruction, and running it.
* `route`: Where a call goes.

## Theorems

* `sighash_name`, `idlTag_hash`: The discriminators are hashes of names.
* `onWire_of_parse`, `parse_of_onWire`: What is read is an encoding.
* `route_iff`: What goes to a method, what to the framework, and what nowhere.
-/

namespace EntrosVoterWeight

open Borsh Anchor

/-! ### Discriminators -/

/-- The program's methods. -/
inductive Name
  | createRegistrar
  | updateRegistrar
  | createVoterWeightRecord
  | updateVoterWeightRecord
  | closeRegistrar
  | closeVoterWeightRecord
  | createMaxVoterWeightRecord
  | updateMaxVoterWeightRecord
deriving DecidableEq

/-- The function of that name. -/
def Name.text : Name → String
  | .createRegistrar => "create_registrar"
  | .updateRegistrar => "update_registrar"
  | .createVoterWeightRecord => "create_voter_weight_record"
  | .updateVoterWeightRecord => "update_voter_weight_record"
  | .closeRegistrar => "close_registrar"
  | .closeVoterWeightRecord => "close_voter_weight_record"
  | .createMaxVoterWeightRecord => "create_max_voter_weight_record"
  | .updateMaxVoterWeightRecord => "update_max_voter_weight_record"

/-- The bytes that select a method. -/
def Name.discriminator : Name → FixedBytes 8
  | .createRegistrar => ⟨[132, 235, 36, 49, 139, 66, 202, 69], rfl⟩
  | .updateRegistrar => ⟨[116, 34, 168, 129, 238, 12, 90, 56], rfl⟩
  | .createVoterWeightRecord => ⟨[184, 249, 133, 178, 88, 152, 250, 186], rfl⟩
  | .updateVoterWeightRecord => ⟨[45, 185, 3, 36, 109, 190, 115, 169], rfl⟩
  | .closeRegistrar => ⟨[145, 32, 238, 142, 247, 227, 50, 211], rfl⟩
  | .closeVoterWeightRecord => ⟨[123, 160, 235, 63, 195, 243, 225, 129], rfl⟩
  | .createMaxVoterWeightRecord => ⟨[182, 70, 243, 119, 162, 176, 38, 248], rfl⟩
  | .updateMaxVoterWeightRecord => ⟨[103, 175, 201, 251, 2, 9, 251, 179], rfl⟩

/-- The bytes of a text in UTF-8. -/
def utf8 (text : String) : List UInt8 := text.toUTF8.data.toList

/-- The first eight bytes of the hash of a method's name, in the namespace of
    the program's own instructions. -/
def sighash (name : String) : FixedBytes 8 :=
  ⟨(Hash.sha256 (utf8 ("global:" ++ name))).take 8,
    List.length_take_of_le (by rw [Hash.length_sha256]; decide)⟩

theorem sighash_name (n : Name) : sighash n.text = n.discriminator := by
  cases n <;> decide +kernel

/-- The bytes that select the framework's own instructions. -/
def idlTag : FixedBytes 8 := ⟨[64, 244, 188, 120, 167, 233, 105, 10], rfl⟩

/-- The tag is the hash of its name as a number, little end first. -/
theorem idlTag_hash : idlTag.bytes = ((Hash.sha256 (utf8 "anchor:idl")).take 8).reverse := by
  decide +kernel

/-! ### Accounts -/

instance : Accounts CreateRegistrar :=
  .ofFields 7 (fun a => [a.registrar, a.governanceProgramId, a.realm, a.governingTokenMint,
      a.realmAuthority, a.payer, a.systemProgram])
    (fun v => ⟨v 0, v 1, v 2, v 3, v 4, v 5, v 6⟩) (fun _ => rfl) (fun _ => rfl) (fun _ => rfl)

instance : Accounts UpdateRegistrar :=
  .ofFields 3 (fun a => [a.registrar, a.realm, a.realmAuthority])
    (fun v => ⟨v 0, v 1, v 2⟩) (fun _ => rfl) (fun _ => rfl) (fun _ => rfl)

instance : Accounts CreateVoterWeightRecord :=
  .ofFields 5 (fun a => [a.registrar, a.voterWeightRecord, a.governingTokenOwnerSigner, a.payer,
      a.systemProgram])
    (fun v => ⟨v 0, v 1, v 2, v 3, v 4⟩) (fun _ => rfl) (fun _ => rfl) (fun _ => rfl)

instance : Accounts UpdateVoterWeightRecord :=
  .ofFields 3 (fun a => [a.registrar, a.voterWeightRecord, a.voterAuthority])
    (fun v => ⟨v 0, v 1, v 2⟩) (fun _ => rfl) (fun _ => rfl) (fun _ => rfl)

instance : Accounts CloseRegistrar :=
  .ofFields 4 (fun a => [a.registrar, a.realm, a.realmAuthority, a.solDestination])
    (fun v => ⟨v 0, v 1, v 2, v 3⟩) (fun _ => rfl) (fun _ => rfl) (fun _ => rfl)

instance : Accounts CloseVoterWeightRecord :=
  .ofFields 4 (fun a => [a.registrar, a.voterWeightRecord, a.voterAuthority, a.solDestination])
    (fun v => ⟨v 0, v 1, v 2, v 3⟩) (fun _ => rfl) (fun _ => rfl) (fun _ => rfl)

instance : Accounts CreateMaxVoterWeightRecord :=
  .ofFields 6 (fun a => [a.registrar, a.maxVoterWeightRecord, a.realm, a.realmAuthority, a.payer,
      a.systemProgram])
    (fun v => ⟨v 0, v 1, v 2, v 3, v 4, v 5⟩) (fun _ => rfl) (fun _ => rfl) (fun _ => rfl)

instance : Accounts UpdateMaxVoterWeightRecord :=
  .ofFields 4 (fun a => [a.registrar, a.maxVoterWeightRecord, a.realm, a.realmAuthority])
    (fun v => ⟨v 0, v 1, v 2, v 3⟩) (fun _ => rfl) (fun _ => rfl) (fun _ => rfl)

/-! ### The dispatch table -/

/-- What each method reads. -/
def Name.method (n : Name) : Method Instruction :=
  match n with
  | .createRegistrar =>
    .of n.discriminator (Codec.u16.prod Codec.i64) fun ctx (minTrustScore, maxVerificationAge) =>
      .createRegistrar ctx minTrustScore maxVerificationAge
  | .updateRegistrar =>
    .of n.discriminator (Codec.u16.prod Codec.i64) fun ctx (minTrustScore, maxVerificationAge) =>
      .updateRegistrar ctx minTrustScore maxVerificationAge
  | .createVoterWeightRecord =>
    .of n.discriminator (Codec.bytes 32) fun ctx governingTokenOwner =>
      .createVoterWeightRecord ctx governingTokenOwner
  | .updateVoterWeightRecord =>
    .of n.discriminator Codec.unit fun ctx _ => .updateVoterWeightRecord ctx
  | .closeRegistrar => .of n.discriminator Codec.unit fun ctx _ => .closeRegistrar ctx
  | .closeVoterWeightRecord =>
    .of n.discriminator Codec.unit fun ctx _ => .closeVoterWeightRecord ctx
  | .createMaxVoterWeightRecord =>
    .of n.discriminator Codec.unit fun ctx _ => .createMaxVoterWeightRecord ctx
  | .updateMaxVoterWeightRecord =>
    .of n.discriminator Codec.u64 fun ctx maxVoterWeight =>
      .updateMaxVoterWeightRecord ctx maxVoterWeight

/-- The program's methods, in the order of the source. -/
def names : List Name := [.createRegistrar, .updateRegistrar, .createVoterWeightRecord,
  .updateVoterWeightRecord, .closeRegistrar, .closeVoterWeightRecord, .createMaxVoterWeightRecord,
  .updateMaxVoterWeightRecord]

def methods : List (Method Instruction) := names.map Name.method

/-- Read an instruction off its accounts and its data. -/
def parse (keys : List Pubkey) (isSigner isWritable : Pubkey → Bool) (data : List UInt8) :
    Option Instruction :=
  dispatch methods keys isSigner isWritable data

/-- Where a call goes: to a method, or to the framework's own instructions,
    which read the rest themselves. -/
inductive Route
  | method (ix : Instruction)
  | idl (args : List UInt8)

/-- Where the entry point sends a call, if it does not refuse it. -/
def route (keys : List Pubkey) (isSigner isWritable : Pubkey → Bool) (data : List UInt8) :
    Option Route :=
  match parse keys isSigner isWritable data with
  | some ix => some (.method ix)
  | none => if data.take 8 = idlTag.bytes then some (.idl (data.drop 8)) else none

/-- Run one of the program's methods on an instruction's accounts and data. -/
def entry (env : Env) (clock : Clock) (keys : List Pubkey) (isSigner isWritable : Pubkey → Bool)
    (data : List UInt8) (ledger : Ledger) : Option Ledger :=
  (parse keys isSigner isWritable data).bind fun ix => (process env clock ix ledger).toOption

/-! ### Instructions on the wire -/

/-- The method an instruction calls. -/
def Instruction.name : Instruction → Name
  | .createRegistrar _ _ _ => .createRegistrar
  | .updateRegistrar _ _ _ => .updateRegistrar
  | .createVoterWeightRecord _ _ => .createVoterWeightRecord
  | .updateVoterWeightRecord _ => .updateVoterWeightRecord
  | .closeRegistrar _ => .closeRegistrar
  | .closeVoterWeightRecord _ => .closeVoterWeightRecord
  | .createMaxVoterWeightRecord _ => .createMaxVoterWeightRecord
  | .updateMaxVoterWeightRecord _ _ => .updateMaxVoterWeightRecord

/-- An instruction's arguments in Borsh. -/
def Instruction.args : Instruction → List UInt8
  | .createRegistrar _ minTrustScore maxVerificationAge =>
    (Codec.u16.prod Codec.i64).encode (minTrustScore, maxVerificationAge)
  | .updateRegistrar _ minTrustScore maxVerificationAge =>
    (Codec.u16.prod Codec.i64).encode (minTrustScore, maxVerificationAge)
  | .createVoterWeightRecord _ governingTokenOwner => governingTokenOwner.bytes
  | .updateMaxVoterWeightRecord _ maxVoterWeight => Codec.u64.encode maxVoterWeight
  | _ => []

/-- The keys of a context: the struct's, and the remaining ones. -/
def Context.keys {A : Type} [Accounts A] (ctx : Context A) : List Pubkey :=
  Accounts.keys ctx.accounts ++ ctx.remainingAccounts

/-- An instruction's data. -/
def Instruction.data (ix : Instruction) : List UInt8 := ix.name.discriminator.bytes ++ ix.args

/-- The accounts an instruction passes. -/
def Instruction.keys : Instruction → List Pubkey
  | .createRegistrar ctx _ _ => Context.keys ctx
  | .updateRegistrar ctx _ _ => Context.keys ctx
  | .createVoterWeightRecord ctx _ => Context.keys ctx
  | .updateVoterWeightRecord ctx => Context.keys ctx
  | .closeRegistrar ctx => Context.keys ctx
  | .closeVoterWeightRecord ctx => Context.keys ctx
  | .createMaxVoterWeightRecord ctx => Context.keys ctx
  | .updateMaxVoterWeightRecord ctx _ => Context.keys ctx

/-- Whether a key is among an instruction's writable accounts. -/
def Instruction.isWritable : Instruction → Pubkey → Bool
  | .createRegistrar ctx _ _ => ctx.isWritable
  | .updateRegistrar ctx _ _ => ctx.isWritable
  | .createVoterWeightRecord ctx _ => ctx.isWritable
  | .updateVoterWeightRecord ctx => ctx.isWritable
  | .closeRegistrar ctx => ctx.isWritable
  | .closeVoterWeightRecord ctx => ctx.isWritable
  | .createMaxVoterWeightRecord ctx => ctx.isWritable
  | .updateMaxVoterWeightRecord ctx _ => ctx.isWritable

/-- The instruction that passes these accounts with these flags and has this
    data, apart from bytes behind its arguments. -/
structure OnWire (keys : List Pubkey) (isSigner isWritable : Pubkey → Bool) (data : List UInt8)
    (ix : Instruction) : Prop where
  keys_eq : keys = ix.keys
  signers : isSigner = ix.isSigner
  writables : isWritable = ix.isWritable
  data_eq : ∃ tail, data = ix.data ++ tail

theorem nodup_methods : (methods.map Method.discriminator).Nodup := by decide

theorem mem_methods (n : Name) : n.method ∈ methods := by
  refine List.mem_map_of_mem ?_
  cases n <;> decide

theorem discriminator_method (n : Name) : n.method.discriminator = n.discriminator := by
  cases n <;> rfl

/-- A method reads the instructions of its name. -/
theorem method_read (n : Name) (keys : List Pubkey) (isSigner isWritable : Pubkey → Bool)
    (data : List UInt8) (ix : Instruction)
    (h : n.method.read keys isSigner isWritable data = some ix) :
    ix.name = n ∧ keys = ix.keys ∧ isSigner = ix.isSigner ∧ isWritable = ix.isWritable ∧
      ∃ tail, data = ix.args ++ tail := by
  cases n
  all_goals
    simp only [Name.method] at h
    rcases (read_of ..).mp h with ⟨_, _, _, tail, rfl, hargs, rfl⟩
    exact ⟨rfl, rfl, rfl, rfl, tail, hargs⟩

theorem read_method (ix : Instruction) (tail : List UInt8) :
    ix.name.method.read ix.keys ix.isSigner ix.isWritable (ix.args ++ tail) = some ix := by
  cases ix <;> simp only [Instruction.name, Name.method, read_of]
  case createRegistrar ctx t g => exact ⟨_, _, (t, g), tail, rfl, rfl, rfl⟩
  case updateRegistrar ctx t g => exact ⟨_, _, (t, g), tail, rfl, rfl, rfl⟩
  case createVoterWeightRecord ctx o => exact ⟨_, _, o, tail, rfl, rfl, rfl⟩
  case updateVoterWeightRecord ctx => exact ⟨_, _, (), tail, rfl, rfl, rfl⟩
  case closeRegistrar ctx => exact ⟨_, _, (), tail, rfl, rfl, rfl⟩
  case closeVoterWeightRecord ctx => exact ⟨_, _, (), tail, rfl, rfl, rfl⟩
  case createMaxVoterWeightRecord ctx => exact ⟨_, _, (), tail, rfl, rfl, rfl⟩
  case updateMaxVoterWeightRecord ctx w => exact ⟨_, _, w, tail, rfl, rfl, rfl⟩

/-- What is accepted is an encoding. -/
theorem onWire_of_parse (keys : List Pubkey) (isSigner isWritable : Pubkey → Bool)
    (data : List UInt8) (ix : Instruction) (h : parse keys isSigner isWritable data = some ix) :
    OnWire keys isSigner isWritable data ix := by
  rcases (dispatch_iff methods nodup_methods _ _ _ _ _).mp h with ⟨m, hm, args, rfl, hread⟩
  rcases List.mem_map.mp hm with ⟨n, _, rfl⟩
  rcases method_read n _ _ _ _ ix hread with ⟨rfl, hkeys, hsigns, hwrites, tail, rfl⟩
  refine ⟨hkeys, hsigns, hwrites, tail, ?_⟩
  rw [discriminator_method, Instruction.data, List.append_assoc]

/-- An encoding is read as the instruction it is the encoding of. -/
theorem parse_of_onWire (keys : List Pubkey) (isSigner isWritable : Pubkey → Bool)
    (data : List UInt8) (ix : Instruction) (h : OnWire keys isSigner isWritable data ix) :
    parse keys isSigner isWritable data = some ix := by
  rcases h with ⟨rfl, rfl, rfl, tail, rfl⟩
  refine (dispatch_iff methods nodup_methods _ _ _ _ _).mpr
    ⟨ix.name.method, mem_methods _, ix.args ++ tail, ?_, read_method ix tail⟩
  rw [discriminator_method, Instruction.data, List.append_assoc]

/-- No method is selected by the framework's tag. -/
theorem idlTag_ne (n : Name) : idlTag.bytes ≠ n.discriminator.bytes := by
  cases n <;> decide

/-- Data behind the framework's tag is no instruction of the program. -/
theorem parse_idlTag (keys : List Pubkey) (isSigner isWritable : Pubkey → Bool)
    (args : List UInt8) : parse keys isSigner isWritable (idlTag.bytes ++ args) = none := by
  refine Option.eq_none_iff_forall_ne_some.mpr ?_
  intro ix hparse
  rcases (onWire_of_parse _ _ _ _ ix hparse).data_eq with ⟨tail, heq⟩
  rw [Instruction.data, List.append_assoc] at heq
  exact idlTag_ne ix.name (List.append_inj_left heq (by rw [idlTag.size, FixedBytes.size]))

/-- The calls that have a place to go: the encodings of instructions, and
    whatever carries the framework's tag. -/
def Routes (keys : List Pubkey) (isSigner isWritable : Pubkey → Bool) (data : List UInt8) :
    Route → Prop
  | .method ix => OnWire keys isSigner isWritable data ix
  | .idl args => data = idlTag.bytes ++ args

/-- The entry point sends the encodings of instructions to the method that was
    encoded, and what carries the framework's tag to the framework. It refuses
    everything else. -/
theorem route_iff (keys : List Pubkey) (isSigner isWritable : Pubkey → Bool) (data : List UInt8)
    (r : Route) :
    route keys isSigner isWritable data = some r ↔ Routes keys isSigner isWritable data r := by
  cases r with
  | method ix =>
      rw [Routes]
      constructor
      · intro h
        rcases hparse : parse keys isSigner isWritable data with _ | ix'
        · simp only [route, hparse] at h
          split at h <;> simp only [Option.some.injEq, reduceCtorEq] at h
        · simp only [route, hparse, Option.some.injEq, Route.method.injEq] at h
          rw [← h]
          exact onWire_of_parse _ _ _ _ _ hparse
      · intro h
        simp only [route, parse_of_onWire _ _ _ _ _ h]
  | idl args =>
      rw [Routes]
      constructor
      · intro h
        rcases hparse : parse keys isSigner isWritable data with _ | ix'
        · simp only [route, hparse] at h
          by_cases htag : data.take 8 = idlTag.bytes
          · rw [if_pos htag, Option.some.injEq, Route.idl.injEq] at h
            rw [← htag, ← h, List.take_append_drop]
          · rw [if_neg htag] at h
            exact absurd h (by simp only [reduceCtorEq, not_false_eq_true])
        · simp only [route, hparse, Option.some.injEq, reduceCtorEq] at h
      · rintro rfl
        simp only [route, parse_idlTag, List.take_left' idlTag.size, if_true,
          List.drop_left' idlTag.size]

end EntrosVoterWeight
