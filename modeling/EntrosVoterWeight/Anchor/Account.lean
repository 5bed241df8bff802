import EntrosVoterWeight.Borsh.Codec
import Mathlib.Logic.Function.Basic

/-!
# Accounts under the Anchor Framework

What a program written against Anchor does to the accounts it is given,
independent of which program it is.

A ledger gives every address an owner and some bytes; lamport balances are
left aside, so an address nobody uses and an address that only holds lamports
are the same *vacant* account, owned by the system program with no data. The
framework refuses both where it expects a typed account, with different
errors, which are one error here. A typed account is loaded by comparing its
owner with the type's and running the type's deserializer.
`AccountDeserialize` carries the framework's default: unless a type overrides
`tryDeserialize`, it is `tryDeserializeUnchecked`, which looks at no
discriminator. After a successful handler a mutable account is serialized back
over its own bytes from the first one on; nothing behind the new encoding is
cleared. Initialisation succeeds on a vacant address only and leaves zeros, and
closing hands the address back to the system program.

Which addresses hold executable programs, and how an address is derived from
seeds, are facts about the cluster the program runs on. They are parameters,
collected in `Runtime`. Derivation sees the seeds concatenated, without
separators.

Each operation comes with one lemma saying when it succeeds and with what, so
a handler's `do` block unfolds into the conjunction of its checks.

## Main definitions

* `Account`, `Ledger`: The accounts of a cluster.
* `Runtime`: Address derivation and the executable programs.
* `Context`: The accounts passed to an instruction, with its signers.
* `AccountDeserialize`, `AccountSerialize`, `Owner`: What a type needs to be
  an account type.
* `loadAccount`, `initAccount`, `exitAccount`, `closeAccount`: The life of a
  typed account within one instruction.
* `require`: A check with its error.
* `checkedSub`, `saturatingAdd`: The integer operations that do not wrap.

## Theorems

* `bind_eq_ok`: A sequence succeeds when both halves do.
* `loadAccount_eq_ok`, `initAccount_eq_ok`, `exitAccount_eq_ok`: When each
  operation succeeds, and with what.
* `checkedSub_eq_some`: A checked difference is the integer difference.
* `toNat_saturatingAdd`: A saturating sum is the sum cut off at the maximum.
-/

namespace Anchor

open Borsh

/-- A 32-byte key: the address of an account. -/
abbrev Pubkey := FixedBytes 32

/-- The system program, at the all-zero address. -/
def systemProgramId : Pubkey := FixedBytes.zero 32

/-- The owner and the bytes of an account. -/
structure Account where
  owner : Pubkey
  data : List UInt8
deriving DecidableEq

/-- An address in nobody's use. -/
def Account.vacant : Account := ⟨systemProgramId, []⟩

/-- Every address with its account. -/
abbrev Ledger := Pubkey → Account

/-- The clock sysvar. -/
structure Clock where
  slot : UInt64
  unixTimestamp : Int64
deriving DecidableEq

/-- The cluster a program runs on. -/
structure Runtime where
  deriveAddress : List UInt8 → Pubkey → Pubkey
  executable : Pubkey → Bool
  executable_systemProgramId : executable systemProgramId = true

/-- The derivation hashes the seeds one after the other, with nothing between
    them. -/
def Runtime.findProgramAddress (rt : Runtime) (seeds : List (List UInt8)) (programId : Pubkey) :
    Pubkey :=
  rt.deriveAddress seeds.flatten programId

/-- The accounts passed to an instruction. Signer and writable flags are a
    property of the address, however often it is passed. -/
structure Context (A : Type) where
  accounts : A
  remainingAccounts : List Pubkey
  isSigner : Pubkey → Bool
  isWritable : Pubkey → Bool

/-- The framework's own errors, as far as the checks below raise them. An
    address of the system program without lamports has an error of its own in
    the framework, which is that of a wrong owner here. -/
inductive ErrorCode
  | accountDiscriminatorNotFound
  | accountDiscriminatorMismatch
  | accountDidNotDeserialize
  | accountDidNotSerialize
  | accountOwnedByWrongProgram
  | accountNotSigner
  | constraintMut
  | constraintRaw
  | constraintOwner
  | constraintExecutable
  | constraintSeeds
  | constraintClose
  | invalidProgramId
  | invalidProgramExecutable
  | tryingToInitPayerAsProgramAccount
deriving DecidableEq

/-- An error of the framework, of the program `ε` is the error enum of, or of
    a program it calls. -/
inductive Error (ε : Type)
  | anchor (code : ErrorCode)
  | custom (error : ε)
  | privilegeEscalation
  | accountAlreadyInUse
  | external
deriving DecidableEq

variable {ε α β A : Type}

/-- A check with its error. -/
def require (c : Prop) [Decidable c] (e : Error ε) : Except (Error ε) Unit :=
  if c then .ok () else .error e

theorem bind_eq_ok (x : Except (Error ε) α) (f : α → Except (Error ε) β) (y : β) :
    (x >>= f) = .ok y ↔ ∃ a, x = .ok a ∧ f a = .ok y := by
  cases x with
  | error e => simp only [bind, Except.bind, reduceCtorEq, false_and, exists_false]
  | ok a => simp only [bind, Except.bind, Except.ok.injEq, exists_eq_left']

theorem require_eq_ok (c : Prop) [Decidable c] (e : Error ε) (u : Unit) :
    require c e = .ok u ↔ c := by
  by_cases hc : c
  · simp only [require, hc, if_true]
  · simp only [require, hc, if_false, reduceCtorEq]

/-- What failed stays failed. -/
theorem bind_of_error {x : Except (Error ε) α} {e : Error ε} (f : α → Except (Error ε) β)
    (h : x = .error e) : (x >>= f) = .error e := by
  subst h
  rfl

theorem bind_of_ok {x : Except (Error ε) α} {a : α} (f : α → Except (Error ε) β)
    (h : x = .ok a) : (x >>= f) = f a := by
  subst h
  rfl

theorem require_of_not (c : Prop) [Decidable c] (e : Error ε) (h : ¬ c) :
    require c e = .error e := by
  rw [require, if_neg h]

/-- Equivalent conditions are the same check. -/
theorem require_congr (c d : Prop) [Decidable c] [Decidable d] (e : Error ε) (h : c ↔ d) :
    require c e = require d e := by
  by_cases hc : c
  · rw [require, require, if_pos hc, if_pos (h.mp hc)]
  · rw [require, require, if_neg hc, if_neg (fun hd => hc (h.mpr hd))]

/-- An optional value that has to be there. -/
def okOr (x : Option α) (e : Error ε) : Except (Error ε) α :=
  match x with
  | some a => .ok a
  | none => .error e

theorem okOr_eq_ok (x : Option α) (e : Error ε) (a : α) : okOr x e = .ok a ↔ x = some a := by
  cases x with
  | none => simp only [okOr, reduceCtorEq]
  | some b => simp only [okOr, Except.ok.injEq, Option.some.injEq]

/-! ### Account types -/

/-- The program that owns the accounts of a type. -/
class Owner (α : Type) where
  owner : Pubkey

/-- Reading an account's bytes. The checked form defaults to the unchecked
    one. -/
class AccountDeserialize (α : Type) where
  tryDeserializeUnchecked : List UInt8 → Except ErrorCode α
  tryDeserialize : List UInt8 → Except ErrorCode α := tryDeserializeUnchecked

/-- The bytes a value is persisted as. -/
class AccountSerialize (α : Type) where
  trySerialize : α → List UInt8

/-- Attach the framework's error. -/
def anchorError : Except ErrorCode α → Except (Error ε) α
  | .ok x => .ok x
  | .error code => .error (.anchor code)

theorem anchorError_eq_ok (x : Except ErrorCode α) (y : α) :
    (anchorError x : Except (Error ε) α) = .ok y ↔ x = .ok y := by
  cases x with
  | error code => simp only [anchorError, reduceCtorEq]
  | ok a => simp only [anchorError, Except.ok.injEq]

/-- Load a typed account: the owner, then the type's deserializer. -/
def loadAccount (α : Type) [Owner α] [AccountDeserialize α] (ledger : Ledger) (key : Pubkey) :
    Except (Error ε) α := do
  require ((ledger key).owner = Owner.owner α) (.anchor .accountOwnedByWrongProgram)
  anchorError (AccountDeserialize.tryDeserialize (ledger key).data)

/-- Load an account that was just created, whose discriminator is not yet
    written. -/
def loadAccountUnchecked (α : Type) [Owner α] [AccountDeserialize α] (ledger : Ledger)
    (key : Pubkey) : Except (Error ε) α := do
  require ((ledger key).owner = Owner.owner α) (.anchor .accountOwnedByWrongProgram)
  anchorError (AccountDeserialize.tryDeserializeUnchecked (ledger key).data)

theorem loadAccount_eq_ok [Owner α] [AccountDeserialize α] (ledger : Ledger) (key : Pubkey)
    (x : α) :
    (loadAccount α ledger key : Except (Error ε) α) = .ok x ↔
      (ledger key).owner = Owner.owner α ∧
        AccountDeserialize.tryDeserialize (ledger key).data = .ok x := by
  simp only [loadAccount, bind_eq_ok, require_eq_ok, anchorError_eq_ok, exists_const]

theorem loadAccountUnchecked_eq_ok [Owner α] [AccountDeserialize α] (ledger : Ledger)
    (key : Pubkey) (x : α) :
    (loadAccountUnchecked α ledger key : Except (Error ε) α) = .ok x ↔
      (ledger key).owner = Owner.owner α ∧
        AccountDeserialize.tryDeserializeUnchecked (ledger key).data = .ok x := by
  simp only [loadAccountUnchecked, bind_eq_ok, require_eq_ok, anchorError_eq_ok, exists_const]

/-! ### Constraints -/

/-- The `Signer` account type. -/
def requireSigner (ctx : Context A) (key : Pubkey) : Except (Error ε) Unit :=
  require (ctx.isSigner key = true) (.anchor .accountNotSigner)

/-- The `mut` constraint. -/
def requireMut (ctx : Context A) (key : Pubkey) : Except (Error ε) Unit :=
  require (ctx.isWritable key = true) (.anchor .constraintMut)

/-- The `Program` account type. -/
def requireProgram (rt : Runtime) (programId key : Pubkey) : Except (Error ε) Unit := do
  require (key = programId) (.anchor .invalidProgramId)
  require (rt.executable key = true) (.anchor .invalidProgramExecutable)

theorem requireSigner_eq_ok (ctx : Context A) (key : Pubkey) (u : Unit) :
    (requireSigner ctx key : Except (Error ε) Unit) = .ok u ↔ ctx.isSigner key = true := by
  simp only [requireSigner, require_eq_ok]

theorem requireMut_eq_ok (ctx : Context A) (key : Pubkey) (u : Unit) :
    (requireMut ctx key : Except (Error ε) Unit) = .ok u ↔ ctx.isWritable key = true := by
  simp only [requireMut, require_eq_ok]

theorem requireProgram_systemProgramId (rt : Runtime) (key : Pubkey) (u : Unit) :
    (requireProgram rt systemProgramId key : Except (Error ε) Unit) = .ok u ↔
      key = systemProgramId := by
  simp only [requireProgram, bind_eq_ok, require_eq_ok, exists_const]
  constructor
  · exact fun h => h.1
  · intro hkey
    subst hkey
    exact ⟨rfl, rt.executable_systemProgramId⟩

/-! ### Creating, persisting and closing -/

/-- The `init` constraint: the payer has the system program create `key` with
    `space` zero bytes, owned by the program. The payer is taken to be
    funded. -/
def initAccount (ctx : Context A) (programId key payer : Pubkey) (space : Nat) (ledger : Ledger) :
    Except (Error ε) Ledger := do
  require (payer ≠ key) (.anchor .tryingToInitPayerAsProgramAccount)
  -- The system program debits the payer and allocates the account.
  require (ctx.isWritable payer = true ∧ ctx.isWritable key = true) .privilegeEscalation
  require (ledger key = .vacant) .accountAlreadyInUse
  .ok (Function.update ledger key ⟨programId, List.replicate space 0⟩)

/-- The exit of a mutable account: its value is serialized over its bytes.
    An account type of the program is owned by it, so the owner test of the
    framework's exit never skips the write. -/
def exitAccount [AccountSerialize α] (key : Pubkey) (x : α) (ledger : Ledger) :
    Except (Error ε) Ledger :=
  if (AccountSerialize.trySerialize x).length ≤ (ledger key).data.length then
    .ok (Function.update ledger key
      ⟨(ledger key).owner, overwrite (AccountSerialize.trySerialize x) (ledger key).data⟩)
  else .error (.anchor .accountDidNotSerialize)

/-- The `close` constraint: the account goes back to the system program, with
    no data. -/
def closeAccount (key : Pubkey) (ledger : Ledger) : Ledger :=
  Function.update ledger key .vacant

theorem initAccount_eq_ok (ctx : Context A) (programId key payer : Pubkey) (space : Nat)
    (ledger ledger' : Ledger) :
    (initAccount ctx programId key payer space ledger : Except (Error ε) Ledger) = .ok ledger' ↔
      (payer ≠ key ∧ ctx.isWritable payer = true ∧ ctx.isWritable key = true) ∧
      ledger key = .vacant ∧
      ledger' = Function.update ledger key ⟨programId, List.replicate space 0⟩ := by
  simp only [initAccount, bind_eq_ok, require_eq_ok, exists_const, Except.ok.injEq]
  constructor
  · intro h
    rcases h with ⟨hne, hw, hv, rfl⟩
    exact ⟨⟨hne, hw⟩, hv, rfl⟩
  · intro h
    rcases h with ⟨⟨hne, hw⟩, hv, rfl⟩
    exact ⟨hne, hw, hv, rfl⟩

theorem exitAccount_eq_ok [AccountSerialize α] (key : Pubkey) (x : α) (ledger ledger' : Ledger) :
    (exitAccount key x ledger : Except (Error ε) Ledger) = .ok ledger' ↔
      (AccountSerialize.trySerialize x).length ≤ (ledger key).data.length ∧
      ledger' = Function.update ledger key
        ⟨(ledger key).owner, overwrite (AccountSerialize.trySerialize x) (ledger key).data⟩ := by
  by_cases hroom : (AccountSerialize.trySerialize x).length ≤ (ledger key).data.length
  · simp only [exitAccount, hroom, if_true, Except.ok.injEq, true_and]
    exact eq_comm
  · simp only [exitAccount, hroom, if_false, reduceCtorEq, false_and]

/-! ### Integer operations -/

/-- Subtraction that reports leaving the 64-bit signed range. -/
def checkedSub (a b : Int64) : Option Int64 :=
  if -2 ^ 63 ≤ a.toInt - b.toInt ∧ a.toInt - b.toInt < 2 ^ 63 then
    some (Int64.ofInt (a.toInt - b.toInt))
  else none

/-- Addition that stops at the largest 64-bit unsigned value. -/
def saturatingAdd (a b : UInt64) : UInt64 :=
  if a.toNat + b.toNat < 2 ^ 64 then a + b else UInt64.ofNat (2 ^ 64 - 1)

theorem int64_bounds (a : Int64) : -2 ^ 63 ≤ a.toInt ∧ a.toInt < 2 ^ 63 :=
  ⟨a.le_toInt, a.toInt_lt⟩

theorem checkedSub_eq_some (a b d : Int64) :
    checkedSub a b = some d ↔ d.toInt = a.toInt - b.toInt := by
  have hd := int64_bounds d
  constructor
  · intro h
    by_cases hr : -2 ^ 63 ≤ a.toInt - b.toInt ∧ a.toInt - b.toInt < 2 ^ 63
    · rw [checkedSub, if_pos hr, Option.some.injEq] at h
      rw [← h, Int64.toInt_ofInt_of_le hr.1 hr.2]
    · rw [checkedSub, if_neg hr] at h
      exact absurd h (by simp only [reduceCtorEq, not_false_eq_true])
  · intro h
    -- A difference that is the value of `d` lies in the range of `d`.
    rw [checkedSub, if_pos (by omega), ← h, Int64.ofInt_toInt]

theorem checkedSub_eq_none (a b : Int64) :
    checkedSub a b = none ↔ a.toInt - b.toInt < -2 ^ 63 ∨ 2 ^ 63 ≤ a.toInt - b.toInt := by
  by_cases hr : -2 ^ 63 ≤ a.toInt - b.toInt ∧ a.toInt - b.toInt < 2 ^ 63
  · simp only [checkedSub, if_pos hr, reduceCtorEq, false_iff]
    omega
  · simp only [checkedSub, if_neg hr, true_iff]
    omega

theorem toNat_saturatingAdd (a b : UInt64) :
    (saturatingAdd a b).toNat = min (a.toNat + b.toNat) (2 ^ 64 - 1) := by
  by_cases h : a.toNat + b.toNat < 2 ^ 64
  · rw [saturatingAdd, if_pos h, UInt64.toNat_add, Nat.mod_eq_of_lt h]
    omega
  · rw [saturatingAdd, if_neg h, UInt64.toNat_ofNat_of_lt' (by decide)]
    omega

end Anchor
