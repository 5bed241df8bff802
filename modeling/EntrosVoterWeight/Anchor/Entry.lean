import EntrosVoterWeight.Anchor.Account

/-!
# The Entry Point of an Anchor Program

From the bytes of an instruction to one of the program's methods.

The runtime hands a program a list of account keys and a string of bytes. The
framework picks the method by the eight bytes in front, reads the arguments
off the bytes behind them, takes the accounts the method names off the front
of the list, and leaves the rest to the method. Bytes behind the arguments are
ignored.

`Accounts` is the list-of-keys counterpart of a codec: a struct of accounts
with the law that taking it off a list and putting it in front of one are
inverse. A method read through a codec and such a struct accepts exactly the
encodings, and a table of methods with distinct discriminators accepts exactly
what one of its methods does.

When a call is refused before the method runs, the framework has an error for
it, which depends on how far it got. Here all of these are one refusal.

## Main definitions

* `Accounts`: A struct of accounts, as a list of keys.
* `Accounts.ofFields`: Such a struct, from its fields.
* `Method`: A discriminator with what reads the rest of a call.
* `Method.of`: A method from its arguments and its struct of accounts.
* `dispatch`: The first method whose discriminator is in front.

## Theorems

* `read_of`: What a method accepts.
* `dispatch_iff`: What a table of methods accepts.
-/

namespace Anchor

open Borsh

/-- A struct of accounts, taken off the front of a list of keys. -/
class Accounts (A : Type) where
  keys : A → List Pubkey
  take : List Pubkey → Option (A × List Pubkey)
  take_iff : ∀ ks a rest, take ks = some (a, rest) ↔ ks = keys a ++ rest

variable {ι A α : Type}

/-- A struct of `n` accounts, from its fields in order and what makes it of
    `n` keys. -/
@[reducible]
def Accounts.ofFields (n : Nat) (keys : A → List Pubkey) (make : (Fin n → Pubkey) → A)
    (hlen : ∀ a, (keys a).length = n)
    (hmake : ∀ a, (make fun i => (keys a).get (i.cast (hlen a).symm)) = a)
    (hkeys : ∀ v, keys (make v) = List.ofFn v) : Accounts A where
  keys := keys
  take ks := if h : n ≤ ks.length then some (make fun i => ks.get (i.castLE h), ks.drop n) else none
  take_iff := by
    intro ks a rest
    constructor
    · intro h
      by_cases hn : n ≤ ks.length
      · rw [dif_pos hn, Option.some.injEq, Prod.mk.injEq] at h
        rcases h with ⟨rfl, rfl⟩
        -- The keys that made the struct are the first `n`.
        have htake : List.ofFn (fun i : Fin n => ks.get (i.castLE hn)) = ks.take n := by
          refine List.ext_getElem ?_ ?_
          · rw [List.length_ofFn, List.length_take_of_le hn]
          · intro i _ _
            rw [List.getElem_ofFn, List.getElem_take]
            rfl
        rw [hkeys, htake, List.take_append_drop]
      · rw [dif_neg hn] at h
        exact absurd h (by simp only [reduceCtorEq, not_false_eq_true])
    · intro h
      subst h
      have hn : n ≤ (keys a ++ rest).length := by
        rw [List.length_append, hlen]
        omega
      have hsame : (make fun i => (keys a ++ rest).get (i.castLE hn)) = a := by
        refine Eq.trans (congrArg make ?_) (hmake a)
        funext i
        exact List.getElem_append_left (by rw [hlen]; exact i.isLt)
      rw [dif_pos hn, hsame, List.drop_left' (hlen a)]

/-- A method of a program: the bytes that select it, and how it is read off
    the accounts and the bytes behind them. -/
structure Method (ι : Type) where
  discriminator : FixedBytes 8
  read : List Pubkey → (Pubkey → Bool) → (Pubkey → Bool) → List UInt8 → Option ι

/-- A method with arguments of type `α` and accounts of type `A`. Arguments
    are read before accounts. -/
def Method.of [Accounts A] (discriminator : FixedBytes 8) (args : Codec α)
    (make : Context A → α → ι) : Method ι where
  discriminator := discriminator
  read keys isSigner isWritable data :=
    match args.decode data, Accounts.take keys with
    | some (x, _), some (accounts, remaining) =>
      some (make ⟨accounts, remaining, isSigner, isWritable⟩ x)
    | _, _ => none

/-- A method accepts the encodings of its arguments, with anything behind
    them, together with its accounts, with any others behind them. -/
theorem read_of [Accounts A] (discriminator : FixedBytes 8) (args : Codec α)
    (make : Context A → α → ι) (keys : List Pubkey) (isSigner isWritable : Pubkey → Bool)
    (data : List UInt8) (ix : ι) :
    (Method.of discriminator args make).read keys isSigner isWritable data = some ix ↔
      ∃ (accounts : A) (remaining : List Pubkey) (x : α) (tail : List UInt8),
        keys = Accounts.keys accounts ++ remaining ∧ data = args.encode x ++ tail ∧
        ix = make ⟨accounts, remaining, isSigner, isWritable⟩ x := by
  unfold Method.of
  constructor
  · intro h
    rcases hd : args.decode data with _ | ⟨x, tail⟩
    · simp only [hd, reduceCtorEq] at h
    · rcases ht : (Accounts.take keys : Option (A × List Pubkey)) with _ | ⟨a, rest⟩
      · simp only [hd, ht, reduceCtorEq] at h
      · simp only [hd, ht, Option.some.injEq] at h
        exact ⟨a, rest, x, tail, (Accounts.take_iff _ _ _).mp ht,
          (args.decode_iff _ _ _).mp hd, h.symm⟩
  · intro h
    rcases h with ⟨a, rest, x, tail, hk, hd, rfl⟩
    simp only [(Accounts.take_iff keys a rest).mpr hk, (args.decode_iff _ _ _).mpr hd]

/-- The method whose discriminator is in front of the data, applied to what is
    behind it. -/
def dispatch (methods : List (Method ι)) (keys : List Pubkey) (isSigner isWritable : Pubkey → Bool)
    (data : List UInt8) : Option ι :=
  match methods with
  | [] => none
  | m :: methods =>
    if data.take 8 = m.discriminator.bytes then m.read keys isSigner isWritable (data.drop 8)
    else dispatch methods keys isSigner isWritable data

/-- With distinct discriminators, the order of the methods makes no
    difference: what is accepted is what one of them accepts. -/
theorem dispatch_iff (methods : List (Method ι))
    (hnodup : (methods.map Method.discriminator).Nodup) (keys : List Pubkey)
    (isSigner isWritable : Pubkey → Bool) (data : List UInt8) (ix : ι) :
    dispatch methods keys isSigner isWritable data = some ix ↔
      ∃ m ∈ methods, ∃ args, data = m.discriminator.bytes ++ args ∧
        m.read keys isSigner isWritable args = some ix := by
  induction methods with
  | nil => simp only [dispatch, reduceCtorEq, List.not_mem_nil, false_and, exists_false]
  | cons m methods ih =>
      rw [List.map_cons, List.nodup_cons] at hnodup
      by_cases hfirst : data.take 8 = m.discriminator.bytes
      · rw [dispatch, if_pos hfirst]
        constructor
        -- The first method that matches is the one that is run.
        · intro h
          refine ⟨m, List.mem_cons_self, data.drop 8, ?_, h⟩
          rw [← hfirst, List.take_append_drop]
        · intro h
          rcases h with ⟨m', hm', args, rfl, hread⟩
          rw [List.take_left' m'.discriminator.size] at hfirst
          rcases List.mem_cons.mp hm' with rfl | hmem
          · rw [List.drop_left' m'.discriminator.size]
            exact hread
          · -- No later method has the same discriminator.
            refine absurd ?_ hnodup.1
            rw [← FixedBytes.ext hfirst]
            exact List.mem_map_of_mem hmem
      · rw [dispatch, if_neg hfirst, ih hnodup.2]
        constructor
        · intro h
          rcases h with ⟨m', hm', h⟩
          exact ⟨m', List.mem_cons_of_mem _ hm', h⟩
        · intro h
          rcases h with ⟨m', hm', args, rfl, hread⟩
          rcases List.mem_cons.mp hm' with rfl | hmem
          · exact absurd (List.take_left' m'.discriminator.size) hfirst
          · exact ⟨m', hmem, args, rfl, hread⟩

end Anchor
