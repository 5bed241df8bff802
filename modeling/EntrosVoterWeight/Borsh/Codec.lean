import Mathlib.Data.List.Basic
import Mathlib.Data.UInt
import Mathlib.Tactic.Ring

/-!
# Canonical Prefix Codecs

Borsh reads a value off the front of a byte string and leaves the rest alone.
That makes a decoder a prefix parser, and it makes two questions separate:
whether writing a value and reading it back returns the value, and whether a
byte string that is accepted could have been written at all.

`Codec` settles both with one law. `decode_iff` says a decoder accepts `bs`
with value `x` and remainder `rest` exactly when `bs` is the encoding of `x`
followed by `rest`. Read from right to left it is the round trip in front of
arbitrary trailing bytes; read from left to right it says every accepted
string is canonical. The law composes, so a record's codec is assembled from
its fields' codecs with no further proof.

Serialisation in place does not clear what was there before. `overwrite` is
that operation: the new bytes go to the front and the tail of the old content
stays. Since a decoder ignores trailing bytes, what was left behind a shorter
encoding is never read.

## Main definitions

* `FixedBytes`: A byte array whose length is part of its type.
* `leEncode`, `leDecode`: Little-endian digits of a natural number.
* `Codec`: An encoder and a prefix parser that agree in both directions.
* `Codec.unit`, `Codec.bytes`, `Codec.u16`, `Codec.u32`, `Codec.u64`,
  `Codec.i64`, `Codec.tag`: The scalar codecs.
* `Codec.prod`, `Codec.option`, `Codec.iso`: The combinators.
* `overwrite`: Writing bytes over the front of existing content.

## Theorems

* `leDecode_leEncode`: Decoding little-endian digits recovers the number.
* `leEncode_leDecode`: Every digit string is the encoding of its value.
* `Codec.decode_encode`: A value reads back in front of any suffix.
* `Codec.encode_append_inj`: A byte string has at most one leading value.
* `Codec.reads_iff`: Reading a value off the front accepts its encoding only.
-/

namespace Borsh

/-- A byte array of exactly `n` bytes. -/
structure FixedBytes (n : Nat) where
  bytes : List UInt8
  size : bytes.length = n
deriving DecidableEq

@[ext] theorem FixedBytes.ext {n : Nat} {x y : FixedBytes n} (h : x.bytes = y.bytes) : x = y := by
  cases x
  cases y
  simp only at h
  subst h
  rfl

@[simp] theorem FixedBytes.length_bytes {n : Nat} (x : FixedBytes n) : x.bytes.length = n := x.size

/-- The byte at an index. -/
def FixedBytes.get {n : Nat} (x : FixedBytes n) (i : Fin n) : UInt8 :=
  x.bytes.get (i.cast x.size.symm)

/-- The all-zero array. -/
def FixedBytes.zero (n : Nat) : FixedBytes n := ⟨List.replicate n 0, List.length_replicate⟩

/-- The `k` low base-256 digits of `n`, least significant first. -/
def leEncode : Nat → Nat → List UInt8
  | 0, _ => []
  | k + 1, n => UInt8.ofNat n :: leEncode k (n / 256)

/-- The number whose base-256 digits are given, least significant first. -/
def leDecode : List UInt8 → Nat
  | [] => 0
  | b :: bs => b.toNat + 256 * leDecode bs

@[simp] theorem length_leEncode (k n : Nat) : (leEncode k n).length = k := by
  induction k generalizing n with
  | zero => rfl
  | succ k ih => simp only [leEncode, List.length_cons, ih]

theorem leDecode_leEncode (k n : Nat) : leDecode (leEncode k n) = n % 256 ^ k := by
  induction k generalizing n with
  | zero => simp only [leEncode, leDecode, Nat.pow_zero, Nat.mod_one]
  | succ k ih =>
      -- The head is the lowest digit of `n`, the tail encodes the quotient.
      have hdigit : (UInt8.ofNat n).toNat = n % 256 := by
        simp only [UInt8.toNat_ofNat']
      rw [leEncode, leDecode, ih, hdigit, Nat.pow_succ, Nat.mul_comm (256 ^ k) 256, Nat.mod_mul]

theorem leDecode_lt (bs : List UInt8) : leDecode bs < 256 ^ bs.length := by
  induction bs with
  | nil => simp only [leDecode, List.length_nil, Nat.pow_zero, Nat.zero_lt_one]
  | cons b bs ih =>
      have hb : b.toNat < 256 := b.toNat_lt
      simp only [leDecode, List.length_cons, Nat.pow_succ]
      omega

theorem leEncode_leDecode (bs : List UInt8) : leEncode bs.length (leDecode bs) = bs := by
  induction bs with
  | nil => rfl
  | cons b bs ih =>
      have hb : b.toNat < 256 := b.toNat_lt
      -- The first digit is below the base, so it does not run into the others.
      have hhead : UInt8.ofNat (b.toNat + 256 * leDecode bs) = b := by
        apply UInt8.toNat_inj.mp
        simp only [UInt8.toNat_ofNat']
        omega
      have htail : (b.toNat + 256 * leDecode bs) / 256 = leDecode bs := by omega
      simp only [List.length_cons, leEncode, leDecode, hhead, htail, ih]

/-- A number that fits its width reads back. -/
theorem leDecode_leEncode_of_lt (k n : Nat) (h : n < 256 ^ k) : leDecode (leEncode k n) = n := by
  rw [leDecode_leEncode, Nat.mod_eq_of_lt h]

/-- The digits of a number in two parts: the low ones, and those of the
    quotient. -/
theorem leEncode_add (j k n : Nat) :
    leEncode (j + k) n = leEncode j n ++ leEncode k (n / 256 ^ j) := by
  induction j generalizing n with
  | zero => simp only [Nat.zero_add, leEncode, List.nil_append, Nat.pow_zero, Nat.div_one]
  | succ j ih =>
      rw [Nat.succ_add, leEncode, leEncode, ih, List.cons_append, Nat.div_div_eq_div_mul,
        Nat.pow_succ, Nat.mul_comm (256 ^ j) 256]

/-- An encoder with the prefix parser that reads its output back. The law
    holds in both directions, so the parser accepts encodings and nothing
    else. -/
structure Codec (α : Type) where
  encode : α → List UInt8
  decode : List UInt8 → Option (α × List UInt8)
  decode_iff : ∀ bs x rest, decode bs = some (x, rest) ↔ bs = encode x ++ rest

namespace Codec

variable {α β : Type}

theorem decode_encode (c : Codec α) (x : α) (rest : List UInt8) :
    c.decode (c.encode x ++ rest) = some (x, rest) :=
  (c.decode_iff _ _ _).mpr rfl

theorem encode_append_inj (c : Codec α) (x y : α) (r t : List UInt8)
    (h : c.encode x ++ r = c.encode y ++ t) : x = y ∧ r = t := by
  have hx := c.decode_encode x r
  rw [h, c.decode_encode y t, Option.some.injEq, Prod.mk.injEq] at hx
  exact ⟨hx.1.symm, hx.2.symm⟩

/-- A reader that takes a value off the front and ignores what follows
    succeeds on the value's encoding, with anything behind it. -/
theorem reads_iff {ε : Type} (c : Codec α) (read : Except ε α) (e : ε) (bs : List UInt8) (x : α)
    (hread : read = (c.decode bs).elim (.error e) fun p => .ok p.1) :
    read = .ok x ↔ ∃ rest, bs = c.encode x ++ rest := by
  rw [hread]
  constructor
  · intro h
    rcases hd : c.decode bs with _ | ⟨y, rest⟩
    · simp only [hd, Option.elim_none, reduceCtorEq] at h
    · simp only [hd, Option.elim_some, Except.ok.injEq] at h
      subst h
      exact ⟨rest, (c.decode_iff _ _ _).mp hd⟩
  · intro h
    rcases h with ⟨rest, rfl⟩
    simp only [decode_encode, Option.elim_some]

/-- Nothing, for methods without arguments. -/
def unit : Codec Unit where
  encode _ := []
  decode bs := some ((), bs)
  decode_iff := by
    intro bs x rest
    simp only [Option.some.injEq, Prod.mk.injEq, List.nil_append, true_and]

/-- Exactly `n` raw bytes. -/
def bytes (n : Nat) : Codec (FixedBytes n) where
  encode x := x.bytes
  decode bs :=
    if h : n ≤ bs.length then
      some (⟨bs.take n, List.length_take_of_le h⟩, bs.drop n)
    else none
  decode_iff := by
    intro bs x rest
    constructor
    · intro h
      by_cases hn : n ≤ bs.length
      · rw [dif_pos hn, Option.some.injEq, Prod.mk.injEq] at h
        rw [← h.1, ← h.2, List.take_append_drop]
      · -- Too few bytes are refused, so nothing was read.
        rw [dif_neg hn] at h
        exact absurd h (by simp only [reduceCtorEq, not_false_eq_true])
    · intro h
      have hn : n ≤ bs.length := by
        rw [h, List.length_append, x.size]
        omega
      have htake : bs.take n = x.bytes := by rw [h, List.take_left' x.size]
      have hdrop : bs.drop n = rest := by rw [h, List.drop_left' x.size]
      rw [dif_pos hn, Option.some.injEq, Prod.mk.injEq]
      exact ⟨FixedBytes.ext htake, hdrop⟩

/-- One value after another. -/
def prod (c : Codec α) (d : Codec β) : Codec (α × β) where
  encode p := c.encode p.1 ++ d.encode p.2
  decode bs :=
    match c.decode bs with
    | none => none
    | some (x, rest) => match d.decode rest with
      | none => none
      | some (y, tail) => some ((x, y), tail)
  decode_iff := by
    intro bs p rest
    rcases p with ⟨x, y⟩
    constructor
    · intro h
      -- The second codec starts where the first one stopped.
      rcases hc : c.decode bs with _ | ⟨x', mid⟩
      · simp only [hc, reduceCtorEq] at h
      · rcases hd : d.decode mid with _ | ⟨y', tail⟩
        · simp only [hc, hd, reduceCtorEq] at h
        · simp only [hc, hd, Option.some.injEq, Prod.mk.injEq] at h
          rcases h with ⟨⟨rfl, rfl⟩, rfl⟩
          rw [(c.decode_iff _ _ _).mp hc, (d.decode_iff _ _ _).mp hd, List.append_assoc]
    · intro h
      subst h
      simp only [List.append_assoc, decode_encode]

/-- The same bytes read as another type. -/
def iso (c : Codec α) (f : α → β) (g : β → α) (hfg : ∀ y, f (g y) = y)
    (hgf : ∀ x, g (f x) = x) : Codec β where
  encode y := c.encode (g y)
  decode bs :=
    match c.decode bs with
    | none => none
    | some (x, rest) => some (f x, rest)
  decode_iff := by
    intro bs y rest
    constructor
    · intro h
      rcases hc : c.decode bs with _ | ⟨x, tail⟩
      · simp only [hc, reduceCtorEq] at h
      · simp only [hc, Option.some.injEq, Prod.mk.injEq] at h
        rcases h with ⟨rfl, rfl⟩
        rw [(c.decode_iff _ _ _).mp hc, hgf]
    · intro h
      subst h
      simp only [decode_encode, hfg]

/-- A tag byte, zero for `none` and one for `some`; any other tag is an
    error. -/
def option (c : Codec α) : Codec (Option α) where
  encode
    | none => [0]
    | some x => 1 :: c.encode x
  decode
    | [] => none
    | t :: bs =>
      if t = 0 then some (none, bs)
      else if t = 1 then
        match c.decode bs with
        | none => none
        | some (x, rest) => some (some x, rest)
      else none
  decode_iff := by
    intro bs x rest
    constructor
    · intro h
      rcases bs with _ | ⟨t, bs⟩
      · simp only [reduceCtorEq] at h
      · -- The tag is zero, one, or an error.
        by_cases h0 : t = 0
        · simp only [h0, if_true, Option.some.injEq, Prod.mk.injEq] at h
          rw [← h.1, ← h.2, h0]
          rfl
        · by_cases h1 : t = 1
          · rcases hc : c.decode bs with _ | ⟨y, tail⟩
            · simp only [h1, hc, if_true, show ¬((1 : UInt8) = 0) by decide, if_false,
                reduceCtorEq] at h
            · simp only [h1, hc, if_true, show ¬((1 : UInt8) = 0) by decide, if_false,
                Option.some.injEq, Prod.mk.injEq] at h
              rw [← h.1, ← h.2, h1, (c.decode_iff _ _ _).mp hc]
              rfl
          · simp only [h0, h1, if_false, reduceCtorEq] at h
    · intro h
      subst h
      cases x with
      | none => rfl
      | some y =>
          simp only [List.cons_append, show ¬((1 : UInt8) = 0) by decide, if_false, if_true,
            decode_encode]

/-- The tag takes a byte. -/
theorem length_option_pos (c : Codec α) (x : Option α) : 1 ≤ (c.option.encode x).length := by
  cases x with
  | none => exact Nat.le_refl 1
  | some y =>
      simp only [option, List.length_cons]
      omega

/-- One byte naming a constructor. `names` lists the constructors in tag
    order; a byte past its end is an error. -/
def tag [DecidableEq α] (names : List α) (hmem : ∀ x, x ∈ names) (hnodup : names.Nodup)
    (hsize : names.length ≤ 256) : Codec α where
  encode x := [UInt8.ofNat (names.idxOf x)]
  decode
    | [] => none
    | t :: bs => match names[t.toNat]? with
      | none => none
      | some x => some (x, bs)
  decode_iff := by
    intro bs x rest
    constructor
    · intro h
      rcases bs with _ | ⟨t, bs⟩
      · simp only [reduceCtorEq] at h
      · rcases hn : names[t.toNat]? with _ | y
        · simp only [hn, reduceCtorEq] at h
        · simp only [hn, Option.some.injEq, Prod.mk.injEq] at h
          rcases h with ⟨rfl, rfl⟩
          rcases List.getElem?_eq_some_iff.mp hn with ⟨hlt, hy⟩
          -- No name comes up twice, so the tag is the index of what it names.
          have hidx : names.idxOf y = t.toNat := by
            rw [← hy]
            exact hnodup.idxOf_getElem _ hlt
          rw [hidx, UInt8.ofNat_toNat]
          rfl
    · intro h
      subst h
      have hlt : names.idxOf x < names.length := List.idxOf_lt_length_iff.mpr (hmem x)
      -- There are at most 256 names, so the index fits a byte.
      have hround : (UInt8.ofNat (names.idxOf x)).toNat = names.idxOf x := by
        rw [UInt8.toNat_ofNat']
        omega
      simp only [List.cons_append, List.nil_append, hround, List.getElem?_eq_getElem hlt,
        List.getElem_idxOf]

/-- Unsigned 16-bit integers, little-endian. -/
def u16 : Codec UInt16 :=
  (bytes 2).iso (fun b => UInt16.ofNat (leDecode b.bytes))
    (fun n => ⟨leEncode 2 n.toNat, length_leEncode _ _⟩)
    (fun n => by
      have hn : n.toNat < 2 ^ 16 := n.toNat_lt
      rw [leDecode_leEncode_of_lt _ _ (by omega), UInt16.ofNat_toNat])
    (fun b => by
      have hb := leDecode_lt b.bytes
      have hround := leEncode_leDecode b.bytes
      rw [b.size] at hb hround
      apply FixedBytes.ext
      rw [UInt16.toNat_ofNat_of_lt' (lt_of_lt_of_eq hb (by decide))]
      exact hround)

/-- Unsigned 32-bit integers, little-endian. -/
def u32 : Codec UInt32 :=
  (bytes 4).iso (fun b => UInt32.ofNat (leDecode b.bytes))
    (fun n => ⟨leEncode 4 n.toNat, length_leEncode _ _⟩)
    (fun n => by
      have hn : n.toNat < 2 ^ 32 := n.toNat_lt
      rw [leDecode_leEncode_of_lt _ _ (by omega), UInt32.ofNat_toNat])
    (fun b => by
      have hb := leDecode_lt b.bytes
      have hround := leEncode_leDecode b.bytes
      rw [b.size] at hb hround
      apply FixedBytes.ext
      rw [UInt32.toNat_ofNat_of_lt' (lt_of_lt_of_eq hb (by decide))]
      exact hround)

/-- Unsigned 64-bit integers, little-endian. -/
def u64 : Codec UInt64 :=
  (bytes 8).iso (fun b => UInt64.ofNat (leDecode b.bytes))
    (fun n => ⟨leEncode 8 n.toNat, length_leEncode _ _⟩)
    (fun n => by
      have hn : n.toNat < 2 ^ 64 := n.toNat_lt
      rw [leDecode_leEncode_of_lt _ _ (by omega), UInt64.ofNat_toNat])
    (fun b => by
      have hb := leDecode_lt b.bytes
      have hround := leEncode_leDecode b.bytes
      rw [b.size] at hb hround
      apply FixedBytes.ext
      rw [UInt64.toNat_ofNat_of_lt' (lt_of_lt_of_eq hb (by decide))]
      exact hround)

/-- Signed 64-bit integers, little-endian two's complement. -/
def i64 : Codec Int64 :=
  u64.iso UInt64.toInt64 Int64.toUInt64 Int64.toInt64_toUInt64 UInt64.toUInt64_toInt64

end Codec

/-- Write `bs` over the front of `data`, leaving the tail as it was. -/
def overwrite (bs data : List UInt8) : List UInt8 := bs ++ data.drop bs.length

theorem length_overwrite (bs data : List UInt8) (h : bs.length ≤ data.length) :
    (overwrite bs data).length = data.length := by
  rw [overwrite, List.length_append, List.length_drop]
  omega

/-- A value written over the bytes it was read from leaves them. -/
theorem Codec.overwrite_encode {α : Type} (c : Codec α) (x : α) (rest : List UInt8) :
    overwrite (c.encode x) (c.encode x ++ rest) = c.encode x ++ rest := by
  rw [overwrite, List.drop_left' rfl]

end Borsh
