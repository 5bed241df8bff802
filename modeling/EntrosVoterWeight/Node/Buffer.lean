import EntrosVoterWeight.Borsh.Codec

/-!
# Node Buffers

Fixed-size byte buffers, as client code fills and reads them.

A buffer is allocated with zeros and never grows. Copying another buffer into
it stops at its end without complaint. Numbers are written little-endian at an
offset, and a number outside the range of its width, or an offset that leaves
no room, is an error, for which `none` stands here.

Client code fills a buffer from front to back. `copy_fill` and `write_fill`
are the two steps: what has been written so far stays, the new bytes come
behind it, and zeros are left of the rest. `read_at` is the way back.

## Main definitions

* `alloc`, `copy`: An empty buffer, and another one's bytes in it.
* `writeUInt16LE`, `writeUInt32LE`, `writeBigInt64LE`, `writeBigUInt64LE`:
  Numbers.
* `readUInt8`, `readUInt16LE`, `readBigUInt64LE`, `readBigInt64LE`: The same
  read.
* `slice`: A piece of a buffer.

## Theorems

* `copy_fill`, `write_fill`: One more piece of a buffer that is filled in
  order.
* `read_at`, `slice_at`: A number and a piece, read where they were written.
* `leEncode_u16`, `leEncode_u32`, `leEncode_u64`, `leEncode_i64`: A number
  written is the encoding of the number of that width.
-/

namespace Node

open Borsh

abbrev Buffer := List UInt8

/-- Zeros. -/
def alloc (size : Nat) : Buffer := List.replicate size 0

/-- Bytes put over those from an offset on. -/
def put (data : Buffer) (offset : Nat) (bytes : List UInt8) : Buffer :=
  data.take offset ++ (bytes ++ data.drop (offset + bytes.length))

/-- As much of `source` as there is room for. -/
def copy (source data : Buffer) (offset : Nat) : Buffer :=
  put data offset (source.take (data.length - offset))

/-- A number in `k` bytes, if it is in the range from `lo` to `hi` and there
    is room. -/
def writeLE (k : Nat) (lo hi value : Int) (data : Buffer) (offset : Nat) : Option Buffer :=
  if lo ≤ value ∧ value < hi ∧ offset + k ≤ data.length then
    some (put data offset (leEncode k (value % 256 ^ k).toNat))
  else none

def writeUInt16LE (data : Buffer) (value : Int) (offset : Nat) : Option Buffer :=
  writeLE 2 0 (2 ^ 16) value data offset

def writeUInt32LE (data : Buffer) (value : Int) (offset : Nat) : Option Buffer :=
  writeLE 4 0 (2 ^ 32) value data offset

def writeBigInt64LE (data : Buffer) (value : Int) (offset : Nat) : Option Buffer :=
  writeLE 8 (-2 ^ 63) (2 ^ 63) value data offset

def writeBigUInt64LE (data : Buffer) (value : Int) (offset : Nat) : Option Buffer :=
  writeLE 8 0 (2 ^ 64) value data offset

/-- A number of `k` bytes. -/
def readLE (k : Nat) (data : Buffer) (offset : Nat) : Option Nat :=
  if offset + k ≤ data.length then some (leDecode ((data.drop offset).take k)) else none

def readUInt8 (data : Buffer) (offset : Nat) : Option Nat := readLE 1 data offset

def readUInt16LE (data : Buffer) (offset : Nat) : Option Nat := readLE 2 data offset

def readBigUInt64LE (data : Buffer) (offset : Nat) : Option Nat := readLE 8 data offset

/-- Two's complement. -/
def readBigInt64LE (data : Buffer) (offset : Nat) : Option Int :=
  (readLE 8 data offset).map fun n : Nat => if n < 2 ^ 63 then (n : Int) else (n : Int) - 2 ^ 64

/-- The bytes between two offsets. -/
def slice (data : Buffer) (start stop : Nat) : Buffer := (data.take stop).drop start

/-! ### Filling a buffer -/

/-- Bytes put behind what was written take the place of zeros. -/
theorem put_fill (written bytes : List UInt8) (n : Nat) :
    put (written ++ List.replicate (bytes.length + n) 0) written.length bytes =
      written ++ bytes ++ List.replicate n 0 := by
  rw [put, List.take_left, ← List.drop_drop, List.drop_left, List.drop_replicate,
    Nat.add_sub_cancel_left, List.append_assoc]

/-- A buffer copied behind what was written. -/
theorem copy_fill (written source : List UInt8) (offset k n : Nat) (hk : source.length = k)
    (hoffset : written.length = offset) :
    copy source (written ++ List.replicate (k + n) 0) offset =
      written ++ source ++ List.replicate n 0 := by
  subst hk
  subst hoffset
  have hfits : source.take ((written ++ List.replicate (source.length + n) 0).length -
      written.length) = source := by
    refine List.take_of_length_le ?_
    rw [List.length_append, List.length_replicate]
    omega
  rw [copy, hfits, put_fill]

/-- A number in range, written behind what was written. -/
theorem write_fill (k : Nat) (lo hi value : Int) (written : List UInt8) (offset n : Nat)
    (hlo : lo ≤ value) (hhi : value < hi) (hoffset : written.length = offset) :
    writeLE k lo hi value (written ++ List.replicate (k + n) 0) offset =
      some (written ++ leEncode k (value % 256 ^ k).toNat ++ List.replicate n 0) := by
  subst hoffset
  have hput := put_fill written (leEncode k (value % 256 ^ k).toNat) n
  rw [length_leEncode] at hput
  have hroom : written.length + k ≤ (written ++ List.replicate (k + n) (0 : UInt8)).length := by
    rw [List.length_append, List.length_replicate]
    omega
  rw [writeLE, if_pos ⟨hlo, hhi, hroom⟩, hput]

/-- A number out of range is not written. -/
theorem write_range (k : Nat) (lo hi value : Int) (data : Buffer) (offset : Nat)
    (h : ¬ (lo ≤ value ∧ value < hi)) : writeLE k lo hi value data offset = none := by
  rw [writeLE, if_neg (fun hr => h ⟨hr.1, hr.2.1⟩)]

/-! ### Reading one -/

/-- A number is read where it is. -/
theorem read_at (k n offset : Nat) (before after : List UInt8) (hoffset : before.length = offset)
    (hn : n < 256 ^ k) :
    readLE k (before ++ (leEncode k n ++ after)) offset = some n := by
  subst hoffset
  rw [readLE, if_pos ?_, List.drop_left, List.take_left' (length_leEncode k n),
    leDecode_leEncode_of_lt k n hn]
  rw [List.length_append, List.length_append, length_leEncode]
  omega

/-- So is a signed one. -/
theorem readBigInt64LE_at (x : Int64) (offset : Nat) (before after : List UInt8)
    (hoffset : before.length = offset) :
    readBigInt64LE (before ++ (Codec.i64.encode x ++ after)) offset = some x.toInt := by
  have hword : Codec.i64.encode x = leEncode 8 x.toUInt64.toNat := rfl
  have hlt := x.toUInt64.toNat_lt
  rw [readBigInt64LE, hword, read_at 8 _ offset before after hoffset (by omega), Option.map_some,
    Option.some.injEq]
  have hint : x.toInt = if 2 * x.toUInt64.toNat < 2 ^ 64 then (x.toUInt64.toNat : Int)
      else (x.toUInt64.toNat : Int) - (2 ^ 64 : Nat) := BitVec.toInt_eq_toNat_cond x.toBitVec
  rw [hint]
  by_cases hneg : x.toUInt64.toNat < 2 ^ 63
  · rw [if_pos hneg, if_pos (by omega)]
  · rw [if_neg hneg, if_neg (by omega)]
    norm_cast

/-- A 64-bit number is read where it was encoded. -/
theorem readBigUInt64LE_at (x : UInt64) (offset : Nat) (before after : List UInt8)
    (hoffset : before.length = offset) :
    readBigUInt64LE (before ++ (Codec.u64.encode x ++ after)) offset = some x.toNat := by
  have hlt := x.toNat_lt
  exact read_at 8 x.toNat offset before after hoffset (by omega)

/-- So is a 16-bit one. -/
theorem readUInt16LE_at (x : UInt16) (offset : Nat) (before after : List UInt8)
    (hoffset : before.length = offset) :
    readUInt16LE (before ++ (Codec.u16.encode x ++ after)) offset = some x.toNat := by
  have hlt := x.toNat_lt
  exact read_at 2 x.toNat offset before after hoffset (by omega)

/-- A byte is read where it is. -/
theorem readUInt8_at (b : UInt8) (offset : Nat) (before after : List UInt8)
    (hoffset : before.length = offset) :
    readUInt8 (before ++ (b :: after)) offset = some b.toNat := by
  have hlt := b.toNat_lt
  have hread := read_at 1 b.toNat offset before after hoffset (by omega)
  rw [leEncode, leEncode, UInt8.ofNat_toNat] at hread
  exact hread

/-- A piece is where it is. -/
theorem slice_at (before piece after : List UInt8) (start stop : Nat)
    (hstart : before.length = start) (hstop : start + piece.length = stop) :
    slice (before ++ (piece ++ after)) start stop = piece := by
  subst hstart
  subst hstop
  rw [slice, ← List.append_assoc, List.take_left' (List.length_append), List.drop_left]

/-! ### Numbers of a fixed width -/

/-- A 16-bit number written is the number's encoding. -/
theorem leEncode_u16 (value : Int) (hlo : 0 ≤ value) (hhi : value < 2 ^ 16) :
    leEncode 2 (value % 256 ^ 2).toNat = Codec.u16.encode (UInt16.ofNat value.toNat) := by
  have hn : (value % 256 ^ 2).toNat = (UInt16.ofNat value.toNat).toNat := by
    rw [UInt16.toNat_ofNat_of_lt' (show value.toNat < 2 ^ 16 by omega),
      Int.emod_eq_of_lt hlo (by omega)]
  rw [hn]
  rfl

/-- The same of 32 bits. -/
theorem leEncode_u32 (value : Int) (hlo : 0 ≤ value) (hhi : value < 2 ^ 32) :
    leEncode 4 (value % 256 ^ 4).toNat = Codec.u32.encode (UInt32.ofNat value.toNat) := by
  have hn : (value % 256 ^ 4).toNat = (UInt32.ofNat value.toNat).toNat := by
    rw [UInt32.toNat_ofNat_of_lt' (show value.toNat < 2 ^ 32 by omega),
      Int.emod_eq_of_lt hlo (by omega)]
  rw [hn]
  rfl

/-- The same of 64 bits without sign. -/
theorem leEncode_u64 (value : Int) (hlo : 0 ≤ value) (hhi : value < 2 ^ 64) :
    leEncode 8 (value % 256 ^ 8).toNat = Codec.u64.encode (UInt64.ofNat value.toNat) := by
  have hn : (value % 256 ^ 8).toNat = (UInt64.ofNat value.toNat).toNat := by
    rw [UInt64.toNat_ofNat_of_lt' (show value.toNat < 2 ^ 64 by omega),
      Int.emod_eq_of_lt hlo (by omega)]
  rw [hn]
  rfl

/-- The same with a sign, in two's complement. -/
theorem leEncode_i64 (value : Int) :
    leEncode 8 (value % 256 ^ 8).toNat = Codec.i64.encode (Int64.ofInt value) := by
  have hbits : (Int64.ofInt value).toUInt64.toNat = (value % ((2 ^ 64 : Nat) : Int)).toNat :=
    BitVec.toNat_ofInt value
  have hpow : ((2 ^ 64 : Nat) : Int) = 256 ^ 8 := by norm_num
  rw [← hpow, ← hbits]
  rfl

end Node
