import Mathlib.Data.List.Basic

/-!
# SHA-256

The hash function, over lists of bytes.

A message is padded to whole blocks of sixty-four bytes, each block is read as
sixteen big-endian words and stretched to sixty-four, and the blocks are
folded into a chain of eight words, one round per stretched word. All of it
computes, so a digest that a program has as a constant can be compared with
the digest of the text it is said to come from.

## Main definitions

* `pad`: The message in whole blocks.
* `schedule`: A block stretched to one word per round.
* `compress`: The chain after one more block.
* `sha256`: The digest of a message.

## Theorems

* `length_sha256`: A digest has thirty-two bytes.
-/

namespace Hash

/-- The eight words passed from block to block. -/
structure Chain where
  a : UInt32
  b : UInt32
  c : UInt32
  d : UInt32
  e : UInt32
  f : UInt32
  g : UInt32
  h : UInt32

/-- The first thirty-two bits of the fractional parts of the square roots of
    the first eight primes. -/
def Chain.initial : Chain where
  a := 0x6a09e667
  b := 0xbb67ae85
  c := 0x3c6ef372
  d := 0xa54ff53a
  e := 0x510e527f
  f := 0x9b05688c
  g := 0x1f83d9ab
  h := 0x5be0cd19

/-- The same of the cube roots of the first sixty-four, one per round. -/
def roundConstants : List UInt32 := [
  0x428a2f98, 0x71374491, 0xb5c0fbcf, 0xe9b5dba5, 0x3956c25b, 0x59f111f1, 0x923f82a4, 0xab1c5ed5,
  0xd807aa98, 0x12835b01, 0x243185be, 0x550c7dc3, 0x72be5d74, 0x80deb1fe, 0x9bdc06a7, 0xc19bf174,
  0xe49b69c1, 0xefbe4786, 0x0fc19dc6, 0x240ca1cc, 0x2de92c6f, 0x4a7484aa, 0x5cb0a9dc, 0x76f988da,
  0x983e5152, 0xa831c66d, 0xb00327c8, 0xbf597fc7, 0xc6e00bf3, 0xd5a79147, 0x06ca6351, 0x14292967,
  0x27b70a85, 0x2e1b2138, 0x4d2c6dfc, 0x53380d13, 0x650a7354, 0x766a0abb, 0x81c2c92e, 0x92722c85,
  0xa2bfe8a1, 0xa81a664b, 0xc24b8b70, 0xc76c51a3, 0xd192e819, 0xd6990624, 0xf40e3585, 0x106aa070,
  0x19a4c116, 0x1e376c08, 0x2748774c, 0x34b0bcb5, 0x391c0cb3, 0x4ed8aa4a, 0x5b9cca4f, 0x682e6ff3,
  0x748f82ee, 0x78a5636f, 0x84c87814, 0x8cc70208, 0x90befffa, 0xa4506ceb, 0xbef9a3f7, 0xc67178f2]

/-- Rotation to the right. -/
def rotr (n : UInt32) (x : UInt32) : UInt32 := x >>> n ||| x <<< (32 - n)

/-- One round, with a constant and a word of the schedule. -/
def Chain.round (s : Chain) (k w : UInt32) : Chain :=
  let s1 := rotr 6 s.e ^^^ rotr 11 s.e ^^^ rotr 25 s.e
  let ch := s.e &&& s.f ^^^ ~~~s.e &&& s.g
  let t1 := s.h + s1 + ch + k + w
  let s0 := rotr 2 s.a ^^^ rotr 13 s.a ^^^ rotr 22 s.a
  let maj := s.a &&& s.b ^^^ s.a &&& s.c ^^^ s.b &&& s.c
  ⟨t1 + (s0 + maj), s.a, s.b, s.c, s.d + t1, s.e, s.f, s.g⟩

def Chain.rounds : Chain → List UInt32 → List UInt32 → Chain
  | s, k :: ks, w :: ws => Chain.rounds (s.round k w) ks ws
  | s, _, _ => s

/-- Further words of a schedule, given the words so far with the newest
    first. -/
def stretch : Nat → List UInt32 → List UInt32
  | 0, ws => ws
  | n + 1, ws =>
    let w2 := ws.getD 1 0
    let w15 := ws.getD 14 0
    let s0 := rotr 7 w15 ^^^ rotr 18 w15 ^^^ w15 >>> 3
    let s1 := rotr 17 w2 ^^^ rotr 19 w2 ^^^ w2 >>> 10
    stretch n ((ws.getD 15 0 + s0 + ws.getD 6 0 + s1) :: ws)

/-- Big-endian words. -/
def words : List UInt8 → List UInt32
  | a :: b :: c :: d :: bs =>
    (a.toUInt32 <<< 24 ||| b.toUInt32 <<< 16 ||| c.toUInt32 <<< 8 ||| d.toUInt32) :: words bs
  | _ => []

/-- A block's sixteen words, and forty-eight more. -/
def schedule (block : List UInt8) : List UInt32 := (stretch 48 (words block).reverse).reverse

/-- The chain after one more block. -/
def compress (s : Chain) (block : List UInt8) : Chain :=
  let t := s.rounds roundConstants (schedule block)
  ⟨s.a + t.a, s.b + t.b, s.c + t.c, s.d + t.d, s.e + t.e, s.f + t.f, s.g + t.g, s.h + t.h⟩

/-- The big-endian bytes of a number, in a width. -/
def beBytes : Nat → Nat → List UInt8
  | 0, _ => []
  | k + 1, n => beBytes k (n / 256) ++ [UInt8.ofNat n]

/-- How many zeros fill the last block of a message of `n` bytes. -/
def padZeros (n : Nat) : Nat := (119 - n % 64) % 64

/-- The message, a one bit, zeros, and the length in bits. -/
def pad (msg : List UInt8) : List UInt8 :=
  msg ++ 0x80 :: (List.replicate (padZeros msg.length) 0 ++ beBytes 8 (8 * msg.length))

/-- Fold `n` blocks into the chain. -/
def absorb : Nat → Chain → List UInt8 → Chain
  | 0, s, _ => s
  | n + 1, s, bs => absorb n (compress s (bs.take 64)) (bs.drop 64)

/-- A word's bytes, the highest first. -/
def wordBytes (x : UInt32) : List UInt8 :=
  [(x >>> 24).toUInt8, (x >>> 16).toUInt8, (x >>> 8).toUInt8, x.toUInt8]

def Chain.bytes (s : Chain) : List UInt8 :=
  wordBytes s.a ++ wordBytes s.b ++ wordBytes s.c ++ wordBytes s.d ++ wordBytes s.e ++
    wordBytes s.f ++ wordBytes s.g ++ wordBytes s.h

/-- The digest of a message. -/
def sha256 (msg : List UInt8) : List UInt8 :=
  (absorb ((pad msg).length / 64) .initial (pad msg)).bytes

example : (sha256 [97, 98, 99]).take 4 = [0xba, 0x78, 0x16, 0xbf] := by decide +kernel

/-- A digest has thirty-two bytes. -/
theorem length_sha256 (msg : List UInt8) : (sha256 msg).length = 32 := rfl

end Hash
