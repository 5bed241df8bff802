import EntrosVoterWeight.Borsh.Codec
import Mathlib.Order.Bounds.Basic

/-!
# Sizes of Encodings

How much room an encoding takes, and which bytes a decoder accepts at all.

A codec is `Fixed` when all its encodings have one length and every string of
that length is one of them. Arrays and integers are, and so is whatever is
put together from them. Such a part tells a reader nothing but where the next
part begins, which is what `accepts_skip` says. The first thing that can be
refused is a tag, and `accepts_option` reads off one byte what becomes of the
rest. Between the two, whether foreign bytes are accepted is a question about
the few of them that fall on tags.

Where there are options the encodings have different lengths. `Longest` is
the length of the longest, and it adds up along the combinators, so a
hand-counted sum of field widths can be compared with it term by term.

## Main definitions

* `Codec.Accepts`: Some value is decoded from the front of a byte string.
* `Codec.Fixed`: Encodings of one length, and every string of that length.
* `Codec.Longest`: The length of the longest encoding.

## Theorems

* `accepts_fixed`: A fixed codec accepts whatever is long enough.
* `accepts_skip`: What a fixed part holds does not matter.
* `accepts_option`: The tag decides what an option reads.
* `longest_prod`, `longest_option`: The longest encoding of a combination.
-/

namespace Borsh

namespace Codec

variable {α β : Type}

/-- Some value is decoded from the front of the bytes. -/
def Accepts (c : Codec α) (bs : List UInt8) : Prop :=
  ∃ x rest, bs = c.encode x ++ rest

/-- Every encoding has `n` bytes, and every `n` bytes are an encoding. -/
structure Fixed (c : Codec α) (n : Nat) : Prop where
  length : ∀ x, (c.encode x).length = n
  total : ∀ bs : List UInt8, bs.length = n → ∃ x, c.encode x = bs

/-- The length of the longest encoding. -/
def Longest (c : Codec α) (n : Nat) : Prop :=
  IsGreatest (Set.range fun x => (c.encode x).length) n

@[simp] theorem encode_prod (c : Codec α) (d : Codec β) (p : α × β) :
    (c.prod d).encode p = c.encode p.1 ++ d.encode p.2 :=
  rfl

@[simp] theorem encode_iso (c : Codec α) (f : α → β) (g : β → α) (hfg : ∀ y, f (g y) = y)
    (hgf : ∀ x, g (f x) = x) (y : β) : (c.iso f g hfg hgf).encode y = c.encode (g y) :=
  rfl

@[simp] theorem encode_option_none (c : Codec α) : c.option.encode none = [0] :=
  rfl

@[simp] theorem encode_option_some (c : Codec α) (x : α) :
    c.option.encode (some x) = 1 :: c.encode x :=
  rfl

/-! ### Fixed parts -/

theorem fixed_bytes (n : Nat) : (bytes n).Fixed n where
  length x := x.size
  total bs h := ⟨⟨bs, h⟩, rfl⟩

theorem fixed_iso (c : Codec α) (f : α → β) (g : β → α) (hfg : ∀ y, f (g y) = y)
    (hgf : ∀ x, g (f x) = x) (n : Nat) (hc : c.Fixed n) : (c.iso f g hfg hgf).Fixed n where
  length y := hc.length (g y)
  total bs h := by
    rcases hc.total bs h with ⟨x, hx⟩
    refine ⟨f x, ?_⟩
    rw [encode_iso, hgf, hx]

theorem fixed_prod (c : Codec α) (d : Codec β) (m n : Nat) (hc : c.Fixed m) (hd : d.Fixed n) :
    (c.prod d).Fixed (m + n) where
  length p := by
    rw [encode_prod, List.length_append, hc.length, hd.length]
  total bs h := by
    -- The first part takes the first bytes, the second what is left.
    rcases hc.total (bs.take m) (List.length_take_of_le (by omega)) with ⟨x, hx⟩
    rcases hd.total (bs.drop m) (by rw [List.length_drop]; omega) with ⟨y, hy⟩
    refine ⟨(x, y), ?_⟩
    rw [encode_prod, hx, hy, List.take_append_drop]

theorem fixed_u16 : u16.Fixed 2 := fixed_iso _ _ _ _ _ _ (fixed_bytes 2)

theorem fixed_u32 : u32.Fixed 4 := fixed_iso _ _ _ _ _ _ (fixed_bytes 4)

theorem fixed_u64 : u64.Fixed 8 := fixed_iso _ _ _ _ _ _ (fixed_bytes 8)

theorem fixed_i64 : i64.Fixed 8 := fixed_iso _ _ _ _ _ _ fixed_u64

/-! ### Acceptance -/

/-- More bytes behind what was accepted make no difference. -/
theorem accepts_append (c : Codec α) (bs rest : List UInt8) (h : c.Accepts bs) :
    c.Accepts (bs ++ rest) := by
  rcases h with ⟨x, tail, rfl⟩
  exact ⟨x, tail ++ rest, List.append_assoc _ _ _⟩

theorem accepts_iso (c : Codec α) (f : α → β) (g : β → α) (hfg : ∀ y, f (g y) = y)
    (hgf : ∀ x, g (f x) = x) (bs : List UInt8) : (c.iso f g hfg hgf).Accepts bs ↔ c.Accepts bs := by
  constructor
  · intro h
    rcases h with ⟨y, rest, rfl⟩
    exact ⟨g y, rest, rfl⟩
  · intro h
    rcases h with ⟨x, rest, rfl⟩
    refine ⟨f x, rest, ?_⟩
    rw [encode_iso, hgf]

theorem accepts_fixed (c : Codec α) (n : Nat) (hc : c.Fixed n) (bs : List UInt8) :
    c.Accepts bs ↔ n ≤ bs.length := by
  constructor
  · intro h
    rcases h with ⟨x, rest, rfl⟩
    rw [List.length_append, hc.length]
    omega
  · intro h
    rcases hc.total (bs.take n) (List.length_take_of_le h) with ⟨x, hx⟩
    exact ⟨x, bs.drop n, by rw [hx, List.take_append_drop]⟩

/-- Behind a fixed part a decoder goes on, whatever the part holds. -/
theorem accepts_skip (c : Codec α) (d : Codec β) (n : Nat) (hc : c.Fixed n) (s t : List UInt8)
    (hs : s.length = n) : (c.prod d).Accepts (s ++ t) ↔ d.Accepts t := by
  constructor
  · intro h
    rcases h with ⟨⟨x, y⟩, rest, heq⟩
    rw [encode_prod, List.append_assoc] at heq
    -- Both first parts have the length of the fixed part.
    rcases List.append_inj heq (by rw [hs, hc.length]) with ⟨_, ht⟩
    exact ⟨y, rest, ht⟩
  · intro h
    rcases h with ⟨y, rest, rfl⟩
    rcases hc.total s hs with ⟨x, rfl⟩
    exact ⟨(x, y), rest, by rw [encode_prod, List.append_assoc]⟩

/-- A tag of zero is passed over, behind a tag of one the value has to be
    there, and any other tag is refused. -/
theorem accepts_option (c : Codec α) (d : Codec β) (t : UInt8) (bs : List UInt8) :
    (c.option.prod d).Accepts (t :: bs) ↔
      (t = 0 ∧ d.Accepts bs) ∨ (t = 1 ∧ (c.prod d).Accepts bs) := by
  constructor
  · intro h
    rcases h with ⟨⟨x, y⟩, rest, heq⟩
    cases x with
    | none =>
        simp only [encode_prod, encode_option_none, List.cons_append, List.nil_append,
          List.cons.injEq] at heq
        exact Or.inl ⟨heq.1, y, rest, heq.2⟩
    | some x =>
        simp only [encode_prod, encode_option_some, List.cons_append, List.append_assoc,
          List.cons.injEq] at heq
        exact Or.inr ⟨heq.1, (x, y), rest, by rw [heq.2, encode_prod, List.append_assoc]⟩
  · intro h
    rcases h with ⟨rfl, y, rest, rfl⟩ | ⟨rfl, ⟨x, y⟩, rest, rfl⟩
    · exact ⟨(none, y), rest, rfl⟩
    · exact ⟨(some x, y), rest, rfl⟩

/-! ### The longest encoding -/

theorem longest_fixed (c : Codec α) (n : Nat) (hc : c.Fixed n) : c.Longest n := by
  constructor
  · rcases hc.total (List.replicate n 0) List.length_replicate with ⟨x, _⟩
    exact ⟨x, hc.length x⟩
  · intro k hk
    rcases hk with ⟨x, rfl⟩
    exact (hc.length x).le

theorem longest_bytes (n : Nat) : (bytes n).Longest n := longest_fixed _ _ (fixed_bytes n)

theorem longest_u64 : u64.Longest 8 := longest_fixed _ _ fixed_u64

theorem longest_iso (c : Codec α) (f : α → β) (g : β → α) (hfg : ∀ y, f (g y) = y)
    (hgf : ∀ x, g (f x) = x) (n : Nat) (hc : c.Longest n) : (c.iso f g hfg hgf).Longest n := by
  rcases hc with ⟨⟨x, hx⟩, hub⟩
  constructor
  · refine ⟨f x, ?_⟩
    simp only [encode_iso, hgf]
    exact hx
  · intro k hk
    rcases hk with ⟨y, rfl⟩
    exact hub ⟨g y, rfl⟩

theorem longest_prod (c : Codec α) (d : Codec β) (m n : Nat) (hc : c.Longest m)
    (hd : d.Longest n) : (c.prod d).Longest (m + n) := by
  rcases hc with ⟨⟨x, hx⟩, hcub⟩
  rcases hd with ⟨⟨y, hy⟩, hdub⟩
  simp only at hx hy
  constructor
  · -- Both parts can be longest at once.
    refine ⟨(x, y), ?_⟩
    simp only [encode_prod, List.length_append, hx, hy]
  · intro k hk
    rcases hk with ⟨p, rfl⟩
    simp only [encode_prod, List.length_append]
    exact Nat.add_le_add (hcub ⟨p.1, rfl⟩) (hdub ⟨p.2, rfl⟩)

theorem longest_option (c : Codec α) (n : Nat) (hc : c.Longest n) : c.option.Longest (n + 1) := by
  rcases hc with ⟨⟨x, hx⟩, hub⟩
  simp only at hx
  constructor
  · refine ⟨some x, ?_⟩
    simp only [encode_option_some, List.length_cons, hx]
  · intro k hk
    rcases hk with ⟨y, rfl⟩
    cases y with
    | none =>
        simp only [encode_option_none, List.length_cons, List.length_nil]
        omega
    | some y =>
        simp only [encode_option_some, List.length_cons]
        exact Nat.succ_le_succ (hub ⟨y, rfl⟩)

theorem longest_tag [DecidableEq α] (names : List α) (hmem : ∀ x, x ∈ names)
    (hnodup : names.Nodup) (hsize : names.length ≤ 256) (x : α) :
    (tag names hmem hnodup hsize).Longest 1 := by
  constructor
  · exact ⟨x, rfl⟩
  · intro k hk
    rcases hk with ⟨y, rfl⟩
    exact Nat.le_refl 1

end Codec

end Borsh
