import EntrosVoterWeight.Instructions.MaxVoterWeightRecord

/-!
# One Kind's Bytes under Another Kind's Loader

Three kinds of account share one owner, and two of the three loaders compare
no discriminator. This module settles what each loader makes of the bytes of
every kind, and what is left of them after a write through the wrong one.

A registrar's loader compares its discriminator, so the question is about the
two records. Read as either of them, a registrar has its governance program
where the record has its realm, and its realm where the record has its mint:
the fields are shifted by one key. Zeros read as a record of the zero realm.
A max voter weight record is too short to be a voter weight record. The other
way round nothing is too short, and the first three fields of a voter weight
record are those of a max voter weight record: whether it loads depends on
one byte of the owner's key, and the write then lands on the first seventeen
bytes of that key and nowhere else.

## Main definitions

* `VoterWeightRecord.tail`: The encoding behind the four leading fields.

## Theorems

* `registrar_loads_iff`, `voterWeightRecord_loads_iff`,
  `maxVoterWeightRecord_loads_iff`: What each loader accepts.
* `key_of_registrar`: The key a record's loader finds first in a registrar.
* `voter_of_registrar`, `max_of_registrar`: A registrar read as a record.
* `voter_of_zeros`, `max_of_zeros`: Zeros read as a record.
* `voter_of_short`: Ninety-seven bytes are no voter weight record.
* `max_of_voter`: A voter weight record read as a max voter weight record.
* `overwrite_max_voter`: What the write through that reading leaves.
-/

namespace EntrosVoterWeight

open Borsh Anchor

/-- The encoding behind the four leading fields. -/
def VoterWeightRecord.tail (r : VoterWeightRecord) : List UInt8 :=
  Codec.u64.encode r.voterWeight ++ (Codec.u64.option.encode r.voterWeightExpiry ++
    (VoterWeightAction.codec.option.encode r.weightAction ++
      ((Codec.bytes 32).option.encode r.weightActionTarget ++ r.reserved.bytes)))

theorem encode_voterWeightRecord (r : VoterWeightRecord) :
    VoterWeightRecord.codec.encode r = r.accountDiscriminator.bytes ++ (r.realm.bytes ++
      (r.governingTokenMint.bytes ++ (r.governingTokenOwner.bytes ++ r.tail))) :=
  rfl

theorem encode_maxVoterWeightRecord (r : MaxVoterWeightRecord) :
    MaxVoterWeightRecord.codec.encode r = r.accountDiscriminator.bytes ++ (r.realm.bytes ++
      (r.governingTokenMint.bytes ++ (Codec.u64.encode r.maxVoterWeight ++
        (Codec.u64.option.encode r.maxVoterWeightExpiry ++ r.reserved.bytes)))) :=
  rfl

theorem encode_registrar (r : Registrar) :
    AccountSerialize.trySerialize r = Registrar.discriminator.bytes ++
      (r.governanceProgramId.bytes ++ (r.realm.bytes ++ (r.governingTokenMint.bytes ++
        (Codec.u16.encode r.minTrustScore ++ (Codec.i64.encode r.maxVerificationAge ++
          r.reserved.bytes))))) :=
  rfl

/-- Two byte strings that start with arrays of one size and agree, agree on
    the arrays and behind them. -/
theorem bytes_append_inj {n : Nat} (x y : FixedBytes n) (s t : List UInt8)
    (h : x.bytes ++ s = y.bytes ++ t) : x = y ∧ s = t :=
  (Codec.bytes n).encode_append_inj x y s t h

/-- No voter weight record is shorter than 123 bytes. -/
theorem length_voterWeightRecord_ge (r : VoterWeightRecord) :
    123 ≤ (VoterWeightRecord.codec.encode r).length := by
  have hexpiry := Codec.u64.length_option_pos r.voterWeightExpiry
  have haction := VoterWeightAction.codec.length_option_pos r.weightAction
  have htarget := (Codec.bytes 32).length_option_pos r.weightActionTarget
  have hweight : (Codec.u64.encode r.voterWeight).length = 8 := length_leEncode _ _
  simp only [encode_voterWeightRecord, VoterWeightRecord.tail, List.length_append,
    FixedBytes.length_bytes, hweight]
  omega

/-! ### What each loader accepts -/

theorem voterWeightRecord_loads_iff (data : List UInt8) (r : VoterWeightRecord) :
    AccountDeserialize.tryDeserialize data = .ok r ↔
      ∃ rest, data = VoterWeightRecord.codec.encode r ++ rest := by
  refine VoterWeightRecord.codec.reads_iff _ ErrorCode.accountDidNotDeserialize data r ?_
  simp only [AccountDeserialize.tryDeserialize]
  cases VoterWeightRecord.codec.decode data with
  | none => rfl
  | some p => rfl

theorem maxVoterWeightRecord_loads_iff (data : List UInt8) (r : MaxVoterWeightRecord) :
    AccountDeserialize.tryDeserialize data = .ok r ↔
      ∃ rest, data = MaxVoterWeightRecord.codec.encode r ++ rest := by
  refine MaxVoterWeightRecord.codec.reads_iff _ ErrorCode.accountDidNotDeserialize data r ?_
  simp only [AccountDeserialize.tryDeserialize]
  cases MaxVoterWeightRecord.codec.decode data with
  | none => rfl
  | some p => rfl

/-- The registrar's loader is the only one that compares a discriminator. -/
theorem registrar_loads_iff (data : List UInt8) (r : Registrar) :
    AccountDeserialize.tryDeserialize data = .ok r ↔
      ∃ rest, data = AccountSerialize.trySerialize r ++ rest := by
  simp only [AccountDeserialize.tryDeserialize, AccountSerialize.trySerialize]
  constructor
  · intro h
    -- Refused if too short or without the discriminator, decoded otherwise.
    by_cases hlen : data.length < 8
    · simp only [if_pos hlen, reduceCtorEq] at h
    · by_cases hdisc : data.take 8 = Registrar.discriminator.bytes
      · simp only [if_neg hlen, hdisc, ne_eq, not_true_eq_false, if_false] at h
        have hread : ∃ rest, data.drop 8 = Registrar.codec.encode r ++ rest := by
          refine (Registrar.codec.reads_iff _ ErrorCode.accountDidNotDeserialize _ r ?_).mp h
          cases Registrar.codec.decode (data.drop 8) with
          | none => rfl
          | some p => rfl
        rcases hread with ⟨rest, hrest⟩
        refine ⟨rest, ?_⟩
        rw [List.append_assoc, ← hrest, ← hdisc, List.take_append_drop]
      · simp only [if_neg hlen, ne_eq, hdisc, not_false_eq_true, if_true, reduceCtorEq] at h
  · intro h
    rcases h with ⟨rest, rfl⟩
    have hlen :
        ¬ (Registrar.discriminator.bytes ++ Registrar.codec.encode r ++ rest).length < 8 := by
      simp only [List.length_append, FixedBytes.length_bytes]
      omega
    rw [if_neg hlen, List.append_assoc, List.take_left' Registrar.discriminator.size,
      List.drop_left' Registrar.discriminator.size]
    simp only [ne_eq, not_true_eq_false, if_false, Codec.decode_encode]

/-- A record that loads starts with its own discriminator field. -/
theorem head_of_voter (data : List UInt8) (r : VoterWeightRecord)
    (h : AccountDeserialize.tryDeserialize data = .ok r) :
    data.take 8 = r.accountDiscriminator.bytes ∧ 123 ≤ data.length := by
  rcases (voterWeightRecord_loads_iff _ _).mp h with ⟨rest, rfl⟩
  have hlen := length_voterWeightRecord_ge r
  refine ⟨?_, by rw [List.length_append]; omega⟩
  rw [encode_voterWeightRecord, List.append_assoc, List.take_left' r.accountDiscriminator.size]

theorem head_of_max (data : List UInt8) (r : MaxVoterWeightRecord)
    (h : AccountDeserialize.tryDeserialize data = .ok r) :
    data.take 8 = r.accountDiscriminator.bytes := by
  rcases (maxVoterWeightRecord_loads_iff _ _).mp h with ⟨rest, rfl⟩
  rw [encode_maxVoterWeightRecord, List.append_assoc, List.take_left' r.accountDiscriminator.size]

theorem head_of_registrar (data : List UInt8) (r : Registrar)
    (h : AccountDeserialize.tryDeserialize data = .ok r) :
    data.take 8 = Registrar.discriminator.bytes ∧ Registrar.len ≤ data.length := by
  rcases (registrar_loads_iff _ _).mp h with ⟨rest, rfl⟩
  refine ⟨?_, by rw [List.length_append, length_trySerialize_registrar]; omega⟩
  rw [encode_registrar, List.append_assoc, List.take_left' Registrar.discriminator.size]

/-- Writing leaves the bytes it covers. -/
theorem take_overwrite (n : Nat) (bs data : List UInt8) (h : n ≤ bs.length) :
    (overwrite bs data).take n = bs.take n := by
  rw [overwrite, List.take_append_of_le_length h]

/-! ### Records written over what they were read from -/

/-- A voter weight record written back keeps the bytes it starts with. -/
theorem take_overwrite_voter (data : List UInt8) (r : VoterWeightRecord) (slot : UInt64)
    (h : AccountDeserialize.tryDeserialize data = .ok r) :
    (overwrite (VoterWeightRecord.codec.encode (r.activated slot)) data).take 8 = data.take 8 := by
  rw [take_overwrite _ _ _ (by rw [length_voterWeightRecord_codec _ _ rfl rfl rfl]; omega),
    (head_of_voter data r h).1, encode_voterWeightRecord, List.take_left' (FixedBytes.size _)]
  rfl

/-- So does a max voter weight record. -/
theorem take_overwrite_max (data : List UInt8) (r : MaxVoterWeightRecord) (w : UInt64)
    (h : AccountDeserialize.tryDeserialize data = .ok r) :
    (overwrite (MaxVoterWeightRecord.codec.encode (r.withWeight w)) data).take 8 =
      data.take 8 := by
  have hlen : (MaxVoterWeightRecord.codec.encode (r.withWeight w)).length = 89 :=
    length_maxVoterWeightRecord_codec _
  rw [take_overwrite _ _ _ (by rw [hlen]; omega), head_of_max data r h,
    encode_maxVoterWeightRecord, List.take_left' (FixedBytes.size _)]
  rfl

/-! ### A registrar's bytes -/

/-- A registrar has its governance program where eight bytes and a key would
    have the key. -/
theorem key_of_registrar (data : List UInt8) (reg : Registrar) (d : FixedBytes 8) (k : Pubkey)
    (s : List UInt8) (hreg : AccountDeserialize.tryDeserialize data = .ok reg)
    (h : data = d.bytes ++ (k.bytes ++ s)) : k = reg.governanceProgramId := by
  rcases (registrar_loads_iff _ _).mp hreg with ⟨rest, hdata⟩
  rw [h, encode_registrar] at hdata
  simp only [List.append_assoc] at hdata
  rcases bytes_append_inj _ _ _ _ hdata with ⟨_, hkeys⟩
  exact (bytes_append_inj _ _ _ _ hkeys).1

/-- So the governance program is what either record takes for its realm. -/
theorem voter_of_registrar (data : List UInt8) (reg : Registrar) (r : VoterWeightRecord)
    (hreg : AccountDeserialize.tryDeserialize data = .ok reg)
    (hr : AccountDeserialize.tryDeserialize data = .ok r) : r.realm = reg.governanceProgramId := by
  rcases (voterWeightRecord_loads_iff _ _).mp hr with ⟨rest, heq⟩
  rw [encode_voterWeightRecord, List.append_assoc, List.append_assoc] at heq
  exact key_of_registrar data reg _ _ _ hreg heq

theorem max_of_registrar (data : List UInt8) (reg : Registrar) (r : MaxVoterWeightRecord)
    (hreg : AccountDeserialize.tryDeserialize data = .ok reg)
    (hr : AccountDeserialize.tryDeserialize data = .ok r) : r.realm = reg.governanceProgramId := by
  rcases (maxVoterWeightRecord_loads_iff _ _).mp hr with ⟨rest, heq⟩
  rw [encode_maxVoterWeightRecord, List.append_assoc, List.append_assoc] at heq
  exact key_of_registrar data reg _ _ _ hreg heq

/-! ### Zeros -/

/-- The second field of a record read from zeros is the zero key. -/
theorem key_of_zeros (n : Nat) (d : FixedBytes 8) (k : Pubkey) (s : List UInt8)
    (h : List.replicate n 0 = d.bytes ++ (k.bytes ++ s)) : k = systemProgramId := by
  apply FixedBytes.ext
  have hmem : ∀ b ∈ k.bytes, b = 0 := by
    intro b hb
    refine List.eq_of_mem_replicate (n := n) ?_
    rw [h]
    exact List.mem_append_right _ (List.mem_append_left _ hb)
  rw [List.eq_replicate_of_mem hmem, k.size]
  rfl

theorem voter_of_zeros (n : Nat) (r : VoterWeightRecord)
    (h : AccountDeserialize.tryDeserialize (List.replicate n (0 : UInt8)) = .ok r) :
    r.realm = systemProgramId := by
  rcases (voterWeightRecord_loads_iff _ _).mp h with ⟨rest, heq⟩
  rw [encode_voterWeightRecord, List.append_assoc, List.append_assoc] at heq
  exact key_of_zeros n _ _ _ heq

theorem max_of_zeros (n : Nat) (r : MaxVoterWeightRecord)
    (h : AccountDeserialize.tryDeserialize (List.replicate n (0 : UInt8)) = .ok r) :
    r.realm = systemProgramId := by
  rcases (maxVoterWeightRecord_loads_iff _ _).mp h with ⟨rest, heq⟩
  rw [encode_maxVoterWeightRecord, List.append_assoc, List.append_assoc] at heq
  exact key_of_zeros n _ _ _ heq

/-! ### The two records -/

/-- A max voter weight record's space holds no voter weight record. -/
theorem voter_of_short (data : List UInt8) (hlen : data.length = MaxVoterWeightRecord.getSpace)
    (r : VoterWeightRecord) : AccountDeserialize.tryDeserialize data ≠ .ok r := by
  intro h
  have := (head_of_voter data r h).2
  rw [hlen, MaxVoterWeightRecord.getSpace] at this
  omega

/-- The two records agree on the three fields they start with. -/
theorem max_of_voter (data : List UInt8) (r : VoterWeightRecord) (m : MaxVoterWeightRecord)
    (hr : AccountDeserialize.tryDeserialize data = .ok r)
    (hm : AccountDeserialize.tryDeserialize data = .ok m) :
    m.accountDiscriminator = r.accountDiscriminator ∧ m.realm = r.realm ∧
      m.governingTokenMint = r.governingTokenMint := by
  rcases (voterWeightRecord_loads_iff _ _).mp hr with ⟨rest, rfl⟩
  rcases (maxVoterWeightRecord_loads_iff _ _).mp hm with ⟨rest', heq⟩
  rw [encode_maxVoterWeightRecord, encode_voterWeightRecord] at heq
  simp only [List.append_assoc] at heq
  -- The three common fields come off one after the other.
  rcases bytes_append_inj _ _ _ _ heq with ⟨hd, heq₁⟩
  rcases bytes_append_inj _ _ _ _ heq₁ with ⟨hr, heq₂⟩
  exact ⟨hd.symm, hr.symm, (bytes_append_inj _ _ _ _ heq₂).1.symm⟩

/-- Writing a max voter weight record over the voter weight record it was
    read from replaces the owner's first seventeen bytes: eight by the new
    weight, one by the tag of an absent expiry, eight by what it took for its
    reserved bytes. Everything behind the owner stays. -/
theorem overwrite_max_voter (data : List UInt8) (r : VoterWeightRecord) (m : MaxVoterWeightRecord)
    (w : UInt64) (rest : List UInt8) (hdata : data = VoterWeightRecord.codec.encode r ++ rest)
    (hm : AccountDeserialize.tryDeserialize data = .ok m) :
    ∃ owner : Pubkey,
      owner.bytes = Codec.u64.encode w ++ (0 :: m.reserved.bytes) ++
        r.governingTokenOwner.bytes.drop 17 ∧
      overwrite (MaxVoterWeightRecord.codec.encode (m.withWeight w)) data =
        VoterWeightRecord.codec.encode { r with governingTokenOwner := owner } ++ rest := by
  have hw : (Codec.u64.encode w).length = 8 := length_leEncode _ _
  have hr := (voterWeightRecord_loads_iff data r).mpr ⟨rest, hdata⟩
  rcases max_of_voter data r m hr hm with ⟨hdisc, hrealm, hmint⟩
  have hlen : (MaxVoterWeightRecord.codec.encode (m.withWeight w)).length = 89 :=
    length_maxVoterWeightRecord_codec _
  -- Eight, one and eight bytes written, and the fifteen of the key behind them.
  have hsize : (Codec.u64.encode w ++ (0 :: m.reserved.bytes) ++
      r.governingTokenOwner.bytes.drop 17).length = 32 := by
    simp only [List.length_append, List.length_cons, FixedBytes.length_bytes, List.length_drop, hw]
  refine ⟨⟨_, hsize⟩, rfl, ?_⟩
  -- The write ends seventeen bytes into the owner's key.
  have hdrop : data.drop 89 = r.governingTokenOwner.bytes.drop 17 ++ (r.tail ++ rest) := by
    have hkeys : data = (r.accountDiscriminator.bytes ++ r.realm.bytes ++
        r.governingTokenMint.bytes) ++ (r.governingTokenOwner.bytes ++ (r.tail ++ rest)) := by
      rw [hdata, encode_voterWeightRecord]
      simp only [List.append_assoc]
    have h72 : (r.accountDiscriminator.bytes ++ r.realm.bytes ++
        r.governingTokenMint.bytes).length = 72 := by
      simp only [List.length_append, FixedBytes.length_bytes]
    rw [hkeys, List.drop_append, h72, List.drop_of_length_le (by rw [h72]; omega), List.nil_append,
      List.drop_append_of_le_length (by rw [r.governingTokenOwner.size]; omega)]
  rw [overwrite, hlen, hdrop, encode_maxVoterWeightRecord, encode_voterWeightRecord]
  simp only [MaxVoterWeightRecord.withWeight, hdisc, hrealm, hmint, Codec.option,
    VoterWeightRecord.tail, List.append_assoc, List.cons_append, List.nil_append]

end EntrosVoterWeight
