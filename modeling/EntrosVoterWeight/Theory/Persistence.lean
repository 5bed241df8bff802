import EntrosVoterWeight.Anchor.Persist
import EntrosVoterWeight.Borsh.Size
import EntrosVoterWeight.Layout

/-!
# The Allocated Sizes

The spaces the program allocates for its accounts are sums counted by hand,
one term for each field. A registrar always fills its account. The two records
have options in the middle of them, so their encodings have different lengths,
and shorter ones leave the end of the account as it was.

Each sum is the length of the longest encoding, which follows the codec field
by field. So no value runs out of room, whatever was written before, and a
smaller account would have no room for some value.

## Theorems

* `longest_registrar`, `longest_voterWeightRecord`,
  `longest_maxVoterWeightRecord`: The spaces as longest encodings.
* `persisted_value_loads`: They are the least sizes that keep every value.
-/

namespace EntrosVoterWeight

open Borsh Anchor

instance : LawfulAccount Registrar := ⟨registrar_loads_iff⟩

instance : LawfulAccount VoterWeightRecord := ⟨voterWeightRecord_loads_iff⟩

instance : LawfulAccount MaxVoterWeightRecord := ⟨maxVoterWeightRecord_loads_iff⟩

/-- Every registrar fills its account. -/
theorem longest_registrar :
    IsGreatest (Set.range fun r : Registrar => (AccountSerialize.trySerialize r).length)
      Registrar.len := by
  constructor
  · exact ⟨.blank, length_trySerialize_registrar _⟩
  · intro k hk
    rcases hk with ⟨r, rfl⟩
    exact (length_trySerialize_registrar r).le

/-- Expiry, action and target are one byte longer than what they hold. -/
theorem longest_voterWeightRecord :
    VoterWeightRecord.codec.Longest VoterWeightRecord.getSpace := by
  have hexpiry := Codec.longest_option _ _ Codec.longest_u64
  have haction : VoterWeightAction.codec.option.Longest 2 :=
    Codec.longest_option _ _ (Codec.longest_tag _ _ _ _ .castVote)
  have htarget := Codec.longest_option _ _ (Codec.longest_bytes 32)
  -- From the last field to the first, as the codec is put together.
  have h := Codec.longest_prod _ _ _ _ htarget (Codec.longest_bytes 8)
  have h := Codec.longest_prod _ _ _ _ haction h
  have h := Codec.longest_prod _ _ _ _ hexpiry h
  have h := Codec.longest_prod _ _ _ _ Codec.longest_u64 h
  have h := Codec.longest_prod _ _ _ _ (Codec.longest_bytes 32) h
  have h := Codec.longest_prod _ _ _ _ (Codec.longest_bytes 32) h
  have h := Codec.longest_prod _ _ _ _ (Codec.longest_bytes 32) h
  have h := Codec.longest_prod _ _ _ _ (Codec.longest_bytes 8) h
  exact Codec.longest_iso _ _ _ _ _ _ h

/-- So is the expiry here. -/
theorem longest_maxVoterWeightRecord :
    MaxVoterWeightRecord.codec.Longest MaxVoterWeightRecord.getSpace := by
  have hexpiry := Codec.longest_option _ _ Codec.longest_u64
  have h := Codec.longest_prod _ _ _ _ hexpiry (Codec.longest_bytes 8)
  have h := Codec.longest_prod _ _ _ _ Codec.longest_u64 h
  have h := Codec.longest_prod _ _ _ _ (Codec.longest_bytes 32) h
  have h := Codec.longest_prod _ _ _ _ (Codec.longest_bytes 32) h
  have h := Codec.longest_prod _ _ _ _ (Codec.longest_bytes 8) h
  exact Codec.longest_iso _ _ _ _ _ _ h

/-- Every value written to an account of the allocated size is loaded again,
    along any sequence of writes, and no smaller account would do. -/
theorem persisted_value_loads :
    (Registrar.len = 178 ∧
      IsLeast {space | Persists EntrosVoterError Registrar space} Registrar.len) ∧
    (VoterWeightRecord.getSpace = 164 ∧
      IsLeast {space | Persists EntrosVoterError VoterWeightRecord space}
        VoterWeightRecord.getSpace) ∧
    (MaxVoterWeightRecord.getSpace = 97 ∧
      IsLeast {space | Persists EntrosVoterError MaxVoterWeightRecord space}
        MaxVoterWeightRecord.getSpace) := by
  refine ⟨⟨rfl, ?_⟩, ⟨rfl, ?_⟩, rfl, ?_⟩
  · exact isLeast_persists _ longest_registrar
  · exact isLeast_persists _ longest_voterWeightRecord
  · exact isLeast_persists _ longest_maxVoterWeightRecord

end EntrosVoterWeight
