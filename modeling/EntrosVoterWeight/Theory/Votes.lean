import EntrosVoterWeight.Theory.Tally

/-!
# When a Vote Counts

Which accounts count for a body, read off the history alone.

A record counts in a slot exactly if it was created for the body, the wallet's
own update gave it its weight at most a hundred slots ago, and it has not been
closed since. One half of this says that nothing else counts. The other half
says that nothing anyone does short of that takes a vote away before its
hundred slots are over: no change of the policy, no close of the registrar, and
no write through the other record's loader.

Where there were several updates the last one matters, and since the slot never
decreases it is the one with the latest expiry.

## Main definitions

* `Updates`: A successful update of a record.
* `Counts`: The history of a record that counts.

## Theorems

* `weight_of_newest`: The last update is what the record says.
* `backed_place`: The registrar behind a vote is the body's.
* `counts_of_counted`, `counted_of_counts`: The two halves of what follows.
* `counted_iff`: A record counts exactly if its history says so.
-/

namespace EntrosVoterWeight

open Borsh Anchor Transition

/-- A successful update of the record in the account `a`. -/
def Updates (env : Env) (a : Pubkey) (e : Entry State Event) : Prop :=
  ∃ ctx, Acts env (.updateVoterWeightRecord ctx) a e

/-- The account was created as a record for the body, a verified update gave
    it weight at most a hundred slots ago, and it was not closed since. -/
def Counts (env : Env) (h : History) (s : State) (d : Dao) (a : Pubkey) : Prop :=
  (∃ voter, Since (fun e => ¬ Renews env a e)
    (Creates env a (.voterWeightRecord d.1 d.2 voter)) h) ∧
  ∃ slot, Backed env h a slot ∧ s.clock.slot.toNat ≤ slot.toNat + 100

/-- A verified update is a successful one. -/
theorem updates_of_verified (env : Env) (a : Pubkey) (slot : UInt64) (e : Entry State Event)
    (hv : VerifiedUpdate env a slot e) : Updates env a e ∧ e.pre.clock.slot = slot := by
  rcases hv with ⟨ctx, _, _, hact, hslot, _⟩
  exact ⟨⟨ctx, hact⟩, hslot⟩

/-- An update creates and closes nothing. -/
theorem updates_not_renews (env : Env) (a : Pubkey) (e : Entry State Event)
    (hup : Updates env a e) : ¬ Renews env a e := by
  rcases hup with ⟨ctx, hact⟩
  exact not_renews env _ a e hact rfl rfl

/-- A creation renews the account. -/
theorem renews_of_creates (env : Env) (a : Pubkey) (p : Place) (e : Entry State Event)
    (hc : Creates env a p e) : Renews env a e := by
  rcases hc with ⟨ix, hact, hb, _⟩
  exact ⟨ix, hact, Or.inl hb⟩

section
variable (env : Env) (h : History) (s : State) (hrun : Run (plugin env) h s)
variable (a realm mint owner : Pubkey) (record : VoterWeightRecord)
variable (ho : origin env h a = some (.voterWeightRecord realm mint owner))

include hrun ho in
/-- A record has the weight and the expiry of its last update. -/
theorem weight_of_newest (hload : AccountDeserialize.tryDeserialize (s.ledger a).data = .ok record)
    (slot : UInt64)
    (hlast : Since (fun e => ¬ Renews env a e ∧ ¬ Updates env a e)
      (fun e => Updates env a e ∧ e.pre.clock.slot = slot) h) :
    record.voterWeight = 1 ∧ record.voterWeightExpiry = some (saturatingAdd slot 100) := by
  refine voter_run env (fun _ => True) a realm mint owner
    (fun h r => ∀ slot, Since (fun e => ¬ Renews env a e ∧ ¬ Updates env a e)
      (fun e => Updates env a e ∧ e.pre.clock.slot = slot) h →
        r.voterWeight = 1 ∧ r.voterWeightExpiry = some (saturatingAdd slot 100))
    ?_ ?_ ?_ ?_ h s hrun (fun _ _ => trivial) record ho hload slot hlast
  · intro h e ctx hact slot hs
    -- What was just created has not been updated.
    have hren : Renews env a e := ⟨_, hact, Or.inl rfl⟩
    rcases hs with ⟨hup, _⟩ | ⟨⟨hnot, _⟩, _⟩
    · exact absurd hren (updates_not_renews env a e hup)
    · exact absurd hren hnot
  · intro h e ctx reg record hact _ _ slot hs
    rcases hs with ⟨_, hslot⟩ | ⟨⟨_, hnot⟩, _⟩
    · rw [← hslot]
      exact ⟨rfl, rfl⟩
    · exact absurd ⟨ctx, hact⟩ hnot
  · intro h e ctx w reg m record owner' hact _ _ _ _ _ ih slot hs
    -- The other record's update leaves weight and expiry alone.
    rcases hs with ⟨⟨ctx', hact'⟩, _⟩ | ⟨_, hs⟩
    · have habs := acts_unique env _ _ a a e hact hact'
      exact absurd habs (by simp only [reduceCtorEq, not_false_eq_true])
    · exact ih slot hs
  · intro h e record hnone ih slot hs
    rcases hs with ⟨⟨ctx, hact⟩, _⟩ | ⟨_, hs⟩
    · exact absurd hact (hnone _)
    · exact ih slot hs

include hrun ho in
/-- The update that backs a vote found a record of the body, under the body's
    registrar. -/
theorem backed_place (h₁ h₀ : History) (e : Entry State Event) (slot : UInt64)
    (heq : h = h₁ ++ e :: h₀) (hv : VerifiedUpdate env a slot e)
    (hkept : ∀ x ∈ h₁, ¬ Renews env a x) :
    ∃ record, AccountDeserialize.tryDeserialize (e.pre.ledger a).data = .ok record ∧
      VoterFields env realm mint record := by
  subst heq
  rcases run_entry (plugin env) e h₁ h₀ s hrun with ⟨hr, _⟩
  -- Nothing created the account after this step, so it is the same record.
  have hsince := (origin_eq_some env _ s hrun a _).mp ho
  rw [← List.singleton_append, ← List.append_assoc] at hsince
  have hquiet : ∀ x ∈ h₁ ++ [e], ¬ Creates env a (.voterWeightRecord realm mint owner) x := by
    intro x hx hc
    have hren := renews_of_creates env a _ x hc
    rcases List.mem_append.mp hx with hx | hx
    · exact hkept x hx hren
    · rw [List.mem_singleton.mp hx] at hren
      exact updates_not_renews env a e (updates_of_verified env a slot e hv).1 hren
  have hbefore := (origin_eq_some env h₀ e.pre hr a _).mpr
    (since_behind _ _ _ _ hquiet hsince)
  have hs := shape_run env h₀ e.pre hr a
  rw [hbefore] at hs
  exact VoterShape.record hs

end

/-! ### Counting by the history -/

section
variable (env : Env) (h : History) (s : State) (hrun : Run (plugin env) h s) (d : Dao) (a : Pubkey)

include hrun in
/-- What is counted has the history of a vote. -/
theorem counts_of_counted (hne : countedWeight env s.clock.slot d (s.ledger a) ≠ 0) :
    Counts env h s d a := by
  rcases elector_of_counted env h s hrun d a hne with ⟨voter, hv, rfl⟩
  rcases elector_record env h s hrun d voter hv with
    ⟨ho, record, expiry, hload, _, hone, hexp, hopen⟩
  refine ⟨⟨voter, (origin_eq_some env h s hrun _ _).mp ho⟩, ?_⟩
  rcases voter_weight_backed env h s hrun _ _ _ _ record ho hload with
    ⟨hzero, _⟩ | ⟨_, slot, hback, hslot⟩
  · exact absurd (hzero.symm.trans hone) (by decide)
  · refine ⟨slot, hback, ?_⟩
    rw [hslot, Option.some.injEq] at hexp
    rw [← hexp, UInt64.le_iff_toNat_le, toNat_saturatingAdd] at hopen
    exact hopen.trans (min_le_left _ _)

include hrun in
/-- What has the history of a vote is counted. -/
theorem counted_of_counts (hc : Counts env h s d a) :
    countedWeight env s.clock.slot d (s.ledger a) = 1 := by
  rcases hc with ⟨⟨voter, hcreated⟩, slot, hback, hterm⟩
  have ho := (origin_eq_some env h s hrun a _).mpr hcreated
  have hs := shape_run env h s hrun a
  rw [ho] at hs
  have haddr := VoterShape.address hs
  rcases VoterShape.record hs with ⟨r, hload, _⟩
  rcases (since_iff _ _ _).mp hback with ⟨h₁, e, h₀, rfl, hv, hkept⟩
  rcases updates_of_verified env a slot e hv with ⟨hup, rfl⟩
  -- The last update may be a later one, and expires no sooner.
  have hsince : Since (fun e => ¬ Renews env a e) (Updates env a) (h₁ ++ e :: h₀) :=
    (since_iff _ _ _).mpr ⟨h₁, e, h₀, rfl, hup, hkept⟩
  rcases (since_iff _ _ _).mp (since_newest _ _ _ hsince) with ⟨k₁, x, k₀, hsplit, hx, hlast⟩
  have hlater : e.pre.clock.slot ≤ x.pre.clock.slot := by
    rw [hsplit] at hrun
    have hmem : e ∈ k₁ ++ x :: k₀ := by
      rw [← hsplit]
      exact List.mem_append_right _ List.mem_cons_self
    rcases List.mem_append.mp hmem with he | he
    · exact absurd hup (hlast e he).2
    · rcases List.mem_cons.mp he with rfl | he
      · exact UInt64.le_refl _
      · exact run_clock env k₀ x.pre (run_entry (plugin env) x k₁ k₀ s hrun).1 e he
  rcases weight_of_newest env _ s hrun a _ _ voter r ho hload x.pre.clock.slot
    ((since_iff _ _ _).mpr ⟨k₁, x, k₀, hsplit, ⟨hx, rfl⟩, hlast⟩) with ⟨hone, hexp⟩
  subst haddr
  refine countedWeight_elector env _ s hrun d voter ⟨(saturatingAdd x.pre.clock.slot 100).toNat,
    ?_, ?_⟩
  · rw [ballot_loaded env _ s hrun _ _ _ _ r ho hload, ballotOf, hone, hexp, if_neg (by decide),
      Option.getD_some]
  · have hslots := UInt64.le_iff_toNat_le.mp hlater
    have hnow := s.clock.slot.toNat_lt
    change s.clock.slot.toNat ≤ _
    rw [toNat_saturatingAdd]
    have h100 : (100 : UInt64).toNat = 100 := rfl
    omega

end

/-- A record counts, with one vote, exactly if it was created for the body and
    a verified update of the last hundred slots gave it its weight, without a
    close since. Anything else counts for nothing. -/
theorem counted_iff (env : Env) (h : History) (s : State) (hrun : Run (plugin env) h s) (d : Dao)
    (a : Pubkey) :
    (countedWeight env s.clock.slot d (s.ledger a) = 1 ↔ Counts env h s d a) ∧
    (countedWeight env s.clock.slot d (s.ledger a) = 0 ↔ ¬ Counts env h s d a) := by
  constructor
  · constructor
    · intro hone
      exact counts_of_counted env h s hrun d a (by rw [hone]; decide)
    · exact counted_of_counts env h s hrun d a
  · constructor
    · intro hzero hc
      have hone := counted_of_counts env h s hrun d a hc
      rw [hzero] at hone
      exact absurd hone (by decide)
    · intro hnot
      by_contra hne
      exact hnot (counts_of_counted env h s hrun d a hne)

/-- A record that was created and updated counts, and the registrar does
    not. -/
theorem counted_iff_devnet :
    Counts Devnet.env (Devnet.after Devnet.votes).1 (Devnet.after Devnet.votes).2
      (Devnet.realm, Devnet.mint) (Devnet.record Devnet.mint Devnet.voterA) ∧
    ¬ Counts Devnet.env (Devnet.after Devnet.votes).1 (Devnet.after Devnet.votes).2
      (Devnet.realm, Devnet.mint)
      (Devnet.env.address (.registrar Devnet.realm Devnet.mint)) := by
  have hall := counted_iff Devnet.env _ _ (Devnet.after_run Devnet.votes)
    (Devnet.realm, Devnet.mint)
  constructor
  · exact (hall _).1.mp (by decide +kernel)
  · exact (hall _).2.mp (by decide +kernel)

end EntrosVoterWeight
