import EntrosVoterWeight.Theory.Shape

/-!
# Reading the History

`origin` is a function of the history, chosen because an invariant can be
indexed by it. Here it is tied to what it stands for: an account has origin
`p` exactly when some step created it for `p` and no step has created or
closed it since.

`step_account` is the case analysis every statement about a single account
over time goes through: a step either is a successful instruction on the
account, or leaves its origin alone and, if the program owns it, its contents
as well.

## Main definitions

* `Acts`: A successful instruction on an account.
* `Renews`: A step that creates or closes an account.
* `Creates`: A step that creates an account for a place.
* `LiveRecord`: A live voter weight record with what it stores.

## Theorems

* `step_account`: The two ways a step can relate to an account.
* `origin_eq_some`: Origins, in terms of creation and renewal.
* `voter_run`: The induction over the life of a voter weight record.
* `run_clock`: The slot never exceeds the present one.
-/

namespace EntrosVoterWeight

open Borsh Anchor Transition

/-- A successful instruction on the account `a`. -/
def Acts (env : Env) (ix : Instruction) (a : Pubkey) (e : Entry State Event) : Prop :=
  e.event = .instruction ix ∧ ix.target = a ∧
    process env e.pre.clock ix e.pre.ledger = .ok e.post.ledger

/-- A step that creates or closes the account `a`. -/
def Renews (env : Env) (a : Pubkey) (e : Entry State Event) : Prop :=
  ∃ ix, Acts env ix a e ∧ (ix.begins = true ∨ ix.ends = true)

/-- A step that creates the account `a` for the place `p`. -/
def Creates (env : Env) (a : Pubkey) (p : Place) (e : Entry State Event) : Prop :=
  ∃ ix, Acts env ix a e ∧ ix.begins = true ∧ ix.becomes e.pre.ledger none = some p

/-- A live voter weight record with what it stores. -/
def LiveRecord (env : Env) (h : History) (s : State) (a : Pubkey) (record : VoterWeightRecord) :
    Prop :=
  (∃ realm mint owner, origin env h a = some (.voterWeightRecord realm mint owner)) ∧
    AccountDeserialize.tryDeserialize (s.ledger a).data = .ok record

/-- A step is a successful instruction on the account, or it leaves the
    account's origin alone and does not touch what the program owns. -/
theorem step_account (env : Env) (h : History) (s s' : State) (e : Event)
    (hst : Step env s e s') (a : Pubkey) :
    (∃ ix, Acts env ix a ⟨s, e, s'⟩ ∧
      origin env (⟨s, e, s'⟩ :: h) a = ix.becomes s.ledger (origin env h a)) ∨
    ((∀ ix, ¬ Acts env ix a ⟨s, e, s'⟩) ∧ origin env (⟨s, e, s'⟩ :: h) a = origin env h a ∧
      ((s.ledger a).owner = programId → s'.ledger a = s.ledger a)) := by
  cases hst with
  | instruction ix =>
      rcases hp : process env s.clock ix s.ledger with err | ledger'
      · rw [apply_error env s ix err hp, origin_error env s _ ix h err hp]
        refine Or.inr ⟨?_, rfl, fun _ => rfl⟩
        intro ix' hact
        rcases hact with ⟨hev, _, hok⟩
        simp only [Event.instruction.injEq] at hev
        subst hev
        simp only [hp, reduceCtorEq] at hok
      · rw [apply_ok env s ix ledger' hp, origin_ok env s _ ix h ledger' hp]
        by_cases ha : a = ix.target
        · subst ha
          refine Or.inl ⟨ix, ⟨rfl, rfl, hp⟩, ?_⟩
          rw [Function.update_self]
        · refine Or.inr ⟨?_, Function.update_of_ne ha .., fun _ => ?_⟩
          · intro ix' hact
            rcases hact with ⟨hev, htgt, _⟩
            simp only [Event.instruction.injEq] at hev
            subst hev
            exact ha htgt.symm
          · exact process_frame env s.clock ix s.ledger ledger' hp a ha
  | tick clock _ _ =>
      refine Or.inr ⟨?_, rfl, fun _ => rfl⟩
      intro ix hact
      rcases hact with ⟨hev, _⟩
      exact absurd hev (by simp only [reduceCtorEq, not_false_eq_true])
  | other ledger ho =>
      refine Or.inr ⟨?_, rfl, ho.owned_kept a⟩
      intro ix hact
      rcases hact with ⟨hev, _⟩
      exact absurd hev (by simp only [reduceCtorEq, not_false_eq_true])

/-- One entry holds at most one successful instruction. -/
theorem acts_unique (env : Env) (ix ix' : Instruction) (a b : Pubkey) (e : Entry State Event)
    (h : Acts env ix a e) (h' : Acts env ix' b e) : ix = ix' := by
  have heq := h.1.symm.trans h'.1
  simp only [Event.instruction.injEq] at heq
  exact heq

/-- A step that neither creates nor closes an account renews it in no other
    way. -/
theorem not_renews (env : Env) (ix : Instruction) (a : Pubkey) (e : Entry State Event)
    (hact : Acts env ix a e) (hb : ix.begins = false) (he : ix.ends = false) :
    ¬ Renews env a e := by
  intro hren
  rcases hren with ⟨ix', hact', hbe⟩
  rw [← acts_unique env ix ix' a a e hact hact', hb, he] at hbe
  exact hbe.elim Bool.false_ne_true Bool.false_ne_true

/-- The origin of an account is the place it was created for, if it has not
    been closed or created again since. -/
theorem origin_eq_some (env : Env) (h : History) (s : State) (hrun : Run (plugin env) h s)
    (a : Pubkey) (p : Place) :
    origin env h a = some p ↔ Since (fun e => ¬ Renews env a e) (Creates env a p) h := by
  induction hrun with
  | start s _ => simp only [origin, Since, reduceCtorEq]
  | step h s e s' _ hst ih =>
      simp only [Since]
      rcases step_account env h s s' e hst a with ⟨ix, hact, horig⟩ | ⟨hquiet, horig, _⟩
      · rw [horig]
        by_cases hb : ix.begins = true
        · -- A creation: this is the step the origin comes from.
          have hren : Renews env a ⟨s, e, s'⟩ := ⟨ix, hact, Or.inl hb⟩
          rcases begins_vacant env _ ix _ _ hact.2.2 hb with ⟨_, q, hq, _⟩
          rw [hq]
          constructor
          · intro hqp
            exact Or.inl ⟨ix, hact, hb, (hq none).trans hqp⟩
          · intro hs
            rcases hs with ⟨ix', hact', _, hp⟩ | ⟨hnot, _⟩
            · rw [acts_unique env ix ix' a a _ hact hact'] at hq
              rw [← hq none, hp]
            · exact absurd hren hnot
        · by_cases he : ix.ends = true
          · -- A close: there is no origin, and nothing older counts.
            rw [becomes_of_ends s.ledger ix _ he]
            constructor
            · intro habs
              exact absurd habs (by simp only [reduceCtorEq, not_false_eq_true])
            · intro hs
              rcases hs with ⟨ix', hact', hb', _⟩ | ⟨hnot, _⟩
              · rw [← acts_unique env ix ix' a a _ hact hact'] at hb'
                exact absurd hb' hb
              · exact absurd ⟨ix, hact, Or.inr he⟩ hnot
          · -- Anything else leaves the origin and does not interrupt the past.
            have hb' : ix.begins = false := by simpa only [Bool.not_eq_true] using hb
            have he' : ix.ends = false := by simpa only [Bool.not_eq_true] using he
            rw [becomes_of_keeps s.ledger ix _ hb' he', ih]
            have hkeep := not_renews env ix a _ hact hb' he'
            constructor
            · exact fun hs => Or.inr ⟨hkeep, hs⟩
            · intro hs
              rcases hs with ⟨ix', hact', hb₂, _⟩ | ⟨_, hs⟩
              · exact absurd ⟨ix', hact', Or.inl hb₂⟩ hkeep
              · exact hs
      · rw [horig, ih]
        constructor
        · refine fun hs => Or.inr ⟨?_, hs⟩
          intro hren
          rcases hren with ⟨ix, hact, _⟩
          exact hquiet ix hact
        · intro hs
          rcases hs with ⟨ix, hact, _⟩ | ⟨_, hs⟩
          · exact absurd hact (hquiet ix)
          · exact hs

/-- The induction for a property `P` of the record in one account, over its
    life as the voter weight record of `owner`. Creation gives the blank
    record; its own update activates it; the update of a max voter weight
    record can replace the owner; and nothing else reaches it. -/
theorem voter_run (env : Env) (C : Entry State Event → Prop) (a realm mint owner : Pubkey)
    (P : History → VoterWeightRecord → Prop)
    (hcreate : ∀ h e ctx, Acts env (.createVoterWeightRecord ctx owner) a e →
      P (e :: h) (newVoterWeightRecord env realm mint owner))
    (hupdate : ∀ h e ctx reg record, Acts env (.updateVoterWeightRecord ctx) a e →
      RecordUpdated env e.pre.clock e.pre.ledger e.post.ledger ctx reg record →
      P h record → P (e :: h) (record.activated e.pre.clock.slot))
    (hmax : ∀ h e ctx w reg m record owner', Acts env (.updateMaxVoterWeightRecord ctx w) a e →
      C e → AccountDeserialize.tryDeserialize (e.pre.ledger a).data = .ok record →
      VoterFields env realm mint record →
      MaxUpdated env e.pre.ledger e.post.ledger ctx w reg m →
      AccountDeserialize.tryDeserialize (e.post.ledger a).data =
        .ok { record with governingTokenOwner := owner' } →
      P h record → P (e :: h) { record with governingTokenOwner := owner' })
    (hquiet : ∀ h e record, (∀ ix, ¬ Acts env ix a e) → P h record → P (e :: h) record)
    (h : History) (s : State) (hrun : Run (plugin env) h s) (hC : ∀ e ∈ h, C e) :
    ∀ record, origin env h a = some (.voterWeightRecord realm mint owner) →
      AccountDeserialize.tryDeserialize (s.ledger a).data = .ok record → P h record := by
  refine run_induct (plugin env) C (fun h s => ∀ record : VoterWeightRecord,
    origin env h a = some (.voterWeightRecord realm mint owner) →
      AccountDeserialize.tryDeserialize (s.ledger a).data = .ok record → P h record)
    ?_ ?_ h s hrun hC
  · intro s _ record ho
    simp only [origin, reduceCtorEq] at ho
  · intro h s e s' hr ih hst hc record ho hload
    rcases step_account env h s s' e hst a with ⟨ix, hact, horig⟩ | ⟨hnone, horig, hkept⟩
    · rw [horig] at ho
      have hok := hact.2.2
      -- Created in this step, the record is the one creation writes.
      by_cases hb : ix.begins = true
      · rcases voter_created env s.clock ix s.ledger s'.ledger hok hb _ realm mint owner ho with
          ⟨ctx, reg, rfl, _, rfl, rfl, hnew⟩
        rw [hact.2.1] at hnew
        rw [hnew] at hload
        have hrec := hload.symm.trans ((voterWeightRecord_loads_iff _ _).mpr ⟨_, rfl⟩)
        rw [Except.ok.injEq] at hrec
        rw [hrec]
        exact hcreate h _ ctx hact
      -- Closed in this step, it is not live.
      by_cases he : ix.ends = true
      · rw [becomes_of_ends s.ledger ix _ he] at ho
        exact absurd ho (by simp only [reduceCtorEq, not_false_eq_true])
      -- It was live before, so `voter_step` lists what can have happened to it.
      rw [becomes_of_keeps s.ledger ix _ (by simpa only [Bool.not_eq_true] using hb)
        (by simpa only [Bool.not_eq_true] using he)] at ho
      have hs := shape_run env h s hr a
      rw [ho] at hs
      rcases VoterShape.record hs with ⟨r, hrl, hf⟩
      have htgt := hact.2.1
      subst htgt
      rcases voter_step env s.clock ix s.ledger s'.ledger realm mint owner hs r hrl hok with
        ⟨ctx, reg, rfl, hup⟩ | ⟨ctx, reg, rfl, _⟩ | ⟨ctx, w, reg, m, rfl, hup, owner', _, hnew⟩
      · change AccountDeserialize.tryDeserialize
          (s'.ledger ctx.accounts.voterWeightRecord).data = _ at hload
        rw [hup.result] at hload
        have hrec := hload.symm.trans ((voterWeightRecord_loads_iff _ _).mpr ⟨_, rfl⟩)
        rw [Except.ok.injEq] at hrec
        rw [hrec]
        exact hupdate h ⟨s, e, s'⟩ ctx reg r hact hup (ih r ho hrl)
      · exact absurd rfl he
      · have hrec := hload.symm.trans hnew
        rw [Except.ok.injEq] at hrec
        rw [hrec]
        exact hmax h ⟨s, e, s'⟩ ctx w reg m r owner' hact hc hrl hf hup hnew (ih r ho hrl)
    · -- No instruction acted on the account, so it holds what it held.
      rw [horig] at ho
      have hs := shape_run env h s hr a
      rw [ho] at hs
      rw [hkept (VoterShape.owned hs)] at hload
      exact hquiet h _ record hnone (ih record ho hload)

/-- No step turns the clock back. -/
theorem step_clock (env : Env) (s : State) (e : Event) (s' : State) (hst : Step env s e s') :
    s.clock.slot.toNat ≤ s'.clock.slot.toNat := by
  cases hst with
  | instruction ix =>
      rcases hp : process env s.clock ix s.ledger with err | ledger'
      · rw [apply_error env s ix err hp]
      · rw [apply_ok env s ix ledger' hp]
  | tick clock hslot _ => exact UInt64.le_iff_toNat_le.mp hslot
  | other ledger _ => exact Nat.le_refl _

/-- The slot of a past step is at most the present one. -/
theorem run_clock (env : Env) (h : History) (s : State) (hrun : Run (plugin env) h s) :
    ∀ e ∈ h, e.pre.clock.slot ≤ s.clock.slot := by
  intro e he
  exact UInt64.le_iff_toNat_le.mpr
    (run_monotone (plugin env) (fun s => s.clock.slot.toNat) (step_clock env) h s hrun e he)

end EntrosVoterWeight
