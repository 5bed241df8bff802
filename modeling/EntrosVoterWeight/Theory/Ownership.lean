import EntrosVoterWeight.Cluster
import EntrosVoterWeight.Theory.History

/-!
# Who Controls a Voter's Record

A voter weight record stores the wallet it stands for, and the two voter
instructions ask for the signature of the wallet stored. The address is
derived from the same wallet, once, at creation. Both rest on the owner field
staying what it was.

It does not always. The update of a max voter weight record, which the realm's
authority signs, loads its record without comparing a discriminator. Given a
voter's record whose owner key has a zero or a one as its ninth byte it
succeeds, and writes the new weight over the first eight bytes of that key.
`voter_loses_control` and `two_records_one_wallet` are runs in which this
happens.

`RewritesVoterRecord` is that step, in terms of its input: the instruction's
own checks pass, the account starts with the discriminator of a voter weight
record, and what would be written differs from what is there. Runs without
such a step are exactly the runs in which voters are in control, and in all of
them a record is where the wallet it stores puts it.

## Main definitions

* `ByVoter`: An update or close of a record, signed by a given wallet.
* `VoterControlled`: Only its wallet changes or closes a record.
* `RewritesVoterRecord`: The step that goes wrong.
* `BackedByIdentity`: The identity account a record's last update read.
* `OneRecordPerPerson`: Records, wallets and identities correspond.

## Theorems

* `owner_kept`: Without such steps, the owner is the wallet that created the
  record, and so is the wallet behind its weight.
* `voterControlled_iff`: Voters are in control exactly without such steps.
* `one_record_per_person`: Without such steps, one record per person.
-/

namespace EntrosVoterWeight

open Borsh Anchor Transition

/-- An update or close of a voter weight record, signed by `voter`. -/
def ByVoter (voter : Pubkey) (ix : Instruction) : Prop :=
  ix.isSigner voter = true ∧
    ((∃ ctx, ix = .updateVoterWeightRecord ctx ∧ ctx.accounts.voterAuthority = voter) ∨
      ∃ ctx, ix = .closeVoterWeightRecord ctx ∧ ctx.accounts.voterAuthority = voter)

/-- Every step that changes or closes a record, between its creation and its
    close, is the update or close of its wallet. -/
def VoterControlled (env : Env) (h : History) : Prop :=
  ∀ h₁ e h₀, h = h₁ ++ e :: h₀ → ∀ a realm mint voter,
    origin env h₀ a = some (.voterWeightRecord realm mint voter) →
      e.post.ledger a ≠ e.pre.ledger a →
        ∃ ix, e.event = .instruction ix ∧ ix.target = a ∧ ByVoter voter ix

/-- An update of a max voter weight record that passes its checks, is given an
    account that starts like a voter weight record, and would not write what
    it reads. -/
def RewritesVoterRecord (env : Env) (e : Entry State Event) : Prop :=
  ∃ ctx w registrar record,
    e.event = .instruction (.updateMaxVoterWeightRecord ctx w) ∧
    UpdateMaxVoterWeightRecord.Accepts env ctx e.pre.ledger registrar record ∧ 0 < w ∧
    (e.pre.ledger ctx.accounts.maxVoterWeightRecord).data.take 8 =
      env.voterWeightRecordDiscriminator.bytes ∧
    record.withWeight w ≠ record

/-- The last update of the record read the identity account `identity`. -/
def BackedByIdentity (env : Env) (h : History) (a identity : Pubkey) : Prop :=
  Since (fun e => ¬ Renews env a e)
    (fun e => ∃ ctx, Acts env (.updateVoterWeightRecord ctx) a e ∧
      ctx.remainingAccounts.head? = some identity) h

/-- An update of a max voter weight record that is not the step that goes
    wrong leaves a voter's record alone. -/
theorem owner_of_not_rewrites (env : Env) (e : Entry State Event)
    (ctx : Context UpdateMaxVoterWeightRecord) (w : UInt64) (reg : Registrar)
    (m : MaxVoterWeightRecord) (a realm mint : Pubkey) (record record' : VoterWeightRecord)
    (hact : Acts env (.updateMaxVoterWeightRecord ctx w) a e)
    (hnot : ¬ RewritesVoterRecord env e)
    (hload : AccountDeserialize.tryDeserialize (e.pre.ledger a).data = .ok record)
    (hf : VoterFields env realm mint record)
    (hup : MaxUpdated env e.pre.ledger e.post.ledger ctx w reg m)
    (hload' : AccountDeserialize.tryDeserialize (e.post.ledger a).data = .ok record') :
    record' = record := by
  have ha : ctx.accounts.maxVoterWeightRecord = a := hact.2.1
  have hhead := (head_of_voter _ _ hload).1
  rw [hf.discriminator] at hhead
  -- What is written is what was read, or this is the step that goes wrong.
  have hsame : m.withWeight w = m := by
    by_contra hne
    refine hnot ⟨ctx, w, reg, m, hact.1, hup.accepts, hup.weight_pos, ?_, hne⟩
    rw [ha]
    exact hhead
  have hpost := hup.result
  rw [ha, hsame] at hpost
  have hm := hup.accepts.record_loads
  rw [ha] at hm
  rcases (maxVoterWeightRecord_loads_iff _ _).mp hm with ⟨rest, hdata⟩
  rw [hpost, hdata, Codec.overwrite_encode, ← hdata, hload, Except.ok.injEq] at hload'
  exact hload'.symm

/-- Without the step that goes wrong, a record's owner is the wallet it was
    created for, and the identity behind its weight is that wallet's. -/
theorem owner_kept (env : Env) (h : History) (s : State) (hrun : Run (plugin env) h s)
    (hnot : ∀ e ∈ h, ¬ RewritesVoterRecord env e) (a realm mint owner : Pubkey)
    (record : VoterWeightRecord)
    (ho : origin env h a = some (.voterWeightRecord realm mint owner))
    (hload : AccountDeserialize.tryDeserialize (s.ledger a).data = .ok record) :
    record.governingTokenOwner = owner ∧
      ∀ identity, BackedByIdentity env h a identity → identity = env.identityAddress owner := by
  refine voter_run env (fun e => ¬ RewritesVoterRecord env e) a realm mint owner
    (fun h r => r.governingTokenOwner = owner ∧
      ∀ identity, BackedByIdentity env h a identity → identity = env.identityAddress owner)
    ?_ ?_ ?_ ?_ h s hrun hnot record ho hload
  · intro h e ctx hact
    refine ⟨rfl, ?_⟩
    intro identity hback
    rcases hback with ⟨ctx', hact', _⟩ | ⟨hkeep, _⟩
    · have habs := acts_unique env _ _ a a e hact hact'
      exact absurd habs (by simp only [reduceCtorEq, not_false_eq_true])
    · exact absurd ⟨_, hact, Or.inl rfl⟩ hkeep
  · intro h e ctx reg record hact hup ih
    refine ⟨ih.1, ?_⟩
    intro identity hback
    rcases hback with ⟨ctx', hact', hid⟩ | ⟨_, hback⟩
    · have hctx := acts_unique env _ _ a a e hact hact'
      simp only [Instruction.updateVoterWeightRecord.injEq] at hctx
      rw [← hctx, hup.identity, ← hup.controls.owner_eq, ih.1, Option.some.injEq] at hid
      exact hid.symm
    · exact ih.2 identity hback
  · intro h e ctx w reg m record owner' hact hnot hload hf hup hload' ih
    have hsame := owner_of_not_rewrites env e ctx w reg m a realm mint record _ hact hnot hload hf
      hup hload'
    rw [hsame]
    refine ⟨ih.1, ?_⟩
    intro identity hback
    rcases hback with ⟨ctx', hact', _⟩ | ⟨_, hback⟩
    · have habs := acts_unique env _ _ a a e hact hact'
      exact absurd habs (by simp only [reduceCtorEq, not_false_eq_true])
    · exact ih.2 identity hback
  · intro h e record hnone ih
    refine ⟨ih.1, ?_⟩
    intro identity hback
    rcases hback with ⟨ctx, hact, _⟩ | ⟨_, hback⟩
    · exact absurd hact (hnone _)
    · exact ih.2 identity hback

/-! ### Who changes a record -/

/-- The step that goes wrong changes a voter's record, and is not the voter's
    own. -/
theorem rewrites_changes (env : Env) (h : History) (s s' : State) (e : Event)
    (hrun : Run (plugin env) h s) (hst : Step env s e s')
    (hbad : RewritesVoterRecord env ⟨s, e, s'⟩) :
    ∃ a realm mint voter, origin env h a = some (.voterWeightRecord realm mint voter) ∧
      s'.ledger a ≠ s.ledger a ∧ ∀ ix, e = .instruction ix → ¬ ByVoter voter ix := by
  rcases hbad with ⟨ctx, w, reg, m, hev, hacc, hpos, hhead, hne⟩
  simp only at hev hacc hhead
  subst hev
  have hs := shape_run env h s hrun ctx.accounts.maxVoterWeightRecord
  have hown := hacc.record_owner
  have hload := hacc.record_loads
  -- Of the four kinds, only a voter weight record starts like one.
  rcases horig : origin env h ctx.accounts.maxVoterWeightRecord with _ | p
  · rw [horig] at hs
    exact absurd (ForeignShape.zeros hs hown) (head_ne_zeros _ env.voter_ne_zero _ hhead)
  cases p with
  | registrar realm mint =>
      rw [horig] at hs
      have hreg := RegistrarShape.head hs
      exact absurd (FixedBytes.ext (hhead.symm.trans hreg)) env.voter_ne_registrar
  | maxVoterWeightRecord realm mint =>
      rw [horig] at hs
      rcases MaxShape.record hs with ⟨r, hr, hf⟩
      have hmax := (head_of_max _ _ hr).symm.trans hhead
      rw [hf.discriminator] at hmax
      exact absurd (FixedBytes.ext hmax).symm env.voter_ne_max
  | voterWeightRecord realm mint voter =>
      rw [horig] at hs
      -- The record has room for the write, so the step succeeds.
      have hroom : 89 ≤ (s.ledger ctx.accounts.maxVoterWeightRecord).data.length := by
        rw [VoterShape.length hs, VoterWeightRecord.getSpace]
        omega
      have hok := (updateMaxVoterWeightRecord_eq_ok env ctx w s.ledger _).mpr
        ⟨reg, m, hacc, hpos, hroom, rfl⟩
      refine ⟨_, realm, mint, voter, horig, ?_, ?_⟩
      · cases hst with
        | instruction _ =>
            rw [apply_ok env s (.updateMaxVoterWeightRecord ctx w) _ hok]
            simp only [Function.update_self]
            -- Equal bytes would load as the same record, which the step changes.
            intro heq
            rw [← heq] at hload
            have hwritten := (maxVoterWeightRecord_loads_iff
              (overwrite (MaxVoterWeightRecord.codec.encode (m.withWeight w))
                (s.ledger ctx.accounts.maxVoterWeightRecord).data) (m.withWeight w)).mpr ⟨_, rfl⟩
            rw [hwritten, Except.ok.injEq] at hload
            exact hne hload
      · intro ix hix hby
        rcases hby with ⟨_, ⟨ctx', heq, _⟩ | ⟨ctx', heq, _⟩⟩
        · simp only [Event.instruction.injEq] at hix
          rw [← hix] at heq
          exact absurd heq (by simp only [reduceCtorEq, not_false_eq_true])
        · simp only [Event.instruction.injEq] at hix
          rw [← hix] at heq
          exact absurd heq (by simp only [reduceCtorEq, not_false_eq_true])

/-- Voters are in control of their records in exactly the runs without a step
    that rewrites one. -/
theorem voterControlled_iff (env : Env) (h : History) (s : State)
    (hrun : Run (plugin env) h s) :
    VoterControlled env h ↔ ∀ e ∈ h, ¬ RewritesVoterRecord env e := by
  constructor
  · intro hctl e he hbad
    rcases List.append_of_mem he with ⟨h₁, h₀, rfl⟩
    rcases run_entry (plugin env) e h₁ h₀ s hrun with ⟨hr, hst⟩
    rcases rewrites_changes env h₀ e.pre e.post e.event hr hst hbad with
      ⟨a, realm, mint, voter, ho, hne, hnot⟩
    rcases hctl h₁ e h₀ rfl a realm mint voter ho hne with ⟨ix, hev, _, hby⟩
    exact hnot ix hev hby
  · intro hnot h₁ e h₀ heq a realm mint voter ho hne
    subst heq
    rcases run_entry (plugin env) e h₁ h₀ s hrun with ⟨hr, hst⟩
    have hs := shape_run env h₀ e.pre hr a
    rw [ho] at hs
    rcases VoterShape.record hs with ⟨r, hrl, hf⟩
    have hnot₀ : ∀ x ∈ h₀, ¬ RewritesVoterRecord env x := fun x hx =>
      hnot x (List.mem_append_right _ (List.mem_cons_of_mem _ hx))
    -- Up to this step nothing rewrote the record, so it still names its wallet.
    have howner := (owner_kept env h₀ e.pre hr hnot₀ a realm mint voter r ho hrl).1
    rcases step_frame env e.pre e.post e.event hst a (VoterShape.owned hs) hne with
      ⟨ix, hev, htgt, hok⟩
    subst htgt
    refine ⟨ix, hev, rfl, ?_⟩
    rcases voter_step env e.pre.clock ix e.pre.ledger e.post.ledger realm mint voter hs r hrl hok
      with ⟨ctx, reg, rfl, hup⟩ | ⟨ctx, reg, rfl, hc⟩ | ⟨ctx, w, reg, m, rfl, hup, owner', _, hnew⟩
    · have hv := hup.controls.owner_eq.symm.trans howner
      exact ⟨by rw [← hv]; exact hup.controls.signs, Or.inl ⟨ctx, rfl, hv⟩⟩
    · have hv := hc.owner_eq.symm.trans howner
      exact ⟨by rw [← hv]; exact hc.signs, Or.inr ⟨ctx, rfl, hv⟩⟩
    · -- Left alone, the account would not have changed.
      exfalso
      have hbad := hnot e (List.mem_append_right _ List.mem_cons_self)
      refine hbad ⟨ctx, w, reg, m, hev, hup.accepts, hup.weight_pos, ?_, ?_⟩
      · have hhead := (head_of_voter _ _ hrl).1
        rw [hf.discriminator] at hhead
        exact hhead
      · intro hsame
        rcases (maxVoterWeightRecord_loads_iff _ _).mp hup.accepts.record_loads with ⟨rest, hdata⟩
        refine hne ?_
        have hres := hup.result
        rw [hsame, hdata, Codec.overwrite_encode, ← hdata] at hres
        change e.post.ledger ctx.accounts.maxVoterWeightRecord =
          e.pre.ledger ctx.accounts.maxVoterWeightRecord
        rw [hres, ← hup.accepts.record_owner]

/-- A zero behind the first eight bytes of a wallet's key, and the realm's
    authority replaces the wallet in its record. -/
theorem voter_loses_control :
    Run (plugin Devnet.env) (Devnet.after Devnet.takeover).1 (Devnet.after Devnet.takeover).2 ∧
      ¬ VoterControlled Devnet.env (Devnet.after Devnet.takeover).1 := by
  refine ⟨Devnet.after_run _, fun hctl => ?_⟩
  have hby := hctl [] _ (Devnet.after Devnet.bothRecords).1 rfl
    (Devnet.record Devnet.mint Devnet.voterA) Devnet.realm Devnet.mint Devnet.voterA
    (by decide +kernel) (by decide +kernel)
  rcases hby with ⟨ix, hev, _, _, ⟨ctx, hix, _⟩ | ⟨ctx, hix, _⟩⟩
  · simp only [hix, Devnet.updateMaxRecord, Event.instruction.injEq, reduceCtorEq] at hev
  · simp only [hix, Devnet.updateMaxRecord, Event.instruction.injEq, reduceCtorEq] at hev

/-- Voters stay in control while they create and update. -/
theorem voterControlled_iff_devnet : VoterControlled Devnet.env (Devnet.after Devnet.votes).1 := by
  refine (voterControlled_iff Devnet.env _ _ (Devnet.after_run Devnet.votes)).mpr ?_
  intro e he hbad
  rcases hbad with ⟨ctx, w, _, _, hev, _⟩
  simp only [Devnet.after, Devnet.votes, replay, List.mem_cons, List.not_mem_nil, or_false] at he
  rcases he with rfl | rfl | rfl <;>
    simp only [Devnet.updateRecord, Devnet.createRecord, Devnet.createRegistrar,
      Event.instruction.injEq, reduceCtorEq] at hev

/-! ### One record per person -/

/-- Records are where the wallets they store put them; so no wallet has two of
    them for one realm and mint, and no identity is behind two. -/
structure OneRecordPerPerson (env : Env) (h : History) (s : State) : Prop where
  placed : ∀ a realm mint owner,
    origin env h a = some (.voterWeightRecord realm mint owner) →
      ∃ record : VoterWeightRecord,
        AccountDeserialize.tryDeserialize (s.ledger a).data = .ok record ∧
        a = env.address (.voterWeightRecord record.realm record.governingTokenMint
          record.governingTokenOwner)
  one_record : ∀ a b x y, LiveRecord env h s a x → LiveRecord env h s b y → x.realm = y.realm →
    x.governingTokenMint = y.governingTokenMint →
    x.governingTokenOwner = y.governingTokenOwner → a = b
  one_identity : ∀ a b x y identity, LiveRecord env h s a x → LiveRecord env h s b y →
    x.realm = y.realm → x.governingTokenMint = y.governingTokenMint →
    BackedByIdentity env h a identity → BackedByIdentity env h b identity →
    (∀ v w, env.identityAddress v = identity → env.identityAddress w = identity → v = w) → a = b

/-- In a run without a step that rewrites a record, every live record stores
    what its address was derived from. -/
theorem live_record_placed (env : Env) (h : History) (s : State) (hrun : Run (plugin env) h s)
    (hnot : ∀ e ∈ h, ¬ RewritesVoterRecord env e) (a : Pubkey) (record : VoterWeightRecord)
    (hlive : LiveRecord env h s a record) :
    a = env.address (.voterWeightRecord record.realm record.governingTokenMint
        record.governingTokenOwner) ∧
      ∀ identity, BackedByIdentity env h a identity →
        identity = env.identityAddress record.governingTokenOwner := by
  rcases hlive with ⟨⟨realm, mint, owner, ho⟩, hload⟩
  have hs := shape_run env h s hrun a
  rw [ho] at hs
  rcases VoterShape.record hs with ⟨r, hr, hf⟩
  rw [hload, Except.ok.injEq] at hr
  subst hr
  rcases owner_kept env h s hrun hnot a realm mint owner record ho hload with ⟨howner, hid⟩
  rw [hf.realm_eq, hf.mint_eq, howner]
  exact ⟨VoterShape.address hs, hid⟩

theorem one_record_per_person (env : Env) (h : History) (s : State)
    (hrun : Run (plugin env) h s) (hnot : ∀ e ∈ h, ¬ RewritesVoterRecord env e) :
    OneRecordPerPerson env h s where
  placed a realm mint owner ho := by
    have hs := shape_run env h s hrun a
    rw [ho] at hs
    rcases VoterShape.record hs with ⟨r, hr, _⟩
    exact ⟨r, hr, (live_record_placed env h s hrun hnot a r ⟨⟨realm, mint, owner, ho⟩, hr⟩).1⟩
  one_record a b x y hx hy hrealm hmint howner := by
    rw [(live_record_placed env h s hrun hnot a x hx).1,
      (live_record_placed env h s hrun hnot b y hy).1, hrealm, hmint, howner]
  one_identity a b x y identity hx hy hrealm hmint hbx hby hinj := by
    rcases live_record_placed env h s hrun hnot a x hx with ⟨ha, hida⟩
    rcases live_record_placed env h s hrun hnot b y hy with ⟨hb, hidb⟩
    have howner := hinj _ _ (hida identity hbx).symm (hidb identity hby).symm
    rw [ha, hb, hrealm, hmint, howner]

/-- Two live records that name one wallet, and one of them away from the
    address of what it stores. Nothing derives the two addresses but their
    own seeds. -/
theorem two_records_one_wallet :
    Run (plugin Devnet.env) (Devnet.after Devnet.takeover).1 (Devnet.after Devnet.takeover).2 ∧
    CollisionFreeAt Devnet.env (.voterWeightRecord Devnet.realm Devnet.mint Devnet.voterA) ∧
    CollisionFreeAt Devnet.env (.voterWeightRecord Devnet.realm Devnet.mint Devnet.voterB) ∧
    ¬ OneRecordPerPerson Devnet.env (Devnet.after Devnet.takeover).1
      (Devnet.after Devnet.takeover).2 := by
  refine ⟨Devnet.after_run _, cluster_collisionFreeAt _ _ _ _ (by decide +kernel)
    (by decide +kernel), cluster_collisionFreeAt _ _ _ _ (by decide +kernel) (by decide +kernel),
    fun hone => ?_⟩
  have hsame := hone.one_record (Devnet.record Devnet.mint Devnet.voterA)
    (Devnet.record Devnet.mint Devnet.voterB)
    (newVoterWeightRecord Devnet.env Devnet.realm Devnet.mint Devnet.voterB)
    (newVoterWeightRecord Devnet.env Devnet.realm Devnet.mint Devnet.voterB)
    ⟨⟨Devnet.realm, Devnet.mint, Devnet.voterA, by decide +kernel⟩, by decide +kernel⟩
    ⟨⟨Devnet.realm, Devnet.mint, Devnet.voterB, by decide +kernel⟩, by decide +kernel⟩
    rfl rfl rfl
  exact absurd hsame (by decide +kernel)

/-- Two wallets with a record each. -/
theorem one_record_per_person_devnet : OneRecordPerPerson Devnet.env
    (Devnet.after Devnet.bothRecords).1 (Devnet.after Devnet.bothRecords).2 := by
  refine one_record_per_person Devnet.env _ _ (Devnet.after_run Devnet.bothRecords) ?_
  intro e he hbad
  rcases hbad with ⟨ctx, w, _, _, hev, _⟩
  simp only [Devnet.after, Devnet.bothRecords, replay, List.mem_cons, List.not_mem_nil,
    or_false] at he
  rcases he with rfl | rfl | rfl <;>
    simp only [Devnet.createRecord, Devnet.createRegistrar, Event.instruction.injEq,
      reduceCtorEq] at hev

end EntrosVoterWeight
