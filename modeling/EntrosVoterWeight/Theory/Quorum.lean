import EntrosVoterWeight.Theory.Administration
import EntrosVoterWeight.Theory.Tally

/-!
# The Total of a Body

Against which total the votes of a body are measured.

An account states a total for a body if it belongs to the program, starts with
the discriminator of a max voter weight record, is for the body and has not
expired. Again this is a reading of the record, and the program that reads it
is another one, which can be handed any account. It does not matter: from the
first slot on at most one account in the ledger states a total, and it is the
one the realm's authority set last. Nothing else reaches it, no other body's
authority, no voter, and no passing of time.

The loader of these records compares no discriminator, so the same
instruction can also be pointed at a voter's record. That leaves no second
total behind, because a voter's record never starts like this one.

## Main definitions

* `takenTotal`: The total an account states.
* `Measures`: A step that sets the total.

## Theorems

* `max_step`: Only its own update reaches a max voter weight record.
* `taken_iff`: The account that is taken is the live one.
* `total_stands`: Its total is the one set last.
-/

namespace EntrosVoterWeight

open Borsh Anchor Transition

/-- The total an account states for a body, in a slot. -/
def takenTotal (env : Env) (slot : UInt64) (d : Dao) (acc : Account) : Option Nat :=
  match MaxVoterWeightRecord.codec.decode acc.data with
  | some (record, _) =>
    if acc.owner = programId ∧ acc.data.take 8 = env.maxVoterWeightRecordDiscriminator.bytes ∧
        record.realm = d.1 ∧ record.governingTokenMint = d.2 ∧
        record.maxVoterWeightExpiry.all (fun expiry => slot ≤ expiry) = true then
      some record.maxVoterWeight.toNat
    else none
  | none => none

/-- A step that sets the total of a body, signed by its realm's authority. -/
def Measures (env : Env) (d : Dao) (weight : UInt64) (e : Entry State Event) : Prop :=
  ∃ ctx, Acts env (.updateMaxVoterWeightRecord ctx weight)
      (env.address (.maxVoterWeightRecord d.1 d.2)) e ∧
    SignedByAuthority env (.updateMaxVoterWeightRecord ctx weight) d.1 d.2 e.pre.ledger
      e.post.ledger

/-- The max voter weight record of a body, live and with a total. -/
def Stands (env : Env) (o : Pubkey → Option Place) (ledger : Ledger) (d : Dao)
    (weight : UInt64) : Prop :=
  o (env.address (.maxVoterWeightRecord d.1 d.2)) = some (.maxVoterWeightRecord d.1 d.2) ∧
    0 < weight ∧ ∃ record : MaxVoterWeightRecord, AccountDeserialize.tryDeserialize
      (ledger (env.address (.maxVoterWeightRecord d.1 d.2))).data = .ok record ∧
      record.maxVoterWeight = weight

/-! ### Which account is taken -/

/-- The account that states a total is the live one of the body. Before it is
    set, a record has expired with the slot before the first one. -/
theorem taken_iff (env : Env) (o : Pubkey → Option Place) (ledger : Ledger)
    (hc : Consistent env o ledger) (slot : UInt64) (hslot : 0 < slot) (d : Dao)
    (hrealm : env.executable d.1 = false) (a : Pubkey) (w : Nat) :
    takenTotal env slot d (ledger a) = some w ↔
      a = env.address (.maxVoterWeightRecord d.1 d.2) ∧
        ∃ weight, Stands env o ledger d weight ∧ weight.toNat = w := by
  constructor
  · intro htaken
    rcases hdec : MaxVoterWeightRecord.codec.decode (ledger a).data with _ | ⟨r, rest⟩
    · simp only [takenTotal, hdec, reduceCtorEq] at htaken
    · simp only [takenTotal, hdec, Option.ite_none_right_eq_some, Option.some.injEq] at htaken
      rcases htaken with ⟨⟨hown, hhead, hr, hm, hopen⟩, hw⟩
      have hload : AccountDeserialize.tryDeserialize (ledger a).data = .ok r :=
        (maxVoterWeightRecord_loads_iff _ _).mpr
          ⟨rest, (MaxVoterWeightRecord.codec.decode_iff _ _ _).mp hdec⟩
      have hs := hc.shape a
      rcases consistent_max env o ledger hc a r hown hload (by rw [hr]; exact hrealm) with
        ⟨owner, ho⟩ | ho
      · -- A voter's record starts with the other discriminator.
        rw [ho] at hs
        rcases VoterShape.record hs with ⟨v, hv, hf⟩
        rw [(head_of_voter _ _ hv).1, hf.discriminator] at hhead
        exact absurd (FixedBytes.ext hhead) env.voter_ne_max
      · rw [hr, hm] at ho
        rw [ho] at hs
        have haddr := MaxShape.address hs
        subst haddr
        refine ⟨rfl, r.maxVoterWeight, ⟨ho, ?_, r, hload, rfl⟩, hw⟩
        rcases MaxShape.record hs with ⟨r', hr', hf⟩
        rw [hload, Except.ok.injEq] at hr'
        subst hr'
        -- Expiry zero is in the past.
        rcases hf.weight with ⟨_, hexp⟩ | ⟨hpos, _⟩
        · rw [hexp, Option.all_some, decide_eq_true_eq] at hopen
          exact absurd (UInt64.lt_of_lt_of_le hslot hopen) (UInt64.lt_irrefl 0)
        · exact hpos
  · intro hstands
    rcases hstands with ⟨rfl, weight, ⟨ho, hweight, r, hload, rfl⟩, rfl⟩
    have hs := hc.shape (env.address (.maxVoterWeightRecord d.1 d.2))
    rw [ho] at hs
    rcases MaxShape.record hs with ⟨r', hr', hf⟩
    rw [hload, Except.ok.injEq] at hr'
    subst hr'
    -- A total does not expire.
    have hexp : r.maxVoterWeightExpiry = none := by
      rcases hf.weight with ⟨hzero, _⟩ | ⟨_, hnone⟩
      · rw [hzero] at hweight
        exact absurd hweight (by decide)
      · exact hnone
    rcases (maxVoterWeightRecord_loads_iff _ _).mp hload with ⟨rest, hdata⟩
    have hdec := (MaxVoterWeightRecord.codec.decode_iff _ r rest).mpr hdata
    have hhead := head_of_max _ _ hload
    rw [hf.discriminator] at hhead
    have hall : r.maxVoterWeightExpiry.all (fun expiry => decide (slot ≤ expiry)) = true := by
      rw [hexp, Option.all_none]
    simp only [takenTotal, hdec]
    rw [if_pos ⟨MaxShape.owned hs, hhead, hf.realm_eq, hf.mint_eq, hall⟩]

/-! ### What reaches it -/

/-- Only its own update reaches a max voter weight record, and leaves the
    total it was given. -/
theorem max_step (env : Env) (clock : Clock) (ix : Instruction) (ledger ledger' : Ledger)
    (realm mint : Pubkey) (hs : MaxShape env realm mint ix.target (ledger ix.target))
    (hp : process env clock ix ledger = .ok ledger') :
    ∃ ctx w, ix = .updateMaxVoterWeightRecord ctx w := by
  have hnot : ∀ r : Registrar,
      AccountDeserialize.tryDeserialize (ledger ix.target).data ≠ .ok r := by
    intro r hr
    rcases registrar_of_loads env (some (.maxVoterWeightRecord realm mint)) _ _ hs hs.owned r hr
      with ⟨_, _, habs⟩
    simp only [Option.some.injEq, reduceCtorEq] at habs
  -- It is too short for the loader of the other record.
  rcases record_step env clock ix ledger ledger' hp hs.owned hnot with
    ⟨ctx, rfl⟩ | ⟨ctx, rfl⟩ | hmax
  · rcases recordUpdated_of_ok env clock ctx ledger ledger' hp with ⟨reg, r, h⟩
    exact absurd h.controls.record_loads (voter_of_short _ hs.length r)
  · rcases controlsRecord_of_close env clock ctx ledger ledger' hp with ⟨reg, r, h⟩
    exact absurd h.record_loads (voter_of_short _ hs.length r)
  · exact hmax

/-- A record just created has no total. -/
theorem max_created (env : Env) (clock : Clock) (ix : Instruction) (ledger ledger' : Ledger)
    (hp : process env clock ix ledger = .ok ledger') (hb : ix.begins = true) (old : Option Place)
    (realm mint : Pubkey) (ho : ix.becomes ledger old = some (.maxVoterWeightRecord realm mint))
    (record : MaxVoterWeightRecord)
    (hload : AccountDeserialize.tryDeserialize (ledger' ix.target).data = .ok record) :
    record.maxVoterWeight = 0 := by
  cases ix with
  | createMaxVoterWeightRecord ctx =>
      rcases (createMaxVoterWeightRecord_eq_ok ..).mp hp with ⟨reg, _, rfl⟩
      simp only [Instruction.target, Function.update_self] at hload
      have hnew := hload.symm.trans
        ((maxVoterWeightRecord_loads_iff _ (newMaxVoterWeightRecord env _ _)).mpr
          ⟨[], (List.append_nil _).symm⟩)
      rw [Except.ok.injEq] at hnew
      rw [hnew]
      rfl
  -- The other two create accounts of other kinds.
  | createRegistrar ctx t g =>
      simp only [Instruction.becomes, Option.some.injEq, reduceCtorEq] at ho
  | createVoterWeightRecord ctx owner =>
      rcases hreg : registrarAt ledger ctx.accounts.registrar with _ | reg
      · simp only [Instruction.becomes, hreg, Option.map_none, reduceCtorEq] at ho
      · simp only [Instruction.becomes, hreg, Option.map_some, Option.some.injEq,
          reduceCtorEq] at ho
  | updateRegistrar _ _ _ => exact (Bool.false_ne_true hb).elim
  | updateVoterWeightRecord _ => exact (Bool.false_ne_true hb).elim
  | closeRegistrar _ => exact (Bool.false_ne_true hb).elim
  | closeVoterWeightRecord _ => exact (Bool.false_ne_true hb).elim
  | updateMaxVoterWeightRecord _ _ => exact (Bool.false_ne_true hb).elim

/-- A successful update of what is at the address of a body's record was given
    that record. -/
theorem max_live (env : Env) (o : Pubkey → Option Place) (ledger ledger' : Ledger)
    (hc : Consistent env o ledger) (d : Dao)
    (hfree : CollisionFreeAt env (.maxVoterWeightRecord d.1 d.2))
    (ctx : Context UpdateMaxVoterWeightRecord) (w : UInt64) (registrar : Registrar)
    (record : MaxVoterWeightRecord)
    (htgt : ctx.accounts.maxVoterWeightRecord = env.address (.maxVoterWeightRecord d.1 d.2))
    (hup : MaxUpdated env ledger ledger' ctx w registrar record) :
    o ctx.accounts.maxVoterWeightRecord = some (.maxVoterWeightRecord d.1 d.2) := by
  have hs := hc.shape ctx.accounts.maxVoterWeightRecord
  rcases consistent_accepts env o ledger hc ctx registrar record hup.accepts with
    ⟨owner, ho⟩ | ho
  · rw [ho] at hs
    have hplace := place_of_address env _ _ hfree ((VoterShape.address hs).symm.trans htgt)
    exact absurd hplace (by simp only [reduceCtorEq, not_false_eq_true])
  · rw [ho] at hs
    rw [ho, place_of_address env _ _ hfree ((MaxShape.address hs).symm.trans htgt)]

/-! ### The total set last -/

section
variable (env : Env) (d : Dao) (h : History) (s : State) (e : Event) (s' : State)
variable (hc : Consistent env (origin env h) s.ledger) (weight : UInt64)

include hc in
/-- The record stands as it was when nothing acts on it. -/
theorem stands_quiet
    (horig : origin env (⟨s, e, s'⟩ :: h) (env.address (.maxVoterWeightRecord d.1 d.2)) =
      origin env h (env.address (.maxVoterWeightRecord d.1 d.2)))
    (hkept : (s.ledger (env.address (.maxVoterWeightRecord d.1 d.2))).owner = programId →
      s'.ledger (env.address (.maxVoterWeightRecord d.1 d.2)) =
        s.ledger (env.address (.maxVoterWeightRecord d.1 d.2))) :
    Stands env (origin env (⟨s, e, s'⟩ :: h)) s'.ledger d weight ↔
      Stands env (origin env h) s.ledger d weight := by
  simp only [Stands, horig]
  refine and_congr_right fun ho => ?_
  have hs := hc.shape (env.address (.maxVoterWeightRecord d.1 d.2))
  rw [ho] at hs
  rw [hkept (MaxShape.owned hs)]

include hc in
/-- Before an instruction other than its update, the record does not stand,
    nor after it. -/
theorem not_stands (ix : Instruction)
    (hact : Acts env ix (env.address (.maxVoterWeightRecord d.1 d.2)) ⟨s, e, s'⟩)
    (hnot : ∀ ctx w, ix ≠ .updateMaxVoterWeightRecord ctx w)
    (horig : origin env (⟨s, e, s'⟩ :: h) (env.address (.maxVoterWeightRecord d.1 d.2)) =
      ix.becomes s.ledger (origin env h (env.address (.maxVoterWeightRecord d.1 d.2)))) :
    ¬ Stands env (origin env h) s.ledger d weight ∧
      ¬ Stands env (origin env (⟨s, e, s'⟩ :: h)) s'.ledger d weight := by
  rcases hact with ⟨_, htgt, hp⟩
  -- Nothing else reaches a live max voter weight record.
  have hbefore : origin env h (env.address (.maxVoterWeightRecord d.1 d.2)) ≠
      some (.maxVoterWeightRecord d.1 d.2) := by
    intro ho
    have hs := hc.shape (env.address (.maxVoterWeightRecord d.1 d.2))
    rw [ho, ← htgt] at hs
    rcases max_step env s.clock ix s.ledger s'.ledger d.1 d.2 hs hp with ⟨ctx, w, heq⟩
    exact hnot ctx w heq
  refine ⟨fun hst => hbefore hst.1, ?_⟩
  intro hst
  rcases hst with ⟨ho, hpos, r, hload, rfl⟩
  rw [horig] at ho
  rw [← htgt] at hload
  by_cases hb : ix.begins = true
  · -- A record just created states no total.
    rw [max_created env s.clock ix s.ledger s'.ledger hp hb _ d.1 d.2 ho r hload] at hpos
    exact absurd hpos (by decide)
  · by_cases he : ix.ends = true
    · rw [becomes_of_ends s.ledger ix _ he] at ho
      exact absurd ho (by simp only [reduceCtorEq, not_false_eq_true])
    · rw [becomes_of_keeps s.ledger ix _ (by simpa only [Bool.not_eq_true] using hb)
        (by simpa only [Bool.not_eq_true] using he)] at ho
      exact hbefore ho

include hc in
/-- Its update is a measurement, and leaves the total it was given. -/
theorem stands_measured (hspec : GovernanceSpec env)
    (hfree : CollisionFreeAt env (.maxVoterWeightRecord d.1 d.2))
    (ctx : Context UpdateMaxVoterWeightRecord) (w : UInt64)
    (hact : Acts env (.updateMaxVoterWeightRecord ctx w)
      (env.address (.maxVoterWeightRecord d.1 d.2)) ⟨s, e, s'⟩)
    (horig : origin env (⟨s, e, s'⟩ :: h) (env.address (.maxVoterWeightRecord d.1 d.2)) =
      origin env h (env.address (.maxVoterWeightRecord d.1 d.2))) :
    Measures env d w ⟨s, e, s'⟩ ∧
      (Stands env (origin env (⟨s, e, s'⟩ :: h)) s'.ledger d weight ↔ w = weight) := by
  rcases maxUpdated_of_ok env s.clock ctx w s.ledger s'.ledger hact.2.2 with ⟨reg, m, hup⟩
  have htgt : ctx.accounts.maxVoterWeightRecord =
      env.address (.maxVoterWeightRecord d.1 d.2) := hact.2.1
  have ho := max_live env (origin env h) s.ledger s'.ledger hc d hfree ctx w reg m htgt hup
  have hload : AccountDeserialize.tryDeserialize
      (s'.ledger ctx.accounts.maxVoterWeightRecord).data = .ok (m.withWeight w) := by
    rw [hup.result]
    exact (maxVoterWeightRecord_loads_iff _ _).mpr ⟨_, rfl⟩
  refine ⟨⟨ctx, hact, admin_signed env hspec _ s.clock _ s.ledger s'.ledger hc hact.2.2 d.1 d.2 _
    (Or.inr rfl) (Or.inl ho)⟩, ?_⟩
  rw [htgt] at ho hload
  -- What stands is what was written.
  constructor
  · intro hst
    rcases hst with ⟨_, _, r, hr, rfl⟩
    rw [hload, Except.ok.injEq] at hr
    rw [← hr]
    rfl
  · rintro rfl
    exact ⟨horig.trans ho, hup.weight_pos, _, hload, rfl⟩

include hc in
/-- A step that sets the total leaves it, and nothing else changes it. -/
theorem stands_step (hspec : GovernanceSpec env)
    (hfree : CollisionFreeAt env (.maxVoterWeightRecord d.1 d.2)) (hst : Step env s e s') :
    Stands env (origin env (⟨s, e, s'⟩ :: h)) s'.ledger d weight ↔
      Measures env d weight ⟨s, e, s'⟩ ∨
        ((∀ w, ¬ Measures env d w ⟨s, e, s'⟩) ∧ Stands env (origin env h) s.ledger d weight) := by
  rcases step_account env h s s' e hst (env.address (.maxVoterWeightRecord d.1 d.2)) with
    ⟨ix, hact, horig⟩ | ⟨hquiet, horig, hkept⟩
  · by_cases hmax : ∃ ctx w, ix = .updateMaxVoterWeightRecord ctx w
    · -- A total is set, so the old one is gone.
      rcases hmax with ⟨ctx, w, rfl⟩
      rcases stands_measured env d h s e s' hc weight hspec hfree ctx w hact horig with
        ⟨hmeas, hiff⟩
      rw [hiff]
      constructor
      · rintro rfl
        exact Or.inl hmeas
      · intro hor
        rcases hor with ⟨ctx', hact', _⟩ | ⟨hnone, _⟩
        · have heq := acts_unique env _ _ _ _ _ hact hact'
          rw [Instruction.updateMaxVoterWeightRecord.injEq] at heq
          exact heq.2
        · exact absurd hmeas (hnone w)
    · -- Something else succeeds at the address, and no total stands.
      have hnot : ∀ ctx w, ix ≠ .updateMaxVoterWeightRecord ctx w :=
        fun ctx w heq => hmax ⟨ctx, w, heq⟩
      rcases not_stands env d h s e s' hc weight ix hact hnot horig with ⟨hbefore, hafter⟩
      refine iff_of_false hafter ?_
      intro hor
      rcases hor with ⟨ctx, hact', _⟩ | ⟨_, hst⟩
      · exact hnot ctx weight (acts_unique env _ _ _ _ _ hact hact')
      · exact hbefore hst
  · -- Nothing happens there, so what stood stands.
    have hnone : ∀ w, ¬ Measures env d w ⟨s, e, s'⟩ := by
      intro w hmeas
      rcases hmeas with ⟨ctx, hact, _⟩
      exact hquiet _ hact
    rw [stands_quiet env d h s e s' hc weight horig hkept]
    constructor
    · exact fun hst => Or.inr ⟨hnone, hst⟩
    · exact fun hor => hor.elim (fun hmeas => absurd hmeas (hnone weight)) And.right

end

/-- A total stands exactly if it is the one set last. -/
theorem stands_run (env : Env) (hspec : GovernanceSpec env) (h : History) (s : State)
    (hrun : Run (plugin env) h s) (hsep : ∀ e ∈ h, Separated env e.pre.ledger) (d : Dao)
    (hfree : CollisionFreeAt env (.maxVoterWeightRecord d.1 d.2)) (weight : UInt64) :
    Stands env (origin env h) s.ledger d weight ↔
      Since (fun e => ∀ w, ¬ Measures env d w e) (Measures env d weight) h := by
  induction hrun with
  | start s _ =>
      refine iff_of_false ?_ id
      intro hst
      exact absurd hst.1 (by simp only [origin, reduceCtorEq, not_false_eq_true])
  | step h s e s' hr hst ih =>
      have hpast : ∀ x ∈ h, Separated env x.pre.ledger :=
        fun x hx => hsep x (List.mem_cons_of_mem _ hx)
      rw [stands_step env d h s e s' (consistent_run env hspec h s hr hpast) weight hspec hfree hst,
        ih hpast]
      rfl

/-- From the first slot on, the one account that states a total for a body is
    where the body's record is, and the total is the one that the realm's
    authority set last. -/
theorem total_stands (env : Env) (hspec : GovernanceSpec env) (h : History) (s : State)
    (hrun : Run (plugin env) h s) (hsep : ∀ e ∈ h, Separated env e.pre.ledger)
    (hslot : 0 < s.clock.slot) (d : Dao) (hrealm : env.executable d.1 = false)
    (hfree : CollisionFreeAt env (.maxVoterWeightRecord d.1 d.2)) (a : Pubkey) (w : Nat) :
    takenTotal env s.clock.slot d (s.ledger a) = some w ↔
      a = env.address (.maxVoterWeightRecord d.1 d.2) ∧ ∃ weight : UInt64, weight.toNat = w ∧
        Since (fun e => ∀ w', ¬ Measures env d w' e) (Measures env d weight) h := by
  rw [taken_iff env _ s.ledger (consistent_run env hspec h s hrun hsep) s.clock.slot hslot d hrealm
    a w]
  refine and_congr_right fun _ => exists_congr fun weight => ?_
  rw [stands_run env hspec h s hrun hsep d hfree weight, and_comm]

/-- A total of twenty-one was set, and the registrar states none. -/
theorem total_stands_devnet : (∃ weight : UInt64, weight.toNat = 21 ∧
      Since (fun e => ∀ w, ¬ Measures Devnet.env (Devnet.realm, Devnet.mint) w e)
        (Measures Devnet.env (Devnet.realm, Devnet.mint) weight) (Devnet.after Devnet.quorum).1) ∧
    ∀ w, takenTotal Devnet.env (Devnet.after Devnet.quorum).2.clock.slot
      (Devnet.realm, Devnet.mint) ((Devnet.after Devnet.quorum).2.ledger
        (Devnet.registrar Devnet.mint)) ≠ some w := by
  have hstands := total_stands Devnet.env (cluster_governanceSpec _ _ _) _ _
    (Devnet.after_run Devnet.quorum) (Devnet.after_separated _ (by decide +kernel))
    (by decide +kernel) (Devnet.realm, Devnet.mint) (by decide +kernel)
    (Devnet.collisionFreeAt _ (by decide +kernel))
  constructor
  · exact ((hstands Devnet.maxRecord 21).mp (by decide +kernel)).2
  · intro w htaken
    exact absurd ((hstands (Devnet.registrar Devnet.mint) w).mp htaken).1 (by decide +kernel)

end EntrosVoterWeight
