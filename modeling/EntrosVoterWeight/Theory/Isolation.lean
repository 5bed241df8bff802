import EntrosVoterWeight.Theory.Reads
import EntrosVoterWeight.Theory.Separation

/-!
# Isolation of the DAOs

A realm and a governing mint are a world of their own.

An instruction that works under the registrar of a pair touches accounts of
that pair only, and what it does there depends on the clock, the realm, the
identities and the accounts of the pair, whatever the accounts of other pairs
hold. The caller may pass any of those in any slot; they are refused by what
they store or by where they are.

`within_pair` is the case analysis over the instructions, made once: the
registrar an instruction loads, the account it changes and the account of
another program it looks at are all in the pair, or the realm, or an identity.
The one slot where nothing is in the pair yet is that of an account about to
be created, and there the address decides. It has to be free of collisions,
because an account of another pair at the same address would be in the way.

## Main definitions

* `InPair`: A live account of a pair.
* `AgreeOn`: Two states that look the same to a pair.
* `WithinPair`: What an instruction of a pair looks at.

## Theorems

* `within_pair`: An instruction of a pair stays within it.
* `agree_step`: It does the same in states that agree on the pair.
* `agree_other`: An instruction of another pair does nothing the pair can see.
* `dao_isolation`: Both halves, for reachable states.
-/

namespace EntrosVoterWeight

open Borsh Anchor Transition

/-- A live account of the pair. -/
def InPair (o : Pubkey → Option Place) (realm mint a : Pubkey) : Prop :=
  ∃ p, o a = some p ∧ p.pair = (realm, mint)

/-- Two ledgers that agree on the realm, on the identities, on which accounts
    belong to the pair, and on what these hold. -/
structure AgreeOn (env : Env) (realm mint : Pubkey) (o₁ o₂ : Pubkey → Option Place)
    (l₁ l₂ : Ledger) : Prop where
  realm_eq : l₁ realm = l₂ realm
  identities : ∀ voter, l₁ (env.identityAddress voter) = l₂ (env.identityAddress voter)
  members : ∀ a, InPair o₁ realm mint a ↔ InPair o₂ realm mint a
  accounts : ∀ a, InPair o₁ realm mint a → l₁ a = l₂ a

theorem AgreeOn.symm (env : Env) (realm mint : Pubkey) (o₁ o₂ : Pubkey → Option Place)
    (l₁ l₂ : Ledger) (h : AgreeOn env realm mint o₁ o₂ l₁ l₂) :
    AgreeOn env realm mint o₂ o₁ l₂ l₁ where
  realm_eq := h.realm_eq.symm
  identities voter := (h.identities voter).symm
  members a := (h.members a).symm
  accounts a ha := (h.accounts a ((h.members a).mpr ha)).symm

/-- What a successful instruction of a pair looks at. -/
structure WithinPair (env : Env) (o : Pubkey → Option Place) (ledger : Ledger) (ix : Instruction)
    (realm mint : Pubkey) : Prop where
  registrar : ix.registrar = ix.target ∨ InPair o realm mint ix.registrar
  target : (ix.begins = true ∧ ∃ p, p.pair = (realm, mint) ∧ ix.target = env.address p ∧
      ∀ old, ix.becomes ledger old = some p) ∨
    (ix.begins = false ∧ InPair o realm mint ix.target)
  foreign : ∀ a, ix.foreign = some a → a = realm ∨ ∃ voter, a = env.identityAddress voter

variable (env : Env) (o : Pubkey → Option Place) (ledger : Ledger) (realm mint : Pubkey)

/-! ### An instruction stays within its pair -/

/-- What loads as a registrar at a pair's address is the registrar of the
    pair. -/
theorem registrar_of_pair (hc : Consistent env o ledger)
    (hfree : CollisionFreeAt env (.registrar realm mint)) (key : Pubkey) (registrar : Registrar)
    (hkey : key = env.address (.registrar realm mint))
    (hown : (ledger key).owner = programId)
    (hload : AccountDeserialize.tryDeserialize (ledger key).data = .ok registrar) :
    registrar.realm = realm ∧ registrar.governingTokenMint = mint ∧ InPair o realm mint key := by
  rcases consistent_registrar env o ledger hc key registrar hown hload with ⟨ho, haddr, _⟩
  have hplace := place_of_address env _ _ hfree (haddr.symm.trans hkey)
  rw [hplace] at ho
  simp only [Place.registrar.injEq] at hplace
  exact ⟨hplace.1, hplace.2, _, ho, rfl⟩

/-- An instruction that looks at its realm looks at the pair's. -/
theorem foreign_of_realm (foreign : Option Pubkey) (realmKey : Pubkey)
    (hforeign : foreign = some realmKey) (hrealm : realmKey = realm) :
    ∀ a, foreign = some a → a = realm ∨ ∃ voter, a = env.identityAddress voter := by
  intro a ha
  rw [hforeign, Option.some.injEq] at ha
  exact Or.inl (ha.symm.trans hrealm)

/-- The registrar loaded, the account changed and the account looked at are
    all the pair's. -/
theorem within_pair (hc : Consistent env o ledger)
    (hfree : CollisionFreeAt env (.registrar realm mint)) (clock : Clock) (ix : Instruction)
    (ledger' : Ledger) (hreg : ix.registrar = env.address (.registrar realm mint))
    (hp : process env clock ix ledger = .ok ledger') :
    WithinPair env o ledger ix realm mint := by
  cases ix with
  | createRegistrar ctx t g =>
      rcases (createRegistrar_eq_ok ..).mp hp with ⟨h, _⟩
      -- The registrar to be created is at the pair's address, so it is the pair's.
      have hplace := place_of_address env _ _ hfree (h.seeds.symm.trans hreg)
      simp only [Place.registrar.injEq] at hplace
      rcases hplace with ⟨hrealm, hmint⟩
      refine ⟨Or.inl rfl, Or.inl ⟨rfl, _, ?_, h.seeds, fun _ => rfl⟩, ?_⟩
      · rw [Place.pair, hrealm, hmint]
      · exact foreign_of_realm env realm _ _ rfl hrealm
  | updateRegistrar ctx t g =>
      rcases (updateRegistrar_eq_ok ..).mp hp with ⟨reg, h, _⟩
      rcases registrar_of_pair env o ledger realm mint hc hfree _ reg hreg h.owner h.loads with
        ⟨hrealm, _, hin⟩
      refine ⟨Or.inl rfl, Or.inr ⟨rfl, hin⟩, ?_⟩
      exact foreign_of_realm env realm _ _ rfl (h.realm_eq.trans hrealm)
  | createVoterWeightRecord ctx owner =>
      rcases (createVoterWeightRecord_eq_ok ..).mp hp with ⟨reg, h, _⟩
      rcases registrar_of_pair env o ledger realm mint hc hfree _ reg hreg h.registrar_owner
        h.registrar_loads with ⟨hrealm, hmint, hin⟩
      have hat := (registrarAt_eq_some ..).mpr ⟨h.registrar_owner, h.registrar_loads⟩
      refine ⟨Or.inr hin, Or.inl ⟨rfl, .voterWeightRecord reg.realm reg.governingTokenMint owner,
        ?_, h.record_seeds, fun _ => ?_⟩, ?_⟩
      · rw [Place.pair, hrealm, hmint]
      · simp only [Instruction.becomes, hat, Option.map_some]
      · intro a ha
        simp only [Instruction.foreign, reduceCtorEq] at ha
  | updateVoterWeightRecord ctx =>
      rcases recordUpdated_of_ok env clock ctx ledger ledger' hp with ⟨reg, r, h⟩
      rcases registrar_of_pair env o ledger realm mint hc hfree _ reg hreg
        h.controls.registrar_owner h.controls.registrar_loads with ⟨hrealm, hmint, hin⟩
      -- Accounts of other pairs and of other kinds fail the comparisons.
      rcases consistent_controls env o ledger hc _ _ _ _ _ reg r h.controls with ⟨owner, ho⟩
      refine ⟨Or.inr hin, Or.inr ⟨rfl, _, ho, ?_⟩, ?_⟩
      · rw [Place.pair, hrealm, hmint]
      · -- The account looked at is the one the voter's key derives.
        intro a ha
        simp only [Instruction.foreign, h.identity, Option.some.injEq] at ha
        exact Or.inr ⟨_, ha.symm⟩
  | closeRegistrar ctx =>
      rcases (closeRegistrar_eq_ok ..).mp hp with ⟨reg, h, _⟩
      rcases registrar_of_pair env o ledger realm mint hc hfree _ reg hreg h.owner h.loads with
        ⟨hrealm, _, hin⟩
      refine ⟨Or.inl rfl, Or.inr ⟨rfl, hin⟩, ?_⟩
      exact foreign_of_realm env realm _ _ rfl (h.realm_eq.trans hrealm)
  | closeVoterWeightRecord ctx =>
      rcases controlsRecord_of_close env clock ctx ledger ledger' hp with ⟨reg, r, h⟩
      rcases registrar_of_pair env o ledger realm mint hc hfree _ reg hreg h.registrar_owner
        h.registrar_loads with ⟨hrealm, hmint, hin⟩
      rcases consistent_controls env o ledger hc _ _ _ _ _ reg r h with ⟨owner, ho⟩
      refine ⟨Or.inr hin, Or.inr ⟨rfl, _, ho, ?_⟩, ?_⟩
      · rw [Place.pair, hrealm, hmint]
      · intro a ha
        simp only [Instruction.foreign, reduceCtorEq] at ha
  | createMaxVoterWeightRecord ctx =>
      rcases (createMaxVoterWeightRecord_eq_ok ..).mp hp with ⟨reg, h, _⟩
      rcases registrar_of_pair env o ledger realm mint hc hfree _ reg hreg h.registrar_owner
        h.registrar_loads with ⟨hrealm, hmint, hin⟩
      have hat := (registrarAt_eq_some ..).mpr ⟨h.registrar_owner, h.registrar_loads⟩
      refine ⟨Or.inr hin, Or.inl ⟨rfl, .maxVoterWeightRecord reg.realm reg.governingTokenMint,
        ?_, h.record_seeds, fun _ => ?_⟩, ?_⟩
      · rw [Place.pair, hrealm, hmint]
      · simp only [Instruction.becomes, hat, Option.map_some]
      · exact foreign_of_realm env realm _ _ rfl (h.realm_eq.trans hrealm)
  | updateMaxVoterWeightRecord ctx w =>
      rcases maxUpdated_of_ok env clock ctx w ledger ledger' hp with ⟨reg, m, h⟩
      rcases registrar_of_pair env o ledger realm mint hc hfree _ reg hreg
        h.accepts.registrar_owner h.accepts.registrar_loads with ⟨hrealm, hmint, hin⟩
      have hin_target : InPair o realm mint ctx.accounts.maxVoterWeightRecord := by
        rcases consistent_accepts env o ledger hc ctx reg m h.accepts with ⟨owner, ho⟩ | ho
        · exact ⟨_, ho, by rw [Place.pair, hrealm, hmint]⟩
        · exact ⟨_, ho, by rw [Place.pair, hrealm, hmint]⟩
      refine ⟨Or.inr hin, Or.inr ⟨rfl, hin_target⟩, ?_⟩
      exact foreign_of_realm env realm _ _ rfl (h.accepts.realm_eq.trans hrealm)

/-! ### The same in both states -/

/-- Afterwards the target is in the pair unless it was closed. -/
theorem in_pair_after (ix : Instruction) (h : WithinPair env o ledger ix realm mint) :
    InPair (Function.update o ix.target (ix.becomes ledger (o ix.target))) realm mint ix.target ↔
      ix.ends = false := by
  rw [InPair, Function.update_self]
  constructor
  · intro hin
    rcases hin with ⟨p, hp, _⟩
    by_contra he
    rw [becomes_of_ends ledger ix _ (by simpa only [Bool.not_eq_false] using he)] at hp
    exact absurd hp (by simp only [reduceCtorEq, not_false_eq_true])
  · intro he
    rcases h.target with ⟨_, p, hpair, _, hp⟩ | ⟨hb, hin⟩
    · exact ⟨p, hp _, hpair⟩
    · rw [becomes_of_keeps ledger ix _ hb he]
      exact hin

/-- What an instruction of a pair does in one state, it does in every state
    that agrees on the pair. -/
theorem agree_step (o₁ o₂ : Pubkey → Option Place) (l₁ l₂ l₁' : Ledger)
    (hc₁ : Consistent env o₁ l₁) (hc₂ : Consistent env o₂ l₂)
    (hagree : AgreeOn env realm mint o₁ o₂ l₁ l₂)
    (hfree : CollisionFreeAt env (.registrar realm mint)) (clock : Clock) (ix : Instruction)
    (hreg : ix.registrar = env.address (.registrar realm mint))
    (htarget : ∀ p : Place, p.pair = (realm, mint) → env.address p = ix.target →
      CollisionFreeAt env p)
    (hp : process env clock ix l₁ = .ok l₁') :
    ∃ l₂', process env clock ix l₂ = .ok l₂' ∧ l₂' ix.target = l₁' ix.target := by
  have hw := within_pair env o₁ l₁ realm mint hc₁ hfree clock ix l₁' hreg hp
  have htgt : l₁ ix.target = l₂ ix.target := by
    rcases hw.target with ⟨hb, p, hpair, haddr, _⟩ | ⟨_, hin⟩
    · -- Nothing is there yet, and only an account of the pair could be.
      rcases ho : o₂ ix.target with _ | q
      · have hs := hc₂.shape ix.target
        rw [ho] at hs
        rw [ForeignShape.derived hs ⟨_, haddr⟩]
        exact (begins_vacant env clock ix l₁ l₁' hp hb).1
      · have hs := hc₂.shape ix.target
        rw [ho] at hs
        have hq : env.address q = env.address p :=
          (shape_placed env q _ _ hs).2.symm.trans haddr
        rw [place_of_address env p q (htarget p hpair haddr.symm) hq] at ho
        exact hagree.accounts _ ((hagree.members _).mpr ⟨p, ho, hpair⟩)
    · exact hagree.accounts _ hin
  have hregistrar : l₁ ix.registrar = l₂ ix.registrar := by
    rcases hw.registrar with heq | hin
    · rw [heq]
      exact htgt
    · exact hagree.accounts _ hin
  refine process_congr env clock ix l₁ l₂ l₁' hregistrar htgt ?_ hp
  intro a ha
  rcases hw.foreign a ha with rfl | ⟨voter, rfl⟩
  · exact hagree.realm_eq
  · exact hagree.identities voter

/-- Two states that agree on a pair still do after an instruction of the
    pair. -/
theorem agree_after (o₁ o₂ : Pubkey → Option Place) (l₁ l₂ l₁' l₂' : Ledger)
    (hagree : AgreeOn env realm mint o₁ o₂ l₁ l₂) (clock : Clock) (ix : Instruction)
    (hw₁ : WithinPair env o₁ l₁ ix realm mint) (hw₂ : WithinPair env o₂ l₂ ix realm mint)
    (hp₁ : process env clock ix l₁ = .ok l₁') (hp₂ : process env clock ix l₂ = .ok l₂')
    (heq : l₂' ix.target = l₁' ix.target) :
    (∀ a, l₁ a = l₂ a → l₁' a = l₂' a) ∧
      AgreeOn env realm mint (Function.update o₁ ix.target (ix.becomes l₁ (o₁ ix.target)))
        (Function.update o₂ ix.target (ix.becomes l₂ (o₂ ix.target))) l₁' l₂' := by
  have hkeep : ∀ a, l₁ a = l₂ a → l₁' a = l₂' a := by
    intro a ha
    by_cases hat : a = ix.target
    · rw [hat]
      exact heq.symm
    · rw [process_frame env clock ix l₁ l₁' hp₁ a hat, process_frame env clock ix l₂ l₂' hp₂ a hat]
      exact ha
  refine ⟨hkeep, hkeep _ hagree.realm_eq, fun v => hkeep _ (hagree.identities v), ?_, ?_⟩
  · intro a
    by_cases hat : a = ix.target
    · rw [hat]
      exact (in_pair_after env o₁ l₁ realm mint ix hw₁).trans
        (in_pair_after env o₂ l₂ realm mint ix hw₂).symm
    · simp only [InPair, Function.update_of_ne hat]
      exact hagree.members a
  · intro a ha
    by_cases hat : a = ix.target
    · rw [hat]
      exact heq.symm
    · simp only [InPair, Function.update_of_ne hat] at ha
      exact hkeep a (hagree.accounts a ha)

/-! ### Nothing outside the pair -/

/-- An account of another pair is not the target. -/
theorem not_target (ix : Instruction) (hc : Consistent env o ledger)
    (hw : WithinPair env o ledger ix realm mint) (clock : Clock) (ledger' : Ledger)
    (hp : process env clock ix ledger = .ok ledger') (a : Pubkey) (p : Place) (ho : o a = some p)
    (hpair : p.pair ≠ (realm, mint)) : a ≠ ix.target := by
  intro heq
  subst heq
  rcases hw.target with ⟨hb, _⟩ | ⟨_, q, hq, hqpair⟩
  · -- What is about to be created is vacant, and a live account is not.
    have hs := hc.shape ix.target
    rw [ho] at hs
    rw [not_begins_of_owned env clock ix ledger ledger' hp (shape_placed env p _ _ hs).1] at hb
    exact Bool.false_ne_true hb
  · rw [ho, Option.some.injEq] at hq
    rw [hq] at hpair
    exact hpair hqpair

/-- What the target becomes, if anything, is of the pair. -/
theorem pair_after (ix : Instruction) (hw : WithinPair env o ledger ix realm mint) (q : Place)
    (hq : ix.becomes ledger (o ix.target) = some q) : q.pair = (realm, mint) := by
  by_cases he : ix.ends = true
  · rw [becomes_of_ends ledger ix _ he] at hq
    exact absurd hq (by simp only [reduceCtorEq, not_false_eq_true])
  · have he' : ix.ends = false := by simpa only [Bool.not_eq_true] using he
    rcases hw.target with ⟨_, p, hpair, _, hp⟩ | ⟨hb, p, ho, hpair⟩
    · rw [hp, Option.some.injEq] at hq
      rw [← hq]
      exact hpair
    · rw [becomes_of_keeps ledger ix _ hb he', ho, Option.some.injEq] at hq
      rw [← hq]
      exact hpair

/-- An instruction of another pair does nothing the pair can see, unless its
    target is the realm or an identity. -/
theorem agree_other (realm' mint' : Pubkey) (hc : Consistent env o ledger) (clock : Clock)
    (ix : Instruction) (ledger' : Ledger) (hw : WithinPair env o ledger ix realm' mint')
    (hp : process env clock ix ledger = .ok ledger') (hne : (realm', mint') ≠ (realm, mint))
    (hrealm : realm ≠ ix.target) (hid : ∀ voter, env.identityAddress voter ≠ ix.target) :
    AgreeOn env realm mint o
      (Function.update o ix.target (ix.becomes ledger (o ix.target))) ledger ledger' where
  realm_eq := (process_frame env clock ix ledger ledger' hp realm hrealm).symm
  identities voter := (process_frame env clock ix ledger ledger' hp _ (hid voter)).symm
  members := by
    intro a
    by_cases ha : a = ix.target
    · constructor
      · intro hin
        rcases hin with ⟨p, ho, hpair⟩
        exact absurd ha (not_target env o ledger realm' mint' ix hc hw clock ledger' hp a p ho
          (by rw [hpair]; exact hne.symm))
      · intro hin
        rcases hin with ⟨q, hq, hpair⟩
        rw [ha, Function.update_self] at hq
        have hpair' := pair_after env o ledger realm' mint' ix hw q hq
        exact absurd (hpair'.symm.trans hpair) hne
    · simp only [InPair, Function.update_of_ne ha]
  accounts := by
    intro a hin
    rcases hin with ⟨p, ho, hpair⟩
    refine (process_frame env clock ix ledger ledger' hp a ?_).symm
    exact not_target env o ledger realm' mint' ix hc hw clock ledger' hp a p ho
      (by rw [hpair]; exact hne.symm)

/-! ### Reachable states -/

/-- An instruction under the registrar of a pair leaves the accounts of every
    other pair as they are; and in two reachable states that agree on the
    clock, the realm, the identities and the accounts of the pair, it succeeds
    alike and leaves the pair alike. -/
theorem dao_isolation (hspec : GovernanceSpec env)
    (hfree : CollisionFreeAt env (.registrar realm mint)) (h : History) (s : State)
    (hrun : Run (plugin env) h s) (hsep : ∀ e ∈ h, Separated env e.pre.ledger) (ix : Instruction)
    (hreg : ix.registrar = env.address (.registrar realm mint)) :
    (∀ a p, origin env h a = some p → p.pair ≠ (realm, mint) →
      (s.apply env ix).ledger a = s.ledger a) ∧
    ∀ (h₂ : History) (s₂ : State), Run (plugin env) h₂ s₂ →
      (∀ e ∈ h₂, Separated env e.pre.ledger) → s.clock = s₂.clock →
      AgreeOn env realm mint (origin env h) (origin env h₂) s.ledger s₂.ledger →
      (∀ p : Place, p.pair = (realm, mint) → env.address p = ix.target →
        CollisionFreeAt env p) →
      ((∃ ledger', process env s.clock ix s.ledger = .ok ledger') ↔
        ∃ ledger', process env s₂.clock ix s₂.ledger = .ok ledger') ∧
      (∀ a, InPair (origin env h) realm mint a →
        (s.apply env ix).ledger a = (s₂.apply env ix).ledger a) ∧
      AgreeOn env realm mint (origin env (⟨s, .instruction ix, s.apply env ix⟩ :: h))
        (origin env (⟨s₂, .instruction ix, s₂.apply env ix⟩ :: h₂)) (s.apply env ix).ledger
        (s₂.apply env ix).ledger := by
  have hc := consistent_run env hspec h s hrun hsep
  constructor
  · intro a p ho hpair
    rcases hp : process env s.clock ix s.ledger with e | ledger'
    · rw [apply_error env s ix e hp]
    · rw [apply_ok env s ix ledger' hp]
      have hw := within_pair env _ _ realm mint hc hfree s.clock ix ledger' hreg hp
      exact process_frame env s.clock ix s.ledger ledger' hp a
        (not_target env _ _ realm mint ix hc hw s.clock ledger' hp a p ho hpair)
  · intro h₂ s₂ hrun₂ hsep₂ hclock hagree htarget
    have hc₂ := consistent_run env hspec h₂ s₂ hrun₂ hsep₂
    have hthere := agree_step env realm mint (origin env h) (origin env h₂) s.ledger s₂.ledger
    have hback := agree_step env realm mint (origin env h₂) (origin env h) s₂.ledger s.ledger
    rcases hp : process env s.clock ix s.ledger with e | l₁'
    · -- It fails in both, and neither state changes.
      have hfail : ∀ l₂', process env s₂.clock ix s₂.ledger ≠ .ok l₂' := by
        intro l₂' hp₂
        rcases hback l₂' hc₂ hc hagree.symm hfree s₂.clock ix hreg htarget hp₂ with ⟨l, hl, _⟩
        rw [← hclock, hp] at hl
        exact absurd hl (by simp only [reduceCtorEq, not_false_eq_true])
      rcases hp₂ : process env s₂.clock ix s₂.ledger with e₂ | l₂'
      · rw [apply_error env s ix e hp, apply_error env s₂ ix e₂ hp₂, origin_error env s _ ix h e hp,
          origin_error env s₂ _ ix h₂ e₂ hp₂]
        refine ⟨?_, hagree.accounts, hagree⟩
        simp only [reduceCtorEq, exists_false]
      · exact absurd hp₂ (hfail l₂')
    · rcases hthere l₁' hc hc₂ hagree hfree s.clock ix hreg htarget hp with ⟨l₂', hp₂, heq⟩
      have hw₁ := within_pair env _ _ realm mint hc hfree s.clock ix l₁' hreg hp
      have hw₂ := within_pair env _ _ realm mint hc₂ hfree s.clock ix l₂' hreg hp₂
      rcases agree_after env realm mint _ _ _ _ l₁' l₂' hagree s.clock ix hw₁ hw₂ hp hp₂ heq with
        ⟨hkeep, hafter⟩
      rw [hclock] at hp₂
      rw [apply_ok env s ix l₁' hp, apply_ok env s₂ ix l₂' hp₂, origin_ok env s _ ix h l₁' hp,
        origin_ok env s₂ _ ix h₂ l₂' hp₂, hp₂]
      exact ⟨by simp only [Except.ok.injEq, exists_eq'], fun a ha => hkeep a (hagree.accounts a ha),
        hafter⟩

/-- The step between these two states is one of the other pair, so they agree
    on the first. -/
theorem Devnet.twoDaos_agree :
    AgreeOn Devnet.env Devnet.realm Devnet.mint
      (origin Devnet.env (Devnet.after Devnet.oneDao).1)
      (origin Devnet.env (Devnet.after Devnet.twoDaos).1)
      (Devnet.after Devnet.oneDao).2.ledger (Devnet.after Devnet.twoDaos).2.ledger := by
  have hother :=
    Devnet.collisionFreeAt (.registrar Devnet.realm Devnet.otherMint) (by decide +kernel)
  rcases exists_of_isOk Devnet.env (Devnet.after Devnet.oneDao).2.clock
    (Devnet.createRegistrar Devnet.otherMint) (Devnet.after Devnet.oneDao).2.ledger
    (by decide +kernel) with ⟨ledger', hp⟩
  have hc := consistent_run Devnet.env (cluster_governanceSpec _ _ _) _ _
    (Devnet.after_run Devnet.oneDao) (Devnet.after_separated _ (by decide +kernel))
  have hw := within_pair Devnet.env _ _ Devnet.realm Devnet.otherMint hc hother _ _ ledger' rfl hp
  rw [Devnet.twoDaos, Devnet.after_concat, origin_ok _ _ _ _ _ ledger' hp,
    apply_ok _ _ _ ledger' hp]
  refine agree_other Devnet.env _ _ Devnet.realm Devnet.mint Devnet.realm Devnet.otherMint hc _ _
    ledger' hw hp (by decide) (by decide +kernel) ?_
  exact cluster_identityAddress_ne _ _ _ (.registrar Devnet.realm Devnet.otherMint)
    (by decide +kernel) (by decide +kernel)

/-- A second registrar for the same realm makes no difference to an update
    under the first, and is not touched by it. -/
theorem dao_isolation_devnet :
    ((Devnet.after Devnet.oneDao).2.apply Devnet.env
        (Devnet.updateRecord Devnet.mint Devnet.voterA)).ledger
          (Devnet.record Devnet.mint Devnet.voterA) =
      ((Devnet.after Devnet.twoDaos).2.apply Devnet.env
        (Devnet.updateRecord Devnet.mint Devnet.voterA)).ledger
          (Devnet.record Devnet.mint Devnet.voterA) ∧
    ((Devnet.after Devnet.twoDaos).2.apply Devnet.env
        (Devnet.updateRecord Devnet.mint Devnet.voterA)).ledger
          (Devnet.registrar Devnet.otherMint) =
      (Devnet.after Devnet.twoDaos).2.ledger (Devnet.registrar Devnet.otherMint) := by
  have hspec := cluster_governanceSpec Devnet.addresses (keyOf 238) [Devnet.governance]
  have hfree := Devnet.collisionFreeAt (.registrar Devnet.realm Devnet.mint) (by decide +kernel)
  have hrecord := Devnet.collisionFreeAt
    (.voterWeightRecord Devnet.realm Devnet.mint Devnet.voterA) (by decide +kernel)
  have hreg : (Devnet.updateRecord Devnet.mint Devnet.voterA).registrar =
      Devnet.env.address (.registrar Devnet.realm Devnet.mint) := rfl
  have hclock : (Devnet.after Devnet.oneDao).2.clock = (Devnet.after Devnet.twoDaos).2.clock := by
    decide +kernel
  have hsep := Devnet.after_separated Devnet.oneDao (by decide +kernel)
  have hsep₂ := Devnet.after_separated Devnet.twoDaos (by decide +kernel)
  have hin : InPair (origin Devnet.env (Devnet.after Devnet.oneDao).1) Devnet.realm
      Devnet.mint (Devnet.record Devnet.mint Devnet.voterA) :=
    ⟨.voterWeightRecord Devnet.realm Devnet.mint Devnet.voterA, by decide +kernel, rfl⟩
  have htarget : ∀ p : Place, p.pair = (Devnet.realm, Devnet.mint) → Devnet.env.address p =
      (Devnet.updateRecord Devnet.mint Devnet.voterA).target → CollisionFreeAt Devnet.env p := by
    intro p _ hp
    rw [place_of_address _ _ p hrecord hp]
    exact hrecord
  constructor
  · exact ((dao_isolation Devnet.env Devnet.realm Devnet.mint hspec hfree _ _
      (Devnet.after_run Devnet.oneDao) hsep _ hreg).2 _ _ (Devnet.after_run Devnet.twoDaos) hsep₂
      hclock Devnet.twoDaos_agree htarget).2.1 _ hin
  · exact (dao_isolation Devnet.env Devnet.realm Devnet.mint hspec hfree _ _
      (Devnet.after_run Devnet.twoDaos) hsep₂ _ hreg).1 _
      (.registrar Devnet.realm Devnet.otherMint) (by decide +kernel) (by decide)

end EntrosVoterWeight
