import EntrosVoterWeight.Theory.Administration
import EntrosVoterWeight.Theory.Register

/-!
# What Takes a Wallet's Signature

A wallet that presides over a realm, and what the others can do without it.

Between two transactions of a wallet, everybody else goes on. They have
records of their own created and updated, other realms configure theirs, other
programs do what they like with their accounts, and time passes. Two accounts
they leave as they are: the registrar of the wallet's realm, because its
authority has to sign, and the wallet's own record there, because the wallet
has to. This goes for addresses at which nothing is yet, as well.

The record can also be given to the update of a max voter weight record, which
rewrites its owner, but again only by the authority of the realm.

## Main definitions

* `Presides`: The wallet is the realm's authority.
* `ByOthers`: A step without the wallet's signature.

## Theorems

* `guarded_registrar`, `guarded_record`: Such a step leaves the account.
* `guarded_path`: So does any number of them.
-/

namespace EntrosVoterWeight

open Borsh Anchor Transition

/-- The wallet is the authority of the body's realm. -/
def Presides (env : Env) (governance : Pubkey) (d : Dao) (wallet : Pubkey) (ledger : Ledger) :
    Prop :=
  IsRealmAuthority env governance (ledger d.1) d.2 wallet

/-- A step that the wallet did not sign, in a realm it presides over. -/
structure ByOthers (env : Env) (governance : Pubkey) (d : Dao) (wallet : Pubkey)
    (e : Entry State Event) : Prop where
  unsigned : ∀ ix, e.event = .instruction ix → ix.isSigner wallet = false
  presides : Presides env governance d wallet e.pre.ledger
  separated : Separated env e.pre.ledger

section
variable (env : Env) (hspec : GovernanceSpec env) (governance : Pubkey) (d : Dao)
variable (wallet : Pubkey) (h : History) (s : State) (e : Event) (s' : State)
variable (hrun : Run (plugin env) h s) (hst : Step env s e s')
variable (hc : Consistent env (origin env h) s.ledger)
variable (hothers : ByOthers env governance d wallet ⟨s, e, s'⟩)

include hspec hothers in
/-- What takes the authority's signature does not happen. -/
theorem not_signed_by_authority (ix : Instruction) (hev : e = .instruction ix) :
    ¬ SignedByAuthority env ix d.1 d.2 s.ledger s'.ledger := by
  intro hsigned
  rcases hsigned with ⟨_, rd, authority, _, _, _, _, hdata, _, hauth, hsign⟩
  rcases realm_of_authority env hspec _ _ _ _ hothers.presides with ⟨rd', _, hdata', _, hauth'⟩
  have hsame := hdata.symm.trans hdata'
  rw [Option.some.injEq] at hsame
  subst hsame
  rw [hauth, Option.some.injEq] at hauth'
  subst hauth'
  rw [hothers.unsigned ix hev] at hsign
  exact Bool.false_ne_true hsign

include hrun hst in
/-- An address where nothing is created stays vacant. -/
theorem guarded_vacant (q : Place) (hfree : CollisionFreeAt env q)
    (hvac : s.ledger (env.address q) = .vacant)
    (hnot : ∀ ix, Acts env ix (env.address q) ⟨s, e, s'⟩ → ix.begins = true →
      (∀ old, ix.becomes s.ledger old = some q) → False) :
    s'.ledger (env.address q) = .vacant := by
  have ho := origin_of_vacant env h s hrun _ hvac
  refine derived_vacant env (⟨s, e, s'⟩ :: h) s' (.step h s e s' hrun hst) q ?_
  rcases step_account env h s s' e hst (env.address q) with ⟨ix, hact, horig⟩ | ⟨_, horig, _⟩
  · rw [horig, ho]
    by_cases hb : ix.begins = true
    · -- What is created here would be created for this place.
      rcases begins_vacant env s.clock ix s.ledger s'.ledger hact.2.2 hb with ⟨_, p, hp, haddr, _⟩
      have hplace := place_of_address env _ _ hfree (haddr.symm.trans hact.2.1)
      subst hplace
      exact (hnot ix hact hb hp).elim
    · by_cases he : ix.ends = true
      · exact becomes_of_ends s.ledger ix _ he
      · exact becomes_of_keeps s.ledger ix _ (by simpa only [Bool.not_eq_true] using hb)
          (by simpa only [Bool.not_eq_true] using he)
  · exact horig.trans ho

/-- What was created at the address of a place was created for it. -/
theorem origin_at (q : Place) (hfree : CollisionFreeAt env q) (hrun : Run (plugin env) h s) :
    origin env h (env.address q) = none ∨ origin env h (env.address q) = some q := by
  rcases ho : origin env h (env.address q) with _ | p
  · exact Or.inl rfl
  · have hs := shape_run env h s hrun (env.address q)
    rw [ho] at hs
    rw [place_of_address env _ _ hfree (shape_placed env p _ _ hs).2.symm]
    exact Or.inr rfl

include hspec hrun hst hc hothers in
/-- The registrar of a realm takes the authority's signature. -/
theorem guarded_registrar (hfree : CollisionFreeAt env (.registrar d.1 d.2)) :
    s'.ledger (env.address (.registrar d.1 d.2)) = s.ledger (env.address (.registrar d.1 d.2)) := by
  rcases origin_at env h s _ hfree hrun with ho | ho
  · have hvac := derived_vacant env h s hrun _ ho
    rw [hvac]
    refine guarded_vacant env h s e s' hrun hst _ hfree hvac ?_
    intro ix hact _ hbec
    exact not_signed_by_authority env hspec governance d wallet s e s' hothers ix hact.1
      (admin_signed env hspec _ s.clock ix s.ledger s'.ledger hc hact.2.2 d.1 d.2 _ (Or.inl rfl)
        (Or.inr (hbec _)))
  · rcases step_account env h s s' e hst (env.address (.registrar d.1 d.2)) with
      ⟨ix, hact, _⟩ | ⟨_, _, hkept⟩
    · refine (not_signed_by_authority env hspec governance d wallet s e s' hothers ix hact.1
        (admin_signed env hspec _ s.clock ix s.ledger s'.ledger hc hact.2.2 d.1 d.2 _
          (Or.inl rfl) (Or.inl ?_))).elim
      rw [hact.2.1, ho]
    · have hs := shape_run env h s hrun (env.address (.registrar d.1 d.2))
      rw [ho] at hs
      exact hkept (RegistrarShape.owned hs)

include hspec hrun hst hothers in
/-- The record of a wallet takes its signature. -/
theorem guarded_record (hfree : CollisionFreeAt env (.voterWeightRecord d.1 d.2 wallet))
    (howner : ∀ record : VoterWeightRecord, AccountDeserialize.tryDeserialize
      (s.ledger (env.address (.voterWeightRecord d.1 d.2 wallet))).data = .ok record →
        record.governingTokenOwner = wallet) :
    s'.ledger (env.address (.voterWeightRecord d.1 d.2 wallet)) =
      s.ledger (env.address (.voterWeightRecord d.1 d.2 wallet)) := by
  rcases origin_at env h s _ hfree hrun with ho | ho
  · have hvac := derived_vacant env h s hrun _ ho
    rw [hvac]
    refine guarded_vacant env h s e s' hrun hst _ hfree hvac ?_
    intro ix hact hb hbec
    rcases voter_created env s.clock ix s.ledger s'.ledger hact.2.2 hb none d.1 d.2 wallet
      (hbec none) with ⟨ctx, reg, rfl, hacc, _⟩
    have hsign := hacc.owner_signs
    rw [hacc.owner_eq, show ctx.isSigner wallet = false from hothers.unsigned _ hact.1] at hsign
    exact Bool.false_ne_true hsign
  · have hs := shape_run env h s hrun (env.address (.voterWeightRecord d.1 d.2 wallet))
    rw [ho] at hs
    rcases step_account env h s s' e hst (env.address (.voterWeightRecord d.1 d.2 wallet)) with
      ⟨ix, hact, _⟩ | ⟨_, _, hkept⟩
    · rcases VoterShape.record hs with ⟨r, hr, _⟩
      have hname := howner r hr
      rw [← hact.2.1] at hs hr
      -- Each of the three instructions that reach a record has its signature.
      rcases voter_step env s.clock ix s.ledger s'.ledger d.1 d.2 wallet hs r hr hact.2.2 with
        ⟨ctx, reg, rfl, hup⟩ | ⟨ctx, reg, rfl, hctl⟩ | ⟨ctx, w, reg, m, rfl, hup, _⟩
      · have hsign := hup.controls.signs
        rw [← hup.controls.owner_eq, hname,
          show ctx.isSigner wallet = false from hothers.unsigned _ hact.1] at hsign
        exact absurd hsign Bool.false_ne_true
      · have hsign := hctl.signs
        rw [← hctl.owner_eq, hname,
          show ctx.isSigner wallet = false from hothers.unsigned _ hact.1] at hsign
        exact absurd hsign Bool.false_ne_true
      · refine (not_signed_by_authority env hspec governance d wallet s e s' hothers _ hact.1
          ?_).elim
        have hacc := hup.accepts
        rcases max_of_voter _ r m hr hacc.record_loads with ⟨_, hrealm, hmint⟩
        rcases VoterShape.record hs with ⟨r', hr', hf⟩
        have hsame := hr.symm.trans hr'
        rw [Except.ok.injEq] at hsame
        subst hsame
        have hd : reg.realm = d.1 ∧ reg.governingTokenMint = d.2 :=
          ⟨hacc.record_realm.symm.trans (hrealm.trans hf.realm_eq),
            hacc.record_mint.symm.trans (hmint.trans hf.mint_eq)⟩
        have hauth := hacc.authority
        rw [hacc.realm_eq] at hauth
        rw [← hd.1, ← hd.2]
        exact signed_of_authority env hspec _ s.ledger s'.ledger _ _ reg
          ((registrarAt_eq_some ..).mpr ⟨hacc.registrar_owner, hacc.registrar_loads⟩) hacc.seeds
          hauth hacc.signs
    · exact hkept (VoterShape.owned hs)

end

/-- However many steps the others take, the registrar of the wallet's realm
    and the wallet's record stay as they are. -/
theorem guarded_path (env : Env) (hspec : GovernanceSpec env) (governance : Pubkey) (d : Dao)
    (wallet : Pubkey) (h : History) (s : State) (hrun : Run (plugin env) h s)
    (hpast : ∀ e ∈ h, Separated env e.pre.ledger) (p : History) (t : State)
    (hpath : Path (plugin env) p s t) (hothers : ∀ e ∈ p, ByOthers env governance d wallet e)
    (hregistrar : CollisionFreeAt env (.registrar d.1 d.2))
    (hrecord : CollisionFreeAt env (.voterWeightRecord d.1 d.2 wallet))
    (howner : ∀ record : VoterWeightRecord, AccountDeserialize.tryDeserialize
      (s.ledger (env.address (.voterWeightRecord d.1 d.2 wallet))).data = .ok record →
        record.governingTokenOwner = wallet) :
    t.ledger (env.address (.registrar d.1 d.2)) = s.ledger (env.address (.registrar d.1 d.2)) ∧
      t.ledger (env.address (.voterWeightRecord d.1 d.2 wallet)) =
        s.ledger (env.address (.voterWeightRecord d.1 d.2 wallet)) := by
  induction hpath with
  | nil s => exact ⟨rfl, rfl⟩
  | cons p s t e u hp hst ih =>
      have hprev : ∀ x ∈ p, ByOthers env governance d wallet x :=
        fun x hx => hothers x (List.mem_cons_of_mem _ hx)
      rcases ih hrun hprev howner with ⟨hreg, hrec⟩
      have hr := run_path (plugin env) p h s t hrun hp
      have hsep : ∀ x ∈ p ++ h, Separated env x.pre.ledger := by
        intro x hx
        rcases List.mem_append.mp hx with hx | hx
        · exact (hprev x hx).separated
        · exact hpast x hx
      -- The newest step leaves the two accounts too.
      have hnow := hothers _ List.mem_cons_self
      constructor
      · rw [guarded_registrar env hspec governance d wallet (p ++ h) t e u hr hst
          (consistent_run env hspec _ t hr hsep) hnow hregistrar, hreg]
      · rw [guarded_record env hspec governance d wallet (p ++ h) t e u hr hst hnow hrecord
          (by rw [hrec]; exact howner), hrec]

end EntrosVoterWeight
