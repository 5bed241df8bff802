import EntrosVoterWeight.Theory.Steps

/-!
# What an Instruction Depends On

An instruction looks at three accounts at most: its registrar, its target, and
the realm or the identity account. Two ledgers that agree on these let it
succeed alike and get the same target account, whatever they hold elsewhere.

This is the lemma behind both isolation results. What remains for each of them
is to show that these accounts are among those two ledgers agree on.

## Main definitions

* `Instruction.foreign`: The account of another program an instruction looks
  at.

## Theorems

* `process_congr`: Success and result depend on the registrar, the target and
  that account.
-/

namespace EntrosVoterWeight

open Borsh Anchor Transition

/-- The account of another program an instruction looks at: the realm, or the
    identity account. -/
def Instruction.foreign : Instruction → Option Pubkey
  | .createRegistrar ctx _ _ => some ctx.accounts.realm
  | .updateRegistrar ctx _ _ => some ctx.accounts.realm
  | .createVoterWeightRecord _ _ => none
  | .updateVoterWeightRecord ctx => ctx.remainingAccounts.head?
  | .closeRegistrar ctx => some ctx.accounts.realm
  | .closeVoterWeightRecord _ => none
  | .createMaxVoterWeightRecord ctx => some ctx.accounts.realm
  | .updateMaxVoterWeightRecord ctx _ => some ctx.accounts.realm

/-- Agreement at a key survives an allocation in both ledgers. -/
theorem update_congr (l₁ l₂ : Ledger) (new key : Pubkey) (acc : Account) (h : l₁ key = l₂ key) :
    Function.update l₁ new acc key = Function.update l₂ new acc key := by
  by_cases hkey : key = new
  · rw [hkey, Function.update_self, Function.update_self]
  · rw [Function.update_of_ne hkey, Function.update_of_ne hkey, h]

theorem controlsRecord_congr (env : Env) (l₁ l₂ : Ledger) (isSigner isWritable : Pubkey → Bool)
    (registrarKey key voter : Pubkey) (reg : Registrar) (record : VoterWeightRecord)
    (hreg : l₁ registrarKey = l₂ registrarKey) (hrec : l₁ key = l₂ key)
    (h : ControlsRecord env l₁ isSigner isWritable registrarKey key voter reg record) :
    ControlsRecord env l₂ isSigner isWritable registrarKey key voter reg record where
  registrar_owner := by rw [← hreg]; exact h.registrar_owner
  registrar_loads := by rw [← hreg]; exact h.registrar_loads
  record_owner := by rw [← hrec]; exact h.record_owner
  record_loads := by rw [← hrec]; exact h.record_loads
  signs := h.signs
  seeds := h.seeds
  writable := h.writable
  realm_eq := h.realm_eq
  mint_eq := h.mint_eq
  owner_eq := h.owner_eq

theorem eligible_congr (env : Env) (clock : Clock) (reg : Registrar) (l₁ l₂ : Ledger)
    (voter : Pubkey) (hid : l₁ (env.identityAddress voter) = l₂ (env.identityAddress voter))
    (h : Eligible env clock reg l₁ voter) : Eligible env clock reg l₂ voter where
  owner := by rw [← hid]; exact h.owner
  length := by rw [← hid]; exact h.length
  discriminator := by rw [← hid]; exact h.discriminator
  trust := by rw [← hid]; exact h.trust
  no_underflow := by rw [← hid]; exact h.no_underflow
  recent := by rw [← hid]; exact h.recent

theorem administersRegistrar_congr (env : Env) (l₁ l₂ : Ledger)
    (isSigner isWritable : Pubkey → Bool) (key realm authority : Pubkey) (reg : Registrar)
    (hkey : l₁ key = l₂ key) (hrealm : l₁ realm = l₂ realm)
    (h : AdministersRegistrar env l₁ isSigner isWritable key realm authority reg) :
    AdministersRegistrar env l₂ isSigner isWritable key realm authority reg where
  owner := by rw [← hkey]; exact h.owner
  loads := by rw [← hkey]; exact h.loads
  signs := h.signs
  seeds := h.seeds
  writable := h.writable
  realm_eq := h.realm_eq
  authority := by rw [← hrealm]; exact h.authority

/-- An instruction that succeeds on one ledger succeeds on every ledger that
    agrees on the accounts it looks at, and leaves the same target account. -/
theorem process_congr (env : Env) (clock : Clock) (ix : Instruction) (l₁ l₂ l₁' : Ledger)
    (hreg : l₁ ix.registrar = l₂ ix.registrar) (htgt : l₁ ix.target = l₂ ix.target)
    (hforeign : ∀ a, ix.foreign = some a → l₁ a = l₂ a)
    (hp : process env clock ix l₁ = .ok l₁') :
    ∃ l₂', process env clock ix l₂ = .ok l₂' ∧ l₂' ix.target = l₁' ix.target := by
  cases ix with
  | createRegistrar ctx t g =>
      simp only [Instruction.target] at htgt ⊢
      -- The realm is read after the allocation, in both ledgers.
      have hrealm := update_congr l₁ l₂ ctx.accounts.registrar ctx.accounts.realm
        ⟨programId, List.replicate Registrar.len 0⟩ (hforeign _ rfl)
      rcases (createRegistrar_eq_ok ..).mp hp with ⟨h, rfl⟩
      refine ⟨_, (createRegistrar_eq_ok ..).mpr ⟨{ h with
        vacant := by rw [← htgt]; exact h.vacant
        realm_owner := by rw [← hrealm]; exact h.realm_owner
        authority := by rw [← hrealm]; exact h.authority }, rfl⟩, ?_⟩
      rw [Function.update_self, Function.update_self]
  | updateRegistrar ctx t g =>
      simp only [Instruction.target] at htgt ⊢
      -- The registrar is the target; the realm is the other account read.
      rcases (updateRegistrar_eq_ok ..).mp hp with ⟨reg, h, hage, hroom, rfl⟩
      refine ⟨_, (updateRegistrar_eq_ok ..).mpr ⟨reg,
        administersRegistrar_congr env l₁ l₂ _ _ _ _ _ reg htgt (hforeign _ rfl) h, hage,
        by rw [← htgt]; exact hroom, rfl⟩, ?_⟩
      rw [Function.update_self, Function.update_self, htgt]
  | createVoterWeightRecord ctx owner =>
      simp only [Instruction.target, Instruction.registrar] at hreg htgt ⊢
      rcases (createVoterWeightRecord_eq_ok ..).mp hp with ⟨reg, h, rfl⟩
      refine ⟨_, (createVoterWeightRecord_eq_ok ..).mpr ⟨reg, { h with
        registrar_owner := by rw [← hreg]; exact h.registrar_owner
        registrar_loads := by rw [← hreg]; exact h.registrar_loads
        vacant := by rw [← htgt]; exact h.vacant }, rfl⟩, ?_⟩
      rw [Function.update_self, Function.update_self]
  | updateVoterWeightRecord ctx =>
      simp only [Instruction.target, Instruction.registrar] at hreg htgt ⊢
      rcases (updateVoterWeightRecord_eq_ok ..).mp hp with ⟨reg, r, h, hid, he, hroom, rfl⟩
      refine ⟨_, (updateVoterWeightRecord_eq_ok ..).mpr ⟨reg, r,
        controlsRecord_congr env l₁ l₂ _ _ _ _ _ reg r hreg htgt h, hid,
        eligible_congr env clock reg l₁ l₂ _ (hforeign _ hid) he,
        by rw [← htgt]; exact hroom, rfl⟩, ?_⟩
      rw [Function.update_self, Function.update_self, htgt]
  | closeRegistrar ctx =>
      simp only [Instruction.target] at htgt ⊢
      rcases (closeRegistrar_eq_ok ..).mp hp with ⟨reg, h, hne, hdest, rfl⟩
      refine ⟨_, (closeRegistrar_eq_ok ..).mpr ⟨reg,
        administersRegistrar_congr env l₁ l₂ _ _ _ _ _ reg htgt (hforeign _ rfl) h, hne, hdest,
        rfl⟩, ?_⟩
      rw [Function.update_self, Function.update_self]
  | closeVoterWeightRecord ctx =>
      simp only [Instruction.target, Instruction.registrar] at hreg htgt ⊢
      rcases (closeVoterWeightRecord_eq_ok ..).mp hp with ⟨reg, r, h, hne, hdest, rfl⟩
      refine ⟨_, (closeVoterWeightRecord_eq_ok ..).mpr ⟨reg, r,
        controlsRecord_congr env l₁ l₂ _ _ _ _ _ reg r hreg htgt h, hne, hdest, rfl⟩, ?_⟩
      rw [Function.update_self, Function.update_self]
  | createMaxVoterWeightRecord ctx =>
      simp only [Instruction.target, Instruction.registrar] at hreg htgt ⊢
      have hrealm := update_congr l₁ l₂ ctx.accounts.maxVoterWeightRecord ctx.accounts.realm
        ⟨programId, List.replicate MaxVoterWeightRecord.getSpace 0⟩ (hforeign _ rfl)
      rcases (createMaxVoterWeightRecord_eq_ok ..).mp hp with ⟨reg, h, rfl⟩
      refine ⟨_, (createMaxVoterWeightRecord_eq_ok ..).mpr ⟨reg, { h with
        registrar_owner := by rw [← hreg]; exact h.registrar_owner
        registrar_loads := by rw [← hreg]; exact h.registrar_loads
        vacant := by rw [← htgt]; exact h.vacant
        authority := by rw [← hrealm]; exact h.authority }, rfl⟩, ?_⟩
      rw [Function.update_self, Function.update_self]
  | updateMaxVoterWeightRecord ctx w =>
      simp only [Instruction.target, Instruction.registrar] at hreg htgt ⊢
      have hrealm := hforeign ctx.accounts.realm rfl
      rcases (updateMaxVoterWeightRecord_eq_ok ..).mp hp with ⟨reg, m, h, hpos, hroom, rfl⟩
      refine ⟨_, (updateMaxVoterWeightRecord_eq_ok ..).mpr ⟨reg, m, { h with
        registrar_owner := by rw [← hreg]; exact h.registrar_owner
        registrar_loads := by rw [← hreg]; exact h.registrar_loads
        record_owner := by rw [← htgt]; exact h.record_owner
        record_loads := by rw [← htgt]; exact h.record_loads
        authority := by rw [← hrealm]; exact h.authority }, hpos,
        by rw [← htgt]; exact hroom, rfl⟩, ?_⟩
      rw [Function.update_self, Function.update_self, htgt]

end EntrosVoterWeight
