import EntrosVoterWeight.Instructions.MaxVoterWeightRecord
import EntrosVoterWeight.Transition.Run

/-!
# The Program on a Cluster

The eight instructions as one transition function, and the system they are
part of.

An instruction that fails leaves the ledger as it was. Between instructions
the clock advances, and everyone else's programs do what they like with their
own accounts. Two things they cannot do: touch an account the program owns,
and put anything at an address derived from the program's id, since nobody
but the program can sign for one. What anyone can do is hand the program an
account it never created. The runtime only lets an account change hands with
its data zeroed, so all such an account can hold is zeros.

Which accounts the program itself created is not written anywhere on the
ledger. `origin` recovers it from the history: the place an account was
created for, until it is closed.

## Main definitions

* `Instruction`, `process`: The program's entry points.
* `Instruction.target`: The account an instruction creates, rewrites or
  closes.
* `OtherChange`: What the other programs can do to a ledger.
* `plugin`: The transition system.
* `origin`: The place a live account was created for.

## Theorems

* `process_frame`: An instruction changes its target and nothing else.
* `step_frame`: The only steps that change an account of the program are
  instructions with that target.
* `origin_ok`, `origin_error`: What an instruction does to the origins.
* `run_accounts`: The induction for what holds of every account, given its
  origin.
-/

namespace EntrosVoterWeight

open Borsh Anchor Transition

inductive Instruction
  | createRegistrar (ctx : Context CreateRegistrar) (minTrustScore : UInt16)
      (maxVerificationAge : Int64)
  | updateRegistrar (ctx : Context UpdateRegistrar) (minTrustScore : UInt16)
      (maxVerificationAge : Int64)
  | createVoterWeightRecord (ctx : Context CreateVoterWeightRecord)
      (governingTokenOwner : Pubkey)
  | updateVoterWeightRecord (ctx : Context UpdateVoterWeightRecord)
  | closeRegistrar (ctx : Context CloseRegistrar)
  | closeVoterWeightRecord (ctx : Context CloseVoterWeightRecord)
  | createMaxVoterWeightRecord (ctx : Context CreateMaxVoterWeightRecord)
  | updateMaxVoterWeightRecord (ctx : Context UpdateMaxVoterWeightRecord)
      (maxVoterWeight : UInt64)

/-- Run one instruction. -/
def process (env : Env) (clock : Clock) (ix : Instruction) (ledger : Ledger) :
    Except PluginError Ledger :=
  match ix with
  | .createRegistrar ctx minTrustScore maxVerificationAge =>
    createRegistrar env ctx minTrustScore maxVerificationAge ledger
  | .updateRegistrar ctx minTrustScore maxVerificationAge =>
    updateRegistrar env ctx minTrustScore maxVerificationAge ledger
  | .createVoterWeightRecord ctx governingTokenOwner =>
    createVoterWeightRecord env ctx governingTokenOwner ledger
  | .updateVoterWeightRecord ctx => updateVoterWeightRecord env clock ctx ledger
  | .closeRegistrar ctx => closeRegistrar env ctx ledger
  | .closeVoterWeightRecord ctx => closeVoterWeightRecord env ctx ledger
  | .createMaxVoterWeightRecord ctx => createMaxVoterWeightRecord env ctx ledger
  | .updateMaxVoterWeightRecord ctx maxVoterWeight =>
    updateMaxVoterWeightRecord env ctx maxVoterWeight ledger

/-- The account an instruction creates, rewrites or closes. -/
def Instruction.target : Instruction → Pubkey
  | .createRegistrar ctx _ _ => ctx.accounts.registrar
  | .updateRegistrar ctx _ _ => ctx.accounts.registrar
  | .createVoterWeightRecord ctx _ => ctx.accounts.voterWeightRecord
  | .updateVoterWeightRecord ctx => ctx.accounts.voterWeightRecord
  | .closeRegistrar ctx => ctx.accounts.registrar
  | .closeVoterWeightRecord ctx => ctx.accounts.voterWeightRecord
  | .createMaxVoterWeightRecord ctx => ctx.accounts.maxVoterWeightRecord
  | .updateMaxVoterWeightRecord ctx _ => ctx.accounts.maxVoterWeightRecord

/-- The registrar an instruction works under. -/
def Instruction.registrar : Instruction → Pubkey
  | .createRegistrar ctx _ _ => ctx.accounts.registrar
  | .updateRegistrar ctx _ _ => ctx.accounts.registrar
  | .createVoterWeightRecord ctx _ => ctx.accounts.registrar
  | .updateVoterWeightRecord ctx => ctx.accounts.registrar
  | .closeRegistrar ctx => ctx.accounts.registrar
  | .closeVoterWeightRecord ctx => ctx.accounts.registrar
  | .createMaxVoterWeightRecord ctx => ctx.accounts.registrar
  | .updateMaxVoterWeightRecord ctx _ => ctx.accounts.registrar

/-- Whether a key is among an instruction's signers. -/
def Instruction.isSigner : Instruction → Pubkey → Bool
  | .createRegistrar ctx _ _ => ctx.isSigner
  | .updateRegistrar ctx _ _ => ctx.isSigner
  | .createVoterWeightRecord ctx _ => ctx.isSigner
  | .updateVoterWeightRecord ctx => ctx.isSigner
  | .closeRegistrar ctx => ctx.isSigner
  | .closeVoterWeightRecord ctx => ctx.isSigner
  | .createMaxVoterWeightRecord ctx => ctx.isSigner
  | .updateMaxVoterWeightRecord ctx _ => ctx.isSigner

/-- The registrar an account loads as, if it does. -/
def registrarAt (ledger : Ledger) (key : Pubkey) : Option Registrar :=
  if (ledger key).owner = programId then
    (AccountDeserialize.tryDeserialize (ledger key).data).toOption
  else none

theorem registrarAt_eq_some (ledger : Ledger) (key : Pubkey) (registrar : Registrar) :
    registrarAt ledger key = some registrar ↔
      (ledger key).owner = programId ∧
        AccountDeserialize.tryDeserialize (ledger key).data = .ok registrar := by
  by_cases hown : (ledger key).owner = programId
  · rcases hload : (AccountDeserialize.tryDeserialize (ledger key).data : Except _ Registrar) with
      e | r
    · simp only [registrarAt, hown, hload, if_true, Except.toOption, reduceCtorEq, and_false]
    · simp only [registrarAt, hown, hload, if_true, Except.toOption, Option.some.injEq, true_and,
        Except.ok.injEq]
  · simp only [registrarAt, hown, if_false, reduceCtorEq, false_and]

/-- What a successful instruction makes of its target: the place it is
    created for, nothing once closed, and otherwise what it was. -/
def Instruction.becomes (ledger : Ledger) (ix : Instruction) (old : Option Place) :
    Option Place :=
  match ix with
  | .createRegistrar ctx _ _ =>
    some (.registrar ctx.accounts.realm ctx.accounts.governingTokenMint)
  | .createVoterWeightRecord ctx governingTokenOwner =>
    (registrarAt ledger ctx.accounts.registrar).map fun registrar =>
      .voterWeightRecord registrar.realm registrar.governingTokenMint governingTokenOwner
  | .createMaxVoterWeightRecord ctx =>
    (registrarAt ledger ctx.accounts.registrar).map fun registrar =>
      .maxVoterWeightRecord registrar.realm registrar.governingTokenMint
  | .closeRegistrar _ => none
  | .closeVoterWeightRecord _ => none
  | .updateRegistrar _ _ _ => old
  | .updateVoterWeightRecord _ => old
  | .updateMaxVoterWeightRecord _ _ => old

/-! ### The system -/

structure State where
  ledger : Ledger
  clock : Clock

/-- The state after an instruction. One that fails has no effect. -/
def State.apply (env : Env) (s : State) (ix : Instruction) : State :=
  match process env s.clock ix s.ledger with
  | .ok ledger => { s with ledger := ledger }
  | .error _ => s

/-- What the other programs can do to a ledger. -/
structure OtherChange (env : Env) (ledger ledger' : Ledger) : Prop where
  owned_kept : ∀ a, (ledger a).owner = programId → ledger' a = ledger a
  derived_kept : ∀ seeds, ledger' (env.deriveAddress seeds programId) =
    ledger (env.deriveAddress seeds programId)
  assigned_zero : ∀ a, (ledger' a).owner = programId → (ledger a).owner ≠ programId →
    ∃ n, (ledger' a).data = List.replicate n 0

inductive Event
  | instruction (ix : Instruction)
  | tick (clock : Clock)
  | other (ledger : Ledger)

inductive Step (env : Env) : State → Event → State → Prop
  | instruction (s : State) (ix : Instruction) : Step env s (.instruction ix) (s.apply env ix)
  | tick (s : State) (clock : Clock) : s.clock.slot ≤ clock.slot →
      s.clock.unixTimestamp ≤ clock.unixTimestamp → Step env s (.tick clock) ⟨s.ledger, clock⟩
  | other (s : State) (ledger : Ledger) : OtherChange env s.ledger ledger →
      Step env s (.other ledger) ⟨ledger, s.clock⟩

/-- Before the program is deployed it owns nothing, and nothing is at the
    addresses derived from its id. -/
structure Genesis (env : Env) (s : State) : Prop where
  owns_nothing : ∀ a, (s.ledger a).owner ≠ programId
  derived_vacant : ∀ seeds, s.ledger (env.deriveAddress seeds programId) = .vacant
  time_nonneg : 0 ≤ s.clock.unixTimestamp

def plugin (env : Env) : System State Event where
  init := Genesis env
  step := Step env

/-- The history of a run: its steps, the newest first. -/
abbrev History := List (Entry State Event)

/-- The place a live account was created for. -/
def origin (env : Env) : History → Pubkey → Option Place
  | [] => fun _ => none
  | ⟨s, .instruction ix, _⟩ :: h =>
    match process env s.clock ix s.ledger with
    | .ok _ =>
      Function.update (origin env h) ix.target (ix.becomes s.ledger (origin env h ix.target))
    | .error _ => origin env h
  | ⟨_, .tick _, _⟩ :: h => origin env h
  | ⟨_, .other _, _⟩ :: h => origin env h

/-! ### Frames -/

theorem vacant_owner_ne : Account.vacant.owner ≠ programId := by decide

/-- An instruction changes its target and nothing else. -/
theorem process_frame (env : Env) (clock : Clock) (ix : Instruction) (ledger ledger' : Ledger)
    (h : process env clock ix ledger = .ok ledger') (a : Pubkey) (ha : a ≠ ix.target) :
    ledger' a = ledger a := by
  -- Every handler ends in one update of the ledger, at its target.
  cases ix with
  | createRegistrar ctx t g =>
      rcases (createRegistrar_eq_ok ..).mp h with ⟨_, rfl⟩
      exact Function.update_of_ne ha ..
  | updateRegistrar ctx t g =>
      rcases (updateRegistrar_eq_ok ..).mp h with ⟨_, _, _, _, rfl⟩
      exact Function.update_of_ne ha ..
  | createVoterWeightRecord ctx o =>
      rcases (createVoterWeightRecord_eq_ok ..).mp h with ⟨_, _, rfl⟩
      exact Function.update_of_ne ha ..
  | updateVoterWeightRecord ctx =>
      rcases (updateVoterWeightRecord_eq_ok ..).mp h with ⟨_, _, _, _, _, _, rfl⟩
      exact Function.update_of_ne ha ..
  | closeRegistrar ctx =>
      rcases (closeRegistrar_eq_ok ..).mp h with ⟨_, _, _, _, rfl⟩
      exact Function.update_of_ne ha ..
  | closeVoterWeightRecord ctx =>
      rcases (closeVoterWeightRecord_eq_ok ..).mp h with ⟨_, _, _, _, _, rfl⟩
      exact Function.update_of_ne ha ..
  | createMaxVoterWeightRecord ctx =>
      rcases (createMaxVoterWeightRecord_eq_ok ..).mp h with ⟨_, _, rfl⟩
      exact Function.update_of_ne ha ..
  | updateMaxVoterWeightRecord ctx w =>
      rcases (updateMaxVoterWeightRecord_eq_ok ..).mp h with ⟨_, _, _, _, _, rfl⟩
      exact Function.update_of_ne ha ..

theorem apply_ok (env : Env) (s : State) (ix : Instruction) (ledger' : Ledger)
    (h : process env s.clock ix s.ledger = .ok ledger') :
    s.apply env ix = ⟨ledger', s.clock⟩ := by
  rw [State.apply, h]

theorem apply_error (env : Env) (s : State) (ix : Instruction) (e : PluginError)
    (h : process env s.clock ix s.ledger = .error e) : s.apply env ix = s := by
  rw [State.apply, h]

/-- A step that changes an account of the program is a successful instruction
    with that account as its target. -/
theorem step_frame (env : Env) (s s' : State) (e : Event) (hst : Step env s e s') (a : Pubkey)
    (hown : (s.ledger a).owner = programId) (hne : s'.ledger a ≠ s.ledger a) :
    ∃ ix, e = .instruction ix ∧ ix.target = a ∧
      process env s.clock ix s.ledger = .ok s'.ledger := by
  cases hst with
  | instruction ix =>
      rcases hp : process env s.clock ix s.ledger with err | ledger'
      · rw [apply_error env s ix err hp] at hne
        exact absurd rfl hne
      · -- A target elsewhere would have left `a` as it was.
        rw [apply_ok env s ix ledger' hp] at hne
        refine ⟨ix, rfl, ?_, ?_⟩
        · by_contra ht
          exact hne (process_frame env s.clock ix s.ledger ledger' hp a (Ne.symm ht))
        · rw [apply_ok env s ix ledger' hp]
          exact hp
  | tick clock _ _ => exact absurd rfl hne
  | other ledger h => exact absurd (h.owned_kept a hown) hne

/-! ### Origins -/

theorem origin_ok (env : Env) (s s' : State) (ix : Instruction) (h : History) (ledger' : Ledger)
    (hp : process env s.clock ix s.ledger = .ok ledger') :
    origin env (⟨s, .instruction ix, s'⟩ :: h) =
      Function.update (origin env h) ix.target
        (ix.becomes s.ledger (origin env h ix.target)) := by
  rw [origin, hp]

theorem origin_error (env : Env) (s s' : State) (ix : Instruction) (h : History) (e : PluginError)
    (hp : process env s.clock ix s.ledger = .error e) :
    origin env (⟨s, .instruction ix, s'⟩ :: h) = origin env h := by
  rw [origin, hp]

/-- The induction for a property `I` of every account, given its origin and
    its address. Zero-filled accounts come from outside; everything else is
    what an instruction makes of its target. `C` is a condition on the
    steps. -/
theorem run_accounts (env : Env) (C : Entry State Event → Prop)
    (I : Option Place → Pubkey → Account → Prop)
    (hforeign : ∀ a acc, acc.owner ≠ programId →
      ((∃ seeds, a = env.deriveAddress seeds programId) → acc = .vacant) → I none a acc)
    (hzero : ∀ a n, (∀ seeds, a ≠ env.deriveAddress seeds programId) →
      I none a ⟨programId, List.replicate n 0⟩)
    (howned : ∀ p a acc, I (some p) a acc → acc.owner = programId)
    (hderived : ∀ seeds acc, I none (env.deriveAddress seeds programId) acc → acc = .vacant)
    (hix : ∀ h s ix s', Run (plugin env) h s → (∀ a, I (origin env h a) a (s.ledger a)) →
      process env s.clock ix s.ledger = .ok s'.ledger → C ⟨s, .instruction ix, s'⟩ →
      I (ix.becomes s.ledger (origin env h ix.target)) ix.target (s'.ledger ix.target))
    (h : History) (s : State) (hrun : Run (plugin env) h s) (hC : ∀ e ∈ h, C e) (a : Pubkey) :
    I (origin env h a) a (s.ledger a) := by
  refine run_induct (plugin env) C (fun h s => ∀ a, I (origin env h a) a (s.ledger a))
    ?_ ?_ h s hrun hC a
  · intro s hs a
    refine hforeign a _ (hs.owns_nothing a) ?_
    intro hder
    rcases hder with ⟨seeds, rfl⟩
    exact hs.derived_vacant seeds
  · intro h s e s' hr ih hst hc a
    cases hst with
    | instruction ix =>
        rcases hp : process env s.clock ix s.ledger with err | ledger'
        · rw [origin_error env s _ ix h err hp, apply_error env s ix err hp]
          exact ih a
        · rw [apply_ok env s ix ledger' hp] at hc ⊢
          rw [origin_ok env s _ ix h ledger' hp]
          by_cases ha : a = ix.target
          · subst ha
            rw [Function.update_self]
            exact hix h s ix _ hr ih hp hc
          · rw [Function.update_of_ne ha]
            change I (origin env h a) a (ledger' a)
            rw [process_frame env s.clock ix s.ledger ledger' hp a ha]
            exact ih a
    | tick clock _ _ => exact ih a
    | other ledger ho =>
        have hold := ih a
        change I (origin env h a) a (ledger a)
        rcases horig : origin env h a with _ | p
        · rw [horig] at hold
          by_cases hnew : (ledger a).owner = programId
          · -- An account handed to the program comes with zeros, and not at a derived
            -- address.
            by_cases hwas : (s.ledger a).owner = programId
            · rw [ho.owned_kept a hwas]
              exact hold
            · rcases ho.assigned_zero a hnew hwas with ⟨n, hn⟩
              have hacc : ledger a = ⟨programId, List.replicate n 0⟩ := by rw [← hnew, ← hn]
              rw [hacc]
              refine hzero a n ?_
              intro seeds hseeds
              subst hseeds
              rw [ho.derived_kept seeds] at hnew
              exact hwas hnew
          · refine hforeign a _ hnew ?_
            intro hder
            rcases hder with ⟨seeds, rfl⟩
            rw [ho.derived_kept seeds]
            exact hderived seeds _ hold
        · rw [horig] at hold
          -- Live accounts belong to the program, and nobody else touches those.
          rw [ho.owned_kept a (howned p a _ hold)]
          exact hold

end EntrosVoterWeight
