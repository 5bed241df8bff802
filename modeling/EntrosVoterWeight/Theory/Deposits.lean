import EntrosVoterWeight.Anchor.Lamports
import EntrosVoterWeight.Theory.Quorum

/-!
# Deposits

The lamports behind the accounts of the program.

Whoever creates an account of the program pays a deposit for it, and whoever
closes it says where the deposit goes. Here the balances are added to the
ledger, and an instruction takes effect if the checks pass and the deposit can
be paid. Everyone else may send lamports to any account, but takes none from an
account of the program, because the runtime lets only an account's owner do so.

Then the deposits are there. In every run, every live account holds what it
takes to be exempt from rent. Nothing leaves it until it is closed, and then
everything does: from a registrar because the realm's authority dissolved the
body, from a voter's record because that voter withdrew. What a max voter
weight record holds never leaves it at all, since no instruction closes one.
And the only other account that loses lamports to an instruction is a payer who
signed it, for exactly what the new account was short of.

## Main definitions

* `Instruction.settle`: The balances after an instruction.
* `Funded`, `funded`: The system with its balances.
* `paidHistory`: The steps of such a run, as steps of the program.
* `Place.ends`: The move that ends a place.

## Theorems

* `settle_spec`: What an instruction does to the balances.
* `funded_run`: With the balances forgotten, a run is a run of the program.
* `capped_run`: The lamports always fit.
* `solvent_run`, `deposit_kept`: Every live account holds its deposit.
* `closes_licensed`: Who may have a balance paid out.
* `debit_explained`: Who loses lamports, and to whom.
* `deposit_locked`: The deposit of a max voter weight record stays there.
* `replayFunded_paid`: Balances that suffice change nothing.
-/

namespace EntrosVoterWeight

open Borsh Anchor Funds Transition

/-! ### Paying for an instruction -/

/-- Who pays for an account. -/
def Instruction.payer : Instruction → Option Pubkey
  | .createRegistrar ctx _ _ => some ctx.accounts.payer
  | .updateRegistrar _ _ _ => none
  | .createVoterWeightRecord ctx _ => some ctx.accounts.payer
  | .updateVoterWeightRecord _ => none
  | .closeRegistrar _ => none
  | .closeVoterWeightRecord _ => none
  | .createMaxVoterWeightRecord ctx => some ctx.accounts.payer
  | .updateMaxVoterWeightRecord _ _ => none

/-- Who gets what an account held. -/
def Instruction.destination : Instruction → Option Pubkey
  | .createRegistrar _ _ _ => none
  | .updateRegistrar _ _ _ => none
  | .createVoterWeightRecord _ _ => none
  | .updateVoterWeightRecord _ => none
  | .closeRegistrar ctx => some ctx.accounts.solDestination
  | .closeVoterWeightRecord ctx => some ctx.accounts.solDestination
  | .createMaxVoterWeightRecord _ => none
  | .updateMaxVoterWeightRecord _ _ => none

/-- The balances after an instruction, unless they do not allow it. -/
def Instruction.settle (rent : Rent) (ledger : Ledger) (lamports : Lamports)
    (ix : Instruction) : Option Lamports :=
  match ix with
  | .createRegistrar ctx _ _ =>
    fundAccount rent ctx.accounts.payer ctx.accounts.registrar Registrar.len ledger lamports
  | .updateRegistrar _ _ _ => some lamports
  | .createVoterWeightRecord ctx _ =>
    fundAccount rent ctx.accounts.payer ctx.accounts.voterWeightRecord
      VoterWeightRecord.getSpace ledger lamports
  | .updateVoterWeightRecord _ => some lamports
  | .closeRegistrar ctx =>
    drainAccount ctx.accounts.registrar ctx.accounts.solDestination lamports
  | .closeVoterWeightRecord ctx =>
    drainAccount ctx.accounts.voterWeightRecord ctx.accounts.solDestination lamports
  | .createMaxVoterWeightRecord ctx =>
    fundAccount rent ctx.accounts.payer ctx.accounts.maxVoterWeightRecord
      MaxVoterWeightRecord.getSpace ledger lamports
  | .updateMaxVoterWeightRecord _ _ => some lamports

/-- The size of the account of a place. -/
def Place.space : Place → Nat
  | .registrar _ _ => Registrar.len
  | .voterWeightRecord _ _ _ => VoterWeightRecord.getSpace
  | .maxVoterWeightRecord _ _ => MaxVoterWeightRecord.getSpace

/-- The move that ends a place. -/
def Place.ends : Place → Option (Registry.Event Dao Pubkey)
  | .registrar realm mint => some (.dissolve (realm, mint))
  | .voterWeightRecord realm mint voter => some (.withdraw (realm, mint) voter)
  | .maxVoterWeightRecord _ _ => none

/-- What a successful instruction does to the balances. -/
inductive Settlement (rent : Rent) (ledger : Ledger) (lamports lamports' : Lamports)
    (ix : Instruction) : Prop
  | creates (payer : Pubkey) (space : Nat) : ix.payer = some payer → ix.isSigner payer = true →
      payer ≠ ix.target → ledger ix.target = .vacant →
      (∀ old p, ix.becomes ledger old = some p → p.space = space) →
      Funding rent payer ix.target space ledger lamports lamports' →
      Settlement rent ledger lamports lamports' ix
  | closes (dest : Pubkey) : ix.destination = some dest → ix.target ≠ dest →
      (∀ old, ix.becomes ledger old = none) → Draining ix.target dest lamports lamports' →
      Settlement rent ledger lamports lamports' ix
  | keeps : (∀ old, ix.becomes ledger old = old) → lamports' = lamports →
      Settlement rent ledger lamports lamports' ix

theorem settle_spec (env : Env) (rent : Rent) (clock : Clock) (ix : Instruction)
    (ledger ledger' : Ledger) (lamports lamports' : Lamports)
    (hp : process env clock ix ledger = .ok ledger')
    (hsettle : ix.settle rent ledger lamports = some lamports') :
    Settlement rent ledger lamports lamports' ix := by
  cases ix with
  | createRegistrar ctx t g =>
      rcases (createRegistrar_eq_ok ..).mp hp with ⟨ha, _⟩
      refine .creates ctx.accounts.payer Registrar.len rfl ha.payer_signs ha.pays.1 ha.vacant ?_
        (fund_spec _ _ _ _ _ _ _ ha.pays.1 hsettle)
      intro old p hbecomes
      rcases Option.some.inj hbecomes with rfl
      rfl
  | updateRegistrar ctx t g => exact .keeps (fun _ => rfl) (Option.some.inj hsettle).symm
  | createVoterWeightRecord ctx voter =>
      rcases (createVoterWeightRecord_eq_ok ..).mp hp with ⟨_, ha, _⟩
      refine .creates ctx.accounts.payer VoterWeightRecord.getSpace rfl ha.payer_signs ha.pays.1
        ha.vacant ?_ (fund_spec _ _ _ _ _ _ _ ha.pays.1 hsettle)
      intro old p hbecomes
      rcases Option.map_eq_some_iff.mp hbecomes with ⟨_, _, rfl⟩
      rfl
  | updateVoterWeightRecord ctx => exact .keeps (fun _ => rfl) (Option.some.inj hsettle).symm
  | closeRegistrar ctx =>
      rcases (closeRegistrar_eq_ok ..).mp hp with ⟨_, _, hne, _, _⟩
      exact .closes _ rfl hne (fun _ => rfl) (drain_spec _ _ _ _ hne hsettle)
  | closeVoterWeightRecord ctx =>
      rcases (closeVoterWeightRecord_eq_ok ..).mp hp with ⟨_, _, _, hne, _, _⟩
      exact .closes _ rfl hne (fun _ => rfl) (drain_spec _ _ _ _ hne hsettle)
  | createMaxVoterWeightRecord ctx =>
      rcases (createMaxVoterWeightRecord_eq_ok ..).mp hp with ⟨_, ha, _⟩
      refine .creates ctx.accounts.payer MaxVoterWeightRecord.getSpace rfl ha.payer_signs ha.pays.1
        ha.vacant ?_ (fund_spec _ _ _ _ _ _ _ ha.pays.1 hsettle)
      intro old p hbecomes
      rcases Option.map_eq_some_iff.mp hbecomes with ⟨_, _, rfl⟩
      rfl
  | updateMaxVoterWeightRecord ctx w => exact .keeps (fun _ => rfl) (Option.some.inj hsettle).symm

/-- Whoever loses lamports to an instruction pays what the new account was
    short of, or is the account that is closed. -/
theorem settled_debit (rent : Rent) (ledger : Ledger) (lamports lamports' : Lamports)
    (ix : Instruction) (hs : Settlement rent ledger lamports lamports' ix) (a : Pubkey)
    (hless : lamports' a < lamports a) :
    (ix.payer = some a ∧ ix.isSigner a = true ∧ ledger a = .vacant ∧
      lamports a + lamports ix.target = lamports' a + lamports' ix.target ∧
      ∀ old p, ix.becomes ledger old = some p →
        lamports' ix.target = rent.minimumBalance p.space) ∨
    (a = ix.target ∧ ∃ dest, ix.destination = some dest ∧
      Draining a dest lamports lamports') := by
  cases hs with
  | creates payer space hpayer hsigns hne hvacant hspace hfunding =>
      have hheld := hfunding.held
      have hpaid := hfunding.paid
      -- The new account gains.
      have htarget : a ≠ ix.target := by
        rintro rfl
        omega
      have hapayer : a = payer := by
        by_contra hother
        rw [hfunding.others a hother htarget] at hless
        exact absurd hless (Nat.lt_irrefl _)
      subst hapayer
      refine Or.inl ⟨hpayer, hsigns, hfunding.payer_vacant hless.ne, hpaid, ?_⟩
      intro old p hbecomes
      rw [hspace old p hbecomes]
      omega
  | closes dest hdest hne _ hdrain =>
      have hreceived := hdrain.received
      -- So does the destination.
      have hadest : a ≠ dest := by
        rintro rfl
        omega
      have htarget : a = ix.target := by
        by_contra hother
        rw [hdrain.others a hother hadest] at hless
        exact absurd hless (Nat.lt_irrefl _)
      exact Or.inr ⟨htarget, dest, hdest, htarget ▸ hdrain⟩
  | keeps _ heq =>
      rw [heq] at hless
      exact absurd hless (Nat.lt_irrefl _)

/-- An account of the program loses lamports only as the one that is closed. -/
theorem settled_owned (rent : Rent) (ledger : Ledger) (lamports lamports' : Lamports)
    (ix : Instruction) (hs : Settlement rent ledger lamports lamports' ix) (a : Pubkey)
    (hown : (ledger a).owner = programId) (hne : a ≠ ix.target) : lamports a ≤ lamports' a := by
  by_contra hless
  rcases settled_debit rent ledger lamports lamports' ix hs a (Nat.lt_of_not_le hless) with
    ⟨_, _, hvacant, _⟩ | ⟨htarget, _⟩
  · rw [hvacant] at hown
    exact absurd hown vacant_owner_ne
  · exact hne htarget

/-- What is paid for is created. -/
theorem becomes_of_payer (env : Env) (clock : Clock) (ix : Instruction) (ledger ledger' : Ledger)
    (hp : process env clock ix ledger = .ok ledger') (payer : Pubkey)
    (hpayer : ix.payer = some payer) : ∃ p, ∀ old, ix.becomes ledger old = some p := by
  cases ix with
  | createRegistrar ctx t g => exact ⟨_, fun _ => rfl⟩
  | createVoterWeightRecord ctx voter =>
      rcases (createVoterWeightRecord_eq_ok ..).mp hp with ⟨registrar, ha, _⟩
      have hreg := (registrarAt_eq_some ..).mpr ⟨ha.registrar_owner, ha.registrar_loads⟩
      exact ⟨_, fun _ => by rw [Instruction.becomes, hreg, Option.map_some]⟩
  | createMaxVoterWeightRecord ctx =>
      rcases (createMaxVoterWeightRecord_eq_ok ..).mp hp with ⟨registrar, ha, _⟩
      have hreg := (registrarAt_eq_some ..).mpr ⟨ha.registrar_owner, ha.registrar_loads⟩
      exact ⟨_, fun _ => by rw [Instruction.becomes, hreg, Option.map_some]⟩
  | updateRegistrar ctx t g => exact absurd hpayer (Option.some_ne_none payer).symm
  | updateVoterWeightRecord ctx => exact absurd hpayer (Option.some_ne_none payer).symm
  | closeRegistrar ctx => exact absurd hpayer (Option.some_ne_none payer).symm
  | closeVoterWeightRecord ctx => exact absurd hpayer (Option.some_ne_none payer).symm
  | updateMaxVoterWeightRecord ctx w => exact absurd hpayer (Option.some_ne_none payer).symm

/-- No instruction makes or loses lamports. -/
theorem supply_settle (rent : Rent) (ix : Instruction) (ledger : Ledger)
    (lamports lamports' : Lamports) (n : Nat) (hs : Supply lamports n)
    (hsettle : ix.settle rent ledger lamports = some lamports') : Supply lamports' n := by
  have hkeep : some lamports = some lamports' → Supply lamports' n :=
    fun heq => Option.some.inj heq ▸ hs
  cases ix with
  | createRegistrar ctx t g => exact supply_fund _ _ _ _ _ _ _ n hs hsettle
  | updateRegistrar ctx t g => exact hkeep hsettle
  | createVoterWeightRecord ctx voter => exact supply_fund _ _ _ _ _ _ _ n hs hsettle
  | updateVoterWeightRecord ctx => exact hkeep hsettle
  | closeRegistrar ctx => exact supply_drain _ _ _ _ n hs hsettle
  | closeVoterWeightRecord ctx => exact supply_drain _ _ _ _ n hs hsettle
  | createMaxVoterWeightRecord ctx => exact supply_fund _ _ _ _ _ _ _ n hs hsettle
  | updateMaxVoterWeightRecord ctx w => exact hkeep hsettle

/-! ### The system with its balances -/

/-- A state with the lamports of every account. -/
structure Funded where
  state : State
  lamports : Lamports

/-- The state after an instruction. One that fails or is not paid for has no
    effect. -/
def Funded.apply (env : Env) (rent : Rent) (f : Funded) (ix : Instruction) : Funded :=
  match process env f.state.clock ix f.state.ledger, ix.settle rent f.state.ledger f.lamports with
  | .ok ledger, some lamports => ⟨⟨ledger, f.state.clock⟩, lamports⟩
  | _, _ => f

/-- What the other programs can do to the balances. The lamports there are stay
    within what a balance can be. -/
structure OtherPayment (ledger : Ledger) (lamports lamports' : Lamports) : Prop where
  owned_kept : ∀ a, (ledger a).owner = programId → lamports a ≤ lamports' a
  capped : Capped lamports'

inductive FundedStep (env : Env) (rent : Rent) : Funded → Event → Funded → Prop
  | instruction (f : Funded) (ix : Instruction) :
      FundedStep env rent f (.instruction ix) (f.apply env rent ix)
  | tick (f : Funded) (clock : Clock) : f.state.clock.slot ≤ clock.slot →
      f.state.clock.unixTimestamp ≤ clock.unixTimestamp →
      FundedStep env rent f (.tick clock) ⟨⟨f.state.ledger, clock⟩, f.lamports⟩
  | other (f : Funded) (ledger : Ledger) (lamports : Lamports) :
      OtherChange env f.state.ledger ledger → OtherPayment f.state.ledger f.lamports lamports →
      FundedStep env rent f (.other ledger) ⟨⟨ledger, f.state.clock⟩, lamports⟩

def funded (env : Env) (rent : Rent) : System Funded Event where
  init f := Genesis env f.state ∧ Capped f.lamports
  step := FundedStep env rent

/-- The steps of a run as steps of the program, without the instructions that
    were not paid for. -/
def paidHistory (rent : Rent) : List (Entry Funded Event) → History
  | [] => []
  | ⟨f, .instruction ix, f'⟩ :: h =>
    if (ix.settle rent f.state.ledger f.lamports).isSome then
      ⟨f.state, .instruction ix, f'.state⟩ :: paidHistory rent h
    else paidHistory rent h
  | ⟨f, .tick clock, f'⟩ :: h => ⟨f.state, .tick clock, f'.state⟩ :: paidHistory rent h
  | ⟨f, .other ledger, f'⟩ :: h => ⟨f.state, .other ledger, f'.state⟩ :: paidHistory rent h

section
variable (env : Env) (rent : Rent)

theorem funded_ok (f : Funded) (ix : Instruction) (ledger' : Ledger) (lamports' : Lamports)
    (hp : process env f.state.clock ix f.state.ledger = .ok ledger')
    (hsettle : ix.settle rent f.state.ledger f.lamports = some lamports') :
    f.apply env rent ix = ⟨⟨ledger', f.state.clock⟩, lamports'⟩ := by
  rw [Funded.apply, hp, hsettle]

theorem funded_error (f : Funded) (ix : Instruction) (e : PluginError)
    (hp : process env f.state.clock ix f.state.ledger = .error e) : f.apply env rent ix = f := by
  rw [Funded.apply, hp]

theorem funded_unpaid (f : Funded) (ix : Instruction)
    (hsettle : ix.settle rent f.state.ledger f.lamports = none) : f.apply env rent ix = f := by
  rw [Funded.apply, hsettle]
  rcases process env f.state.clock ix f.state.ledger with _ | _ <;> rfl

/-- An instruction takes effect with both results, or not at all. -/
theorem funded_cases (f : Funded) (ix : Instruction) :
    (∃ ledger' lamports', process env f.state.clock ix f.state.ledger = .ok ledger' ∧
      ix.settle rent f.state.ledger f.lamports = some lamports' ∧
      f.apply env rent ix = ⟨⟨ledger', f.state.clock⟩, lamports'⟩) ∨
    f.apply env rent ix = f := by
  rcases hp : process env f.state.clock ix f.state.ledger with err | ledger'
  · exact Or.inr (funded_error env rent f ix err hp)
  · rcases hsettle : ix.settle rent f.state.ledger f.lamports with _ | lamports'
    · exact Or.inr (funded_unpaid env rent f ix hsettle)
    · exact Or.inl ⟨ledger', lamports', rfl, rfl,
        funded_ok env rent f ix ledger' lamports' hp hsettle⟩

/-- Where it can be paid for, an instruction does what it does. -/
theorem funded_state (f : Funded) (ix : Instruction) (lamports' : Lamports)
    (hsettle : ix.settle rent f.state.ledger f.lamports = some lamports') :
    (f.apply env rent ix).state = f.state.apply env ix := by
  rcases hp : process env f.state.clock ix f.state.ledger with err | ledger'
  · rw [funded_error env rent f ix err hp, apply_error env f.state ix err hp]
  · rw [funded_ok env rent f ix ledger' lamports' hp hsettle, apply_ok env f.state ix ledger' hp]

/-- With the balances forgotten, a run is a run of the program. -/
theorem funded_run (h : List (Entry Funded Event)) (f : Funded)
    (hrun : Run (funded env rent) h f) : Run (plugin env) (paidHistory rent h) f.state := by
  induction hrun with
  | start f hf => exact .start f.state hf.1
  | step h f e f' _ hst ih =>
      cases hst with
      | instruction ix =>
          rcases hsettle : ix.settle rent f.state.ledger f.lamports with _ | lamports'
          · rw [funded_unpaid env rent f ix hsettle, paidHistory, hsettle]
            exact ih
          · rw [paidHistory, hsettle, funded_state env rent f ix lamports' hsettle]
            exact .step _ _ _ _ ih (.instruction f.state ix)
      | tick clock hslot htime => exact .step _ _ _ _ ih (.tick f.state clock hslot htime)
      | other ledger lamports ho _ => exact .step _ _ _ _ ih (.other f.state ledger ho)

/-- The lamports always fit. -/
theorem capped_run (h : List (Entry Funded Event)) (f : Funded)
    (hrun : Run (funded env rent) h f) : Capped f.lamports := by
  refine run_induct (funded env rent) (fun _ => True) (fun _ f => Capped f.lamports)
    (fun _ hf => hf.2) ?_ h f hrun (fun _ _ => trivial)
  intro h f e f' _ ih hst _
  cases hst with
  | instruction ix =>
      rcases funded_cases env rent f ix with ⟨ledger', lamports', _, hsettle, happ⟩ | happ
      · rw [happ]
        rcases ih with ⟨n, hn, hs⟩
        exact ⟨n, hn, supply_settle rent ix _ _ _ n hs hsettle⟩
      · rw [happ]
        exact ih
  | tick clock _ _ => exact ih
  | other ledger lamports _ hpay => exact hpay.capped

/-! ### Deposits -/

/-- What a step of the program, paid for, does to the origins. -/
theorem origin_paid (h : List (Entry Funded Event)) (f : Funded) (ix : Instruction) :
    (∃ ledger' lamports', process env f.state.clock ix f.state.ledger = .ok ledger' ∧
      f.apply env rent ix = ⟨⟨ledger', f.state.clock⟩, lamports'⟩ ∧
      Settlement rent f.state.ledger f.lamports lamports' ix ∧
      origin env (paidHistory rent (⟨f, .instruction ix, f.apply env rent ix⟩ :: h)) =
        Function.update (origin env (paidHistory rent h)) ix.target
          (ix.becomes f.state.ledger (origin env (paidHistory rent h) ix.target))) ∨
    (f.apply env rent ix = f ∧
      origin env (paidHistory rent (⟨f, .instruction ix, f.apply env rent ix⟩ :: h)) =
        origin env (paidHistory rent h)) := by
  rcases hsettle : ix.settle rent f.state.ledger f.lamports with _ | lamports'
  · refine Or.inr ⟨funded_unpaid env rent f ix hsettle, ?_⟩
    rw [paidHistory, hsettle]
    rfl
  · rcases hp : process env f.state.clock ix f.state.ledger with err | ledger'
    · refine Or.inr ⟨funded_error env rent f ix err hp, ?_⟩
      rw [paidHistory, hsettle]
      exact origin_error env f.state _ ix _ err hp
    · refine Or.inl ⟨ledger', lamports', rfl, funded_ok env rent f ix ledger' lamports' hp hsettle,
        settle_spec env rent _ ix _ _ _ _ hp hsettle, ?_⟩
      rw [paidHistory, hsettle]
      exact origin_ok env f.state _ ix _ ledger' hp

/-- An account is as large as its place. -/
theorem shape_space (p : Place) (a : Pubkey) (acc : Account) (hs : Shape env (some p) a acc) :
    acc.data.length = p.space := by
  cases p with
  | registrar realm mint => exact RegistrarShape.length hs
  | voterWeightRecord realm mint owner => exact VoterShape.length hs
  | maxVoterWeightRecord realm mint => exact MaxShape.length hs

/-- What was created and not closed belongs to the program. -/
theorem owned_of_origin (h : List (Entry Funded Event)) (f : Funded)
    (hrun : Run (funded env rent) h f) (a : Pubkey) (p : Place)
    (ho : origin env (paidHistory rent h) a = some p) :
    (f.state.ledger a).owner = programId ∧ (f.state.ledger a).data.length = p.space := by
  have hs := shape_run env _ _ (funded_run env rent h f hrun) a
  rw [ho] at hs
  exact ⟨(shape_placed env p a _ hs).1, shape_space env p a _ hs⟩

/-- Every live account holds what its size asks for. -/
theorem solvent_run (h : List (Entry Funded Event)) (f : Funded)
    (hrun : Run (funded env rent) h f) (a : Pubkey) (p : Place)
    (ho : origin env (paidHistory rent h) a = some p) :
    rent.minimumBalance p.space ≤ f.lamports a := by
  refine run_induct (funded env rent) (fun _ => True)
    (fun h f => ∀ a p, origin env (paidHistory rent h) a = some p →
      rent.minimumBalance p.space ≤ f.lamports a) ?_ ?_ h f hrun (fun _ _ => trivial) a p ho
  · intro f _ a p ho
    exact absurd ho (by simp only [paidHistory, origin, reduceCtorEq, not_false_eq_true])
  · intro h f e f' hr ih hst _ a p ho
    cases hst with
    | instruction ix =>
        rcases origin_paid env rent h f ix with ⟨ledger', lamports', _, happ, hs, horig⟩ |
          ⟨happ, horig⟩
        · rw [horig] at ho
          rw [happ]
          by_cases ha : a = ix.target
          · subst ha
            rw [Function.update_self] at ho
            cases hs with
            | creates payer space _ _ _ _ hspace hfunding =>
                -- It was topped up just now.
                rw [hspace _ p ho]
                exact (le_max_right _ _).trans hfunding.held.ge
            | closes dest _ _ hnone _ =>
                rw [hnone] at ho
                exact absurd ho (Option.some_ne_none p).symm
            | keeps hsame heq =>
                rw [hsame] at ho
                rw [heq]
                exact ih _ p ho
          · rw [Function.update_of_ne ha] at ho
            -- Nobody else takes lamports from the program.
            have hown := (owned_of_origin env rent h f hr a p ho).1
            exact (ih a p ho).trans (settled_owned rent _ _ _ ix hs a hown ha)
        · rw [horig] at ho
          rw [happ]
          exact ih a p ho
    | tick clock _ _ => exact ih a p ho
    | other ledger lamports _ hpay =>
        have hown := (owned_of_origin env rent h f hr a p ho).1
        exact (ih a p ho).trans (hpay.owned_kept a hown)

/-- An instruction that pays a balance out ends the place it belonged to, and
    is a move of whoever may end it. -/
theorem closes_licensed (h : History) (s s' : State) (hrun : Run (plugin env) h s)
    (hc : Consistent env (origin env h) s.ledger) (hclock : s'.clock = s.clock)
    (hnot : ∀ e ∈ h, ¬ RewritesVoterRecord env e) (ix : Instruction)
    (hp : process env s.clock ix s.ledger = .ok s'.ledger) (dest : Pubkey)
    (hdest : ix.destination = some dest) :
    ∃ p move, origin env h ix.target = some p ∧ p.ends = some move ∧
      Licensed env ⟨s, .instruction ix, s'⟩ move := by
  cases ix with
  | closeRegistrar ctx =>
      rcases move_closeRegistrar env h s s' hc hclock ctx hp with ⟨registrar, hreg, hmove⟩
      rcases (registrarAt_eq_some ..).mp hreg with ⟨hown, hload⟩
      rcases consistent_registrar env _ s.ledger hc _ registrar hown hload with ⟨ho, _⟩
      exact ⟨_, _, ho, rfl, hmove.licensed⟩
  | closeVoterWeightRecord ctx =>
      rcases move_closeVoterWeightRecord env h s s' hrun hc hclock hnot ctx hp with
        ⟨registrar, hreg, hmove⟩
      rcases controlsRecord_of_close env s.clock ctx s.ledger s'.ledger hp with ⟨reg, r, hctl⟩
      have hsame : registrarAt s.ledger ctx.accounts.registrar = some reg :=
        (registrarAt_eq_some ..).mpr ⟨hctl.registrar_owner, hctl.registrar_loads⟩
      rw [Instruction.registrar, hsame, Option.some.injEq] at hreg
      subst hreg
      rcases consistent_controls env _ s.ledger hc _ _ _ _ _ reg r hctl with ⟨owner, ho⟩
      -- The voter who signs is the one the record was created for.
      have howner := (owner_kept env h s hrun hnot _ _ _ owner r ho hctl.record_loads).1
      rw [hctl.owner_eq] at howner
      rw [howner] at hmove
      exact ⟨_, _, ho, rfl, hmove.licensed⟩
  | createRegistrar ctx t g =>
      exact absurd hdest (Option.some_ne_none dest).symm
  | updateRegistrar ctx t g =>
      exact absurd hdest (Option.some_ne_none dest).symm
  | createVoterWeightRecord ctx voter =>
      exact absurd hdest (Option.some_ne_none dest).symm
  | updateVoterWeightRecord ctx =>
      exact absurd hdest (Option.some_ne_none dest).symm
  | createMaxVoterWeightRecord ctx =>
      exact absurd hdest (Option.some_ne_none dest).symm
  | updateMaxVoterWeightRecord ctx w =>
      exact absurd hdest (Option.some_ne_none dest).symm

end

/-! ### Runs of the cluster -/

/-- Run a list of instructions with the balances, keeping the history. -/
def replayFunded (env : Env) (rent : Rent) :
    List (Entry Funded Event) → Funded → List Instruction → List (Entry Funded Event) × Funded
  | h, f, [] => (h, f)
  | h, f, ix :: ixs =>
    replayFunded env rent (⟨f, .instruction ix, f.apply env rent ix⟩ :: h) (f.apply env rent ix) ixs

/-- Whether they can be paid for, one after the other. -/
def paysAll (env : Env) (rent : Rent) : Funded → List Instruction → Bool
  | _, [] => true
  | f, ix :: ixs =>
    (ix.settle rent f.state.ledger f.lamports).isSome && paysAll env rent (f.apply env rent ix) ixs

theorem replayFunded_run (env : Env) (rent : Rent) (ixs : List Instruction)
    (h : List (Entry Funded Event)) (f : Funded) (hrun : Run (funded env rent) h f) :
    Run (funded env rent) (replayFunded env rent h f ixs).1 (replayFunded env rent h f ixs).2 := by
  induction ixs generalizing h f with
  | nil => exact hrun
  | cons ix ixs ih => exact ih _ _ (.step h f _ _ hrun (.instruction f ix))

/-- If they can, the balances change nothing. -/
theorem replayFunded_paid (env : Env) (rent : Rent) (ixs : List Instruction)
    (h : List (Entry Funded Event)) (f : Funded) (hpays : paysAll env rent f ixs = true) :
    paidHistory rent (replayFunded env rent h f ixs).1 =
        (replay env (paidHistory rent h) f.state ixs).1 ∧
      (replayFunded env rent h f ixs).2.state =
        (replay env (paidHistory rent h) f.state ixs).2 := by
  induction ixs generalizing h f with
  | nil => exact ⟨rfl, rfl⟩
  | cons ix ixs ih =>
      rw [paysAll, Bool.and_eq_true, Option.isSome_iff_exists] at hpays
      rcases hpays with ⟨⟨lamports', hsettle⟩, hrest⟩
      have hnext := ih (⟨f, .instruction ix, f.apply env rent ix⟩ :: h) _ hrest
      rw [paidHistory, hsettle, funded_state env rent f ix lamports' hsettle] at hnext
      exact hnext

namespace Devnet

/-- Two years' rent. -/
def rent : Rent := ⟨fun space => (128 + space) * 6960, fun space => by omega⟩

/-- The payer has ten SOL, and the others nothing. -/
def treasury : Funded := ⟨genesis, fun key => if key = payer then 10000000000 else 0⟩

/-- The history and the state after a list of instructions. -/
def afterFunded (ixs : List Instruction) : List (Entry Funded Event) × Funded :=
  replayFunded env rent [] treasury ixs

theorem afterFunded_run (ixs : List Instruction) :
    Run (funded env rent) (afterFunded ixs).1 (afterFunded ixs).2 := by
  refine replayFunded_run env rent ixs [] treasury (.start _ ⟨?_, 10000000000, by decide, {payer},
    ?_, ?_⟩)
  · cases genesis_run with
    | start _ hgenesis => exact hgenesis
  · intro a ha
    exact if_neg (fun heq => ha (Finset.mem_singleton.mpr heq))
  · rw [Finset.sum_singleton]
    rfl

/-- Where the payer can pay, the program's own steps are the same. -/
theorem afterFunded_paid (ixs : List Instruction) (hpays : paysAll env rent treasury ixs = true) :
    paidHistory rent (afterFunded ixs).1 = (after ixs).1 :=
  (replayFunded_paid env rent ixs [] treasury hpays).1

end Devnet

/-- In every run, every account that was created and not closed is exempt from
    rent. -/
theorem deposit_kept (env : Env) (rent : Rent) (h : List (Entry Funded Event)) (f : Funded)
    (hrun : Run (funded env rent) h f) (a : Pubkey) (p : Place)
    (ho : origin env (paidHistory rent h) a = some p) :
    rent.minimumBalance (f.state.ledger a).data.length ≤ f.lamports a := by
  rw [(owned_of_origin env rent h f hrun a p ho).2]
  exact solvent_run env rent h f hrun a p ho

/-- A wallet's record, paid for by somebody else. -/
theorem deposit_kept_devnet :
    Devnet.rent.minimumBalance ((Devnet.afterFunded Devnet.oneDao).2.state.ledger
      (Devnet.record Devnet.mint Devnet.voterA)).data.length ≤
        (Devnet.afterFunded Devnet.oneDao).2.lamports (Devnet.record Devnet.mint Devnet.voterA) :=
  deposit_kept Devnet.env Devnet.rent _ _ (Devnet.afterFunded_run Devnet.oneDao) _
    (.voterWeightRecord Devnet.realm Devnet.mint Devnet.voterA) (by decide +kernel)

/-- Who loses lamports to an instruction: a payer who signed it, for what the
    new account was short of, or the account of a place that is ended, which
    loses all of them to the destination, by a move of whoever may end it. -/
theorem debit_explained (env : Env) (hspec : GovernanceSpec env) (rent : Rent)
    (h : List (Entry Funded Event)) (f : Funded) (hrun : Run (funded env rent) h f)
    (hsteps : ∀ e ∈ paidHistory rent h, Separated env e.pre.ledger ∧ ¬ RewritesVoterRecord env e)
    (ix : Instruction) (a : Pubkey)
    (hless : (f.apply env rent ix).lamports a < f.lamports a) :
    (ix.payer = some a ∧ ix.isSigner a = true ∧ f.state.ledger a = .vacant ∧
      f.lamports a + f.lamports ix.target =
        (f.apply env rent ix).lamports a + (f.apply env rent ix).lamports ix.target ∧
      (f.apply env rent ix).lamports ix.target =
        rent.minimumBalance ((f.apply env rent ix).state.ledger ix.target).data.length) ∨
    (a = ix.target ∧ ∃ p move dest, origin env (paidHistory rent h) a = some p ∧
      p.ends = some move ∧
      Licensed env ⟨f.state, .instruction ix, (f.apply env rent ix).state⟩ move ∧
      ix.destination = some dest ∧
      Draining a dest f.lamports (f.apply env rent ix).lamports) := by
  have hplain := funded_run env rent h f hrun
  have hc := consistent_run env hspec _ _ hplain (fun e he => (hsteps e he).1)
  rcases origin_paid env rent h f ix with ⟨ledger', lamports', hp, happ, hs, horig⟩ | ⟨happ, _⟩
  · rw [happ] at hless ⊢
    rcases settled_debit rent _ _ _ ix hs a hless with
      ⟨hpayer, hsigns, hvacant, hpaid, hheld⟩ | ⟨htarget, dest, hdest, hdrain⟩
    · refine Or.inl ⟨hpayer, hsigns, hvacant, hpaid, ?_⟩
      -- One step later the new account is live, so its size is known.
      rcases becomes_of_payer env f.state.clock ix _ _ hp a hpayer with ⟨p, hbecomes⟩
      have hnext := Run.step h f (.instruction ix) _ hrun (.instruction f ix)
      rw [hbecomes] at horig
      have hsize := (owned_of_origin env rent _ _ hnext ix.target p (by
        rw [horig, Function.update_self])).2
      rw [happ] at hsize
      rw [hsize]
      exact hheld _ p (hbecomes none)
    · rcases closes_licensed env _ f.state ⟨ledger', f.state.clock⟩ hplain hc rfl
        (fun e he => (hsteps e he).2) ix hp dest hdest with ⟨p, move, ho, hends, hlic⟩
      exact Or.inr ⟨htarget, p, move, dest, htarget ▸ ho, hends, hlic, hdest, hdrain⟩
  · rw [happ] at hless
    exact absurd hless (Nat.lt_irrefl _)

/-- The record is closed, and its destination gets what was paid for it. -/
theorem debit_explained_devnet : ∃ dest,
    (Instruction.closeVoterWeightRecord (Devnet.closeRecordContext Devnet.mint
      Devnet.voterA)).destination = some dest ∧
    Draining (Devnet.record Devnet.mint Devnet.voterA) dest
      (Devnet.afterFunded Devnet.oneDao).2.lamports
      ((Devnet.afterFunded Devnet.oneDao).2.apply Devnet.env Devnet.rent
        (.closeVoterWeightRecord (Devnet.closeRecordContext Devnet.mint
          Devnet.voterA))).lamports := by
  have hsteps := Devnet.after_steps Devnet.oneDao (by decide +kernel) (by
    intro ix hix ctx w heq
    subst heq
    simp only [Devnet.oneDao, Devnet.createRegistrar, Devnet.createRecord, List.mem_cons,
      List.not_mem_nil, or_false, reduceCtorEq] at hix)
  rw [← Devnet.afterFunded_paid Devnet.oneDao (by decide +kernel)] at hsteps
  rcases debit_explained Devnet.env (cluster_governanceSpec _ _ _) Devnet.rent _ _
    (Devnet.afterFunded_run Devnet.oneDao) hsteps
    (.closeVoterWeightRecord (Devnet.closeRecordContext Devnet.mint Devnet.voterA))
    (Devnet.record Devnet.mint Devnet.voterA) (by decide +kernel) with
    ⟨hpayer, _⟩ | ⟨_, _, _, dest, _, _, _, hdest, hdrain⟩
  · exact absurd hpayer (Option.some_ne_none _).symm
  · exact ⟨dest, hdest, hdrain⟩

/-- A max voter weight record is there for good, and what it holds only grows,
    whatever anyone does. -/
theorem deposit_locked (env : Env) (rent : Rent) (h₀ h₁ : List (Entry Funded Event))
    (f₀ f : Funded) (hrun : Run (funded env rent) h₀ f₀) (hpath : Path (funded env rent) h₁ f₀ f)
    (a realm mint : Pubkey)
    (ho : origin env (paidHistory rent h₀) a = some (.maxVoterWeightRecord realm mint)) :
    origin env (paidHistory rent (h₁ ++ h₀)) a = some (.maxVoterWeightRecord realm mint) ∧
      f₀.lamports a ≤ f.lamports a := by
  induction hpath with
  | nil f => exact ⟨ho, Nat.le_refl _⟩
  | cons h₁ f₀ f e f' hbefore hst ih =>
      rcases ih hrun with ⟨hlive, hle⟩
      have hr := run_path (funded env rent) h₁ h₀ f₀ f hrun hbefore
      have hshape := shape_run env _ f.state (funded_run env rent _ f hr) a
      rw [hlive] at hshape
      have hown := MaxShape.owned hshape
      cases hst with
      | instruction ix =>
          rcases origin_paid env rent (h₁ ++ h₀) f ix with
            ⟨ledger', lamports', hp, happ, hs, horig⟩ | ⟨happ, horig⟩
          · rw [List.cons_append, horig, happ]
            by_cases ha : a = ix.target
            · -- Only its own update reaches it, and that moves no lamports.
              subst ha
              rcases max_step env f.state.clock ix _ _ realm mint hshape hp with ⟨ctx, w, rfl⟩
              rw [Function.update_self]
              cases hs with
              | creates payer _ hpayer _ _ _ _ _ =>
                  exact absurd hpayer (Option.some_ne_none payer).symm
              | closes dest hdest _ _ _ => exact absurd hdest (Option.some_ne_none dest).symm
              | keeps hsame heq =>
                  rw [hsame, heq]
                  exact ⟨hlive, hle⟩
            · rw [Function.update_of_ne ha]
              exact ⟨hlive, hle.trans (settled_owned rent _ _ _ ix hs a hown ha)⟩
          · rw [List.cons_append, horig, happ]
            exact ⟨hlive, hle⟩
      | tick clock _ _ => exact ⟨hlive, hle⟩
      | other ledger lamports _ hpay => exact ⟨hlive, hle.trans (hpay.owned_kept a hown)⟩

/-- When the registrar is closed, the total's deposit stays where it is. -/
theorem deposit_locked_devnet :
    origin Devnet.env (paidHistory Devnet.rent (⟨(Devnet.afterFunded [Devnet.createRegistrar
        Devnet.mint, Devnet.createMaxRecord]).2, .instruction (Devnet.closeRegistrar Devnet.mint),
          (Devnet.afterFunded [Devnet.createRegistrar Devnet.mint, Devnet.createMaxRecord]).2.apply
            Devnet.env Devnet.rent (Devnet.closeRegistrar Devnet.mint)⟩ ::
        (Devnet.afterFunded [Devnet.createRegistrar Devnet.mint, Devnet.createMaxRecord]).1))
      Devnet.maxRecord = some (.maxVoterWeightRecord Devnet.realm Devnet.mint) ∧
    (Devnet.afterFunded [Devnet.createRegistrar Devnet.mint, Devnet.createMaxRecord]).2.lamports
        Devnet.maxRecord ≤
      ((Devnet.afterFunded [Devnet.createRegistrar Devnet.mint, Devnet.createMaxRecord]).2.apply
        Devnet.env Devnet.rent (Devnet.closeRegistrar Devnet.mint)).lamports Devnet.maxRecord :=
  deposit_locked Devnet.env Devnet.rent _ _ _ _
    (Devnet.afterFunded_run [Devnet.createRegistrar Devnet.mint, Devnet.createMaxRecord])
    (path_single _ _ _ _ (.instruction _ (Devnet.closeRegistrar Devnet.mint)))
    Devnet.maxRecord Devnet.realm Devnet.mint (by decide +kernel)

end EntrosVoterWeight
