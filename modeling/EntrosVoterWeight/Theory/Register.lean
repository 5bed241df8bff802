import EntrosVoterWeight.Cluster
import EntrosVoterWeight.Identity
import EntrosVoterWeight.Registry.Basic
import EntrosVoterWeight.Theory.Ownership
import EntrosVoterWeight.Theory.Separation
import EntrosVoterWeight.Transition.Simulation

/-!
# The Program as a Register of Voters

What the program's accounts amount to, once it no longer matters where they
are and how they are written down.

Every pair of a realm and a governing mint is a body, every wallet a voter.
`registerOf` reads a register off a ledger: the registrar of a pair is its
policy, a voter weight record is a ballot, and the max voter weight record is
the total a quorum is measured against. Only live accounts count, and only
where their place puts them, so two places with one address never both hold
something.

Each successful instruction is then one move of the register, permitted in the
register's own terms, and made by whoever has to make it: the body's five by
the realm's authority, the voter's three by the voter, whose identity account
is what a confirmation goes by. Failed instructions and what other programs do
are no moves. So a run of the program is explained, step by step, by a run of
the register.

What is assumed is what keeps the kinds of account apart. Executable programs
are not accepted as realms, and no update of a max voter weight record writes
something new into a voter's record. One that writes what is there already
succeeds and leaves the ledger alone. It is no move either.

## Main definitions

* `policyIn`, `ballotIn`, `quorumIn`: What an account holds.
* `holding`: The same of the live account of a place.
* `registerOf`: The register a ledger amounts to.
* `Instruction.Performs`, `Licensed`: Who made a move, and with what.
* `Amounts`: The moves that one step of the program is.

## Theorems

* `registerOf_acts`: An instruction writes one entry of the register.
* `register_instruction`: A successful instruction is a licensed move.
* `step_amounts`: What a step of the program is, by cases.
* `run_registered`: A run is explained by a run of the register.
-/

namespace EntrosVoterWeight

open Borsh Anchor Transition

/-! ### Reading a register off a ledger -/

/-- The policy a registrar stores. -/
def policyOf (registrar : Registrar) : Registry.Policy :=
  ⟨registrar.minTrustScore.toNat, registrar.maxVerificationAge.toInt⟩

/-- The ballot a voter weight record is. -/
def ballotOf (record : VoterWeightRecord) : Registry.Ballot :=
  if record.voterWeight = 0 then .blank
  else .cast ((record.voterWeightExpiry.getD 0).toNat)

/-- The total a max voter weight record states. -/
def quorumOf (record : MaxVoterWeightRecord) : Registry.Quorum :=
  if record.maxVoterWeight = 0 then .pending else .total record.maxVoterWeight.toNat

def policyIn (acc : Account) : Option Registry.Policy :=
  (AccountDeserialize.tryDeserialize acc.data).toOption.map policyOf

def ballotIn (acc : Account) : Option Registry.Ballot :=
  (AccountDeserialize.tryDeserialize acc.data).toOption.map ballotOf

def quorumIn (acc : Account) : Option Registry.Quorum :=
  (AccountDeserialize.tryDeserialize acc.data).toOption.map quorumOf

/-- What the live account of a place holds. -/
def holding {β : Type} (env : Env) (read : Account → Option β) (o : Pubkey → Option Place)
    (ledger : Ledger) (p : Place) : Option β :=
  if o (env.address p) = some p then read (ledger (env.address p)) else none

/-- A realm with one of its governing mints. -/
abbrev Dao := Pubkey × Pubkey

/-- The register a ledger amounts to. -/
def registerOf (env : Env) (h : History) (s : State) : Registry.State Dao Pubkey where
  policy d := holding env policyIn (origin env h) s.ledger (.registrar d.1 d.2)
  ballot x := holding env ballotIn (origin env h) s.ledger
    (.voterWeightRecord x.1.1 x.1.2 x.2)
  quorum d := holding env quorumIn (origin env h) s.ledger (.maxVoterWeightRecord d.1 d.2)
  slot := s.clock.slot.toNat
  time := s.clock.unixTimestamp.toInt

/-- The slots a confirmed ballot counts for. -/
def term : Nat := 100

/-- The last slot there is. -/
def lastSlot : Nat := 2 ^ 64 - 1

/-- A register with one entry rewritten, or removed. -/
def writeEntry (r : Registry.State Dao Pubkey) (p : Place) (acc : Option Account) :
    Registry.State Dao Pubkey :=
  match p with
  | .registrar realm mint =>
    { r with policy := Function.update r.policy (realm, mint) (acc.bind policyIn) }
  | .voterWeightRecord realm mint owner =>
    { r with ballot := Function.update r.ballot ((realm, mint), owner) (acc.bind ballotIn) }
  | .maxVoterWeightRecord realm mint =>
    { r with quorum := Function.update r.quorum (realm, mint) (acc.bind quorumIn) }

/-! ### Who made a move -/

/-- The instruction for a move, with the move's arguments. -/
def Instruction.Performs : Instruction → Registry.Event Dao Pubkey → Prop
  | .createRegistrar ctx minTrustScore maxVerificationAge, .establish d p =>
    d = (ctx.accounts.realm, ctx.accounts.governingTokenMint) ∧
      p = ⟨minTrustScore.toNat, maxVerificationAge.toInt⟩
  | .updateRegistrar ctx minTrustScore maxVerificationAge, .revise d p =>
    d.1 = ctx.accounts.realm ∧ p = ⟨minTrustScore.toNat, maxVerificationAge.toInt⟩
  | .closeRegistrar ctx, .dissolve d => d.1 = ctx.accounts.realm
  | .createVoterWeightRecord _ governingTokenOwner, .enrol _ voter => voter = governingTokenOwner
  | .updateVoterWeightRecord ctx, .confirm _ voter _ => voter = ctx.accounts.voterAuthority
  | .closeVoterWeightRecord ctx, .withdraw _ voter => voter = ctx.accounts.voterAuthority
  | .createMaxVoterWeightRecord ctx, .announce d => d.1 = ctx.accounts.realm
  | .updateMaxVoterWeightRecord ctx maxVoterWeight, .measure d weight =>
    d.1 = ctx.accounts.realm ∧ weight = maxVoterWeight.toNat
  | _, _ => False

/-- The move is made by a successful instruction on the account of the place,
    signed by the authority of the body's realm, as an executable governance
    program has it. -/
def ByRealmAuthority (env : Env) (p : Place) (d : Dao) (e : Entry State Event)
    (move : Registry.Event Dao Pubkey) : Prop :=
  ∃ ix governance key, Acts env ix (env.address p) e ∧ ix.Performs move ∧
    ix.isSigner key = true ∧ env.executable governance = true ∧
    IsRealmAuthority env governance (e.pre.ledger d.1) d.2 key

/-- The move is made by a successful instruction on the voter's record, signed
    by the voter. -/
def BySelf (env : Env) (d : Dao) (voter : Pubkey) (e : Entry State Event)
    (move : Registry.Event Dao Pubkey) : Prop :=
  ∃ ix, Acts env ix (env.address (.voterWeightRecord d.1 d.2 voter)) e ∧ ix.Performs move ∧
    ix.isSigner voter = true

/-- The identity account of a wallet, by its fields. -/
def Identifies (env : Env) (ledger : Ledger) (voter : Pubkey) (id : Registry.Identity) : Prop :=
  (ledger (env.identityAddress voter)).owner = entrosAnchorProgramId ∧
    ∃ (identity : IdentityState) (rest : List UInt8),
      (ledger (env.identityAddress voter)).data = identity.data rest ∧
      id = ⟨identity.trustScore.toNat, identity.lastVerificationTimestamp.toInt⟩

/-- A move is made by whoever has to make it. -/
def Licensed (env : Env) (e : Entry State Event) (move : Registry.Event Dao Pubkey) : Prop :=
  match move with
  | .establish d _ => ByRealmAuthority env (.registrar d.1 d.2) d e move
  | .revise d _ => ByRealmAuthority env (.registrar d.1 d.2) d e move
  | .dissolve d => ByRealmAuthority env (.registrar d.1 d.2) d e move
  | .announce d => ByRealmAuthority env (.maxVoterWeightRecord d.1 d.2) d e move
  | .measure d _ => ByRealmAuthority env (.maxVoterWeightRecord d.1 d.2) d e move
  | .enrol d voter => BySelf env d voter e move
  | .withdraw d voter => BySelf env d voter e move
  | .confirm d voter id => BySelf env d voter e move ∧ Identifies env e.pre.ledger voter id
  | .tick slot time => ∃ clock, e.event = .tick clock ∧ clock.slot.toNat = slot ∧
      clock.unixTimestamp.toInt = time

/-- A step of the register, as what happened in a step of the program. -/
structure Explained (env : Env) (e : Entry State Event)
    (x : Entry (Registry.State Dao Pubkey) (Registry.Event Dao Pubkey)) : Prop where
  licensed : Licensed env e x.event
  policy : ∀ d q, x.pre.policy d = some q → ∃ registrar,
    registrarAt e.pre.ledger (env.address (.registrar d.1 d.2)) = some registrar ∧
    policyOf registrar = q
  slot : x.pre.slot = e.pre.clock.slot.toNat
  time : x.pre.time = e.pre.clock.unixTimestamp.toInt

/-- What a step of the program amounts to in the register. A successful
    instruction is one move, unless it is an update of a max voter weight
    record that leaves the ledger as it was. One that fails is none, and
    neither is anything other programs do. -/
structure Amounts (env : Env) (h : History) (e : Entry State Event)
    (p : List (Entry (Registry.State Dao Pubkey) (Registry.Event Dao Pubkey))) : Prop where
  path : Path (Registry.register term lastSlot) p (registerOf env h e.pre)
    (registerOf env (e :: h) e.post)
  moves : match e.event with
    | .instruction ix =>
      match process env e.pre.clock ix e.pre.ledger with
      | .ok _ =>
        (∃ x, p = [x] ∧ Explained env e x) ∨
        (p = [] ∧ (∃ ctx w, ix = .updateMaxVoterWeightRecord ctx w) ∧
          e.post.ledger = e.pre.ledger)
      | .error _ => p = []
    | .tick clock => ∃ x, p = [x] ∧ Explained env e x ∧
        x.event = .tick clock.slot.toNat clock.unixTimestamp.toInt
    | .other _ => p = []

/-! ### One entry at a time -/

section
variable (env : Env) (o : Pubkey → Option Place)

/-- A write to the account of a place changes what that place holds, and what
    no other place holds, even at the same address. -/
theorem holding_update {β : Type} (read : Account → Option β) (ledger ledger' : Ledger)
    (q : Place) (o' : Option Place)
    (hbefore : o (env.address q) = none ∨ o (env.address q) = some q)
    (hafter : o' = none ∨ o' = some q)
    (hframe : ∀ a, a ≠ env.address q → ledger' a = ledger a) (p : Place) :
    holding env read (Function.update o (env.address q) o') ledger' p =
      Function.update (holding env read o ledger) q
        (if o' = some q then read (ledger' (env.address q)) else none) p := by
  by_cases hpq : p = q
  · subst hpq
    simp only [holding, Function.update_self]
  · rw [Function.update_of_ne hpq]
    by_cases ha : env.address p = env.address q
    · -- Neither before nor after is the place `p` live at this address.
      have hne : o' ≠ some p := by
        rcases hafter with h | h
        · rw [h]
          exact Option.some_ne_none p |>.symm
        · rw [h]
          exact fun habs => hpq (Option.some.inj habs).symm
      have hne' : o (env.address q) ≠ some p := by
        rcases hbefore with h | h
        · rw [h]
          exact Option.some_ne_none p |>.symm
        · rw [h]
          exact fun habs => hpq (Option.some.inj habs).symm
      -- So it held nothing and holds nothing.
      simp only [holding, ha, Function.update_self, if_neg hne, if_neg hne']
    · simp only [holding, Function.update_of_ne ha, hframe _ ha]

/-- Reading an updated family along an injection is updating what is read. -/
theorem update_along {ι κ β : Type} [DecidableEq ι] [DecidableEq κ] (f : ι → κ)
    (hf : ∀ i j, f i = f j → i = j) (g : κ → β) (i : ι) (v : β) :
    (fun j => Function.update g (f i) v (f j)) = Function.update (fun j => g (f j)) i v := by
  funext j
  by_cases hj : j = i
  · rw [hj, Function.update_self, Function.update_self]
  · rw [Function.update_of_ne hj, Function.update_of_ne (fun heq => hj (hf _ _ heq))]

end

/-- A successful instruction on the account of a place writes that place's
    entry of the register. -/
theorem registerOf_acts (env : Env) (h : History) (s s' : State) (ix : Instruction)
    (hp : process env s.clock ix s.ledger = .ok s'.ledger) (hclock : s'.clock = s.clock) (q : Place)
    (haddr : ix.target = env.address q)
    (hbefore : origin env h ix.target = none ∨ origin env h ix.target = some q)
    (o' : Option Place) (hbecomes : ix.becomes s.ledger (origin env h ix.target) = o')
    (hafter : o' = none ∨ o' = some q) :
    registerOf env (⟨s, .instruction ix, s'⟩ :: h) s' = writeEntry (registerOf env h s) q
      (if o' = some q then some (s'.ledger ix.target) else none) := by
  have hframe : ∀ a, a ≠ env.address q → s'.ledger a = s.ledger a := by
    intro a ha
    exact process_frame env s.clock ix s.ledger s'.ledger hp a (by rw [haddr]; exact ha)
  -- The three readings change at one place, and by the same rule.
  have hread : ∀ {β : Type} (read : Account → Option β) (p : Place),
      holding env read (origin env (⟨s, .instruction ix, s'⟩ :: h)) s'.ledger p =
        Function.update (holding env read (origin env h) s.ledger) q
          ((if o' = some q then some (s'.ledger ix.target) else none).bind read) p := by
    intro β read p
    rw [origin_ok env s s' ix h s'.ledger hp, hbecomes]
    rw [haddr] at hbefore ⊢
    rw [holding_update env _ read s.ledger s'.ledger q o' hbefore hafter hframe p]
    by_cases ho : o' = some q
    · rw [if_pos ho, if_pos ho, Option.bind_some]
    · rw [if_neg ho, if_neg ho, Option.bind_none]
  cases q with
  | registrar realm mint =>
      simp only [registerOf, writeEntry, hread, hclock, Registry.State.mk.injEq, and_true]
      refine ⟨?_, ?_, ?_⟩
      · exact update_along (fun d : Dao => Place.registrar d.1 d.2)
          (fun i j hij => by rw [Place.registrar.injEq] at hij; exact Prod.ext hij.1 hij.2)
          _ (realm, mint) _
      · funext x
        exact Function.update_of_ne (by simp only [ne_eq, reduceCtorEq, not_false_eq_true]) ..
      · funext d
        exact Function.update_of_ne (by simp only [ne_eq, reduceCtorEq, not_false_eq_true]) ..
  | voterWeightRecord realm mint owner =>
      simp only [registerOf, writeEntry, hread, hclock, Registry.State.mk.injEq, and_true]
      refine ⟨?_, ?_, ?_⟩
      · funext d
        exact Function.update_of_ne (by simp only [ne_eq, reduceCtorEq, not_false_eq_true]) ..
      · exact update_along
          (fun x : Dao × Pubkey => Place.voterWeightRecord x.1.1 x.1.2 x.2)
          (fun i j hij => by
            rw [Place.voterWeightRecord.injEq] at hij
            exact Prod.ext (Prod.ext hij.1 hij.2.1) hij.2.2)
          _ ((realm, mint), owner) _
      · funext d
        exact Function.update_of_ne (by simp only [ne_eq, reduceCtorEq, not_false_eq_true]) ..
  | maxVoterWeightRecord realm mint =>
      simp only [registerOf, writeEntry, hread, hclock, Registry.State.mk.injEq, and_true]
      refine ⟨?_, ?_, ?_⟩
      · funext d
        exact Function.update_of_ne (by simp only [ne_eq, reduceCtorEq, not_false_eq_true]) ..
      · funext x
        exact Function.update_of_ne (by simp only [ne_eq, reduceCtorEq, not_false_eq_true]) ..
      · exact update_along (fun d : Dao => Place.maxVoterWeightRecord d.1 d.2)
          (fun i j hij => by
            rw [Place.maxVoterWeightRecord.injEq] at hij
            exact Prod.ext hij.1 hij.2)
          _ (realm, mint) _

/-- The place holds what the instruction left. -/
theorem registerOf_live (env : Env) (h : History) (s s' : State) (ix : Instruction)
    (hp : process env s.clock ix s.ledger = .ok s'.ledger) (hclock : s'.clock = s.clock) (q : Place)
    (haddr : ix.target = env.address q)
    (hbefore : origin env h ix.target = none ∨ origin env h ix.target = some q)
    (hlive : ix.becomes s.ledger (origin env h ix.target) = some q) :
    registerOf env (⟨s, .instruction ix, s'⟩ :: h) s' =
      writeEntry (registerOf env h s) q (some (s'.ledger ix.target)) := by
  rw [registerOf_acts env h s s' ix hp hclock q haddr hbefore (some q) hlive (Or.inr rfl),
    if_pos rfl]

/-- The place of what was closed holds nothing. -/
theorem registerOf_closed (env : Env) (h : History) (s s' : State) (ix : Instruction)
    (hp : process env s.clock ix s.ledger = .ok s'.ledger) (hclock : s'.clock = s.clock) (q : Place)
    (haddr : ix.target = env.address q) (hbefore : origin env h ix.target = some q)
    (hends : ix.ends = true) :
    registerOf env (⟨s, .instruction ix, s'⟩ :: h) s' =
      writeEntry (registerOf env h s) q none := by
  rw [registerOf_acts env h s s' ix hp hclock q haddr (Or.inr hbefore) none
    (becomes_of_ends _ ix _ hends) (Or.inl rfl), if_neg (Option.some_ne_none q).symm]

/-! ### What the register holds -/

theorem policyIn_of_loads (acc : Account) (registrar : Registrar)
    (hload : AccountDeserialize.tryDeserialize acc.data = .ok registrar) :
    policyIn acc = some (policyOf registrar) := by
  rw [policyIn, hload, Except.toOption, Option.map_some]

theorem ballotIn_of_loads (acc : Account) (record : VoterWeightRecord)
    (hload : AccountDeserialize.tryDeserialize acc.data = .ok record) :
    ballotIn acc = some (ballotOf record) := by
  rw [ballotIn, hload, Except.toOption, Option.map_some]

theorem quorumIn_of_loads (acc : Account) (record : MaxVoterWeightRecord)
    (hload : AccountDeserialize.tryDeserialize acc.data = .ok record) :
    quorumIn acc = some (quorumOf record) := by
  rw [quorumIn, hload, Except.toOption, Option.map_some]

/-- A live account is read where its place puts it. -/
theorem holding_live {β : Type} (env : Env) (read : Account → Option β)
    (o : Pubkey → Option Place) (ledger : Ledger) (p : Place) (a : Pubkey) (ho : o a = some p)
    (haddr : a = env.address p) : holding env read o ledger p = read (ledger a) := by
  subst haddr
  rw [holding, if_pos ho]

theorem holding_vacant {β : Type} (env : Env) (read : Account → Option β)
    (o : Pubkey → Option Place) (ledger : Ledger) (p : Place) (a : Pubkey) (ho : o a = none)
    (haddr : a = env.address p) : holding env read o ledger p = none := by
  subst haddr
  rw [holding, ho, if_neg (Option.some_ne_none p).symm]

/-- A registrar that loads is the policy in force for its pair. -/
theorem policy_loaded (env : Env) (h : History) (s : State)
    (hc : Consistent env (origin env h) s.ledger) (key : Pubkey) (registrar : Registrar)
    (hown : (s.ledger key).owner = programId)
    (hload : AccountDeserialize.tryDeserialize (s.ledger key).data = .ok registrar) :
    (registerOf env h s).policy (registrar.realm, registrar.governingTokenMint) =
      some (policyOf registrar) := by
  rcases consistent_registrar env _ s.ledger hc key registrar hown hload with ⟨ho, haddr, _⟩
  have hread := holding_live env policyIn _ s.ledger _ key ho haddr
  rw [policyIn_of_loads _ registrar hload] at hread
  exact hread

/-- A policy in force is stored in the registrar of its pair. -/
theorem policy_stored (env : Env) (h : History) (s : State) (hrun : Run (plugin env) h s) (d : Dao)
    (q : Registry.Policy) (hq : (registerOf env h s).policy d = some q) :
    ∃ registrar, registrarAt s.ledger (env.address (.registrar d.1 d.2)) = some registrar ∧
      policyOf registrar = q := by
  have hs := shape_run env h s hrun (env.address (.registrar d.1 d.2))
  by_cases ho : origin env h (env.address (.registrar d.1 d.2)) = some (.registrar d.1 d.2)
  · rw [ho] at hs
    simp only [registerOf, holding, if_pos ho, policyIn, Option.map_eq_some_iff] at hq
    rcases hq with ⟨reg, hload, hpol⟩
    refine ⟨reg, ?_, hpol⟩
    rw [registrarAt, if_pos (RegistrarShape.owned hs), hload]
  · simp only [registerOf, holding, if_neg ho, reduceCtorEq] at hq

/-- The policies in force are the registrars that load where their pair puts
    them. -/
theorem policy_iff (env : Env) (h : History) (s : State) (hrun : Run (plugin env) h s)
    (hc : Consistent env (origin env h) s.ledger) (d : Dao) (q : Registry.Policy) :
    (registerOf env h s).policy d = some q ↔ ∃ registrar,
      registrarAt s.ledger (env.address (.registrar d.1 d.2)) = some registrar ∧
      (registrar.realm, registrar.governingTokenMint) = d ∧ policyOf registrar = q := by
  constructor
  · intro hq
    rcases policy_stored env h s hrun d q hq with ⟨reg, hat, hpol⟩
    rcases (registrarAt_eq_some ..).mp hat with ⟨hown, hload⟩
    refine ⟨reg, hat, ?_, hpol⟩
    have horigin : origin env h (env.address (.registrar d.1 d.2)) =
        some (.registrar d.1 d.2) := by
      by_contra hne
      simp only [registerOf, holding, if_neg hne, reduceCtorEq] at hq
    rcases consistent_registrar env _ s.ledger hc _ reg hown hload with ⟨ho, _⟩
    rw [horigin, Option.some.injEq, Place.registrar.injEq] at ho
    exact Prod.ext ho.1.symm ho.2.symm
  · intro hat
    rcases hat with ⟨reg, hat, rfl, rfl⟩
    rcases (registrarAt_eq_some ..).mp hat with ⟨hown, hload⟩
    exact policy_loaded env h s hc _ reg hown hload

/-- A live voter weight record is the ballot of the wallet it was created
    for. -/
theorem ballot_loaded (env : Env) (h : History) (s : State) (hrun : Run (plugin env) h s)
    (a realm mint owner : Pubkey) (record : VoterWeightRecord)
    (ho : origin env h a = some (.voterWeightRecord realm mint owner))
    (hload : AccountDeserialize.tryDeserialize (s.ledger a).data = .ok record) :
    (registerOf env h s).ballot ((realm, mint), owner) = some (ballotOf record) := by
  have hs := shape_run env h s hrun a
  rw [ho] at hs
  have hread := holding_live env ballotIn _ s.ledger _ a ho (VoterShape.address hs)
  rw [ballotIn_of_loads _ record hload] at hread
  exact hread

/-- What is about to be created has no origin. -/
theorem origin_of_vacant (env : Env) (h : History) (s : State) (hrun : Run (plugin env) h s)
    (a : Pubkey) (hvac : s.ledger a = .vacant) : origin env h a = none := by
  rcases ho : origin env h a with _ | p
  · rfl
  · have hs := shape_run env h s hrun a
    rw [ho] at hs
    have hown := (shape_placed env p a _ hs).1
    rw [hvac] at hown
    exact absurd hown vacant_owner_ne

/-- What an activated record counts for. -/
theorem ballotOf_activated (record : VoterWeightRecord) (slot : UInt64) :
    ballotOf (record.activated slot) = .cast (min (slot.toNat + term) lastSlot) := by
  have hexp : (saturatingAdd slot 100).toNat = min (slot.toNat + term) lastSlot := by
    rw [toNat_saturatingAdd]
    rfl
  rw [← hexp]
  rfl

/-- What passed the checks of an update was admitted by the policy. -/
theorem admits_of_eligible (env : Env) (clock : Clock) (registrar : Registrar) (ledger : Ledger)
    (voter : Pubkey) (h : Eligible env clock registrar ledger voter) :
    ∃ id, Identifies env ledger voter id ∧
      (policyOf registrar).Admits clock.unixTimestamp.toInt id := by
  rcases (header_iff _).mp ⟨h.length, h.discriminator⟩ with ⟨identity, rest, hdata⟩
  have htrust := h.trust
  have hrecent := h.recent
  rw [hdata, trustScore_header] at htrust
  rw [hdata, lastVerificationTimestamp_header] at hrecent
  exact ⟨_, ⟨h.owner, identity, rest, hdata, rfl⟩, UInt16.le_iff_toNat_le.mp htrust, hrecent⟩

/-! ### The moves -/

/-- A step of the program is a licensed move of the register. -/
structure IsMove (env : Env) (h : History) (e : Entry State Event)
    (move : Registry.Event Dao Pubkey) : Prop where
  step : Registry.Step term lastSlot (registerOf env h e.pre) move
    (registerOf env (e :: h) e.post)
  licensed : Licensed env e move

/-- The same under the registrar an instruction works under. -/
def MovesUnder (env : Env) (h : History) (s s' : State) (ix : Instruction)
    (move : Dao → Registry.Event Dao Pubkey) : Prop :=
  ∃ registrar, registrarAt s.ledger ix.registrar = some registrar ∧
    IsMove env h ⟨s, .instruction ix, s'⟩ (move (registrar.realm, registrar.governingTokenMint))

section
variable (env : Env) (h : History) (s s' : State) (hrun : Run (plugin env) h s)
variable (hc : Consistent env (origin env h) s.ledger) (hclock : s'.clock = s.clock)

include hrun hclock in
theorem move_createRegistrar (hspec : GovernanceSpec env) (ctx : Context CreateRegistrar)
    (t : UInt16) (g : Int64)
    (hp : process env s.clock (.createRegistrar ctx t g) s.ledger = .ok s'.ledger) :
    IsMove env h ⟨s, .instruction (.createRegistrar ctx t g), s'⟩
      (.establish (ctx.accounts.realm, ctx.accounts.governingTokenMint) ⟨t.toNat, g.toInt⟩) := by
  rcases (createRegistrar_eq_ok ..).mp hp with ⟨ha, hl⟩
  have ho := origin_of_vacant env h s hrun _ ha.vacant
  have hauth := ha.authority
  rw [realm_not_created env hspec _ _ _ _ _ _ _ ha.authority] at hauth
  have hread : (some (s'.ledger ctx.accounts.registrar)).bind policyIn =
      some ⟨t.toNat, g.toInt⟩ := by
    rw [hl, Function.update_self, Option.bind_some,
      policyIn_of_loads _ (newRegistrar ctx.accounts t g)
        ((registrar_loads_iff _ _).mpr ⟨[], (List.append_nil _).symm⟩)]
    rfl
  refine ⟨?_, .createRegistrar ctx t g, _, _, ⟨rfl, ha.seeds, hp⟩, ⟨rfl, rfl⟩,
    ha.authority_signs, ha.executable, hauth⟩
  simp only [registerOf_live env h s s' _ hp hclock _ ha.seeds (Or.inl ho) rfl, writeEntry,
    Instruction.target, hread]
  refine .establish _ _ _ ?_ (Int64.lt_iff_toInt_lt.mp ha.age_pos)
  exact holding_vacant env policyIn _ s.ledger _ _ ho ha.seeds

include hc hclock in
theorem move_updateRegistrar (ctx : Context UpdateRegistrar) (t : UInt16) (g : Int64)
    (hp : process env s.clock (.updateRegistrar ctx t g) s.ledger = .ok s'.ledger) :
    MovesUnder env h s s' (.updateRegistrar ctx t g) (.revise · ⟨t.toNat, g.toInt⟩) := by
  rcases (updateRegistrar_eq_ok ..).mp hp with ⟨reg, ha, hage, _, hl⟩
  rcases consistent_registrar env _ s.ledger hc _ reg ha.owner ha.loads with ⟨ho, haddr, hsound⟩
  have hread : (some (s'.ledger ctx.accounts.registrar)).bind policyIn =
      some ⟨t.toNat, g.toInt⟩ := by
    rw [hl, Function.update_self, Option.bind_some,
      policyIn_of_loads _ { reg with minTrustScore := t, maxVerificationAge := g }
        ((registrar_loads_iff _ _).mpr ⟨_, rfl⟩)]
    rfl
  have hauth := ha.authority
  rw [ha.realm_eq] at hauth
  refine ⟨reg, (registrarAt_eq_some ..).mpr ⟨ha.owner, ha.loads⟩, ?_, .updateRegistrar ctx t g,
    _, _, ⟨rfl, haddr, hp⟩, ⟨ha.realm_eq.symm, rfl⟩, ha.signs, hsound.governance_executable,
    hauth⟩
  simp only [registerOf_live env h s s' _ hp hclock _ haddr (Or.inr ho) ho, writeEntry,
    Instruction.target, hread]
  exact .revise _ _ _ _ (policy_loaded env h s hc _ reg ha.owner ha.loads)
    (Int64.lt_iff_toInt_lt.mp hage)

include hc hclock in
theorem move_closeRegistrar (ctx : Context CloseRegistrar)
    (hp : process env s.clock (.closeRegistrar ctx) s.ledger = .ok s'.ledger) :
    MovesUnder env h s s' (.closeRegistrar ctx) .dissolve := by
  rcases (closeRegistrar_eq_ok ..).mp hp with ⟨reg, ha, _, _, _⟩
  rcases consistent_registrar env _ s.ledger hc _ reg ha.owner ha.loads with ⟨ho, haddr, hsound⟩
  have hauth := ha.authority
  rw [ha.realm_eq] at hauth
  refine ⟨reg, (registrarAt_eq_some ..).mpr ⟨ha.owner, ha.loads⟩, ?_, .closeRegistrar ctx, _, _,
    ⟨rfl, haddr, hp⟩, ha.realm_eq.symm, ha.signs, hsound.governance_executable, hauth⟩
  simp only [registerOf_closed env h s s' _ hp hclock _ haddr ho rfl, writeEntry, Option.bind_none]
  exact .dissolve _ _ _ (policy_loaded env h s hc _ reg ha.owner ha.loads)

include hrun hc hclock in
theorem move_createVoterWeightRecord (ctx : Context CreateVoterWeightRecord) (voter : Pubkey)
    (hp : process env s.clock (.createVoterWeightRecord ctx voter) s.ledger = .ok s'.ledger) :
    MovesUnder env h s s' (.createVoterWeightRecord ctx voter) (.enrol · voter) := by
  rcases (createVoterWeightRecord_eq_ok ..).mp hp with ⟨reg, ha, hl⟩
  have ho := origin_of_vacant env h s hrun _ ha.vacant
  have hat := (registrarAt_eq_some ..).mpr ⟨ha.registrar_owner, ha.registrar_loads⟩
  have hbecomes : Instruction.becomes s.ledger (.createVoterWeightRecord ctx voter)
      (origin env h ctx.accounts.voterWeightRecord) =
        some (.voterWeightRecord reg.realm reg.governingTokenMint voter) := by
    simp only [Instruction.becomes, hat, Option.map_some]
  have hread : (some (s'.ledger ctx.accounts.voterWeightRecord)).bind ballotIn = some .blank := by
    rw [hl, Function.update_self, Option.bind_some, ballotIn_of_loads _
      (newVoterWeightRecord env reg.realm reg.governingTokenMint voter)
      ((voterWeightRecord_loads_iff _ _).mpr ⟨_, rfl⟩)]
    rfl
  refine ⟨reg, hat, ?_, .createVoterWeightRecord ctx voter, ⟨rfl, ha.record_seeds, hp⟩, rfl, ?_⟩
  · simp only [registerOf_live env h s s' _ hp hclock _ ha.record_seeds (Or.inl ho) hbecomes,
      writeEntry, Instruction.target, hread]
    refine .enrol _ _ _ _
      (policy_loaded env h s hc _ reg ha.registrar_owner ha.registrar_loads) ?_
    exact holding_vacant env ballotIn _ s.ledger _ _ ho ha.record_seeds
  · rw [← ha.owner_eq]
    exact ha.owner_signs

include hrun hc hclock in
theorem move_updateVoterWeightRecord (hnot : ∀ e ∈ h, ¬ RewritesVoterRecord env e)
    (ctx : Context UpdateVoterWeightRecord)
    (hp : process env s.clock (.updateVoterWeightRecord ctx) s.ledger = .ok s'.ledger) :
    ∃ id, MovesUnder env h s s' (.updateVoterWeightRecord ctx)
      (.confirm · ctx.accounts.voterAuthority id) := by
  rcases recordUpdated_of_ok env s.clock ctx s.ledger s'.ledger hp with ⟨reg, r, hup⟩
  have hctl := hup.controls
  rcases consistent_controls env _ s.ledger hc _ _ _ _ _ reg r hctl with ⟨owner, ho⟩
  have hs := shape_run env h s hrun ctx.accounts.voterWeightRecord
  rw [ho] at hs
  -- The wallet that signs is the one the record was created for.
  have howner := (owner_kept env h s hrun hnot _ _ _ owner r ho hctl.record_loads).1
  have hvoter := howner.symm.trans hctl.owner_eq
  subst hvoter
  have hread : (some (s'.ledger ctx.accounts.voterWeightRecord)).bind ballotIn =
      some (.cast (min (s.clock.slot.toNat + term) lastSlot)) := by
    rw [hup.result, Option.bind_some, ballotIn_of_loads _ (r.activated s.clock.slot)
      ((voterWeightRecord_loads_iff _ _).mpr ⟨_, rfl⟩), ballotOf_activated]
  rcases admits_of_eligible env s.clock reg s.ledger _ hup.eligible with ⟨id, hid, hadm⟩
  refine ⟨id, reg, (registrarAt_eq_some ..).mpr ⟨hctl.registrar_owner, hctl.registrar_loads⟩, ?_,
    ⟨.updateVoterWeightRecord ctx, ⟨rfl, VoterShape.address hs, hp⟩, rfl, hctl.signs⟩, hid⟩
  simp only [registerOf_live env h s s' _ hp hclock _ (VoterShape.address hs) (Or.inr ho) ho,
    writeEntry, Instruction.target, hread]
  exact .confirm _ _ _ id _ _
    (policy_loaded env h s hc _ reg hctl.registrar_owner hctl.registrar_loads) hadm
    (ballot_loaded env h s hrun _ _ _ _ r ho hctl.record_loads)

include hrun hc hclock in
theorem move_closeVoterWeightRecord (hnot : ∀ e ∈ h, ¬ RewritesVoterRecord env e)
    (ctx : Context CloseVoterWeightRecord)
    (hp : process env s.clock (.closeVoterWeightRecord ctx) s.ledger = .ok s'.ledger) :
    MovesUnder env h s s' (.closeVoterWeightRecord ctx)
      (.withdraw · ctx.accounts.voterAuthority) := by
  rcases controlsRecord_of_close env s.clock ctx s.ledger s'.ledger hp with ⟨reg, r, hctl⟩
  rcases consistent_controls env _ s.ledger hc _ _ _ _ _ reg r hctl with ⟨owner, ho⟩
  have hs := shape_run env h s hrun ctx.accounts.voterWeightRecord
  rw [ho] at hs
  have howner := (owner_kept env h s hrun hnot _ _ _ owner r ho hctl.record_loads).1
  have hvoter := howner.symm.trans hctl.owner_eq
  subst hvoter
  refine ⟨reg, (registrarAt_eq_some ..).mpr ⟨hctl.registrar_owner, hctl.registrar_loads⟩, ?_,
    .closeVoterWeightRecord ctx, ⟨rfl, VoterShape.address hs, hp⟩, rfl, hctl.signs⟩
  simp only [registerOf_closed env h s s' _ hp hclock _ (VoterShape.address hs) ho rfl, writeEntry,
    Option.bind_none]
  exact .withdraw _ _ _ _ _
    (policy_loaded env h s hc _ reg hctl.registrar_owner hctl.registrar_loads)
    (ballot_loaded env h s hrun _ _ _ _ r ho hctl.record_loads)

include hrun hc hclock in
theorem move_createMaxVoterWeightRecord (hspec : GovernanceSpec env)
    (ctx : Context CreateMaxVoterWeightRecord)
    (hp : process env s.clock (.createMaxVoterWeightRecord ctx) s.ledger = .ok s'.ledger) :
    MovesUnder env h s s' (.createMaxVoterWeightRecord ctx) .announce := by
  rcases (createMaxVoterWeightRecord_eq_ok ..).mp hp with ⟨reg, ha, hl⟩
  rcases consistent_registrar env _ s.ledger hc _ reg ha.registrar_owner ha.registrar_loads with
    ⟨_, _, hsound⟩
  have ho := origin_of_vacant env h s hrun _ ha.vacant
  have hat := (registrarAt_eq_some ..).mpr ⟨ha.registrar_owner, ha.registrar_loads⟩
  have hbecomes : Instruction.becomes s.ledger (.createMaxVoterWeightRecord ctx)
      (origin env h ctx.accounts.maxVoterWeightRecord) =
        some (.maxVoterWeightRecord reg.realm reg.governingTokenMint) := by
    simp only [Instruction.becomes, hat, Option.map_some]
  have hread : (some (s'.ledger ctx.accounts.maxVoterWeightRecord)).bind quorumIn =
      some .pending := by
    rw [hl, Function.update_self, Option.bind_some, quorumIn_of_loads _
      (newMaxVoterWeightRecord env reg.realm reg.governingTokenMint)
      ((maxVoterWeightRecord_loads_iff _ _).mpr ⟨[], (List.append_nil _).symm⟩)]
    rfl
  -- The realm is not the account that was just created.
  have hauth := ha.authority
  rw [realm_not_created env hspec _ _ _ _ _ _ _ ha.authority, ha.realm_eq] at hauth
  refine ⟨reg, hat, ?_, .createMaxVoterWeightRecord ctx, _, _, ⟨rfl, ha.record_seeds, hp⟩,
    ha.realm_eq.symm, ha.authority_signs, hsound.governance_executable, hauth⟩
  simp only [registerOf_live env h s s' _ hp hclock _ ha.record_seeds (Or.inl ho) hbecomes,
    writeEntry, Instruction.target, hread]
  refine .announce _ _ _
    (policy_loaded env h s hc _ reg ha.registrar_owner ha.registrar_loads) ?_
  exact holding_vacant env quorumIn _ s.ledger _ _ ho ha.record_seeds

/-- The update of a max voter weight record that is given a voter's record and
    does not rewrite it does nothing at all. -/
theorem ledger_of_not_rewrites (ctx : Context UpdateMaxVoterWeightRecord) (w : UInt64)
    (reg : Registrar) (m : MaxVoterWeightRecord) (realm mint owner : Pubkey)
    (hs : VoterShape env realm mint owner ctx.accounts.maxVoterWeightRecord
      (s.ledger ctx.accounts.maxVoterWeightRecord))
    (hnot : ¬ RewritesVoterRecord env ⟨s, .instruction (.updateMaxVoterWeightRecord ctx w), s'⟩)
    (hup : MaxUpdated env s.ledger s'.ledger ctx w reg m)
    (hp : process env s.clock (.updateMaxVoterWeightRecord ctx w) s.ledger = .ok s'.ledger) :
    s'.ledger = s.ledger := by
  rcases hs.record with ⟨r, hr, hf⟩
  -- A record that would change is one that is rewritten.
  have hsame : m.withWeight w = m := by
    by_contra hne
    refine hnot ⟨ctx, w, reg, m, rfl, hup.accepts, hup.weight_pos, ?_, hne⟩
    rw [← hf.discriminator]
    exact (head_of_voter _ _ hr).1
  rcases (maxVoterWeightRecord_loads_iff _ _).mp hup.accepts.record_loads with ⟨rest, hdata⟩
  -- So the update writes what was there.
  have hkept : s'.ledger ctx.accounts.maxVoterWeightRecord =
      s.ledger ctx.accounts.maxVoterWeightRecord := by
    have hres := hup.result
    rw [hsame, hdata, Codec.overwrite_encode, ← hdata, ← hup.accepts.record_owner] at hres
    exact hres
  funext a
  by_cases ha : a = ctx.accounts.maxVoterWeightRecord
  · rw [ha, hkept]
  · exact process_frame env s.clock _ s.ledger s'.ledger hp a ha

include hrun hc hclock in
/-- The update of what was created as the body's max voter weight record. -/
theorem move_measured (ctx : Context UpdateMaxVoterWeightRecord) (w : UInt64) (reg : Registrar)
    (m : MaxVoterWeightRecord) (hup : MaxUpdated env s.ledger s'.ledger ctx w reg m)
    (ho : origin env h ctx.accounts.maxVoterWeightRecord =
      some (.maxVoterWeightRecord reg.realm reg.governingTokenMint))
    (hp : process env s.clock (.updateMaxVoterWeightRecord ctx w) s.ledger = .ok s'.ledger) :
    MovesUnder env h s s' (.updateMaxVoterWeightRecord ctx w) (.measure · w.toNat) := by
  have hacc := hup.accepts
  have hs := shape_run env h s hrun ctx.accounts.maxVoterWeightRecord
  rw [ho] at hs
  rcases consistent_registrar env _ s.ledger hc _ reg hacc.registrar_owner hacc.registrar_loads
    with ⟨_, _, hsound⟩
  -- A weight that is not zero is a total.
  have hquorum : quorumOf (m.withWeight w) = .total w.toNat :=
    if_neg (fun hzero => absurd hup.weight_pos (by
      rw [show w = 0 from hzero]
      decide))
  have hread : (some (s'.ledger ctx.accounts.maxVoterWeightRecord)).bind quorumIn =
      some (.total w.toNat) := by
    rw [hup.result, Option.bind_some, quorumIn_of_loads _ (m.withWeight w)
      ((maxVoterWeightRecord_loads_iff _ _).mpr ⟨_, rfl⟩), hquorum]
  -- What was there before is a quorum, whichever.
  have hheld : (registerOf env h s).quorum (reg.realm, reg.governingTokenMint) =
      some (quorumOf m) :=
    (holding_live env quorumIn _ s.ledger _ _ ho (MaxShape.address hs)).trans
      (quorumIn_of_loads _ m hacc.record_loads)
  have hauth := hacc.authority
  rw [hacc.realm_eq] at hauth
  refine ⟨reg, (registrarAt_eq_some ..).mpr ⟨hacc.registrar_owner, hacc.registrar_loads⟩, ?_,
    .updateMaxVoterWeightRecord ctx w, _, _, ⟨rfl, MaxShape.address hs, hp⟩,
    ⟨hacc.realm_eq.symm, rfl⟩, hacc.signs, hsound.governance_executable, hauth⟩
  simp only [registerOf_live env h s s' _ hp hclock _ (MaxShape.address hs) (Or.inr ho) ho,
    writeEntry, Instruction.target, hread]
  exact .measure _ _ _ _ _
    (policy_loaded env h s hc _ reg hacc.registrar_owner hacc.registrar_loads) hheld
    (UInt64.lt_iff_toNat_lt.mp hup.weight_pos)

include hrun hc hclock in
theorem move_updateMaxVoterWeightRecord (ctx : Context UpdateMaxVoterWeightRecord) (w : UInt64)
    (hnot : ¬ RewritesVoterRecord env ⟨s, .instruction (.updateMaxVoterWeightRecord ctx w), s'⟩)
    (hp : process env s.clock (.updateMaxVoterWeightRecord ctx w) s.ledger = .ok s'.ledger) :
    MovesUnder env h s s' (.updateMaxVoterWeightRecord ctx w) (.measure · w.toNat) ∨
      s'.ledger = s.ledger ∧
        registerOf env (⟨s, .instruction (.updateMaxVoterWeightRecord ctx w), s'⟩ :: h) s' =
          registerOf env h s := by
  rcases maxUpdated_of_ok env s.clock ctx w s.ledger s'.ledger hp with ⟨reg, m, hup⟩
  rcases consistent_accepts env _ s.ledger hc ctx reg m hup.accepts with ⟨owner, ho⟩ | ho
  · -- A voter's record: as nothing is rewritten, nothing happens.
    have hs := shape_run env h s hrun ctx.accounts.maxVoterWeightRecord
    rw [ho] at hs
    have hledger := ledger_of_not_rewrites env s s' ctx w reg m _ _ owner hs hnot hup hp
    have horig : origin env (⟨s, .instruction (.updateMaxVoterWeightRecord ctx w), s'⟩ :: h) =
        origin env h := by
      rw [origin_ok env s s' _ h s'.ledger hp, becomes_of_keeps _ _ _ rfl rfl]
      exact Function.update_eq_self ..
    refine Or.inr ⟨hledger, ?_⟩
    simp only [registerOf, horig, hledger, hclock]
  · exact Or.inl (move_measured env h s s' hrun hc hclock ctx w reg m hup ho hp)

end

/-- A move under some registrar is a move. -/
theorem isMove_of_under (ix : Instruction) (move : Dao → Registry.Event Dao Pubkey)
    (env : Env) (h : History) (s s' : State) (hm : MovesUnder env h s s' ix move) :
    ∃ m, IsMove env h ⟨s, .instruction ix, s'⟩ m := by
  rcases hm with ⟨reg, _, hmove⟩
  exact ⟨_, hmove⟩

/-- A successful instruction is a licensed move of the register, unless it is
    an update of a max voter weight record that writes what was there. -/
theorem register_instruction (env : Env) (hspec : GovernanceSpec env) (h : History) (s s' : State)
    (hrun : Run (plugin env) h s)
    (hpast : ∀ e ∈ h, Separated env e.pre.ledger ∧ ¬ RewritesVoterRecord env e) (ix : Instruction)
    (hclock : s'.clock = s.clock) (hnot : ¬ RewritesVoterRecord env ⟨s, .instruction ix, s'⟩)
    (hp : process env s.clock ix s.ledger = .ok s'.ledger) :
    (∃ move, IsMove env h ⟨s, .instruction ix, s'⟩ move) ∨
      ((∃ ctx w, ix = .updateMaxVoterWeightRecord ctx w) ∧ s'.ledger = s.ledger ∧
        registerOf env (⟨s, .instruction ix, s'⟩ :: h) s' = registerOf env h s) := by
  have hc := consistent_run env hspec h s hrun (fun e he => (hpast e he).1)
  have hkept : ∀ e ∈ h, ¬ RewritesVoterRecord env e := fun e he => (hpast e he).2
  cases ix with
  | createRegistrar ctx t g =>
      exact Or.inl ⟨_, move_createRegistrar env h s s' hrun hclock hspec ctx t g hp⟩
  | updateRegistrar ctx t g =>
      exact Or.inl (isMove_of_under _ _ env h s s'
        (move_updateRegistrar env h s s' hc hclock ctx t g hp))
  | closeRegistrar ctx =>
      exact Or.inl (isMove_of_under _ _ env h s s'
        (move_closeRegistrar env h s s' hc hclock ctx hp))
  | createVoterWeightRecord ctx voter =>
      exact Or.inl (isMove_of_under _ _ env h s s'
        (move_createVoterWeightRecord env h s s' hrun hc hclock ctx voter hp))
  | updateVoterWeightRecord ctx =>
      rcases move_updateVoterWeightRecord env h s s' hrun hc hclock hkept ctx hp with ⟨id, hm⟩
      exact Or.inl (isMove_of_under _ _ env h s s' hm)
  | closeVoterWeightRecord ctx =>
      exact Or.inl (isMove_of_under _ _ env h s s'
        (move_closeVoterWeightRecord env h s s' hrun hc hclock hkept ctx hp))
  | createMaxVoterWeightRecord ctx =>
      exact Or.inl (isMove_of_under _ _ env h s s'
        (move_createMaxVoterWeightRecord env h s s' hrun hc hclock hspec ctx hp))
  | updateMaxVoterWeightRecord ctx w =>
      -- The one instruction that may leave the register as it is.
      exact (move_updateMaxVoterWeightRecord env h s s' hrun hc hclock ctx w hnot hp).imp
        (isMove_of_under _ _ env h s s') (fun hsame => ⟨⟨ctx, w, rfl⟩, hsame⟩)

/-- What other programs do leaves the register alone. -/
theorem registerOf_other (env : Env) (h : History) (s : State) (ledger : Ledger)
    (hrun : Run (plugin env) h s) (hother : OtherChange env s.ledger ledger) :
    registerOf env (⟨s, .other ledger, ⟨ledger, s.clock⟩⟩ :: h) ⟨ledger, s.clock⟩ =
      registerOf env h s := by
  have hread : ∀ {β : Type} (read : Account → Option β) (p : Place),
      holding env read (origin env h) ledger p = holding env read (origin env h) s.ledger p := by
    intro β read p
    by_cases ho : origin env h (env.address p) = some p
    · have hs := shape_run env h s hrun (env.address p)
      rw [ho] at hs
      rw [holding, holding, hother.owned_kept _ (shape_placed env p _ _ hs).1]
    · rw [holding, holding, if_neg ho, if_neg ho]
  simp only [registerOf, origin, hread]

/-- Before the program is deployed, the register is empty. -/
theorem registerOf_genesis (env : Env) (s : State) : Registry.Empty (registerOf env [] s) where
  policies _ := rfl
  ballots _ := rfl
  quorums _ := rfl

/-- A step of the program, as what it amounts to in the register. -/
theorem step_amounts (env : Env) (hspec : GovernanceSpec env) (h : History) (s s' : State)
    (e : Event) (hrun : Run (plugin env) h s)
    (hpast : ∀ x ∈ h, Separated env x.pre.ledger ∧ ¬ RewritesVoterRecord env x)
    (hst : Step env s e s') (hnot : ¬ RewritesVoterRecord env ⟨s, e, s'⟩) :
    ∃ p, Amounts env h ⟨s, e, s'⟩ p := by
  -- A move that is made is one that the present policies explain.
  have hmove : ∀ move, IsMove env h ⟨s, e, s'⟩ move → ∃ x,
      Path (Registry.register term lastSlot) [x] (registerOf env h s)
        (registerOf env (⟨s, e, s'⟩ :: h) s') ∧ Explained env ⟨s, e, s'⟩ x ∧ x.event = move :=
    fun move hm => ⟨_, path_single _ _ move _ hm.step,
      ⟨hm.licensed, policy_stored env h s hrun, rfl, rfl⟩, rfl⟩
  cases hst with
  | instruction ix =>
      rcases hp : process env s.clock ix s.ledger with err | ledger'
      · refine ⟨[], ?_, by simp only [hp]⟩
        have hsame : registerOf env (⟨s, .instruction ix, s.apply env ix⟩ :: h)
            (s.apply env ix) = registerOf env h s := by
          simp only [registerOf, origin_error env s _ ix h err hp, apply_error env s ix err hp]
        rw [hsame]
        exact .nil _
      · have happ := apply_ok env s ix ledger' hp
        rw [happ] at hnot hmove ⊢
        rcases register_instruction env hspec h s ⟨ledger', s.clock⟩ hrun hpast ix rfl hnot hp with
          ⟨move, hm⟩ | ⟨hmax, hledger, hsame⟩
        · rcases hmove move hm with ⟨x, hpath, hex, _⟩
          refine ⟨[x], hpath, ?_⟩
          simp only [hp]
          exact Or.inl ⟨x, rfl, hex⟩
        · refine ⟨[], ?_, ?_⟩
          · rw [hsame]
            exact .nil _
          · simp only [hp]
            exact Or.inr ⟨trivial, hmax, hledger⟩
  | tick clock hslot htime =>
      rcases hmove (.tick clock.slot.toNat clock.unixTimestamp.toInt) ⟨.tick _ _ _
        (UInt64.le_iff_toNat_le.mp hslot) (Int64.le_iff_toInt_le.mp htime),
          clock, rfl, rfl, rfl⟩ with ⟨x, hpath, hex, hev⟩
      exact ⟨[x], hpath, x, rfl, hex, hev⟩
  | other ledger hother =>
      refine ⟨[], ?_, rfl⟩
      rw [registerOf_other env h s ledger hrun hother]
      exact .nil _

/-- A run of the program is explained by a run of the register, which ends in
    the register the ledger then amounts to. -/
theorem register_explained (env : Env) (hspec : GovernanceSpec env) (h : History) (s : State)
    (hrun : Run (plugin env) h s)
    (hsteps : ∀ e ∈ h, Separated env e.pre.ledger ∧ ¬ RewritesVoterRecord env e) :
    ∃ k, Run (Registry.register term lastSlot) k (registerOf env h s) ∧
      Explains (Amounts env) h k := by
  have hsim := run_simulated (plugin env) (Registry.register term lastSlot)
    (fun e => Separated env e.pre.ledger ∧ ¬ RewritesVoterRecord env e)
    (fun h s t => t = registerOf env h s) (Amounts env) ?_ ?_ h s hrun hsteps
  · rcases hsim with ⟨k, t, hk, rfl, hex⟩
    exact ⟨k, hk, hex⟩
  · exact fun s _ => ⟨_, registerOf_genesis env s, rfl⟩
  · intro h s e s' t hr hpast ht hst hc
    subst ht
    rcases step_amounts env hspec h s s' e hr hpast hst hc.2 with ⟨p, hp⟩
    exact ⟨p, _, hp.path, rfl, hp⟩

/-- What a step amounts to is explained. -/
theorem explained_mem (env : Env) (h : History) (e : Entry State Event)
    (p : List (Entry (Registry.State Dao Pubkey) (Registry.Event Dao Pubkey)))
    (hp : Amounts env h e p)
    (x : Entry (Registry.State Dao Pubkey) (Registry.Event Dao Pubkey)) (hx : x ∈ p) :
    Explained env e x := by
  have hmoves := hp.moves
  rcases e with ⟨s, ⟨ix⟩ | ⟨clock⟩ | ⟨ledger⟩, s'⟩
  · rcases hprocess : process env s.clock ix s.ledger with err | ledger'
    · simp only [hprocess] at hmoves
      rw [hmoves] at hx
      exact absurd hx List.not_mem_nil
    · simp only [hprocess] at hmoves
      rcases hmoves with ⟨y, rfl, hex⟩ | ⟨rfl, _⟩
      · rw [List.mem_singleton.mp hx]
        exact hex
      · exact absurd hx List.not_mem_nil
  · rcases hmoves with ⟨y, rfl, hex, _⟩
    rw [List.mem_singleton.mp hx]
    exact hex
  · simp only at hmoves
    rw [hmoves] at hx
    exact absurd hx List.not_mem_nil

/-- Every run of the program is explained by a run of the register, entry by
    entry. It ends in the register the ledger then amounts to, whose policies
    are the registrars the program would load. -/
theorem run_registered (env : Env) (hspec : GovernanceSpec env) (h : History) (s : State)
    (hrun : Run (plugin env) h s)
    (hsteps : ∀ e ∈ h, Separated env e.pre.ledger ∧ ¬ RewritesVoterRecord env e) :
    ∃ k, Run (Registry.register term lastSlot) k (registerOf env h s) ∧
      Explains (Amounts env) h k ∧
      ∀ d q, (registerOf env h s).policy d = some q ↔ ∃ registrar,
        registrarAt s.ledger (env.address (.registrar d.1 d.2)) = some registrar ∧
        (registrar.realm, registrar.governingTokenMint) = d ∧ policyOf registrar = q := by
  rcases register_explained env hspec h s hrun hsteps with ⟨k, hk, hex⟩
  have hc := consistent_run env hspec h s hrun (fun e he => (hsteps e he).1)
  exact ⟨k, hk, hex, policy_iff env h s hrun hc⟩

/-! ### A run of the cluster -/

/-- The events of a replay are its instructions. -/
theorem replay_events (env : Env) (ixs : List Instruction) (h : History) (s : State) :
    ∀ e ∈ (replay env h s ixs).1, e ∈ h ∨ ∃ ix ∈ ixs, e.event = .instruction ix := by
  induction ixs generalizing h s with
  | nil => exact fun e he => Or.inl he
  | cons ix ixs ih =>
      intro e he
      rcases ih _ _ e he with he | ⟨ix', hix', hev⟩
      · rcases List.mem_cons.mp he with rfl | he
        · exact Or.inr ⟨ix, List.mem_cons_self, rfl⟩
        · exact Or.inl he
      · exact Or.inr ⟨ix', List.mem_cons_of_mem _ hix', hev⟩

/-- Without updates of a max voter weight record, no voter's record is
    rewritten. -/
theorem Devnet.after_steps (ixs : List Instruction)
    (hsep : ∀ e ∈ (after ixs).1, ∀ key ∈ [systemProgramId, governance],
      readRealm (e.pre.ledger key).data = none)
    (hmax : ∀ ix ∈ ixs, ∀ ctx w, ix ≠ .updateMaxVoterWeightRecord ctx w) :
    ∀ e ∈ (after ixs).1, Separated env e.pre.ledger ∧ ¬ RewritesVoterRecord env e := by
  intro e he
  refine ⟨after_separated ixs hsep e he, ?_⟩
  intro hbad
  rcases hbad with ⟨ctx, w, _, _, hev, _⟩
  rcases replay_events env ixs [] genesis e he with hnil | ⟨ix, hix, hev'⟩
  · exact absurd hnil List.not_mem_nil
  · rw [hev', Event.instruction.injEq] at hev
    exact hmax ix hix ctx w hev

/-- A wallet's create and update are the steps the simulation is about. -/
theorem Devnet.votes_steps : ∀ e ∈ (Devnet.after Devnet.votes).1,
    Separated Devnet.env e.pre.ledger ∧ ¬ RewritesVoterRecord Devnet.env e := by
  refine Devnet.after_steps Devnet.votes (by decide +kernel) ?_
  intro ix hix ctx w heq
  subst heq
  simp only [Devnet.votes, Devnet.createRegistrar, Devnet.createRecord, Devnet.updateRecord,
    List.mem_cons, List.not_mem_nil, or_false, reduceCtorEq] at hix

/-- A wallet's create and update, with the confirmation among the moves they
    amount to and the policy it went by. -/
theorem run_registered_devnet :
    ∃ k, Run (Registry.register term lastSlot) k
        (registerOf Devnet.env (Devnet.after Devnet.votes).1 (Devnet.after Devnet.votes).2) ∧
      Explains (Amounts Devnet.env) (Devnet.after Devnet.votes).1 k ∧
      (∃ x ∈ k, ∃ id, x.event = .confirm (Devnet.realm, Devnet.mint) Devnet.voterA id) ∧
      ∃ registrar, registrarAt (Devnet.after Devnet.votes).2.ledger
          (Devnet.registrar Devnet.mint) = some registrar ∧
        policyOf registrar = ⟨50, 2592000⟩ := by
  rcases run_registered Devnet.env (cluster_governanceSpec _ _ _) _ _
    (Devnet.after_run Devnet.votes) Devnet.votes_steps with ⟨k, hk, hex, hpolicy⟩
  refine ⟨k, hk, hex, ?_, ?_⟩
  · have hcast : (registerOf Devnet.env (Devnet.after Devnet.votes).1
        (Devnet.after Devnet.votes).2).ballot ((Devnet.realm, Devnet.mint), Devnet.voterA) =
          some (.cast 1100) := by
      decide +kernel
    rcases (since_iff _ _ _).mp (Registry.cast_since term lastSlot k _ hk _ _ _ hcast) with
      ⟨k₁, x, k₀, rfl, ⟨⟨id, _, hev, _⟩, _⟩, _⟩
    exact ⟨x, List.mem_append_right _ List.mem_cons_self, id, hev⟩
  · rcases (hpolicy (Devnet.realm, Devnet.mint) ⟨50, 2592000⟩).mp (by decide +kernel) with
      ⟨registrar, hat, _, hpol⟩
    exact ⟨registrar, hat, hpol⟩

end EntrosVoterWeight
