import EntrosVoterWeight.Transition.Run
import Mathlib.Data.Set.Finite.Basic
import Mathlib.Logic.Function.Basic

/-!
# A Register of Voters

One vote per verified person, as a state machine with no accounts in it.

A body `D` that takes votes has a policy: how far an identity has to be
trusted, and how recently it has to have been verified. A voter `V` enrols
with a body once, and from then on has a ballot there, which is blank until it
is confirmed. Confirming it takes an identity the policy in force admits, and
makes it count for a term of slots; it can be confirmed again and again, each
time under the policy in force. A body may also announce against which total a
quorum is measured.

What matters of a run is in the ballots. A ballot that counts was confirmed at
some step, under the policy that was in force at that step, with the voter
enrolled ever since, and that step is no further back than a term. The voters
whose ballots count are finitely many.

The bodies, the voters, the length of a term and the last slot are parameters.

## Main definitions

* `Policy`, `Identity`, `Policy.Admits`: Who may confirm a ballot.
* `Ballot`, `Quorum`, `State`: What the register holds.
* `Event`, `Step`, `register`: What can happen to it.
* `Moves`: Several moves in order.
* `electorate`: The voters whose ballots count.
* `Confirms`, `Leaves`: The steps a ballot goes back to.

## Theorems

* `step_unique`: A move has one outcome.
* `cast_since`: A confirmed ballot goes back to a confirmation.
* `electorate_confirmed`: A ballot that counts was confirmed within a term.
* `electorate_finite`: Finitely many ballots count.
-/

namespace Registry

open Transition

variable {D V : Type}

/-- What a body asks of an identity. -/
structure Policy where
  minTrust : Nat
  maxAge : Int
deriving DecidableEq

/-- How far an identity is trusted, and when it was last verified. -/
structure Identity where
  trust : Nat
  verified : Int
deriving DecidableEq

/-- The identity meets the policy at this time. -/
def Policy.Admits (p : Policy) (now : Int) (id : Identity) : Prop :=
  p.minTrust ≤ id.trust ∧ now - id.verified < p.maxAge

/-- A voter's ballot with a body. -/
inductive Ballot
  | blank
  | cast (expiry : Nat)
deriving DecidableEq

/-- The total a quorum is measured against. -/
inductive Quorum
  | pending
  | total (weight : Nat)
deriving DecidableEq

structure State (D V : Type) where
  policy : D → Option Policy
  ballot : D × V → Option Ballot
  quorum : D → Option Quorum
  slot : Nat
  time : Int

inductive Event (D V : Type)
  | establish (d : D) (p : Policy)
  | revise (d : D) (p : Policy)
  | dissolve (d : D)
  | enrol (d : D) (v : V)
  | confirm (d : D) (v : V) (id : Identity)
  | withdraw (d : D) (v : V)
  | announce (d : D)
  | measure (d : D) (weight : Nat)
  | tick (slot : Nat) (time : Int)

section
variable [DecidableEq D] [DecidableEq V]

/-- The moves, with a term of `term` slots and `last` as the last slot there
    is. -/
inductive Step (term last : Nat) : State D V → Event D V → State D V → Prop
  | establish (s : State D V) (d : D) (p : Policy) :
      s.policy d = none → 0 < p.maxAge →
      Step term last s (.establish d p) { s with policy := Function.update s.policy d (some p) }
  | revise (s : State D V) (d : D) (p q : Policy) :
      s.policy d = some q → 0 < p.maxAge →
      Step term last s (.revise d p) { s with policy := Function.update s.policy d (some p) }
  | dissolve (s : State D V) (d : D) (q : Policy) :
      s.policy d = some q →
      Step term last s (.dissolve d) { s with policy := Function.update s.policy d none }
  | enrol (s : State D V) (d : D) (v : V) (q : Policy) :
      s.policy d = some q → s.ballot (d, v) = none →
      Step term last s (.enrol d v)
        { s with ballot := Function.update s.ballot (d, v) (some .blank) }
  | confirm (s : State D V) (d : D) (v : V) (id : Identity) (q : Policy) (b : Ballot) :
      s.policy d = some q → q.Admits s.time id → s.ballot (d, v) = some b →
      Step term last s (.confirm d v id)
        { s with ballot :=
            Function.update s.ballot (d, v) (some (.cast (min (s.slot + term) last))) }
  | withdraw (s : State D V) (d : D) (v : V) (q : Policy) (b : Ballot) :
      s.policy d = some q → s.ballot (d, v) = some b →
      Step term last s (.withdraw d v)
        { s with ballot := Function.update s.ballot (d, v) none }
  | announce (s : State D V) (d : D) (q : Policy) :
      s.policy d = some q → s.quorum d = none →
      Step term last s (.announce d)
        { s with quorum := Function.update s.quorum d (some .pending) }
  | measure (s : State D V) (d : D) (weight : Nat) (q : Policy) (m : Quorum) :
      s.policy d = some q → s.quorum d = some m → 0 < weight →
      Step term last s (.measure d weight)
        { s with quorum := Function.update s.quorum d (some (.total weight)) }
  | tick (s : State D V) (slot : Nat) (time : Int) :
      s.slot ≤ slot → s.time ≤ time →
      Step term last s (.tick slot time) { s with slot := slot, time := time }

/-- Several moves, the first one first. -/
inductive Moves (term last : Nat) : State D V → List (Event D V) → State D V → Prop
  | nil (s : State D V) : Moves term last s [] s
  | cons (s : State D V) (e : Event D V) (t : State D V) (es : List (Event D V)) (u : State D V) :
      Step term last s e t → Moves term last t es u → Moves term last s (e :: es) u

/-- At the start nobody is registered. -/
structure Empty (s : State D V) : Prop where
  policies : ∀ d, s.policy d = none
  ballots : ∀ x, s.ballot x = none
  quorums : ∀ d, s.quorum d = none

/-- The register as a system. -/
def register (term last : Nat) : System (State D V) (Event D V) where
  init := Empty
  step := Step term last

end

/-- A move has one outcome. -/
theorem step_unique [DecidableEq D] [DecidableEq V] (term last : Nat) (s t u : State D V)
    (e : Event D V) (ht : Step term last s e t) (hu : Step term last s e u) : t = u := by
  cases ht <;> cases hu <;> rfl

/-- The voters whose ballots with a body count in the present slot. -/
def electorate (s : State D V) (d : D) : Set V :=
  fun v => ∃ expiry, s.ballot (d, v) = some (.cast expiry) ∧ s.slot ≤ expiry

/-- A step that confirms a ballot, under the policy in force. -/
def Confirms (d : D) (v : V) (e : Entry (State D V) (Event D V)) : Prop :=
  ∃ id q, e.event = .confirm d v id ∧ e.pre.policy d = some q ∧ q.Admits e.pre.time id

/-- A step that takes a voter off the list. -/
def Leaves (d : D) (v : V) (e : Entry (State D V) (Event D V)) : Prop :=
  e.event = .withdraw d v

/-! ### Where a ballot comes from -/

section
variable [DecidableEq D] [DecidableEq V] (term last : Nat)

/-- A step confirms the ballot, takes the voter off the list, enrols the
    voter, or leaves the ballot as it was. -/
theorem step_ballot (s s' : State D V) (e : Event D V) (hst : Step term last s e s') (d : D)
    (v : V) :
    (Confirms d v ⟨s, e, s'⟩ ∧
      s'.ballot (d, v) = some (.cast (min (s.slot + term) last))) ∨
    (e = .withdraw d v ∧ s'.ballot (d, v) = none) ∨
    (e = .enrol d v ∧ s'.ballot (d, v) = some .blank) ∨
    (e ≠ .withdraw d v ∧ s'.ballot (d, v) = s.ballot (d, v)) := by
  cases hst with
  | enrol d' v' q hq hnone =>
      by_cases hx : (d, v) = (d', v')
      · rw [Prod.mk.injEq] at hx
        rcases hx with ⟨rfl, rfl⟩
        exact Or.inr (Or.inr (Or.inl ⟨rfl, Function.update_self ..⟩))
      · exact Or.inr (Or.inr (Or.inr ⟨by simp only [ne_eq, reduceCtorEq, not_false_eq_true],
          Function.update_of_ne hx ..⟩))
  | confirm d' v' id q b hq hadm hb =>
      by_cases hx : (d, v) = (d', v')
      · rw [Prod.mk.injEq] at hx
        rcases hx with ⟨rfl, rfl⟩
        exact Or.inl ⟨⟨id, q, rfl, hq, hadm⟩, Function.update_self ..⟩
      · exact Or.inr (Or.inr (Or.inr ⟨by simp only [ne_eq, reduceCtorEq, not_false_eq_true],
          Function.update_of_ne hx ..⟩))
  | withdraw d' v' q b hq hb =>
      by_cases hx : (d, v) = (d', v')
      · rw [Prod.mk.injEq] at hx
        rcases hx with ⟨rfl, rfl⟩
        exact Or.inr (Or.inl ⟨rfl, Function.update_self ..⟩)
      · refine Or.inr (Or.inr (Or.inr ⟨?_, Function.update_of_ne hx ..⟩))
        intro heq
        simp only [Event.withdraw.injEq] at heq
        exact hx (by rw [heq.1, heq.2])
  | _ =>
      exact Or.inr (Or.inr (Or.inr ⟨by simp only [ne_eq, reduceCtorEq, not_false_eq_true], rfl⟩))

/-- A confirmed ballot goes back to a confirmation, with the voter on the list
    ever since. -/
theorem cast_since (h : List (Entry (State D V) (Event D V))) (s : State D V)
    (hrun : Run (register term last) h s) (d : D) (v : V) (expiry : Nat)
    (hcast : s.ballot (d, v) = some (.cast expiry)) :
    Since (fun e => ¬ Leaves d v e)
      (fun e => Confirms d v e ∧ expiry = min (e.pre.slot + term) last) h := by
  refine run_induct (register term last) (fun _ => True)
    (fun h s => s.ballot (d, v) = some (.cast expiry) → Since (fun e => ¬ Leaves d v e)
      (fun e => Confirms d v e ∧ expiry = min (e.pre.slot + term) last) h)
    ?_ ?_ h s hrun (fun _ _ => trivial) hcast
  · intro s hs hcast
    rw [Empty.ballots hs] at hcast
    exact absurd hcast (by simp only [reduceCtorEq, not_false_eq_true])
  · intro h s e s' _ ih hst _ hcast
    rcases step_ballot term last s s' e hst d v with
      ⟨hconf, hnew⟩ | ⟨_, hnew⟩ | ⟨_, hnew⟩ | ⟨hne, hkept⟩
    · rw [hnew, Option.some.injEq, Ballot.cast.injEq] at hcast
      exact Or.inl ⟨hconf, hcast.symm⟩
    · rw [hnew] at hcast
      exact absurd hcast (by simp only [reduceCtorEq, not_false_eq_true])
    · rw [hnew] at hcast
      exact absurd hcast (by simp only [Option.some.injEq, reduceCtorEq, not_false_eq_true])
    · rw [hkept] at hcast
      exact Or.inr ⟨hne, ih hcast⟩

/-- The slot never decreases. -/
theorem step_slot (s : State D V) (e : Event D V) (s' : State D V)
    (hst : Step term last s e s') : s.slot ≤ s'.slot := by
  cases hst with
  | tick slot time hslot _ => exact hslot
  | _ => exact Nat.le_refl _

/-- A ballot that counts was confirmed within a term, under the policy that
    was in force. -/
theorem electorate_confirmed (h : List (Entry (State D V) (Event D V))) (s : State D V)
    (hrun : Run (register term last) h s) (d : D) (v : V) (hv : v ∈ electorate s d) :
    ∃ e ∈ h, Confirms d v e ∧ e.pre.slot ≤ s.slot ∧ s.slot ≤ e.pre.slot + term := by
  rcases hv with ⟨expiry, hcast, hopen⟩
  rcases (since_iff _ _ _).mp (cast_since term last h s hrun d v expiry hcast) with
    ⟨h₁, e, h₀, rfl, ⟨hconf, rfl⟩, _⟩
  have hmem : e ∈ h₁ ++ e :: h₀ := List.mem_append_right _ List.mem_cons_self
  refine ⟨e, hmem, hconf, ?_, hopen.trans (min_le_left _ _)⟩
  exact run_monotone (register term last) (fun s => s.slot) (step_slot term last) _ s hrun e hmem

/-- A step writes one ballot at most. -/
theorem step_ballots (s s' : State D V) (e : Event D V) (hst : Step term last s e s') :
    s'.ballot = s.ballot ∨ ∃ x b, s'.ballot = Function.update s.ballot x b := by
  cases hst with
  | enrol d v _ _ _ => exact Or.inr ⟨_, _, rfl⟩
  | confirm d v _ _ _ _ _ _ => exact Or.inr ⟨_, _, rfl⟩
  | withdraw d v _ _ _ _ => exact Or.inr ⟨_, _, rfl⟩
  | _ => exact Or.inl rfl

/-- Finitely many ballots count. -/
theorem electorate_finite (h : List (Entry (State D V) (Event D V))) (s : State D V)
    (hrun : Run (register term last) h s) (d : D) : (electorate s d).Finite := by
  have hballots : {x | s.ballot x ≠ none}.Finite := by
    refine run_induct (register term last) (fun _ => True)
      (fun _ s => {x | s.ballot x ≠ none}.Finite) ?_ ?_ h s hrun (fun _ _ => trivial)
    · intro s hs
      refine Set.Finite.subset Set.finite_empty ?_
      intro x hx
      exact absurd (Empty.ballots hs x) hx
    · intro h s e s' _ ih hst _
      -- A step writes one ballot at most.
      rcases step_ballots term last s s' e hst with heq | ⟨x, b, heq⟩
      · rw [heq]
        exact ih
      · refine Set.Finite.subset (ih.insert x) ?_
        intro y hy
        by_cases hxy : y = x
        · exact Or.inl hxy
        · rw [heq, Set.mem_ofPred_eq, Function.update_of_ne hxy] at hy
          exact Or.inr hy
  -- An elector has a ballot of this body.
  refine Set.Finite.subset (hballots.image Prod.snd) ?_
  intro v hv
  rcases hv with ⟨expiry, hcast, _⟩
  refine ⟨(d, v), ?_, rfl⟩
  rw [Set.mem_ofPred_eq, hcast]
  exact Option.some_ne_none _

end

end Registry
