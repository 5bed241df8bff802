import EntrosVoterWeight.Theory.Voters

/-!
# The Order of the Steps

Which of the wallets comes first.

Wallets create, update and close their records at the same time, and what the
ledger makes of it is one order among many. Each wallet fixes the order of its
own steps, and nobody that of all of them. It does not matter: in every order,
every step succeeds or fails alike, and the whole ledger ends up the same.

For one wallet this is the unwinding. For the ledger, an account that is not
what it was at the start is at the address of a wallet that took a step, and
there that wallet sees the same in every order.

## Main definitions

* `SameParts`: Two orders of the same steps.

## Theorems

* `final_changed`: An account that changed is a record of a wallet that took a
  step.
* `order_irrelevant`: The order does not matter.
-/

namespace EntrosVoterWeight

open Borsh Anchor Transition

/-- Two orders of the same steps, in which every wallet has its own in the
    same order. -/
def SameParts (xs ys : List VoterStep) : Prop :=
  ∀ voter, xs.filter (ownedBy voter) = ys.filter (ownedBy voter)

theorem mem_of_sameParts (xs ys : List VoterStep) (hsame : SameParts xs ys) (y : VoterStep)
    (hy : y ∈ ys) : y ∈ xs := by
  have hown : ownedBy y.call.wallet y = true := decide_eq_true rfl
  have hmem : y ∈ ys.filter (ownedBy y.call.wallet) := List.mem_filter.mpr ⟨hy, hown⟩
  rw [← hsame y.call.wallet] at hmem
  exact (List.mem_filter.mp hmem).1

/-- A wallet's steps can be moved to the front. -/
theorem sameParts_front (voter : Pubkey) (xs : List VoterStep) :
    SameParts xs (xs.filter (ownedBy voter) ++ xs.filter (fun x => !ownedBy voter x)) := by
  intro other
  rw [List.filter_append, List.filter_filter, List.filter_filter]
  by_cases heq : other = voter
  · subst heq
    have hnone : ∀ x : VoterStep, (ownedBy other x && !ownedBy other x) = false :=
      fun x => Bool.and_not_self _
    simp only [Bool.and_self, hnone, List.filter_false, List.append_nil]
  · have hnone : ∀ x : VoterStep, (ownedBy other x && ownedBy voter x) = false := by
      intro x
      by_cases hx : x.call.wallet = other
      · have hne : ownedBy voter x = false := decide_eq_false (fun h => heq (hx.symm.trans h))
        rw [hne, Bool.and_false]
      · have hne : ownedBy other x = false := decide_eq_false hx
        rw [hne, Bool.false_and]
    -- A step of another wallet is not one of this wallet.
    have hall : ∀ x : VoterStep, (ownedBy other x && !ownedBy voter x) = ownedBy other x := by
      intro x
      rcases hx : ownedBy other x with _ | _
      · exact Bool.false_and _
      · have hboth := hnone x
        rw [hx, Bool.true_and] at hboth
        rw [hboth]
        rfl
    simp only [hnone, hall, List.filter_false, List.nil_append]

/-- A wallet that takes no step gets no answer. -/
theorem answers_absent (env : Env) (voter : Pubkey) (xs : List VoterStep) (ledger : Ledger)
    (hnone : ∀ x ∈ xs, x.call.wallet ≠ voter) :
    (voters env).answers (ownedBy voter) ledger xs = [] := by
  induction xs generalizing ledger with
  | nil => rfl
  | cons x xs ih =>
      have hx : ownedBy voter x = false := decide_eq_false (hnone x List.mem_cons_self)
      rw [Machine.answers, hx, if_neg Bool.false_ne_true]
      exact ih _ (fun y hy => hnone y (List.mem_cons_of_mem _ hy))

section
variable (env : Env) (o : Pubkey → Option Place) (base : Ledger)

/-- A wallet's step changes an account at an address of the wallet's own. -/
theorem step_changed (hc : Consistent env o base)
    (hnone : ∀ a realm mint owner, o a ≠ some (.voterWeightRecord realm mint owner))
    (x : VoterStep) (ledger : Ledger) (hv : Voting env base ledger) :
    Voting env base ((voters env).step ledger x).2 ∧
    ∀ a, ((voters env).step ledger x).2 a ≠ ledger a → ∃ key realm mint,
      o key = some (.registrar realm mint) ∧
        a = env.address (.voterWeightRecord realm mint x.call.wallet) := by
  rcases hp : process env x.clock x.call.instruction ledger with e | ledger'
  · rw [voters_step_error env ledger x e hp]
    exact ⟨hv, fun a hne => absurd rfl hne⟩
  · rw [voters_step_ok env ledger ledger' x hp]
    refine ⟨voting_step env o base hc hnone x.clock x.call ledger ledger' hv hp, ?_⟩
    intro a hne
    rcases (wallet_step env o base hc hnone x.clock x.call ledger ledger' hv hp).place with
      ⟨key, realm, mint, hlive, haddr⟩
    refine ⟨key, realm, mint, hlive, ?_⟩
    rw [← haddr]
    by_contra ha
    exact hne (process_frame env x.clock _ ledger ledger' hp a ha)

/-- An account that changed is a record of a wallet that took a step. -/
theorem final_changed (hc : Consistent env o base)
    (hnone : ∀ a realm mint owner, o a ≠ some (.voterWeightRecord realm mint owner))
    (xs : List VoterStep) (ledger : Ledger) (hv : Voting env base ledger) (a : Pubkey)
    (hne : (voters env).final ledger xs a ≠ ledger a) :
    ∃ x ∈ xs, ∃ key realm mint, o key = some (.registrar realm mint) ∧
      a = env.address (.voterWeightRecord realm mint x.call.wallet) := by
  induction xs generalizing ledger with
  | nil => exact absurd rfl hne
  | cons x xs ih =>
      rcases step_changed env o base hc hnone x ledger hv with ⟨hv', hstep⟩
      by_cases hx : ((voters env).step ledger x).2 a = ledger a
      · rw [Machine.final, ← hx] at hne
        rcases ih _ hv' hne with ⟨y, hy, hplace⟩
        exact ⟨y, List.mem_cons_of_mem _ hy, hplace⟩
      · exact ⟨x, List.mem_cons_self, hstep a hx⟩

end

/-- In whatever order the steps of the wallets are taken, every wallet is
    answered the same, and the whole ledger ends up the same. -/
theorem order_irrelevant (env : Env) (hspec : GovernanceSpec env) (h : History) (s : State)
    (hrun : Run (plugin env) h s) (hsep : ∀ e ∈ h, Separated env e.pre.ledger)
    (hnone : ∀ a realm mint owner,
      origin env h a ≠ some (.voterWeightRecord realm mint owner))
    (xs ys : List VoterStep) (hsame : SameParts xs ys)
    (hfree : ∀ x ∈ xs, ∀ a realm mint, origin env h a = some (.registrar realm mint) →
      CollisionFreeAt env (.voterWeightRecord realm mint x.call.wallet)) :
    (voters env).final s.ledger xs = (voters env).final s.ledger ys ∧
    ∀ voter, (voters env).answers (ownedBy voter) s.ledger xs =
      (voters env).answers (ownedBy voter) s.ledger ys := by
  have hc := consistent_run env hspec h s hrun hsep
  have hstart : ∀ voter, Indistinguishable env s.ledger voter s.ledger s.ledger :=
    fun _ => ⟨voting_start env s.ledger, voting_start env s.ledger, fun _ _ _ => rfl⟩
  -- What a wallet with a step sees is the same in both orders.
  have hview : ∀ x ∈ xs,
      (voters env).answers (ownedBy x.call.wallet) s.ledger xs =
        (voters env).answers (ownedBy x.call.wallet) s.ledger ys ∧
      ∃ t, Indistinguishable env s.ledger x.call.wallet ((voters env).final s.ledger xs) t ∧
        Indistinguishable env s.ledger x.call.wallet ((voters env).final s.ledger ys) t :=
    fun x hx => unwind_order (voters env) (ownedBy x.call.wallet)
      (Indistinguishable env s.ledger x.call.wallet)
      (indistinguishable_other env _ s.ledger hc hnone x.call.wallet)
      (indistinguishable_own env _ s.ledger hc hnone x.call.wallet (hfree x hx)) xs ys
      (hsame x.call.wallet) s.ledger (hstart x.call.wallet)
  have hrecord : ∀ x ∈ xs, ∀ key realm mint, origin env h key = some (.registrar realm mint) →
      (voters env).final s.ledger xs
          (env.address (.voterWeightRecord realm mint x.call.wallet)) =
        (voters env).final s.ledger ys
          (env.address (.voterWeightRecord realm mint x.call.wallet)) := by
    intro x hx key realm mint hlive
    rcases (hview x hx).2 with ⟨t, hxs, hys⟩
    have hf := hfree x hx key realm mint hlive
    exact (hxs.records realm mint hf).trans (hys.records realm mint hf).symm
  constructor
  · funext a
    by_cases hx : (voters env).final s.ledger xs a = s.ledger a
    · by_cases hy : (voters env).final s.ledger ys a = s.ledger a
      · rw [hx, hy]
      · rcases final_changed env _ s.ledger hc hnone ys s.ledger (voting_start env s.ledger) a hy
          with ⟨y, hmem, key, realm, mint, hlive, rfl⟩
        exact hrecord y (mem_of_sameParts xs ys hsame y hmem) key realm mint hlive
    · rcases final_changed env _ s.ledger hc hnone xs s.ledger (voting_start env s.ledger) a hx
        with ⟨x, hmem, key, realm, mint, hlive, rfl⟩
      exact hrecord x hmem key realm mint hlive
  · intro voter
    by_cases hany : ∃ x ∈ xs, x.call.wallet = voter
    · rcases hany with ⟨x, hx, rfl⟩
      exact (hview x hx).1
    · have hxs : ∀ x ∈ xs, x.call.wallet ≠ voter := fun x hx heq => hany ⟨x, hx, heq⟩
      have hys : ∀ y ∈ ys, y.call.wallet ≠ voter :=
        fun y hy => hxs y (mem_of_sameParts xs ys hsame y hy)
      rw [answers_absent env voter xs _ hxs, answers_absent env voter ys _ hys]

/-! ### One wallet first -/

/-- With one registrar live, the records that steps can be about are those of
    its realm and mint. -/
theorem Devnet.created_origins (a : Pubkey) (p : Place)
    (ho : origin Devnet.env (Devnet.after [Devnet.createRegistrar Devnet.mint]).1 a = some p) :
    p = .registrar Devnet.realm Devnet.mint := by
  rw [Devnet.origin_createRegistrar] at ho
  by_cases ha : a = Devnet.registrar Devnet.mint
  · rw [ha, Function.update_self, Option.some.injEq] at ho
    exact ho.symm
  · rw [Function.update_of_ne ha] at ho
    exact absurd ho (by simp only [reduceCtorEq, not_false_eq_true])

/-- The second wallet might as well have gone first. -/
theorem order_irrelevant_devnet :
    (voters Devnet.env).final (Devnet.after [Devnet.createRegistrar Devnet.mint]).2.ledger
        Devnet.crossing =
      (voters Devnet.env).final (Devnet.after [Devnet.createRegistrar Devnet.mint]).2.ledger
        (Devnet.crossing.filter (ownedBy Devnet.voterB) ++
          Devnet.crossing.filter (fun x => !ownedBy Devnet.voterB x)) := by
  refine (order_irrelevant Devnet.env (cluster_governanceSpec _ _ _) _ _
    (Devnet.after_run [Devnet.createRegistrar Devnet.mint])
    (Devnet.after_separated _ (by decide +kernel)) ?_ Devnet.crossing _
    (sameParts_front Devnet.voterB _) ?_).1
  · intro a realm mint owner ho
    exact absurd (Devnet.created_origins a _ ho) (by simp only [reduceCtorEq, not_false_eq_true])
  · intro x hx a realm mint ho
    have hplace := Devnet.created_origins a _ ho
    rw [Place.registrar.injEq] at hplace
    rcases hplace with ⟨rfl, rfl⟩
    have hall : ∀ y ∈ Devnet.crossing, Devnet.env.address
        (.voterWeightRecord Devnet.realm Devnet.mint y.call.wallet) ≠ keyOf 238 := by
      decide +kernel
    exact Devnet.collisionFreeAt _ (hall x hx)

end EntrosVoterWeight
