import EntrosVoterWeight.Cluster
import EntrosVoterWeight.Theory.History

/-!
# The Age of a Verification

The age check compares a signed difference from above only. A checked
subtraction that leaves the 64-bit range counts as the largest age and fails,
and the intent recorded beside the tests is that this is what becomes of a
verification dated in the future. But a difference that is merely negative
does not leave the range. It is smaller than any positive window, and passes.

`FutureDated` is the branch this happens in. An update that passes its other
checks keeps to the window exactly outside of it.

## Main definitions

* `WithinWindow`: The age of the identity read lies in the window.
* `ChecksButAge`: Everything an update checks except the age.
* `FutureDated`: A negative age that passes.

## Theorems

* `withinWindow_iff`: Updates keep to the window exactly without such an age.
* `future_verification_accepted`: An update with a verification dated ahead.
-/

namespace EntrosVoterWeight

open Borsh Anchor Transition

/-- If the update succeeds, the verification it read is not in the future and
    not older than the window. -/
def WithinWindow (env : Env) (clock : Clock) (ctx : Context UpdateVoterWeightRecord)
    (ledger : Ledger) : Prop :=
  ∀ ledger' registrar identity,
    process env clock (.updateVoterWeightRecord ctx) ledger = .ok ledger' →
    registrarAt ledger ctx.accounts.registrar = some registrar →
    ctx.remainingAccounts.head? = some identity →
      0 ≤ clock.unixTimestamp.toInt -
          (lastVerificationTimestamp (ledger identity).data).toInt ∧
      clock.unixTimestamp.toInt - (lastVerificationTimestamp (ledger identity).data).toInt <
        registrar.maxVerificationAge.toInt

/-- Everything an update checks except the age. -/
structure ChecksButAge (env : Env) (ctx : Context UpdateVoterWeightRecord) (ledger : Ledger)
    (registrar : Registrar) (record : VoterWeightRecord) : Prop where
  controls : ControlsRecord env ledger ctx.isSigner ctx.isWritable ctx.accounts.registrar
    ctx.accounts.voterWeightRecord ctx.accounts.voterAuthority registrar record
  identity : ctx.remainingAccounts.head? = some (env.identityAddress ctx.accounts.voterAuthority)
  trusted : TrustedIdentity env registrar ledger ctx.accounts.voterAuthority
  room : 131 ≤ (ledger ctx.accounts.voterWeightRecord).data.length

/-- The verification is dated after the clock, but not so far ahead that the
    difference leaves the 64-bit range, and the window does not exclude it. -/
def FutureDated (clock : Clock) (registrar : Registrar) (data : List UInt8) : Prop :=
  clock.unixTimestamp.toInt - (lastVerificationTimestamp data).toInt < 0 ∧
  -2 ^ 63 ≤ clock.unixTimestamp.toInt - (lastVerificationTimestamp data).toInt ∧
  clock.unixTimestamp.toInt - (lastVerificationTimestamp data).toInt <
    registrar.maxVerificationAge.toInt

/-- An update keeps to the window exactly if, its other checks passing, the
    verification is not dated in the future. -/
theorem withinWindow_iff (env : Env) (clock : Clock) (ctx : Context UpdateVoterWeightRecord)
    (ledger : Ledger) :
    WithinWindow env clock ctx ledger ↔
      ∀ registrar record, ChecksButAge env ctx ledger registrar record →
        ¬ FutureDated clock registrar
          (ledger (env.identityAddress ctx.accounts.voterAuthority)).data := by
  constructor
  · intro hwin reg r hc hfuture
    rcases hfuture with ⟨hneg, hlow, hage⟩
    -- The branch is open: the update succeeds, with a negative age.
    have hok := (updateVoterWeightRecord_eq_ok env clock ctx ledger _).mpr
      ⟨reg, r, hc.controls, hc.identity, ⟨hc.trusted, hlow, hage⟩, hc.room, rfl⟩
    have hreg := (registrarAt_eq_some ..).mpr
      ⟨hc.controls.registrar_owner, hc.controls.registrar_loads⟩
    have hpos := (hwin _ reg _ hok hreg hc.identity).1
    omega
  · intro hnot ledger' reg identity hok hreg hid
    rcases recordUpdated_of_ok env clock ctx ledger ledger' hok with ⟨reg', r, hup⟩
    have hreg' := (registrarAt_eq_some ..).mpr
      ⟨hup.controls.registrar_owner, hup.controls.registrar_loads⟩
    rw [hreg, Option.some.injEq] at hreg'
    subst hreg'
    rw [hup.identity, Option.some.injEq] at hid
    subst hid
    have hcheck : ChecksButAge env ctx ledger reg r :=
      ⟨hup.controls, hup.identity, hup.eligible.toTrustedIdentity, hup.room⟩
    refine ⟨?_, hup.eligible.recent⟩
    -- The age passed the comparison from above, so only its sign is in question.
    by_contra hneg
    exact hnot reg r hcheck ⟨by omega, hup.eligible.no_underflow, hup.eligible.recent⟩

/-- A wallet whose last verification is a thousand seconds ahead gets its
    vote. -/
theorem future_verification_accepted :
    ¬ WithinWindow Devnet.env (Devnet.after Devnet.bothRecords).2.clock
      (Devnet.updateRecordContext Devnet.mint Devnet.voterB)
      (Devnet.after Devnet.bothRecords).2.ledger := by
  intro hwin
  rcases exists_of_isOk Devnet.env (Devnet.after Devnet.bothRecords).2.clock
    (.updateVoterWeightRecord (Devnet.updateRecordContext Devnet.mint Devnet.voterB))
    (Devnet.after Devnet.bothRecords).2.ledger (by decide +kernel) with ⟨ledger', hok⟩
  have hpos := (hwin ledger' ⟨Devnet.governance, Devnet.realm, Devnet.mint, 50, 2592000,
    FixedBytes.zero 64⟩ (Devnet.env.identityAddress Devnet.voterB) hok (by decide +kernel) rfl).1
  exact absurd hpos (by decide +kernel)

end EntrosVoterWeight
