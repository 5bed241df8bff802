import EntrosVoterWeight.Theory.Votes
import EntrosVoterWeight.Wire.Client

/-!
# Transactions

How instructions reach the program: in transactions, with signatures.

A client puts instructions into a transaction and has it signed by every
account that one of them marks as a signer, and by whoever pays the fee. The
flags are the transaction's: an account that signs or is writable for one
instruction does so for all. The instructions run in order, and either all of
them succeed or nothing happens.

A transaction may hold instructions of other programs as well. Such a program
can change what others can change, and can call this program in turn, with the
transaction's signers and with addresses derived from its own id. What is left
out are calls of the framework's own instructions, which `route` sends
elsewhere.

A transaction is executed with a trace: the steps of the program that it takes.
`network` is the system in which transactions are committed with their traces
or dropped. It adds nothing to what single instructions can do: the traces of
its committed transactions, one after the other, are a run of the program. So
every vote that is counted goes back to an update in a transaction, and to a
signature on that transaction.

## Main definitions

* `Transaction`: Instructions with who pays and who signed.
* `Transaction.run`: A transaction of the program's own instructions.
* `Executes`: Any transaction, with the steps it takes.
* `network`: Transactions, one after the other.
* `unfolded`: The steps of the committed ones.
* `Within`: A step that a transaction can take.

## Theorems

* `run_call`: A helper's instruction runs as what was called for.
* `executes_run`: The two runs agree where both apply.
* `executes_path`: The trace of a transaction is a path of the program.
* `network_unfolded`, `network_run`: A run of transactions is a run of the
  program.
* `counted_signed`: A vote that is counted was signed for.
-/

namespace EntrosVoterWeight

open Borsh Anchor Transition

/-- Instructions, with who pays for them and who signed. -/
structure Transaction where
  feePayer : Pubkey
  instructions : List TransactionInstruction
  signatures : List Pubkey

/-- The accounts of all instructions. -/
def Transaction.metas (tx : Transaction) : List AccountMeta :=
  tx.instructions.flatMap TransactionInstruction.keys

/-- Whether a key signs somewhere in the transaction. -/
def Transaction.isSigner (tx : Transaction) (key : Pubkey) : Bool :=
  decide (key = tx.feePayer) || tx.metas.any fun m => m.isSigner && decide (m.pubkey = key)

/-- Whether a key is writable somewhere in the transaction. -/
def Transaction.isWritable (tx : Transaction) (key : Pubkey) : Bool :=
  decide (key = tx.feePayer) || tx.metas.any fun m => m.isWritable && decide (m.pubkey = key)

/-- Everyone who has to sign did. -/
def Transaction.Signed (tx : Transaction) : Prop :=
  ∀ key, tx.isSigner key = true → key ∈ tx.signatures

/-- The same, as the client checks it. -/
def Transaction.isSigned (tx : Transaction) : Bool :=
  tx.signatures.contains tx.feePayer &&
    tx.metas.all fun m => !m.isSigner || tx.signatures.contains m.pubkey

/-- Run one of the program's own instructions. -/
def Transaction.runInstruction (env : Env) (clock : Clock) (tx : Transaction) (ledger : Ledger)
    (ix : TransactionInstruction) : Option Ledger :=
  if ix.programId = programId then
    entry env clock (ix.keys.map AccountMeta.pubkey) tx.isSigner tx.isWritable ix.data ledger
  else none

/-- Run some of the program's own instructions. They all succeed, or the whole
    fails. -/
def Transaction.runAll (env : Env) (clock : Clock) (tx : Transaction) :
    List TransactionInstruction → Ledger → Option Ledger
  | [], ledger => some ledger
  | ix :: ixs, ledger => (tx.runInstruction env clock ledger ix).bind (tx.runAll env clock ixs)

/-- Run a transaction of the program's own instructions. -/
def Transaction.run (env : Env) (clock : Clock) (tx : Transaction) (ledger : Ledger) :
    Option Ledger :=
  tx.runAll env clock tx.instructions ledger

/-- Only the accounts of its instructions sign a transaction, and whoever
    pays. -/
theorem signed_of_isSigned (tx : Transaction) (h : tx.isSigned = true) : tx.Signed := by
  intro key hkey
  rw [Transaction.isSigned, Bool.and_eq_true, List.contains_iff_mem, List.all_eq_true] at h
  rw [Transaction.isSigner, Bool.or_eq_true, decide_eq_true_eq, List.any_eq_true] at hkey
  rcases hkey with rfl | ⟨m, hm, hboth⟩
  · exact h.1
  · rw [Bool.and_eq_true, decide_eq_true_eq] at hboth
    have hall := h.2 m hm
    rw [hboth.1, Bool.not_true, Bool.false_or, List.contains_iff_mem, hboth.2] at hall
    exact hall

/-- What a helper builds is read as the instruction that was called for. -/
theorem parse_call (env : Env) (isSigner isWritable : Pubkey → Bool) (call : Call)
    (ix : TransactionInstruction) (hbuild : call.build env = some ix) :
    ix.programId = programId ∧
      parse (ix.keys.map AccountMeta.pubkey) isSigner isWritable ix.data =
        some (call.instruction env isSigner isWritable) := by
  rcases build_iff env call isSigner isWritable with ⟨_, ix', hb, hc⟩ | ⟨_, hnone⟩
  · rw [hbuild, Option.some.injEq] at hb
    subst hb
    exact ⟨hc.program, parse_of_call env call isSigner isWritable _ hc⟩
  · rw [hbuild] at hnone
    exact absurd hnone (Option.some_ne_none _)

/-- What a helper builds runs as the instruction that was called for. -/
theorem run_call (env : Env) (clock : Clock) (tx : Transaction) (ledger : Ledger) (call : Call)
    (ix : TransactionInstruction) (hbuild : call.build env = some ix) :
    tx.runInstruction env clock ledger ix =
      (process env clock (call.instruction env tx.isSigner tx.isWritable) ledger).toOption := by
  rcases parse_call env tx.isSigner tx.isWritable call ix hbuild with ⟨hprogram, hparse⟩
  rw [Transaction.runInstruction, if_pos hprogram, entry, hparse, Option.bind_some]

/-- The flags give the accounts of an instruction what it marks them with. -/
def Grants (keys : List AccountMeta) (isSigner isWritable : Pubkey → Bool) : Prop :=
  ∀ m ∈ keys, (m.isSigner = true → isSigner m.pubkey = true) ∧
    (m.isWritable = true → isWritable m.pubkey = true)

/-- A transaction gives the accounts of its instructions what they are marked
    with. -/
theorem transaction_grants (tx : Transaction) (ix : TransactionInstruction)
    (hix : ix ∈ tx.instructions) : Grants ix.keys tx.isSigner tx.isWritable := by
  intro m hm
  have hmem : m ∈ tx.metas := List.mem_flatMap.mpr ⟨ix, hix, hm⟩
  constructor
  · intro hsign
    have hany : (tx.metas.any fun x => x.isSigner && decide (x.pubkey = m.pubkey)) = true :=
      List.any_eq_true.mpr ⟨m, hmem, by rw [hsign, decide_eq_true rfl, Bool.and_self]⟩
    rw [Transaction.isSigner, hany, Bool.or_true]
  · intro hwrite
    have hany : (tx.metas.any fun x => x.isWritable && decide (x.pubkey = m.pubkey)) = true :=
      List.any_eq_true.mpr ⟨m, hmem, by rw [hwrite, decide_eq_true rfl, Bool.and_self]⟩
    rw [Transaction.isWritable, hany, Bool.or_true]

/-! ### Transactions of several programs -/

/-- A key that another program can sign for. -/
def SignedByProgram (env : Env) (key : Pubkey) : Prop :=
  ∃ seeds program, program ≠ programId ∧ key = env.deriveAddress seeds program

/-- A call that the program accepts and that succeeds. -/
structure Accepts (env : Env) (clock : Clock) (keys : List Pubkey)
    (isSigner isWritable : Pubkey → Bool) (data : List UInt8) (ledger : Ledger) (ix : Instruction)
    (ledger' : Ledger) : Prop where
  parsed : parse keys isSigner isWritable data = some ix
  processed : process env clock ix ledger = .ok ledger'

/-- The step of the program that such a call is. -/
def calling (clock : Clock) (ledger : Ledger) (ix : Instruction) (ledger' : Ledger) :
    Entry State Event :=
  ⟨⟨ledger, clock⟩, .instruction ix, ⟨ledger', clock⟩⟩

/-- The step in which something else changes the ledger. -/
def changing (clock : Clock) (ledger ledger' : Ledger) : Entry State Event :=
  ⟨⟨ledger, clock⟩, .other ledger', ⟨ledger', clock⟩⟩

/-- What the instruction of another program can do: change what the others can
    change, and call this program. In between are the steps taken. -/
inductive External (env : Env) (clock : Clock) (tx : Transaction) :
    Ledger → History → Ledger → Prop
  | done (ledger : Ledger) : External env clock tx ledger [] ledger
  | change (l l' l'' : Ledger) (p : History) :
      OtherChange env l l' → External env clock tx l' p l'' →
      External env clock tx l (p ++ [changing clock l l']) l''
  | call (l l' l'' : Ledger) (keys : List Pubkey) (isSigner isWritable : Pubkey → Bool)
      (data : List UInt8) (ix : Instruction) (p : History) :
      (∀ key, isSigner key = true → tx.isSigner key = true ∨ SignedByProgram env key) →
      Accepts env clock keys isSigner isWritable data l ix l' → External env clock tx l' p l'' →
      External env clock tx l (p ++ [calling clock l ix l']) l''

/-- Instructions that all succeed, one after the other, with the steps of the
    program that they take. -/
inductive Executes (env : Env) (clock : Clock) (tx : Transaction) :
    List TransactionInstruction → Ledger → History → Ledger → Prop
  | done (ledger : Ledger) : Executes env clock tx [] ledger [] ledger
  | own (built : TransactionInstruction) (rest : List TransactionInstruction) (l l' l'' : Ledger)
      (ix : Instruction) (p : History) :
      built.programId = programId →
      Accepts env clock (built.keys.map AccountMeta.pubkey) tx.isSigner tx.isWritable built.data
        l ix l' →
      Executes env clock tx rest l' p l'' →
      Executes env clock tx (built :: rest) l (p ++ [calling clock l ix l']) l''
  | external (built : TransactionInstruction) (rest : List TransactionInstruction)
      (l l' l'' : Ledger) (p q : History) :
      built.programId ≠ programId → External env clock tx l q l' →
      Executes env clock tx rest l' p l'' →
      Executes env clock tx (built :: rest) l (p ++ q) l''

/-- A call has a result exactly if the program accepts it. -/
theorem entry_iff (env : Env) (clock : Clock) (keys : List Pubkey)
    (isSigner isWritable : Pubkey → Bool) (data : List UInt8) (l l' : Ledger) :
    entry env clock keys isSigner isWritable data l = some l' ↔
      ∃ ix, Accepts env clock keys isSigner isWritable data l ix l' := by
  constructor
  · intro h
    rcases hparse : parse keys isSigner isWritable data with _ | ix
    · simp only [entry, hparse, Option.bind_none, reduceCtorEq] at h
    · rcases hp : process env clock ix l with e | m
      · simp only [entry, hparse, hp, Option.bind_some, Except.toOption, reduceCtorEq] at h
      · simp only [entry, hparse, hp, Option.bind_some, Except.toOption, Option.some.injEq] at h
        rw [← h]
        exact ⟨ix, hparse, hp⟩
  · intro h
    rcases h with ⟨ix, hparse, hp⟩
    simp only [entry, hparse, hp, Option.bind_some, Except.toOption]

/-- Without instructions of other programs, a transaction computes its
    result. -/
theorem executes_run (env : Env) (clock : Clock) (tx : Transaction)
    (ixs : List TransactionInstruction) (l l' : Ledger)
    (hown : ∀ ix ∈ ixs, ix.programId = programId) :
    (∃ p, Executes env clock tx ixs l p l') ↔ tx.runAll env clock ixs l = some l' := by
  induction ixs generalizing l with
  | nil =>
      constructor
      · intro h
        rcases h with ⟨p, hexec⟩
        cases hexec
        rfl
      · intro h
        simp only [Transaction.runAll, Option.some.injEq] at h
        rw [h]
        exact ⟨[], .done l'⟩
  | cons built rest ih =>
      have hrest : ∀ ix ∈ rest, ix.programId = programId :=
        fun x hx => hown x (List.mem_cons_of_mem _ hx)
      have hprogram := hown built List.mem_cons_self
      constructor
      · intro h
        rcases h with ⟨_, hexec⟩
        cases hexec with
        | own _ _ _ m _ ix p _ hacc hthen =>
            have hfirst := (entry_iff ..).mpr ⟨ix, hacc⟩
            rw [Transaction.runAll, Transaction.runInstruction, if_pos hprogram, hfirst,
              Option.bind_some]
            exact (ih m hrest).mp ⟨p, hthen⟩
        -- An instruction of another program is not among these.
        | external _ _ _ _ _ _ _ hne _ _ => exact absurd hprogram hne
      · intro h
        rw [Transaction.runAll, Transaction.runInstruction, if_pos hprogram] at h
        rcases hfirst : entry env clock (built.keys.map AccountMeta.pubkey) tx.isSigner
          tx.isWritable built.data l with _ | m
        · simp only [hfirst, Option.bind_none, reduceCtorEq] at h
        · rw [hfirst, Option.bind_some] at h
          rcases (entry_iff ..).mp hfirst with ⟨ix, hacc⟩
          rcases (ih m hrest).mpr h with ⟨p, hthen⟩
          exact ⟨_, .own built rest l m l' ix p hprogram hacc hthen⟩

/-! ### As steps of the program -/

/-- A step of the program within a transaction: an instruction that succeeded,
    signed for in the transaction or by another program, or what other
    programs can do. -/
def Within (env : Env) (clock : Clock) (tx : Transaction) (x : Entry State Event) : Prop :=
  x.pre.clock = clock ∧
  match x.event with
  | .instruction ix =>
    (∀ key, ix.isSigner key = true → tx.isSigner key = true ∨ SignedByProgram env key) ∧
      process env clock ix x.pre.ledger = .ok x.post.ledger
  | .other _ => True
  | .tick _ => False

/-- An instruction that succeeds is a step to the ledger it leaves. -/
theorem step_ok (env : Env) (s : State) (ix : Instruction) (ledger' : Ledger)
    (hp : process env s.clock ix s.ledger = .ok ledger') :
    Step env s (.instruction ix) ⟨ledger', s.clock⟩ := by
  rw [← apply_ok env s ix ledger' hp]
  exact .instruction s ix

section
variable (env : Env) (clock : Clock) (tx : Transaction)

/-- Steps of the program from one ledger to another, all within the
    transaction. -/
def WithinPath (l : Ledger) (p : History) (l' : Ledger) : Prop :=
  Path (plugin env) p ⟨l, clock⟩ ⟨l', clock⟩ ∧ ∀ x ∈ p, Within env clock tx x

theorem withinPath_nil (l : Ledger) : WithinPath env clock tx l [] l :=
  ⟨.nil _, fun _ hx => absurd hx List.not_mem_nil⟩

/-- Two sequences of steps within a transaction make one. -/
theorem withinPath_append (l l' l'' : Ledger) (q p : History)
    (hfirst : WithinPath env clock tx l q l') (hthen : WithinPath env clock tx l' p l'') :
    WithinPath env clock tx l (p ++ q) l'' := by
  refine ⟨path_append (plugin env) p q _ _ _ hfirst.1 hthen.1, ?_⟩
  intro x hx
  rcases List.mem_append.mp hx with hx | hx
  · exact hthen.2 x hx
  · exact hfirst.2 x hx

/-- An accepted call is a step of the program. -/
theorem withinPath_call (keys : List Pubkey) (isSigner isWritable : Pubkey → Bool)
    (data : List UInt8) (l l' : Ledger) (ix : Instruction)
    (hsign : ∀ key, isSigner key = true → tx.isSigner key = true ∨ SignedByProgram env key)
    (hacc : Accepts env clock keys isSigner isWritable data l ix l') :
    WithinPath env clock tx l [calling clock l ix l'] l' := by
  refine ⟨path_single (plugin env) _ _ _ (step_ok env ⟨l, clock⟩ ix l' hacc.processed), ?_⟩
  intro x hx
  rw [List.mem_singleton.mp hx]
  refine ⟨rfl, ?_, hacc.processed⟩
  -- The instruction has the signers of the call.
  have hflags := (onWire_of_parse _ _ _ _ _ hacc.parsed).signers
  intro key hkey
  exact hsign key (by rw [hflags]; exact hkey)

theorem withinPath_change (l l' : Ledger) (hother : OtherChange env l l') :
    WithinPath env clock tx l [changing clock l l'] l' := by
  refine ⟨path_single (plugin env) _ _ _ (.other ⟨l, clock⟩ l' hother), ?_⟩
  intro x hx
  rw [List.mem_singleton.mp hx]
  exact ⟨rfl, trivial⟩

/-- What another program does in its instruction. -/
theorem external_path (l l' : Ledger) (p : History) (h : External env clock tx l p l') :
    WithinPath env clock tx l p l' := by
  induction h with
  | done l => exact withinPath_nil env clock tx l
  | change l l' l'' p hother _ ih =>
      exact withinPath_append env clock tx l l' l'' _ p
        (withinPath_change env clock tx l l' hother) ih
  | call l l' l'' keys isSigner isWritable data ix p hsign hacc _ ih =>
      exact withinPath_append env clock tx l l' l'' _ p
        (withinPath_call env clock tx keys isSigner isWritable data l l' ix hsign hacc) ih

/-- The instructions of a transaction, as steps of the program. -/
theorem executes_path (ixs : List TransactionInstruction) (l l' : Ledger) (p : History)
    (h : Executes env clock tx ixs l p l') : WithinPath env clock tx l p l' := by
  induction h with
  | done l => exact withinPath_nil env clock tx l
  | own built rest l l' l'' ix p _ hacc _ ih =>
      exact withinPath_append env clock tx l l' l'' _ p
        (withinPath_call env clock tx _ _ _ _ l l' ix (fun key hkey => Or.inl hkey) hacc) ih
  | external built rest l l' l'' p q _ hext _ ih =>
      exact withinPath_append env clock tx l l' l'' q p (external_path env clock tx l l' q hext) ih

end

/-! ### The network -/

inductive NetworkEvent
  | commit (tx : Transaction) (steps : History)
  | drop (tx : Transaction)
  | tick (clock : Clock)

/-- A transaction that is signed and succeeds is committed, with the steps it
    took. Any can be dropped, and then leaves no trace. -/
inductive NetworkStep (env : Env) : State → NetworkEvent → State → Prop
  | commit (s : State) (tx : Transaction) (steps : History) (ledger : Ledger) :
      tx.Signed → Executes env s.clock tx tx.instructions s.ledger steps ledger →
      NetworkStep env s (.commit tx steps) ⟨ledger, s.clock⟩
  | drop (s : State) (tx : Transaction) : NetworkStep env s (.drop tx) s
  | tick (s : State) (clock : Clock) :
      s.clock.slot ≤ clock.slot → s.clock.unixTimestamp ≤ clock.unixTimestamp →
      NetworkStep env s (.tick clock) ⟨s.ledger, clock⟩

def network (env : Env) : System State NetworkEvent where
  init := Genesis env
  step := NetworkStep env

/-- The steps of the program in a step of the network. -/
def unfold (e : Entry State NetworkEvent) : History :=
  match e.event with
  | .commit _ steps => steps
  | .drop _ => []
  | .tick clock => [⟨e.pre, .tick clock, e.post⟩]

/-- The steps of the program in a history of the network. -/
def unfolded (h : List (Entry State NetworkEvent)) : History := h.flatMap unfold

/-- A step of the network is a path of the program. -/
theorem network_path (env : Env) (s s' : State) (e : NetworkEvent) (hst : NetworkStep env s e s') :
    Path (plugin env) (unfold ⟨s, e, s'⟩) s s' := by
  cases hst with
  | commit tx steps ledger _ hexec => exact (executes_path env _ tx _ _ _ _ hexec).1
  | drop tx => exact .nil s
  | tick clock hslot htime => exact path_single (plugin env) _ _ _ (.tick s clock hslot htime)

/-- A run of the network, unfolded, is a run of the program. -/
theorem network_unfolded (env : Env) (h : List (Entry State NetworkEvent)) (s : State)
    (hrun : Run (network env) h s) : Run (plugin env) (unfolded h) s := by
  induction hrun with
  | start s hs => exact .start s hs
  | step h s e s' _ hst ih =>
      exact run_path (plugin env) _ _ s s' ih (network_path env s s' e hst)

/-- The step `x` is an instruction that succeeded among the steps of a
    transaction the run committed. Its signers signed the transaction, or are
    addresses of other programs. -/
structure Settles (env : Env) (h : List (Entry State NetworkEvent)) (x : Entry State Event)
    (ix : Instruction) (tx : Transaction) (steps : History) : Prop where
  committed : ∃ e ∈ h, e.event = .commit tx steps ∧
    NetworkStep env e.pre (.commit tx steps) e.post ∧ x.pre.clock = e.pre.clock
  mem : x ∈ steps
  succeeded : process env x.pre.clock ix x.pre.ledger = .ok x.post.ledger
  signed : ∀ key, ix.isSigner key = true → key ∈ tx.signatures ∨ SignedByProgram env key

/-- An instruction of the program in a run of the network. -/
theorem unfolded_instruction (env : Env) (h : List (Entry State NetworkEvent)) (s : State)
    (hrun : Run (network env) h s) (x : Entry State Event) (hx : x ∈ unfolded h)
    (ix : Instruction) (hev : x.event = .instruction ix) :
    ∃ tx steps, Settles env h x ix tx steps := by
  rcases List.mem_flatMap.mp hx with ⟨e, he, hxe⟩
  rcases List.append_of_mem he with ⟨h₁, h₀, hsplit⟩
  rw [hsplit] at hrun
  have hst : NetworkStep env e.pre e.event e.post := (run_entry (network env) e h₁ h₀ s hrun).2
  rcases e with ⟨s₀, ev, s₁⟩
  change NetworkStep env s₀ ev s₁ at hst
  have hstep := hst
  cases hst with
  | commit tx steps ledger hsigned hexec =>
      rcases (executes_path env _ tx _ _ _ _ hexec).2 x hxe with ⟨hclock, hwithin⟩
      rw [hev] at hwithin
      rcases hwithin with ⟨hsigns, hok⟩
      refine ⟨tx, steps, ⟨_, he, rfl, hstep, hclock⟩, hxe, by rw [hclock]; exact hok, ?_⟩
      exact fun key hkey => (hsigns key hkey).imp_left (hsigned key)
  | drop tx => exact absurd hxe List.not_mem_nil
  | tick clock _ _ =>
      rw [List.mem_singleton.mp hxe] at hev
      exact absurd hev (by simp only [reduceCtorEq, not_false_eq_true])

/-- Transactions add nothing to what single instructions can do. The steps of
    the committed transactions, one after the other, are a run of the program,
    in which every instruction succeeded. It belongs to a committed
    transaction that its signers signed, unless another program signed for an
    address of its own. -/
theorem network_run (env : Env) (h : List (Entry State NetworkEvent)) (s : State)
    (hrun : Run (network env) h s) :
    Run (plugin env) (unfolded h) s ∧
      ∀ x ∈ unfolded h, ∀ ix, x.event = .instruction ix →
        ∃ tx steps, Settles env h x ix tx steps :=
  ⟨network_unfolded env h s hrun, unfolded_instruction env h s hrun⟩

/-- In a run of the network, every vote that is counted goes back to an update
    of its record, at most a hundred slots ago, in a committed transaction.
    The wallet the record named then signed the transaction, or another program
    signed for it as its own address, and it met the policy of the body's
    registrar at that moment. -/
theorem counted_signed (env : Env) (h : List (Entry State NetworkEvent)) (s : State)
    (hrun : Run (network env) h s) (d : Dao) (a : Pubkey)
    (hcounted : countedWeight env s.clock.slot d (s.ledger a) ≠ 0) :
    ∃ tx steps x ctx registrar, ∃ record : VoterWeightRecord,
      Settles env h x (.updateVoterWeightRecord ctx) tx steps ∧
      Acts env (.updateVoterWeightRecord ctx) a x ∧
      AccountDeserialize.tryDeserialize (x.pre.ledger a).data = .ok record ∧
      (record.governingTokenOwner ∈ tx.signatures ∨
        SignedByProgram env record.governingTokenOwner) ∧
      registrarAt x.pre.ledger (env.address (.registrar d.1 d.2)) = some registrar ∧
      Eligible env x.pre.clock registrar x.pre.ledger record.governingTokenOwner ∧
      s.clock.slot.toNat ≤ x.pre.clock.slot.toNat + 100 := by
  have hk := network_unfolded env h s hrun
  rcases counts_of_counted env _ s hk d a hcounted with ⟨⟨owner, hcreated⟩, slot, hback, hterm⟩
  have ho := (origin_eq_some env _ s hk a _).mpr hcreated
  rcases (since_iff _ _ _).mp hback with ⟨k₁, x, k₀, hsplit, hv, hkept⟩
  rcases backed_place env _ s hk a _ _ owner ho k₁ k₀ x slot hsplit hv hkept with ⟨r', hr', hf⟩
  have hslot := (updates_of_verified env a slot x hv).2
  rcases hv with ⟨ctx, reg, r, hact, _, hr, hsign, hreg, _, helig⟩
  -- The record the update read is the one the account was created for.
  have hsame := hr.symm.trans hr'
  rw [Except.ok.injEq] at hsame
  subst hsame
  rw [hf.realm_eq, hf.mint_eq] at hreg
  have hmem : x ∈ unfolded h := by
    rw [hsplit]
    exact List.mem_append_right _ List.mem_cons_self
  rcases unfolded_instruction env h s hrun x hmem _ hact.1 with ⟨tx, steps, hset⟩
  rw [← hslot] at hterm
  exact ⟨tx, steps, x, ctx, reg, r, hset, hact, hr, hset.signed _ hsign, hreg, helig, hterm⟩

/-! ### A transaction on the cluster -/

/-- An instruction with its own flags. -/
def Instruction.built (ix : Instruction) : TransactionInstruction :=
  ⟨programId, ix.keys.map fun key => ⟨key, ix.isSigner key, ix.isWritable key⟩, ix.data⟩

namespace Devnet

/-- A registrar, a record and its update at once. -/
def launch : Transaction :=
  ⟨payer, votes.map Instruction.built, [payer, authority, voterA]⟩

theorem launch_signed : launch.Signed :=
  signed_of_isSigned launch (by decide +kernel)

/-- The history of this one transaction. -/
def launched (steps : History) (ledger : Ledger) : List (Entry State NetworkEvent) :=
  [⟨genesis, .commit launch steps, ⟨ledger, clock⟩⟩]

/-- The transaction commits, and its vote counts. -/
theorem launch_commits : ∃ steps ledger,
    Run (network env) (launched steps ledger) ⟨ledger, clock⟩ ∧
      countedWeight env clock.slot (realm, mint) (ledger (record mint voterA)) ≠ 0 := by
  have hrun : (launch.run env clock genesis.ledger).any (fun ledger =>
      decide (countedWeight env clock.slot (realm, mint) (ledger (record mint voterA)) ≠ 0)) =
        true := by
    decide +kernel
  rcases (Option.any_eq_true _ _).mp hrun with ⟨ledger, hok, hcounted⟩
  have hown : ∀ ix ∈ launch.instructions, ix.programId = programId := by
    intro ix hix
    rcases List.mem_map.mp hix with ⟨_, _, rfl⟩
    rfl
  rcases (executes_run env clock launch _ _ _ hown).mpr hok with ⟨steps, hexec⟩
  refine ⟨steps, ledger, ?_, of_decide_eq_true hcounted⟩
  refine .step [] genesis (NetworkEvent.commit launch steps) _ (.start _ ?_)
    (NetworkStep.commit genesis launch steps ledger launch_signed hexec)
  exact cluster_genesis _ _ _ _ _ (by decide +kernel) (by decide +kernel) (by decide +kernel)
    (by decide)

/-- What is settled in its history is settled in that transaction. -/
theorem settles_launch (steps : History) (ledger : Ledger) (x : Entry State Event)
    (ix : Instruction) (tx : Transaction) (p : History)
    (hset : Settles env (launched steps ledger) x ix tx p) :
    tx = launch ∧ p = steps := by
  rcases hset.committed with ⟨e, he, hev, _⟩
  rw [List.mem_singleton.mp he, NetworkEvent.commit.injEq] at hev
  exact ⟨hev.1.symm, hev.2.symm⟩

end Devnet

/-- One transaction, as the steps of the program it took. The instructions
    among them are settled in that transaction. -/
theorem network_run_devnet : ∃ steps ledger,
    Run (plugin Devnet.env) steps ⟨ledger, Devnet.clock⟩ ∧
    countedWeight Devnet.env Devnet.clock.slot (Devnet.realm, Devnet.mint)
      (ledger (Devnet.record Devnet.mint Devnet.voterA)) ≠ 0 ∧
    ∀ x ∈ steps, ∀ ix, x.event = .instruction ix →
      Settles Devnet.env (Devnet.launched steps ledger) x ix Devnet.launch steps := by
  rcases Devnet.launch_commits with ⟨steps, ledger, hrun, hcounted⟩
  rcases network_run Devnet.env _ _ hrun with ⟨hk, hall⟩
  have hsteps : unfolded (Devnet.launched steps ledger) = steps := List.append_nil steps
  rw [hsteps] at hk hall
  refine ⟨steps, ledger, hk, hcounted, ?_⟩
  intro x hx ix hev
  rcases hall x hx ix hev with ⟨tx, p, hset⟩
  rcases Devnet.settles_launch steps ledger x ix tx p hset with ⟨rfl, rfl⟩
  exact hset

/-- The vote goes back to an update in that transaction, which the record's
    wallet signed. -/
theorem counted_signed_devnet : ∃ steps ledger x ctx, ∃ record : VoterWeightRecord,
    Settles Devnet.env (Devnet.launched steps ledger) x (.updateVoterWeightRecord ctx)
      Devnet.launch steps ∧
    Acts Devnet.env (.updateVoterWeightRecord ctx) (Devnet.record Devnet.mint Devnet.voterA) x ∧
    AccountDeserialize.tryDeserialize
      (x.pre.ledger (Devnet.record Devnet.mint Devnet.voterA)).data = .ok record ∧
    (record.governingTokenOwner ∈ Devnet.launch.signatures ∨
      SignedByProgram Devnet.env record.governingTokenOwner) := by
  rcases Devnet.launch_commits with ⟨steps, ledger, hrun, hcounted⟩
  rcases counted_signed Devnet.env _ _ hrun _ _ hcounted with
    ⟨tx, p, x, ctx, registrar, record, hset, hact, hr, hsigned, _⟩
  rcases Devnet.settles_launch steps ledger x _ tx p hset with ⟨rfl, rfl⟩
  exact ⟨p, ledger, x, ctx, record, hset, hact, hr, hsigned⟩

end EntrosVoterWeight
