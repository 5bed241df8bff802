import EntrosVoterWeight.Theory.Persistence
import EntrosVoterWeight.Theory.Separation

/-!
# Telling the Kinds Apart

Which of the three loaders accept what the instructions write.

`Content` is a value of one of the kinds, and `Content.Stored` says that
creations and updates can write it. `Holds` is an account of the program that
holds such a value in its allocated size. It loads as its own kind, and the
question is what else it loads as.

A registrar's discriminator is compared, and a max voter weight record is too
short for the other two. Neither is confused with anything else. For the other
pairs it comes down to tags. A max voter weight record has the tag of its
expiry where a voter weight record has the ninth byte of its owner and a
registrar the ninth byte of its mint. A voter weight record has the tags of
its expiry and of its action where a registrar has the two highest bytes of
its window, and those are zero for any window short of nine million years.

## Main definitions

* `Kind`, `Kind.Loads`: The three kinds and their loaders.
* `Content.Stored`: What creations and updates can write.
* `Holds`: An account with such a value.
* `ToldApart`: The account loads as its own kind only.
* `Content.Distinct`: The tag bytes that decide it.

## Theorems

* `accepts_max_of_keys`, `accepts_voter_of_registrar`: The bytes that fall on
  tags.
* `holds_run`: Live accounts hold what can be stored.
* `toldApart_iff`: When an account loads as its own kind only.
* `toldApart_run`: The same of every live account in a run.
* `kinds_confused`: A registrar and a voter weight record that load as more.
-/

namespace EntrosVoterWeight

open Borsh Anchor Transition

/-! ### What the instructions write -/

/-- The three kinds of account. -/
inductive Kind
  | registrar
  | voterWeightRecord
  | maxVoterWeightRecord
deriving DecidableEq

def Place.kind : Place → Kind
  | .registrar _ _ => .registrar
  | .voterWeightRecord _ _ _ => .voterWeightRecord
  | .maxVoterWeightRecord _ _ => .maxVoterWeightRecord

/-- The account loads as the kind. -/
def Kind.Loads (ledger : Ledger) (key : Pubkey) : Kind → Prop
  | .registrar => ∃ r, (loadAccount Registrar ledger key : Except PluginError _) = .ok r
  | .voterWeightRecord =>
    ∃ r, (loadAccount VoterWeightRecord ledger key : Except PluginError _) = .ok r
  | .maxVoterWeightRecord =>
    ∃ r, (loadAccount MaxVoterWeightRecord ledger key : Except PluginError _) = .ok r

/-- What `create_registrar` and `update_registrar` write. -/
inductive Registrar.Stored : Registrar → Prop
  | created (acc : CreateRegistrar) (minTrustScore : UInt16) (maxVerificationAge : Int64) :
      0 < maxVerificationAge → Stored (newRegistrar acc minTrustScore maxVerificationAge)
  | updated (r : Registrar) (minTrustScore : UInt16) (maxVerificationAge : Int64) :
      Stored r → 0 < maxVerificationAge →
      Stored { r with minTrustScore := minTrustScore, maxVerificationAge := maxVerificationAge }

/-- What `create_voter_weight_record` and `update_voter_weight_record`
    write. -/
inductive VoterWeightRecord.Stored (env : Env) : VoterWeightRecord → Prop
  | created (realm governingTokenMint governingTokenOwner : Pubkey) :
      Stored env (newVoterWeightRecord env realm governingTokenMint governingTokenOwner)
  | updated (r : VoterWeightRecord) (slot : UInt64) :
      Stored env r → Stored env (r.activated slot)

/-- What `create_max_voter_weight_record` and `update_max_voter_weight_record`
    write. -/
inductive MaxVoterWeightRecord.Stored (env : Env) : MaxVoterWeightRecord → Prop
  | created (realm governingTokenMint : Pubkey) :
      Stored env (newMaxVoterWeightRecord env realm governingTokenMint)
  | updated (r : MaxVoterWeightRecord) (maxVoterWeight : UInt64) :
      Stored env r → 0 < maxVoterWeight → Stored env (r.withWeight maxVoterWeight)

/-- A value of one of the kinds. -/
inductive Content
  | registrar (r : Registrar)
  | voterWeightRecord (r : VoterWeightRecord)
  | maxVoterWeightRecord (r : MaxVoterWeightRecord)

def Content.kind : Content → Kind
  | .registrar _ => .registrar
  | .voterWeightRecord _ => .voterWeightRecord
  | .maxVoterWeightRecord _ => .maxVoterWeightRecord

def Content.bytes : Content → List UInt8
  | .registrar r => AccountSerialize.trySerialize r
  | .voterWeightRecord r => AccountSerialize.trySerialize r
  | .maxVoterWeightRecord r => AccountSerialize.trySerialize r

/-- The space allocated for a kind. -/
def Kind.space : Kind → Nat
  | .registrar => Registrar.len
  | .voterWeightRecord => VoterWeightRecord.getSpace
  | .maxVoterWeightRecord => MaxVoterWeightRecord.getSpace

/-- The value is one the instructions can write. -/
def Content.Stored (env : Env) : Content → Prop
  | .registrar r => r.Stored
  | .voterWeightRecord r => r.Stored env
  | .maxVoterWeightRecord r => r.Stored env

/-- An account of the program, of its kind's size, that holds a value the
    instructions can write, with anything behind it. -/
structure Holds (env : Env) (ledger : Ledger) (key : Pubkey) (c : Content) : Prop where
  stored : c.Stored env
  owned : (ledger key).owner = programId
  size : (ledger key).data.length = c.kind.space
  data : ∃ rest, (ledger key).data = c.bytes ++ rest

/-- The account loads as the kind of its content and as no other. -/
def ToldApart (ledger : Ledger) (key : Pubkey) (c : Content) : Prop :=
  ∀ k : Kind, k.Loads ledger key ↔ k = c.kind

/-! ### The bytes that decide -/

/-- The seventh byte of a window, where a voter weight record has the tag of
    its expiry. -/
def seventhByte (age : Int64) : UInt8 := UInt8.ofNat (age.toUInt64.toNat / 256 ^ 6)

/-- The eighth byte, where it has the tag of its action if the expiry is
    absent. -/
def eighthByte (age : Int64) : UInt8 := UInt8.ofNat (age.toUInt64.toNat / 256 ^ 7)

/-- The bytes that fall on tags of another kind are no tags. -/
def Content.Distinct : Content → Prop
  | .registrar r =>
    1 < r.governingTokenMint.get 8 ∧
      (1 < seventhByte r.maxVerificationAge ∨
        seventhByte r.maxVerificationAge = 0 ∧ 1 < eighthByte r.maxVerificationAge)
  | .voterWeightRecord r => 1 < r.governingTokenOwner.get 8
  | .maxVoterWeightRecord _ => True

/-- The bytes on which a voter weight record has tags pass for them. -/
def Content.PassesForVoter : Content → Prop
  | .registrar r => seventhByte r.maxVerificationAge = 1 ∨
      seventhByte r.maxVerificationAge = 0 ∧ ¬ 1 < eighthByte r.maxVerificationAge
  | .voterWeightRecord _ => True
  | .maxVoterWeightRecord _ => False

/-- The byte on which a max voter weight record has its tag passes for it. -/
def Content.PassesForMax : Content → Prop
  | .registrar r => ¬ 1 < r.governingTokenMint.get 8
  | .voterWeightRecord r => ¬ 1 < r.governingTokenOwner.get 8
  | .maxVoterWeightRecord _ => True

/-- A byte is a tag, or it is above one. -/
theorem tag_iff_not_lt (b : UInt8) : b = 0 ∨ b = 1 ↔ ¬ 1 < b := by
  rw [UInt8.not_lt, UInt8.le_iff_toNat_le, ← UInt8.toNat_inj, ← UInt8.toNat_inj, UInt8.toNat_zero,
    UInt8.toNat_one]
  omega

/-- Behind the realm and the mint, a max voter weight record goes on with a
    weight and the tag of an expiry. On a key, the tag is its ninth byte. -/
theorem accepts_max_of_keys (d : FixedBytes 8) (a b k : Pubkey) (s : List UInt8) :
    MaxVoterWeightRecord.codec.Accepts
        (d.bytes ++ (a.bytes ++ (b.bytes ++ (k.bytes ++ s)))) ↔ ¬ 1 < k.get 8 := by
  have hkey : k.bytes = k.bytes.take 8 ++ (k.get 8 :: k.bytes.drop 9) := by
    have hlt : 8 < k.bytes.length := by rw [k.size]; omega
    unfold FixedBytes.get
    exact (List.take_append_drop 8 k.bytes).symm.trans
      (congrArg _ (List.drop_eq_getElem_cons hlt))
  have hrest : (k.bytes.drop 9).length = 23 := by rw [List.length_drop, k.size]
  unfold MaxVoterWeightRecord.codec
  rw [Codec.accepts_iso,
    Codec.accepts_skip _ _ 8 (Codec.fixed_bytes 8) _ _ d.size,
    Codec.accepts_skip _ _ 32 (Codec.fixed_bytes 32) _ _ a.size,
    Codec.accepts_skip _ _ 32 (Codec.fixed_bytes 32) _ _ b.size, hkey, List.append_assoc,
    Codec.accepts_skip _ _ 8 Codec.fixed_u64 _ _ (List.length_take_of_le (by rw [k.size]; omega)),
    List.cons_append, Codec.accepts_option,
    Codec.accepts_fixed _ 8 (Codec.fixed_bytes 8),
    Codec.accepts_fixed _ (8 + 8) (Codec.fixed_prod _ _ _ _ Codec.fixed_u64 (Codec.fixed_bytes 8)),
    List.length_append, hrest, ← tag_iff_not_lt]
  -- Either way the key has enough bytes left.
  constructor
  · exact fun h => h.imp And.left And.left
  · exact fun h => h.imp (fun h0 => ⟨h0, by omega⟩) (fun h1 => ⟨h1, by omega⟩)

/-- A window's bytes: six low ones, and the two that fall on tags. -/
theorem encode_window (age : Int64) :
    ∃ low : List UInt8, low.length = 6 ∧
      Codec.i64.encode age = low ++ [seventhByte age, eighthByte age] := by
  refine ⟨leEncode 6 age.toUInt64.toNat, length_leEncode _ _, ?_⟩
  have hbytes : Codec.i64.encode age = leEncode (6 + 2) age.toUInt64.toNat := rfl
  have hhigh : leEncode 2 (age.toUInt64.toNat / 256 ^ 6) = [seventhByte age, eighthByte age] := by
    rw [leEncode, leEncode, leEncode, seventhByte, eighthByte, Nat.div_div_eq_div_mul,
      ← Nat.pow_succ]
  rw [hbytes, leEncode_add, hhigh]

/-- Read as a voter weight record, a registrar has its threshold and the low
    bytes of its window where the weight is. The high bytes and the reserved
    ones behind them have to pass for two tags and what they announce. -/
theorem accepts_voter_of_registrar (r : Registrar) (hres : r.reserved = FixedBytes.zero 64)
    (rest : List UInt8) :
    VoterWeightRecord.codec.Accepts (AccountSerialize.trySerialize r ++ rest) ↔
      seventhByte r.maxVerificationAge = 1 ∨
        seventhByte r.maxVerificationAge = 0 ∧ ¬ 1 < eighthByte r.maxVerificationAge := by
  rcases encode_window r.maxVerificationAge with ⟨low, hlow, hage⟩
  have hscore : (Codec.u16.encode r.minTrustScore).length = 2 := Codec.fixed_u16.length _
  rw [encode_registrar, hage, hres]
  simp only [List.append_assoc]
  unfold VoterWeightRecord.codec
  rw [Codec.accepts_iso,
    Codec.accepts_skip _ _ 8 (Codec.fixed_bytes 8) _ _ (FixedBytes.size _),
    Codec.accepts_skip _ _ 32 (Codec.fixed_bytes 32) _ _ (FixedBytes.size _),
    Codec.accepts_skip _ _ 32 (Codec.fixed_bytes 32) _ _ (FixedBytes.size _),
    Codec.accepts_skip _ _ 32 (Codec.fixed_bytes 32) _ _ (FixedBytes.size _),
    ← List.append_assoc,
    Codec.accepts_skip _ _ 8 Codec.fixed_u64 _ _ (by rw [List.length_append, hscore, hlow])]
  -- The zeros behind the two bytes are absent options, or the first action.
  have htarget : ((Codec.bytes 32).option.prod (Codec.bytes 8)).Accepts
      (List.replicate 64 0 ++ rest) :=
    Codec.accepts_append _ _ _ ⟨(none, FixedBytes.zero 8), List.replicate 55 0, by decide⟩
  have haction : (VoterWeightAction.codec.prod
      ((Codec.bytes 32).option.prod (Codec.bytes 8))).Accepts (List.replicate 64 0 ++ rest) :=
    Codec.accepts_append _ _ _
      ⟨(.castVote, none, FixedBytes.zero 8), List.replicate 54 0, by decide⟩
  have hoptions : (VoterWeightAction.codec.option.prod
      ((Codec.bytes 32).option.prod (Codec.bytes 8))).Accepts (List.replicate 57 0 ++ rest) :=
    Codec.accepts_append _ _ _ ⟨(none, none, FixedBytes.zero 8), List.replicate 47 0, by decide⟩
  have hzeros : (FixedBytes.zero 64).bytes = List.replicate 64 0 := rfl
  have hexpiry : (Codec.u64.prod (VoterWeightAction.codec.option.prod
      ((Codec.bytes 32).option.prod (Codec.bytes 8)))).Accepts
        (eighthByte r.maxVerificationAge :: (List.replicate 64 0 ++ rest)) :=
    (Codec.accepts_skip _ _ 8 Codec.fixed_u64 (eighthByte r.maxVerificationAge ::
      List.replicate 7 0) (List.replicate 57 0 ++ rest) rfl).mpr hoptions
  rw [hzeros, List.cons_append, List.cons_append, List.nil_append, Codec.accepts_option,
    Codec.accepts_option, ← tag_iff_not_lt]
  simp only [htarget, haction, hexpiry, and_true]
  exact or_comm

/-! ### What an account loads as -/

theorem stored_registrar_reserved (r : Registrar) (h : r.Stored) :
    r.reserved = FixedBytes.zero 64 := by
  induction h with
  | created acc t g _ => rfl
  | updated r t g _ _ ih => exact ih

theorem stored_voter_discriminator (env : Env) (r : VoterWeightRecord) (h : r.Stored env) :
    r.accountDiscriminator = env.voterWeightRecordDiscriminator := by
  induction h with
  | created realm mint owner => rfl
  | updated r slot _ ih => exact ih

/-- An account loads as the kind of its content. -/
theorem loads_own (env : Env) (ledger : Ledger) (key : Pubkey) (c : Content)
    (h : Holds env ledger key c) : c.kind.Loads ledger key := by
  rcases h.data with ⟨rest, hdata⟩
  cases c with
  | registrar r => exact (exists_loadAccount_iff ledger key).mpr ⟨h.owned, r, rest, hdata⟩
  | voterWeightRecord r => exact (exists_loadAccount_iff ledger key).mpr ⟨h.owned, r, rest, hdata⟩
  | maxVoterWeightRecord r =>
      exact (exists_loadAccount_iff ledger key).mpr ⟨h.owned, r, rest, hdata⟩

/-- Only a registrar's content loads as one. -/
theorem loads_registrar_iff (env : Env) (ledger : Ledger) (key : Pubkey) (c : Content)
    (h : Holds env ledger key c) : Kind.registrar.Loads ledger key ↔ c.kind = .registrar := by
  constructor
  · intro hload
    rcases hload with ⟨reg, hreg⟩
    rcases head_of_registrar _ reg ((loadAccount_eq_ok ..).mp hreg).2 with ⟨hhead, hlen⟩
    rcases h.data with ⟨rest, hdata⟩
    cases c with
    | registrar r => rfl
    | voterWeightRecord r =>
        -- The record's own discriminator is where the registrar's would be.
        have hr := (head_of_voter _ r ((voterWeightRecord_loads_iff _ r).mpr ⟨rest, hdata⟩)).1
        rw [stored_voter_discriminator env r h.stored, hhead] at hr
        exact absurd (FixedBytes.ext hr).symm env.voter_ne_registrar
    | maxVoterWeightRecord r =>
        have hsize := h.size
        simp only [Content.kind, Kind.space, MaxVoterWeightRecord.getSpace] at hsize
        rw [hsize, Registrar.len] at hlen
        omega
  · intro hk
    have hown := loads_own env ledger key c h
    rw [hk] at hown
    exact hown

/-- What loads as a voter weight record, apart from one: a registrar whose
    window looks like tags. -/
theorem loads_voter_iff (env : Env) (ledger : Ledger) (key : Pubkey) (c : Content)
    (h : Holds env ledger key c) :
    Kind.voterWeightRecord.Loads ledger key ↔ c.PassesForVoter := by
  rcases h.data with ⟨rest, hdata⟩
  cases c with
  | registrar r =>
      have hpass := accepts_voter_of_registrar r (stored_registrar_reserved r h.stored) rest
      have hbytes : AccountSerialize.trySerialize r ++ rest = (ledger key).data := hdata.symm
      rw [hbytes] at hpass
      exact ((exists_loadAccount_iff ledger key).trans (and_iff_right h.owned)).trans hpass
  | voterWeightRecord r => exact iff_true_intro (loads_own env ledger key _ h)
  | maxVoterWeightRecord r =>
      refine iff_false_intro ?_
      intro hload
      rcases hload with ⟨x, hx⟩
      exact voter_of_short _ h.size x ((loadAccount_eq_ok ..).mp hx).2

/-- What loads as a max voter weight record, apart from one: anything with a
    key whose ninth byte is a tag in the right place. -/
theorem loads_max_iff (env : Env) (ledger : Ledger) (key : Pubkey) (c : Content)
    (h : Holds env ledger key c) :
    Kind.maxVoterWeightRecord.Loads ledger key ↔ c.PassesForMax := by
  rcases h.data with ⟨rest, hdata⟩
  have hloads : Kind.maxVoterWeightRecord.Loads ledger key ↔
      MaxVoterWeightRecord.codec.Accepts (c.bytes ++ rest) := by
    rw [← hdata]
    exact (exists_loadAccount_iff ledger key).trans (and_iff_right h.owned)
  rw [hloads]
  cases c with
  | registrar r =>
      rw [Content.bytes, encode_registrar]
      simp only [List.append_assoc]
      exact accepts_max_of_keys _ _ _ _ _
  | voterWeightRecord r =>
      have hbytes : (Content.voterWeightRecord r).bytes = VoterWeightRecord.codec.encode r := rfl
      rw [hbytes, encode_voterWeightRecord]
      simp only [List.append_assoc]
      exact accepts_max_of_keys _ _ _ _ _
  | maxVoterWeightRecord r => exact iff_true_intro ⟨r, rest, rfl⟩

/-- Bytes that pass for neither of the other kinds. -/
theorem distinct_iff (c : Content) :
    c.Distinct ↔ (c.kind ≠ .voterWeightRecord → ¬ c.PassesForVoter) ∧
      (c.kind ≠ .maxVoterWeightRecord → ¬ c.PassesForMax) := by
  cases c with
  | registrar r =>
      have hseven := tag_iff_not_lt (seventhByte r.maxVerificationAge)
      have hne : seventhByte r.maxVerificationAge = 0 → seventhByte r.maxVerificationAge ≠ 1 := by
        intro h0
        rw [h0]
        decide
      simp only [Content.Distinct, Content.kind, Content.PassesForVoter, Content.PassesForMax,
        ne_eq, reduceCtorEq, not_false_eq_true, true_implies, not_not]
      tauto
  | voterWeightRecord r =>
      simp only [Content.Distinct, Content.kind, Content.PassesForMax, ne_eq, reduceCtorEq,
        not_true_eq_false, not_false_eq_true, false_implies, true_implies, true_and, not_not]
  | maxVoterWeightRecord r =>
      simp only [Content.Distinct, Content.kind, Content.PassesForVoter, ne_eq, reduceCtorEq,
        not_true_eq_false, not_false_eq_true, false_implies, true_implies, and_true]

/-! ### What live accounts hold -/

/-- Another owner does not make a record less storable. -/
theorem stored_owner (env : Env) (r : VoterWeightRecord) (owner : Pubkey) (h : r.Stored env) :
    VoterWeightRecord.Stored env { r with governingTokenOwner := owner } := by
  induction h with
  | created realm mint owner' => exact .created realm mint owner
  | updated r slot _ ih => exact .updated _ slot ih

/-- A live account's data starts with a value of its kind that can be
    stored. -/
def Keeps (env : Env) : Option Place → Account → Prop
  | none, _ => True
  | some (.registrar _ _), acc =>
    ∃ r : Registrar, r.Stored ∧ ∃ rest, acc.data = AccountSerialize.trySerialize r ++ rest
  | some (.voterWeightRecord _ _ _), acc =>
    ∃ r : VoterWeightRecord, r.Stored env ∧
      ∃ rest, acc.data = AccountSerialize.trySerialize r ++ rest
  | some (.maxVoterWeightRecord _ _), acc =>
    ∃ r : MaxVoterWeightRecord, r.Stored env ∧
      ∃ rest, acc.data = AccountSerialize.trySerialize r ++ rest

/-- A successful instruction leaves its target with a value that can be
    stored. -/
theorem keeps_process (env : Env) (clock : Clock) (ix : Instruction) (o : Pubkey → Option Place)
    (ledger ledger' : Ledger) (hc : Consistent env o ledger)
    (hk : ∀ a, Keeps env (o a) (ledger a)) (hp : process env clock ix ledger = .ok ledger') :
    Keeps env (ix.becomes ledger (o ix.target)) (ledger' ix.target) := by
  cases ix with
  | createRegistrar ctx t g =>
      rcases (createRegistrar_eq_ok ..).mp hp with ⟨h, rfl⟩
      simp only [Instruction.target, Function.update_self]
      exact ⟨newRegistrar ctx.accounts t g, .created _ _ _ h.age_pos, [], (List.append_nil _).symm⟩
  | createVoterWeightRecord ctx owner =>
      rcases (createVoterWeightRecord_eq_ok ..).mp hp with ⟨reg, h, rfl⟩
      have hreg := (registrarAt_eq_some ..).mpr ⟨h.registrar_owner, h.registrar_loads⟩
      simp only [Instruction.target, Function.update_self, Instruction.becomes, hreg,
        Option.map_some]
      exact ⟨_, .created _ _ _, _, rfl⟩
  | createMaxVoterWeightRecord ctx =>
      rcases (createMaxVoterWeightRecord_eq_ok ..).mp hp with ⟨reg, h, rfl⟩
      have hreg := (registrarAt_eq_some ..).mpr ⟨h.registrar_owner, h.registrar_loads⟩
      simp only [Instruction.target, Function.update_self, Instruction.becomes, hreg,
        Option.map_some]
      exact ⟨_, .created _ _, [], (List.append_nil _).symm⟩
  | closeRegistrar ctx => exact trivial
  | closeVoterWeightRecord ctx => exact trivial
  | updateRegistrar ctx t g =>
      rcases (updateRegistrar_eq_ok ..).mp hp with ⟨reg, h, hage, _, rfl⟩
      rcases consistent_registrar env o ledger hc _ reg h.owner h.loads with ⟨ho, _, _⟩
      have hold := hk ctx.accounts.registrar
      rw [ho] at hold
      rcases hold with ⟨r, hstored, rest, hdata⟩
      have hr := loaded_eq _ rest reg r h.loads hdata
      subst hr
      simp only [Instruction.target, Instruction.becomes, Function.update_self, ho]
      exact ⟨_, .updated _ t g hstored hage, _, rfl⟩
  | updateVoterWeightRecord ctx =>
      rcases recordUpdated_of_ok env clock ctx ledger ledger' hp with ⟨reg, record, h⟩
      rcases consistent_controls env o ledger hc _ _ _ _ _ reg record h.controls with ⟨owner, ho⟩
      have hold := hk ctx.accounts.voterWeightRecord
      rw [ho] at hold
      rcases hold with ⟨r, hstored, rest, hdata⟩
      have hr := loaded_eq _ rest record r h.controls.record_loads hdata
      subst hr
      simp only [Instruction.target, Instruction.becomes, ho, h.result]
      exact ⟨_, .updated _ _ hstored, _, rfl⟩
  | updateMaxVoterWeightRecord ctx w =>
      rcases maxUpdated_of_ok env clock ctx w ledger ledger' hp with ⟨reg, m, h⟩
      have hold := hk ctx.accounts.maxVoterWeightRecord
      rcases consistent_accepts env o ledger hc ctx reg m h.accepts with ⟨owner, ho⟩ | ho
      · rw [ho] at hold
        rcases hold with ⟨r, hstored, rest, hdata⟩
        -- On a voter weight record, the write lands on the owner.
        rcases overwrite_max_voter _ r m w rest hdata h.accepts.record_loads with
          ⟨owner', _, hnew⟩
        simp only [Instruction.target, Instruction.becomes, ho, h.result]
        exact ⟨_, stored_owner env r owner' hstored, rest, hnew⟩
      · rw [ho] at hold
        rcases hold with ⟨r, hstored, rest, hdata⟩
        have hr := loaded_eq _ rest m r h.accepts.record_loads hdata
        subst hr
        simp only [Instruction.target, Instruction.becomes, ho, h.result]
        exact ⟨_, .updated _ w hstored h.weight_pos, _, rfl⟩

theorem keeps_run (env : Env) (hspec : GovernanceSpec env) (h : History) (s : State)
    (hrun : Run (plugin env) h s) (hsep : ∀ e ∈ h, Separated env e.pre.ledger) (a : Pubkey) :
    Keeps env (origin env h a) (s.ledger a) := by
  induction hrun generalizing a with
  | start s _ => exact trivial
  | step h s e s' hr hst ih =>
      have hpast : ∀ x ∈ h, Separated env x.pre.ledger := fun x hx =>
        hsep x (List.mem_cons_of_mem _ hx)
      rcases step_account env h s s' e hst a with ⟨ix, hact, horig⟩ | ⟨_, horig, hkept⟩
      · have htgt := hact.2.1
        subst htgt
        rw [horig]
        exact keeps_process env s.clock ix (origin env h) s.ledger s'.ledger
          (consistent_run env hspec h s hr hpast) (ih hpast) hact.2.2
      · rw [horig]
        rcases ho : origin env h a with _ | p
        · exact trivial
        · -- A live account that no instruction acts on stays as it was.
          have hs := shape_run env h s hr a
          rw [ho] at hs
          rw [hkept (shape_placed env p a _ hs).1, ← ho]
          exact ih hpast a

/-- In a run in which programs are not accepted as realms, every live account
    holds a value of its kind that can be stored. -/
theorem holds_run (env : Env) (hspec : GovernanceSpec env) (h : History) (s : State)
    (hrun : Run (plugin env) h s) (hsep : ∀ e ∈ h, Separated env e.pre.ledger) (a : Pubkey)
    (p : Place) (ho : origin env h a = some p) : ∃ c, c.kind = p.kind ∧ Holds env s.ledger a c := by
  have hkeeps := keeps_run env hspec h s hrun hsep a
  have hs := shape_run env h s hrun a
  rw [ho] at hkeeps hs
  have hown := (shape_placed env p a _ hs).1
  cases p with
  | registrar realm mint =>
      rcases hkeeps with ⟨r, hstored, hdata⟩
      exact ⟨.registrar r, rfl, hstored, hown, RegistrarShape.length hs, hdata⟩
  | voterWeightRecord realm mint owner =>
      rcases hkeeps with ⟨r, hstored, hdata⟩
      exact ⟨.voterWeightRecord r, rfl, hstored, hown, VoterShape.length hs, hdata⟩
  | maxVoterWeightRecord realm mint =>
      rcases hkeeps with ⟨r, hstored, hdata⟩
      exact ⟨.maxVoterWeightRecord r, rfl, hstored, hown, MaxShape.length hs, hdata⟩

/-! ### One loader for each account -/

/-- An account that loads as its own kind only passes for no other. -/
theorem distinct_of_toldApart (env : Env) (ledger : Ledger) (key : Pubkey) (c : Content)
    (h : Holds env ledger key c) (hall : ToldApart ledger key c) : c.Distinct := by
  refine (distinct_iff c).mpr ⟨?_, ?_⟩
  · intro hk hpass
    exact hk ((hall _).mp ((loads_voter_iff env ledger key c h).mpr hpass)).symm
  · intro hk hpass
    exact hk ((hall _).mp ((loads_max_iff env ledger key c h).mpr hpass)).symm

/-- And one that passes for no other loads as its own kind only. -/
theorem toldApart_of_distinct (env : Env) (ledger : Ledger) (key : Pubkey) (c : Content)
    (h : Holds env ledger key c) (hdistinct : c.Distinct) : ToldApart ledger key c := by
  rcases (distinct_iff c).mp hdistinct with ⟨hvoter, hmax⟩
  intro k
  constructor
  · intro hload
    by_contra hk
    cases k with
    | registrar => exact hk ((loads_registrar_iff env ledger key c h).mp hload).symm
    | voterWeightRecord =>
        exact hvoter (Ne.symm hk) ((loads_voter_iff env ledger key c h).mp hload)
    | maxVoterWeightRecord =>
        exact hmax (Ne.symm hk) ((loads_max_iff env ledger key c h).mp hload)
  · intro hk
    rw [hk]
    exact loads_own env ledger key c h

/-- An account loads as its own kind only, exactly if its bytes that fall on
    tags of another kind are none. -/
theorem toldApart_iff (env : Env) (ledger : Ledger) (key : Pubkey) (c : Content)
    (h : Holds env ledger key c) : ToldApart ledger key c ↔ c.Distinct :=
  ⟨distinct_of_toldApart env ledger key c h, toldApart_of_distinct env ledger key c h⟩

/-- In a run, every live account holds a value of its kind, and the bytes of
    that value decide whether it loads as that kind only. -/
theorem toldApart_run (env : Env) (hspec : GovernanceSpec env) (h : History) (s : State)
    (hrun : Run (plugin env) h s) (hsep : ∀ e ∈ h, Separated env e.pre.ledger) (a : Pubkey)
    (p : Place) (ho : origin env h a = some p) :
    ∃ c, c.kind = p.kind ∧ Holds env s.ledger a c ∧ (ToldApart s.ledger a c ↔ c.Distinct) := by
  rcases holds_run env hspec h s hrun hsep a p ho with ⟨c, hkind, hholds⟩
  exact ⟨c, hkind, hholds, distinct_of_toldApart env s.ledger a c hholds,
    toldApart_of_distinct env s.ledger a c hholds⟩

namespace Devnet

/-- What the registrar holds after its creation. -/
def registrarContent : Content :=
  .registrar ⟨governance, realm, mint, 50, 2592000, FixedBytes.zero 64⟩

/-- What the first wallet's record holds after its creation. -/
def recordContent : Content := .voterWeightRecord (newVoterWeightRecord env realm mint voterA)

/-- What the max voter weight record holds once it is set. -/
def maxRecordContent : Content :=
  .maxVoterWeightRecord ((newMaxVoterWeightRecord env realm mint).withWeight 21)

theorem holds_registrarContent :
    Holds env (after configured).2.ledger (registrar mint) registrarContent where
  stored := .created ⟨registrar mint, governance, realm, mint, authority, payer, systemProgramId⟩
    50 2592000 (by decide)
  owned := by decide +kernel
  size := by decide +kernel
  data := ⟨[], by decide +kernel⟩

theorem holds_recordContent :
    Holds env (after configured).2.ledger (record mint voterA) recordContent where
  stored := .created realm mint voterA
  owned := by decide +kernel
  size := by decide +kernel
  data := ⟨List.replicate 33 0, by decide +kernel⟩

theorem holds_maxRecordContent :
    Holds env (after configured).2.ledger maxRecord maxRecordContent where
  stored := .updated _ 21 (.created realm mint) (by decide)
  owned := by decide +kernel
  size := by decide +kernel
  data := ⟨List.replicate 8 0, by decide +kernel⟩

end Devnet

/-- An ordinary registrar, with a window of thirty days, loads as a voter
    weight record too; and the record of a wallet whose key has a zero behind
    its first eight bytes, as a max voter weight record. -/
theorem kinds_confused :
    Run (plugin Devnet.env) (Devnet.after Devnet.configured).1
      (Devnet.after Devnet.configured).2 ∧
    (Holds Devnet.env (Devnet.after Devnet.configured).2.ledger (Devnet.registrar Devnet.mint)
        Devnet.registrarContent ∧
      ¬ ToldApart (Devnet.after Devnet.configured).2.ledger (Devnet.registrar Devnet.mint)
        Devnet.registrarContent) ∧
    Holds Devnet.env (Devnet.after Devnet.configured).2.ledger
        (Devnet.record Devnet.mint Devnet.voterA) Devnet.recordContent ∧
      ¬ ToldApart (Devnet.after Devnet.configured).2.ledger
        (Devnet.record Devnet.mint Devnet.voterA) Devnet.recordContent := by
  refine ⟨Devnet.after_run _, ⟨Devnet.holds_registrarContent, fun hall => ?_⟩,
    Devnet.holds_recordContent, fun hall => ?_⟩
  · have hload := (loads_voter_iff _ _ _ _ Devnet.holds_registrarContent).mpr
      (Or.inr ⟨by decide, by decide⟩)
    exact Kind.noConfusion ((hall .voterWeightRecord).mp hload)
  · have hload := (loads_max_iff _ _ _ _ Devnet.holds_recordContent).mpr
      (show ¬ 1 < Devnet.voterA.get 8 by decide)
    exact Kind.noConfusion ((hall .maxVoterWeightRecord).mp hload)

/-- The max voter weight record is told apart; the registrar is not. -/
theorem toldApart_iff_devnet :
    ToldApart (Devnet.after Devnet.configured).2.ledger Devnet.maxRecord
      Devnet.maxRecordContent ∧
    ¬ ToldApart (Devnet.after Devnet.configured).2.ledger (Devnet.registrar Devnet.mint)
      Devnet.registrarContent := by
  refine ⟨(toldApart_iff _ _ _ _ Devnet.holds_maxRecordContent).mpr trivial, fun hall => ?_⟩
  have hdistinct := (toldApart_iff _ _ _ _ Devnet.holds_registrarContent).mp hall
  -- Whatever the mint, two zeros of the window are where tags would be.
  rcases hdistinct with ⟨_, hseven | ⟨_, height⟩⟩
  · exact absurd hseven (by decide)
  · exact absurd height (by decide)

end EntrosVoterWeight
