import ChainWatch.Action.Registry
import ChainWatch.Proofs.Frame
import ChainWatch.Proofs.Numerals

/-!
# Documents that become rows

A handler examines the fields of an action's documents one after the other.  It gives a row
exactly if every field has what is asked of it, the row then holds what the fields have, and
otherwise the error is about the first field that does not have it.  Doubles are left aside.

* `FieldCheck` : what is asked of a field; `FirstOffence` : the check that an error is about.
* `Examined` : a result comes of checks.
* `Examined.single`, `Examined.bind` : one check, and some checks after others.
* `Fields.text_examined`, `Fields.number_examined`, … : the fields by what is asked of them.
* `StakeRow.ofAction_examined`, `AssetRow.ofAction_examined` : the two rows.
-/

namespace ChainWatch

/-! ### Fields -/

namespace Fields

/-- The document does not have the field, or has null for it. -/
def Lacks (f : Fields) (field : String) : Prop :=
  f.members.get? field = none ∨ f.members.get? field = some .null

/-- The document has a text for the field. -/
def HasText (f : Fields) (field s : String) : Prop :=
  f.members.get? field = some (.str s)

/-- The document has a text for the field that is not empty. -/
def HasName (f : Fields) (field s : String) : Prop := f.HasText field s ∧ s ≠ ""

/-- The document has a number within a limit for the field. -/
def HasNumber (f : Fields) (field : String) (limit n : Nat) : Prop :=
  ∃ v, f.members.get? field = some v ∧ v.Denotes n ∧ n ≤ limit

/-- The document has a text for the field, or lacks it. -/
def HasOptText (f : Fields) (field : String) : Option String → Prop
  | none => f.Lacks field
  | some s => f.HasText field s

/-- The document has a number within a limit for the field, or lacks it. -/
def HasOptNumber (f : Fields) (field : String) (limit : Nat) : Option Nat → Prop
  | none => f.Lacks field
  | some n => f.HasNumber field limit n

/-- No field of the document has a double. -/
def NoDoubles (f : Fields) : Prop := ∀ field x, f.members.get? field ≠ some (.float x)

variable {f : Fields} {field : String}

theorem noDoubles_of_forall (h : ∀ m ∈ f.members, ∀ x, m.2 ≠ .float x) : f.NoDoubles := by
  intro field x hget
  obtain ⟨front, back, heq, -⟩ := List.lookup_eq_some_iff.1 hget
  exact h (field, .float x) (by simp [heq]) x rfl

theorem get?_eq_none_iff : f.get? field = none ↔ f.Lacks field := by
  unfold get? Lacks
  cases f.members.get? field <;> simp [Option.filter]

theorem get?_eq_some_iff {v : Json} :
    f.get? field = some v ↔ f.members.get? field = some v ∧ v ≠ .null := by
  simp [get?, Option.filter_eq_some_iff]

theorem not_lacks_of_get? {v : Json} (h : f.get? field = some v) : ¬ f.Lacks field := by
  rw [← get?_eq_none_iff, h]
  exact Option.some_ne_none v

theorem hasText_iff {s : String} : f.HasText field s ↔ f.get? field = some (.str s) := by
  simp [HasText, get?_eq_some_iff]

theorem hasOptText_iff {s? : Option String} :
    f.HasOptText field s? ↔ f.get? field = s?.map .str := by
  cases s? with
  | none => exact get?_eq_none_iff.symm
  | some s => exact hasText_iff

theorem hasNumber_iff {limit n : Nat} :
    f.HasNumber field limit n ↔ ∃ v, f.get? field = some v ∧ v.Denotes n ∧ n ≤ limit := by
  refine exists_congr fun v => ?_
  rw [get?_eq_some_iff]
  constructor
  · rintro ⟨h, hdenotes, hle⟩
    refine ⟨⟨h, ?_⟩, hdenotes, hle⟩
    rintro rfl
    cases hdenotes
  · rintro ⟨⟨h, -⟩, hdenotes, hle⟩
    exact ⟨h, hdenotes, hle⟩

theorem HasNumber.le {limit n : Nat} (h : f.HasNumber field limit n) : n ≤ limit := by
  obtain ⟨v, -, -, hle⟩ := h
  exact hle

end Fields

/-! ### Checks -/

/-- What a field has to have. -/
inductive FieldRule
  /-- A text that is not empty. -/
  | text
  /-- Any text, or nothing. -/
  | optText
  /-- A number within a limit. -/
  | number (limit : Nat)
  /-- A number within a limit, or nothing. -/
  | optNumber (limit : Nat)

/-- A field of a document and what it has to have. -/
structure FieldCheck where
  document : Fields
  field : String
  rule : FieldRule

namespace FieldCheck

/-- The field has what it has to have. -/
def Passes (c : FieldCheck) : Prop :=
  match c.rule with
  | .text => ∃ s, c.document.HasName c.field s
  | .optText => c.document.Lacks c.field ∨ ∃ s, c.document.HasText c.field s
  | .number limit => ∃ n, c.document.HasNumber c.field limit n
  | .optNumber limit => c.document.Lacks c.field ∨ ∃ n, c.document.HasNumber c.field limit n

/-- An error is about the field: that it is missing if the document lacks it, and that it is
malformed otherwise. -/
inductive Names (c : FieldCheck) : FieldError → Prop
  | missing (h : c.document.Lacks c.field) : Names c (.missing c.document.action c.field)
  | malformed (h : ¬ c.document.Lacks c.field) (reason : String) :
    Names c (.malformed c.document.action c.field reason)

end FieldCheck

/-- An error is about the first check that does not pass. -/
def FirstOffence (checks : List FieldCheck) (e : FieldError) : Prop :=
  ∃ front c back, checks = front ++ c :: back ∧
    (∀ d ∈ front, d.Passes) ∧ ¬ c.Passes ∧ c.Names e

/-- A result comes of checks: there is a value exactly if all of them pass, it is the one that is
told, and an error is about the first check that does not pass. -/
structure Examined {α : Type} (checks : List FieldCheck) (Told : α → Prop)
    (result : Except FieldError α) : Prop where
  accepted : (∃ a, result = .ok a) ↔ ∀ c ∈ checks, c.Passes
  carried : ∀ a, result = .ok a ↔ Told a
  refused : ∀ e, result = .error e → FirstOffence checks e

namespace Examined

variable {α β : Type} {checks : List FieldCheck} {Told : α → Prop} {result : Except FieldError α}

theorem pure (a : α) : Examined [] (· = a) (pure a) where
  accepted := by simp [Pure.pure, Except.pure]
  carried b := by simp [Pure.pure, Except.pure, eq_comm]
  refused e h := by cases h

/-- A single check passes if it gives a value, so its error only has to be about the field. -/
theorem single {c : FieldCheck} (hpasses : c.Passes ↔ ∃ a, Told a)
    (hok : ∀ a, result = .ok a ↔ Told a) (herror : ∀ e, result = .error e → c.Names e) :
    Examined [c] Told result where
  accepted := by simp [hok, hpasses]
  carried := hok
  refused e h := by
    refine ⟨[], c, [], rfl, by simp, fun hc => ?_, herror e h⟩
    obtain ⟨a, ha⟩ := hpasses.1 hc
    rw [(hok a).2 ha] at h
    cases h

/-- Checks after others; they may depend on what the others found. -/
theorem bind {more : List FieldCheck} {Then : α → β → Prop} {k : α → Except FieldError β}
    (hresult : Examined checks Told result)
    (hk : ∀ a, Told a → Examined more (Then a) (k a)) :
    Examined (checks ++ more) (fun b => ∃ a, Told a ∧ Then a b) (result >>= k) where
  accepted := by
    rw [List.forall_mem_append, ← hresult.accepted]
    constructor
    · rintro ⟨b, hb⟩
      obtain ⟨a, ha, hb⟩ := bind_eq_ok.1 hb
      exact ⟨⟨a, ha⟩, (hk a ((hresult.carried a).1 ha)).accepted.1 ⟨b, hb⟩⟩
    · rintro ⟨⟨a, ha⟩, hmore⟩
      obtain ⟨b, hb⟩ := (hk a ((hresult.carried a).1 ha)).accepted.2 hmore
      exact ⟨b, bind_eq_ok.2 ⟨a, ha, hb⟩⟩
  carried b := by
    rw [bind_eq_ok]
    refine exists_congr fun a => ?_
    rw [hresult.carried a]
    exact and_congr_right fun ha => (hk a ha).carried b
  refused e h := by
    rcases bind_eq_error.1 h with herror | ⟨a, ha, herror⟩
    · obtain ⟨front, c, back, rfl, hfront, hc⟩ := hresult.refused e herror
      exact ⟨front, c, back ++ more, by simp, hfront, hc⟩
    · -- the first checks have all passed, so they stand before the offence
      obtain ⟨front, c, back, rfl, hfront, hc⟩ :=
        (hk a ((hresult.carried a).1 ha)).refused e herror
      refine ⟨checks ++ front, c, back, by simp, ?_, hc⟩
      exact List.forall_mem_append.2 ⟨hresult.accepted.1 ⟨a, ha⟩, hfront⟩

/-- The result and what is told may be put in other words. -/
theorem congr {Said : α → Prop} {other : Except FieldError α}
    (hresult : Examined checks Told result) (heq : other = result) (h : ∀ a, Told a ↔ Said a) :
    Examined checks Said other where
  accepted := by rw [heq, hresult.accepted]
  carried a := by rw [heq, hresult.carried a, h a]
  refused e he := hresult.refused e (heq ▸ he)

end Examined

/-! ### Texts -/

namespace Fields

theorem names_of_lacks {f : Fields} {field : String} {rule : FieldRule} (h : f.get? field = none) :
    FieldCheck.Names ⟨f, field, rule⟩ (.missing f.action field) :=
  .missing (get?_eq_none_iff.1 h)

theorem names_of_get? {f : Fields} {field : String} {rule : FieldRule} {v : Json}
    (h : f.get? field = some v) (reason : String) :
    FieldCheck.Names ⟨f, field, rule⟩ (.malformed f.action field reason) :=
  .malformed (not_lacks_of_get? h) reason

section Texts

variable (f : Fields) (field : String)

theorem text_examined :
    Examined [⟨f, field, .text⟩] (f.HasName field) (f.text field) := by
  refine .single Iff.rfl (fun s => ?_) (fun e h => ?_)
  · rw [HasName, hasText_iff, text]
    cases f.get? field with
    | none => simp [missing]
    | some v =>
      cases v with
      | str t =>
        by_cases hempty : t = ""
        · simp [malformed, hempty]
        · simp only [String.isEmpty_iff, hempty, if_false, Except.ok.injEq, Option.some.injEq,
            Json.str.injEq]
          exact ⟨fun h => ⟨h, h ▸ hempty⟩, fun h => h.1⟩
      | _ => simp [malformed]
  · unfold text at h
    split at h
    next hnone =>
      cases h
      exact names_of_lacks hnone
    next hget =>
      split at h
      next =>
        cases h
        exact names_of_get? hget _
      next => cases h
    next hget =>
      cases h
      exact names_of_get? hget _

theorem optText_examined :
    Examined [⟨f, field, .optText⟩] (f.HasOptText field) (f.optText field) := by
  refine .single ?_ (fun s? => ?_) (fun e h => ?_)
  · simp [FieldCheck.Passes, Option.exists, HasOptText]
  · rw [hasOptText_iff, optText]
    cases f.get? field with
    | none => cases s? <;> simp
    | some v => cases v <;> cases s? <;> simp [malformed]
  · unfold optText at h
    split at h
    next => cases h
    next => cases h
    next hget =>
      cases h
      exact names_of_get? hget _

end Texts

/-! ### Numbers -/

variable {f : Fields} {field : String} {limit : Nat}

theorem unsigned_eq_ok_iff {n : Nat} (hdoubles : f.NoDoubles) (hlimit : limit ≤ maxUnsigned)
    (hle : n ≤ limit) : f.unsigned field = .ok n ↔ f.HasNumber field limit n := by
  rw [hasNumber_iff, unsigned]
  cases hget : f.get? field with
  | none => simp [missing]
  | some v =>
    have hfloat : ∀ x, v ≠ .float x := by
      rintro x rfl
      exact hdoubles field x (get?_eq_some_iff.1 hget).1
    simp [toUnsigned_eq_ok_iff hfloat (Nat.le_trans hle hlimit), hle]

theorem unsigned_error {rule : FieldRule} {e : FieldError} (h : f.unsigned field = .error e) :
    FieldCheck.Names ⟨f, field, rule⟩ e := by
  unfold unsigned at h
  split at h
  next hnone =>
    cases h
    exact names_of_lacks hnone
  next v hget =>
    obtain ⟨reason, rfl⟩ := toUnsigned_error h
    exact names_of_get? hget reason

section Use

/-! A number may be put to a use that only works within the limit. -/

variable {α : Type} {use : Nat → Except FieldError α}
  (herror : ∀ n e, use n = .error e → ∃ reason, e = .malformed f.action field reason)

include herror

theorem unsigned_bind_error {rule : FieldRule} {e : FieldError}
    (h : (f.unsigned field >>= use) = .error e) : FieldCheck.Names ⟨f, field, rule⟩ e := by
  rcases bind_eq_error.1 h with hunsigned | ⟨n, hn, huse⟩
  · exact unsigned_error hunsigned
  · obtain ⟨reason, rfl⟩ := herror n e huse
    cases hget : f.get? field with
    | none => simp [unsigned, missing, hget] at hn
    | some v => exact names_of_get? hget reason

theorem unsigned_bind_examined (Gives : Nat → α → Prop) (hdoubles : f.NoDoubles)
    (hlimit : limit ≤ maxUnsigned) (hok : ∀ n a, use n = .ok a ↔ n ≤ limit ∧ Gives n a)
    (hgives : ∀ n ≤ limit, ∃ a, Gives n a) :
    Examined [⟨f, field, .number limit⟩] (fun a => ∃ n, f.HasNumber field limit n ∧ Gives n a)
      (f.unsigned field >>= use) := by
  refine .single ?_ (fun a => ?_) (fun e => unsigned_bind_error herror)
  · constructor
    · rintro ⟨n, hn⟩
      obtain ⟨a, ha⟩ := hgives n hn.le
      exact ⟨a, n, hn, ha⟩
    · rintro ⟨a, n, hn, -⟩
      exact ⟨n, hn⟩
  · rw [bind_eq_ok]
    constructor
    · rintro ⟨n, hn, ha⟩
      obtain ⟨hle, hgives⟩ := (hok n a).1 ha
      exact ⟨n, (unsigned_eq_ok_iff hdoubles hlimit hle).1 hn, hgives⟩
    · rintro ⟨n, hn, ha⟩
      exact ⟨n, (unsigned_eq_ok_iff hdoubles hlimit hn.le).2 hn, (hok n a).2 ⟨hn.le, ha⟩⟩

end Use

theorem narrow_eq_ok_iff {n m : Nat} : f.narrow field limit n = .ok m ↔ n ≤ limit ∧ m = n := by
  by_cases hle : n ≤ limit
  · simp [narrow, hle, eq_comm]
  · simp [narrow, malformed, hle]

theorem narrow_error (n : Nat) (e : FieldError) (h : f.narrow field limit n = .error e) :
    ∃ reason, e = .malformed f.action field reason := by
  unfold narrow at h
  split at h
  next => cases h
  next =>
    cases h
    exact ⟨_, rfl⟩

/-- A number within a limit that has to be there. -/
def number (f : Fields) (field : String) (limit : Nat) : Except FieldError Nat :=
  f.unsigned field >>= f.narrow field limit

/-- A number within a limit that may be absent. -/
def optNumber (f : Fields) (field : String) (limit : Nat) : Except FieldError (Option Nat) :=
  match f.get? field with
  | none => .ok none
  | some _ => f.number field limit >>= fun n => .ok (some n)

theorem optSigned_eq : f.optSigned field = f.optNumber field maxSigned := by
  unfold optSigned optNumber number unsigned
  cases f.get? field <;> rfl

variable (hdoubles : f.NoDoubles) (hlimit : limit ≤ maxUnsigned) (field)

include hdoubles hlimit

theorem number_examined :
    Examined [⟨f, field, .number limit⟩] (f.HasNumber field limit) (f.number field limit) := by
  refine Examined.congr (unsigned_bind_examined narrow_error (fun n m => m = n) hdoubles hlimit
    (fun n m => narrow_eq_ok_iff) (fun n _ => ⟨n, rfl⟩)) rfl fun m => ?_
  simp

theorem optNumber_examined :
    Examined [⟨f, field, .optNumber limit⟩] (f.HasOptNumber field limit)
      (f.optNumber field limit) := by
  refine .single ?_ (fun n? => ?_) (fun e h => ?_)
  · simp [FieldCheck.Passes, Option.exists, HasOptNumber]
  · have hnumber := (number_examined field hdoubles hlimit).carried
    unfold optNumber
    cases hget : f.get? field with
    | none =>
      cases n? with
      | none => simp [HasOptNumber, get?_eq_none_iff.1 hget]
      | some n => simp [HasOptNumber, hasNumber_iff, hget]
    | some v =>
      cases n? with
      | none => simp [HasOptNumber, bind_eq_ok, not_lacks_of_get? hget]
      | some n => simp [HasOptNumber, bind_eq_ok, hnumber]
  · unfold optNumber at h
    split at h
    next => cases h
    next =>
      rcases bind_eq_error.1 h with hnumber | ⟨n, -, h⟩
      · exact unsigned_bind_error narrow_error hnumber
      · cases h

end Fields

theorem maxSigned_le : maxSigned ≤ maxUnsigned := by decide

theorem maxCount_le : maxCount ≤ maxUnsigned := by decide

/-! ### Stakes -/

namespace StakeRow

/-- The document that tells of a stake. -/
def document (ctx : ActionContext) : Fields := ⟨"RegisterValidatorStake", ctx.output⟩

/-- What is asked of the document, in the order of the examination. -/
def checks (ctx : ActionContext) : List FieldCheck :=
  [⟨document ctx, "node_id", .text⟩,
   ⟨document ctx, "stake_start_block", .number maxSigned⟩,
   ⟨document ctx, "stake_end_block", .number maxSigned⟩,
   ⟨document ctx, "staked_amount", .number maxSigned⟩,
   ⟨document ctx, "delegation_fee_rate", .number maxSigned⟩,
   ⟨document ctx, "reward_address", .text⟩]

/-- A row holds what the document and the transaction tell. -/
structure Tells (ctx : ActionContext) (row : StakeRow) : Prop where
  nodeId : (document ctx).HasName "node_id" row.nodeId
  startBlock : ∃ n : Nat, row.startBlock = n ∧
    (document ctx).HasNumber "stake_start_block" maxSigned n
  endBlock : (document ctx).HasNumber "stake_end_block" maxSigned row.endBlock
  amount : (document ctx).HasNumber "staked_amount" maxSigned row.amount
  feeRate : (document ctx).HasNumber "delegation_fee_rate" maxSigned row.feeRate
  rewardAddress : (document ctx).HasName "reward_address" row.rewardAddress
  actor : row.actor = ctx.sponsor
  txHash : row.txHash = ctx.txHash
  timestamp : row.timestamp = ctx.timestamp

open Fields in
theorem ofAction_examined {ctx : ActionContext} (h : (document ctx).NoDoubles) :
    Examined (checks ctx) (Tells ctx) (ofAction ctx) := by
  have hsteps := Examined.bind (text_examined (document ctx) "node_id") fun nodeId _ =>
    .bind (number_examined "stake_start_block" h maxSigned_le) fun startBlock _ =>
    .bind (number_examined "stake_end_block" h maxSigned_le) fun endBlock _ =>
    .bind (number_examined "staked_amount" h maxSigned_le) fun amount _ =>
    .bind (number_examined "delegation_fee_rate" h maxSigned_le) fun feeRate _ =>
    .bind (text_examined (document ctx) "reward_address") fun rewardAddress _ =>
    .pure (StakeRow.mk nodeId startBlock ctx.sponsor endBlock amount feeRate rewardAddress
      ctx.txHash ctx.timestamp)
  refine hsteps.congr rfl fun row => ⟨?_, fun hrow => ?_⟩
  · rintro ⟨nodeId, hnode, startBlock, hstart, endBlock, hend, amount, hamount, feeRate, hfee,
      rewardAddress, hreward, rfl⟩
    exact ⟨hnode, ⟨startBlock, rfl, hstart⟩, hend, hamount, hfee, hreward, rfl, rfl, rfl⟩
  · obtain ⟨nodeId, _, actor, endBlock, amount, feeRate, rewardAddress, txHash, timestamp⟩ := row
    obtain ⟨hnode, ⟨startBlock, rfl, hstart⟩, hend, hamount, hfee, hreward, rfl, rfl, rfl⟩ := hrow
    exact ⟨nodeId, hnode, startBlock, hstart, endBlock, hend, amount, hamount, feeRate, hfee,
      rewardAddress, hreward, rfl⟩

end StakeRow

/-! ### Assets -/

namespace AssetRow

/-- The document that describes an asset. -/
def input (ctx : ActionContext) : Fields := .ofDocument "CreateAsset" ctx.input

/-- The document that tells the address of an asset. -/
def output (ctx : ActionContext) : Fields := ⟨"CreateAsset", ctx.output⟩

/-- What is asked of the two documents, in the order of the examination. -/
def checks (ctx : ActionContext) : List FieldCheck :=
  [⟨output ctx, "asset_address", .text⟩,
   ⟨input ctx, "asset_type", .number 2⟩,
   ⟨input ctx, "decimals", .optNumber maxCount⟩,
   ⟨input ctx, "name", .optText⟩,
   ⟨input ctx, "symbol", .optText⟩,
   ⟨input ctx, "metadata", .optText⟩,
   ⟨input ctx, "max_supply", .optNumber maxSigned⟩,
   ⟨input ctx, "mint_admin", .optText⟩,
   ⟨input ctx, "pause_unpause_admin", .optText⟩,
   ⟨input ctx, "freeze_unfreeze_admin", .optText⟩,
   ⟨input ctx, "enable_disable_kyc_account_admin", .optText⟩]

/-- The names of the asset types, each at its number. -/
def typeNames : List String := ["fungible", "non-fungible", "fractional"]

/-- A row holds what the two documents and the transaction tell. -/
structure Tells (ctx : ActionContext) (row : AssetRow) : Prop where
  address : (output ctx).HasName "asset_address" row.address
  typeId : (input ctx).HasNumber "asset_type" 2 row.typeId
  typeName : typeNames[row.typeId]? = some row.typeName
  decimals : (input ctx).HasOptNumber "decimals" maxCount row.decimals
  name : (input ctx).HasOptText "name" row.name
  symbol : (input ctx).HasOptText "symbol" row.symbol
  metadata : (input ctx).HasOptText "metadata" row.metadata
  maxSupply : (input ctx).HasOptNumber "max_supply" maxSigned row.maxSupply
  mintAdmin : (input ctx).HasOptText "mint_admin" row.mintAdmin
  pauseAdmin : (input ctx).HasOptText "pause_unpause_admin" row.pauseAdmin
  freezeAdmin : (input ctx).HasOptText "freeze_unfreeze_admin" row.freezeAdmin
  kycAdmin : (input ctx).HasOptText "enable_disable_kyc_account_admin" row.kycAdmin
  creator : row.creator = ctx.sponsor
  txHash : row.txHash = ctx.txHash
  timestamp : row.timestamp = ctx.timestamp

theorem assetTypeName_eq (typeId : Nat) : assetTypeName typeId = typeNames[typeId]? := by
  match typeId with
  | 0 | 1 | 2 => rfl
  | _ + 3 => rfl

/-- An asset type with its name. -/
def typeOf (f : Fields) : Except FieldError (Nat × String) :=
  f.unsigned "asset_type" >>= fun typeId =>
    match assetTypeName typeId with
    | some typeName => .ok (typeId, typeName)
    | none => f.malformed "asset_type" s!"unknown asset type {typeId}"

theorem typeOf_examined {f : Fields} (h : f.NoDoubles) :
    Examined [⟨f, "asset_type", .number 2⟩]
      (fun p => f.HasNumber "asset_type" 2 p.1 ∧ typeNames[p.1]? = some p.2) (typeOf f) := by
  refine Examined.congr (Fields.unsigned_bind_examined ?_
    (fun typeId p => p.1 = typeId ∧ typeNames[typeId]? = some p.2) h (by decide)
    (fun typeId p => ?_) (fun typeId hle => ?_)) rfl (fun p => ?_)
  · intro typeId e h
    split at h
    next => cases h
    next =>
      cases h
      exact ⟨_, rfl⟩
  · obtain ⟨n, typeName⟩ := p
    rw [assetTypeName_eq]
    cases hname : typeNames[typeId]? with
    | none => simp [Fields.malformed]
    | some other =>
      have hlt : typeId < 3 := (List.getElem?_eq_some_iff.1 hname).1
      simp [Nat.le_of_lt_succ hlt, eq_comm]
  · have hlt : typeId < typeNames.length := Nat.lt_succ_of_le hle
    exact ⟨(typeId, typeNames[typeId]), rfl, List.getElem?_eq_getElem hlt⟩
  · simp

/-- What follows stands in both branches of the search for the name. -/
theorem typeOf_bind {α : Type} (f : Fields) (k : Nat → String → Except FieldError α) :
    (f.unsigned "asset_type" >>= fun typeId =>
      match assetTypeName typeId with
      | some typeName => pure typeName >>= k typeId
      | none => f.malformed "asset_type" s!"unknown asset type {typeId}" >>= k typeId) =
    typeOf f >>= fun p => k p.1 p.2 := by
  unfold typeOf
  cases f.unsigned "asset_type" with
  | error e => rfl
  | ok typeId =>
    simp only [bind, Except.bind]
    cases assetTypeName typeId <;> rfl

theorem decimalsOf_eq (f : Fields) : decimalsOf f = f.optNumber "decimals" maxCount := by
  have hle : maxCount ≤ maxSigned := by decide
  rw [decimalsOf, Fields.optSigned_eq]
  unfold Fields.optNumber Fields.number
  cases f.get? "decimals" with
  | none => rfl
  | some v =>
    cases f.unsigned "decimals" with
    | error e => rfl
    | ok n =>
      by_cases hcount : n ≤ maxCount
      · have hsigned : n ≤ maxSigned := Nat.le_trans hcount hle
        simp [bind, Except.bind, Fields.narrow, hcount, hsigned, pure, Except.pure]
      · by_cases hsigned : n ≤ maxSigned
        · simp [bind, Except.bind, Fields.narrow, Fields.malformed, hcount, hsigned]
        · simp [bind, Except.bind, Fields.narrow, Fields.malformed, hcount, hsigned]

open Fields in
theorem ofAction_examined {ctx : ActionContext} (h : (input ctx).NoDoubles) :
    Examined (checks ctx) (Tells ctx) (ofAction ctx) := by
  have hsteps := Examined.bind (text_examined (output ctx) "asset_address") fun address _ =>
    .bind (typeOf_examined h) fun type _ =>
    .bind (optNumber_examined "decimals" h maxCount_le) fun decimals _ =>
    .bind (optText_examined (input ctx) "name") fun name _ =>
    .bind (optText_examined (input ctx) "symbol") fun symbol _ =>
    .bind (optText_examined (input ctx) "metadata") fun metadata _ =>
    .bind (optNumber_examined "max_supply" h maxSigned_le) fun maxSupply _ =>
    .bind (optText_examined (input ctx) "mint_admin") fun mintAdmin _ =>
    .bind (optText_examined (input ctx) "pause_unpause_admin") fun pauseAdmin _ =>
    .bind (optText_examined (input ctx) "freeze_unfreeze_admin") fun freezeAdmin _ =>
    .bind (optText_examined (input ctx) "enable_disable_kyc_account_admin") fun kycAdmin _ =>
    .pure (AssetRow.mk address type.1 type.2 ctx.sponsor ctx.txHash name symbol decimals metadata
      maxSupply mintAdmin pauseAdmin freezeAdmin kycAdmin ctx.timestamp)
  refine hsteps.congr ?_ fun row => ⟨?_, fun hrow => ?_⟩
  · unfold ofAction
    simp only [decimalsOf_eq, optSigned_eq]
    exact bind_congr fun address => typeOf_bind (input ctx) _
  · rintro ⟨address, haddress, ⟨typeId, typeName⟩, ⟨hid, hname⟩, decimals, hdecimals, name, hn,
      symbol, hsymbol, metadata, hmetadata, maxSupply, hmax, mintAdmin, hmint, pauseAdmin, hpause,
      freezeAdmin, hfreeze, kycAdmin, hkyc, rfl⟩
    exact ⟨haddress, hid, hname, hdecimals, hn, hsymbol, hmetadata, hmax, hmint, hpause, hfreeze,
      hkyc, rfl, rfl, rfl⟩
  · obtain ⟨address, typeId, typeName, creator, txHash, name, symbol, decimals, metadata, maxSupply,
      mintAdmin, pauseAdmin, freezeAdmin, kycAdmin, timestamp⟩ := row
    obtain ⟨haddress, hid, hname, hdecimals, hn, hsymbol, hmetadata, hmax, hmint, hpause, hfreeze,
      hkyc, rfl, rfl, rfl⟩ := hrow
    exact ⟨address, haddress, (typeId, typeName), ⟨hid, hname⟩, decimals, hdecimals, name, hn,
      symbol, hsymbol, metadata, hmetadata, maxSupply, hmax, mintAdmin, hmint, pauseAdmin, hpause,
      freezeAdmin, hfreeze, kycAdmin, hkyc, rfl⟩

end AssetRow

/-! ### Actions -/

/-- Without doubles, both handlers give exactly the rows that the documents tell, and say of
everything else which field is the first that does not have what it has to have. -/
theorem ActionContext.rows_examined (ctx : ActionContext)
    (hinput : (AssetRow.input ctx).NoDoubles) (houtput : (StakeRow.document ctx).NoDoubles) :
    Examined (StakeRow.checks ctx) (StakeRow.Tells ctx) (StakeRow.ofAction ctx) ∧
      Examined (AssetRow.checks ctx) (AssetRow.Tells ctx) (AssetRow.ofAction ctx) :=
  ⟨StakeRow.ofAction_examined houtput, AssetRow.ofAction_examined hinput⟩

/-- A stake with its numbers in different spellings, in an action that creates no asset. -/
theorem ActionContext.rows_examined_stake :
    let ctx : ActionContext :=
      { input := .obj [("asset_type", .int 1), ("decimals", .null)]
        output :=
          [("delegation_fee_rate", .int 0), ("node_id", .str "n"), ("reward_address", .str "r"),
           ("stake_end_block", .int 9), ("stake_start_block", .str "+007"),
           ("staked_amount", .str "9223372036854775807")]
        sponsor := "s"
        txHash := "t"
        timestamp := ⟨0, false⟩ }
    (AssetRow.input ctx).NoDoubles ∧ (StakeRow.document ctx).NoDoubles ∧
      StakeRow.Tells ctx ⟨"n", 7, "s", 9, 9223372036854775807, 0, "r", "t", ⟨0, false⟩⟩ ∧
      FirstOffence (AssetRow.checks ctx) (.missing "CreateAsset" "asset_address") := by
  intro ctx
  have hinput : (AssetRow.input ctx).NoDoubles := Fields.noDoubles_of_forall (by
    simp [ctx, AssetRow.input, Fields.ofDocument, Json.members?])
  have houtput : (StakeRow.document ctx).NoDoubles := Fields.noDoubles_of_forall (by
    simp [ctx, StakeRow.document])
  obtain ⟨hstake, hasset⟩ := ActionContext.rows_examined ctx hinput houtput
  exact ⟨hinput, houtput, (hstake.carried _).1 (by decide +kernel),
    hasset.refused _ (by decide +kernel)⟩

end ChainWatch
