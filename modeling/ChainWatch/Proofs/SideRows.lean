import ChainWatch.Proofs.Acceptance
import ChainWatch.Proofs.Refusals

/-!
# What actions leave beside their rows

An action is handled if its output can be decoded and a handler is registered for its code, the one
registered last.  A block that is accepted leaves for every key the row of the last action that is
handled and whose output tells the key.  Every other row is the one from before, whatever else the
block contains.

* `Registry.lastHandler?` : the handler of a code, by a list of registrations.
* `Placed.Handled` : an action is handled, with an output.
* `Block.LeavesRows` : the rows that the handled actions of a block leave in a table.
* `AssetRow.ofAction_address`, `StakeRow.ofAction_key` : the output tells the key of the row.
* `Store.ingest_sideRows` : the tables of assets and stakes after a block.
-/

namespace ChainWatch

/-! ### Registrations -/

/-- The handler of a code, by a list of registrations: the one registered last. -/
def Registry.lastHandler? (entries : List (Nat × Handler)) (code : Nat) : Option Handler :=
  entries.reverse.lookup code

theorem Registry.handlerOf_registerAll (entries : List (Nat × Handler)) (code : Nat) :
    (none.registerAll entries).handlerOf code = lastHandler? entries code := by
  have hfrom : ∀ r : Registry, (r.registerAll entries).handlerOf code =
      (lastHandler? entries code).or (r.handlerOf code) := by
    induction entries with
    | nil => exact fun r => rfl
    | cons entry entries ih =>
      obtain ⟨registered, handler⟩ := entry
      intro r
      show ((r.register registered handler).registerAll entries).handlerOf code = _
      rw [ih, lastHandler?, lastHandler?, List.reverse_cons, List.lookup_append, Option.or_assoc]
      congr 1
      rw [handlerOf, register, Table.find?_upsert, List.lookup_cons]
      by_cases hcode : registered = code
      · simp [Keyed.key, hcode]
      · have hother : (code == registered) = false := beq_false_of_ne (Ne.symm hcode)
        simp [Keyed.key, hcode, hother, handlerOf]
  rw [hfrom]
  exact Option.or_none

/-! ### Handled actions -/

/-- An action is handled: its transaction has succeeded, its output can be decoded, and the handler
is the one that was registered last for its code. -/
structure Placed.Handled (x : Placed) (entries : List (Nat × Handler)) (decoder : Decoder)
    (b : Block) (handler : Handler) (output : Members) : Prop where
  output : b.outputAt decoder x.txPosition x.position = some output
  handler : Registry.lastHandler? entries x.action.typeId = some handler

/-- In a table there is, for every key, the row of the last action with that key which is handled by
a handler, and the row from before if there is no such action. -/
structure Block.LeavesRows {ρ κ : Type} [Keyed ρ κ] [KeyOrder κ] (b : Block) (decoder : Decoder)
    (entries : List (Nat × Handler)) (handler : Handler) (key? : Members → Option κ)
    (build : ActionContext → Except FieldError ρ) (t t' : Option (Table ρ)) : Prop where
  last : ∀ x ∈ b.placed, ∀ output k, x.Handled entries decoder b handler output →
    key? output = some k →
    (∀ y ∈ b.placed, x.Before y → ∀ output', y.Handled entries decoder b handler output' →
      key? output' ≠ some k) →
    ∃ row, build (x.context b output) = .ok row ∧ t'.bind (·.find? k) = some row
  other : ∀ k, (∀ x ∈ b.placed, ∀ output, x.Handled entries decoder b handler output →
      key? output ≠ some k) →
    t'.bind (·.find? k) = t.bind (·.find? k)

/-! ### Keys of rows -/

theorem Fields.addressField_of_text {f : Fields} {field text : String}
    (h : f.text field = .ok text) : addressField f.members field = some text := by
  unfold Fields.text at h
  split at h
  · cases h
  · next s hs =>
    split at h
    · cases h
    · cases h
      have hmember : f.members.get? field = some (.str text) := (Option.filter_eq_some_iff.1 hs).1
      rw [addressField, hmember]
  · cases h

/-- The output names the address of the asset. -/
theorem AssetRow.ofAction_address {ctx : ActionContext} {row : AssetRow}
    (h : AssetRow.ofAction ctx = .ok row) :
    addressField ctx.output "asset_address" = some row.address := by
  unfold AssetRow.ofAction at h
  obtain ⟨address, haddress, h⟩ := bind_eq_ok.1 h
  obtain ⟨typeId, -, h⟩ := bind_eq_ok.1 h
  dsimp only at h
  split at h
  · obtain ⟨typeName, -, h⟩ := bind_eq_ok.1 h
    obtain ⟨decimals, -, h⟩ := bind_eq_ok.1 h
    -- the eight fields of the input that may be absent
    iterate 8 obtain ⟨_, -, h⟩ := bind_eq_ok.1 h
    cases h
    exact Fields.addressField_of_text haddress
  · cases h

/-- The key of the stake that an output tells. -/
def stakeKey? (output : Members) : Option (String × Int) := do
  let nodeId ← addressField output "node_id"
  let start ← (Fields.signed ⟨"RegisterValidatorStake", output⟩ "stake_start_block").toOption
  return (nodeId, start)

/-- The output tells the key of the stake. -/
theorem StakeRow.ofAction_key {ctx : ActionContext} {row : StakeRow}
    (h : StakeRow.ofAction ctx = .ok row) :
    stakeKey? ctx.output = some (row.nodeId, row.startBlock) := by
  obtain ⟨nodeId, hnodeId, h⟩ := bind_eq_ok.1 h
  obtain ⟨start, hstart, h⟩ := bind_eq_ok.1 h
  iterate 4 obtain ⟨_, -, h⟩ := bind_eq_ok.1 h
  cases h
  simp only [stakeKey?, Fields.addressField_of_text hnodeId, hstart]
  rfl

/-! ### Rows of one kind -/

theorem exists_of_map_eq_ok {ε α β : Type} {x : Except ε α} {f : α → β} {y : β}
    (h : x.map f = .ok y) : ∃ a, x = .ok a := by
  cases x with
  | error e => cases h
  | ok a => exact ⟨a, rfl⟩

/-- The row of an asset. -/
def SideRow.asset? : SideRow → Option AssetRow
  | asset row => some row
  | _ => none

/-- The row of a stake. -/
def SideRow.stake? : SideRow → Option StakeRow
  | stake row => some row
  | _ => none

namespace IngestStep

theorem assetRows_eq (step : IngestStep) :
    step.assetRows = (step.sideRow?.bind SideRow.asset?).toList := by
  cases step with
  | writeSide place row => cases row <;> rfl
  | _ => rfl

theorem stakeRows_eq (step : IngestStep) :
    step.stakeRows = (step.sideRow?.bind SideRow.stake?).toList := by
  cases step with
  | writeSide place row => cases row <;> rfl
  | _ => rfl

end IngestStep

namespace Handler

variable (handler : Handler) (ctx : ActionContext)

theorem build_asset? (row : AssetRow) :
    (handler.build ctx).toOption.bind SideRow.asset? = some row ↔
      handler = .createAsset ∧ AssetRow.ofAction ctx = .ok row := by
  cases handler with
  | createAsset =>
    rw [build]
    cases AssetRow.ofAction ctx <;> simp [Except.map, Except.toOption, SideRow.asset?]
  | registerValidatorStake =>
    rw [build]
    cases StakeRow.ofAction ctx <;> simp [Except.map, Except.toOption, SideRow.asset?]

theorem build_stake? (row : StakeRow) :
    (handler.build ctx).toOption.bind SideRow.stake? = some row ↔
      handler = .registerValidatorStake ∧ StakeRow.ofAction ctx = .ok row := by
  cases handler with
  | createAsset =>
    rw [build]
    cases AssetRow.ofAction ctx <;> simp [Except.map, Except.toOption, SideRow.stake?]
  | registerValidatorStake =>
    rw [build]
    cases StakeRow.ofAction ctx <;> simp [Except.map, Except.toOption, SideRow.stake?]

end Handler

namespace Script

variable (registry : Registry) (decoder : Decoder) (b : Block)

/-- Rows that are picked from those beside rows of actions, by places. -/
theorem pickedRows_ofBlock {ρ : Type} {rows : IngestStep → List ρ} {pick : SideRow → Option ρ}
    (hrows : ∀ step : IngestStep, rows step = (step.sideRow?.bind pick).toList) :
    (ofBlock registry decoder b).flatMap rows =
      b.placed.filterMap fun x => (x.sideRow? registry decoder b).bind pick := by
  rw [funext hrows, ← List.filterMap_eq_flatMap_toList, ← List.filterMap_filterMap,
    sideRows_ofBlock, List.filterMap_filterMap]

variable {registry decoder b}

/-- Where no step is a refusal, a handled action gives rise to a row. -/
theorem exists_build (hunrefused : ∀ step ∈ ofBlock registry decoder b, step.refusal? = none)
    {x : Placed} (hx : x ∈ b.placed) {output : Members} {handler : Handler}
    (houtput : x.output? decoder b = some output)
    (hhandler : registry.handlerOf x.action.typeId = some handler) :
    ∃ row, handler.build (x.context b output) = .ok row := by
  have hnone : (ofBlock registry decoder b).refusal? = none :=
    List.findSome?_eq_none_iff.2 hunrefused
  rw [refusal?_ofBlock, List.findSome?_eq_none_iff] at hnone
  exact Placed.refusal?_eq_none_iff.1 (hnone x hx) handler output ⟨houtput, hhandler⟩

end Script

/-! ### Tables -/

/-- A table that takes the rows of one handler has what the handled actions leave. -/
theorem Block.leavesRows {ρ κ : Type} [Keyed ρ κ] [KeyOrder κ] [DecidableEq κ] {b : Block}
    {decoder : Decoder} {entries : List (Nat × Handler)} {handler : Handler}
    {key? : Members → Option κ} {build : ActionContext → Except FieldError ρ}
    (pick : SideRow → Option ρ) {t t' : Option (Table ρ)}
    (hpick : ∀ handler' ctx row, (handler'.build ctx).toOption.bind pick = some row ↔
      handler' = handler ∧ build ctx = .ok row)
    (hkey : ∀ ctx row, build ctx = .ok row → key? ctx.output = some (Keyed.key row))
    (htook : Table.Took t t' (b.placed.filterMap fun x =>
      (x.sideRow? (Registry.none.registerAll entries) decoder b).bind pick))
    (hbuilt : ∀ x ∈ b.placed, ∀ output, x.Handled entries decoder b handler output →
      ∃ row, build (x.context b output) = .ok row) :
    b.LeavesRows decoder entries handler key? build t t' := by
  have hpicked : ∀ (x : Placed) row,
      (x.sideRow? (Registry.none.registerAll entries) decoder b).bind pick = some row ↔
        ∃ output, x.Handled entries decoder b handler output ∧
          build (x.context b output) = .ok row := by
    intro x row
    constructor
    · intro h
      obtain ⟨side, hside, hrow⟩ := Option.bind_eq_some_iff.1 h
      obtain ⟨output, houtput, hside⟩ := Option.bind_eq_some_iff.1 hside
      obtain ⟨handler', hhandler, hside⟩ := Option.bind_eq_some_iff.1 hside
      rw [Registry.handlerOf_registerAll] at hhandler
      obtain ⟨rfl, hbuild⟩ :=
        (hpick handler' _ row).1 (Option.bind_eq_some_iff.2 ⟨side, hside, hrow⟩)
      exact ⟨output, ⟨houtput, hhandler⟩, hbuild⟩
    · rintro ⟨output, ⟨houtput, hhandler⟩, hbuild⟩
      have hdecoded : x.output? decoder b = some output := houtput
      rw [Placed.sideRow?, hdecoded, Option.bind_some, Registry.handlerOf_registerAll, hhandler,
        Option.bind_some]
      exact (hpick handler _ row).2 ⟨rfl, hbuild⟩
  constructor
  · intro x hx output k hhandled hk hlast
    obtain ⟨row, hrow⟩ := hbuilt x hx output hhandled
    obtain rfl : Keyed.key row = k := Option.some.inj ((hkey _ _ hrow).symm.trans hk)
    refine ⟨row, hrow, ?_⟩
    rw [htook.find?, Table.lastOf?_filterMap b.placed_pairwise hx
      ((hpicked x row).2 ⟨output, hhandled, hrow⟩), Option.some_or]
    intro y hy hbefore row' hrow' hsame
    obtain ⟨output', hhandled', hbuild⟩ := (hpicked y row').1 hrow'
    exact hlast y hy hbefore output' hhandled' ((hkey _ _ hbuild).trans (congrArg some hsame))
  · intro k hfree
    rw [htook.find?, Table.lastOf?_eq_none_iff.2, Option.none_or]
    intro row hrow hsame
    obtain ⟨x, hx, hxrow⟩ := List.mem_filterMap.1 hrow
    obtain ⟨output, hhandled, hbuild⟩ := (hpicked x row).1 hxrow
    exact hfree x hx output hhandled ((hkey _ _ hbuild).trans (congrArg some hsame))

/-- **The tables beside the actions hold what the handled actions say.**  Whatever the store and the
decoder are like, and in whichever way handlers have been registered, a block that is accepted
leaves at every address the asset of the last action that is handled as the creation of an asset and
names the address, and for every node and start the stake of the last action that is handled as its
registration.  Where there is no such action, the row is the one from before. -/
theorem Store.ingest_sideRows {s : Store} {entries : List (Nat × Handler)} {decoder : Decoder}
    {b : Block} {faults : Faults} {summary : BlockSummary} (hheight : b.height ≠ 1)
    (h : (s.ingest (Registry.none.registerAll entries) decoder b faults).answer = .ok summary) :
    let t := s.tables
    let t' := (s.ingest (Registry.none.registerAll entries) decoder b faults).state.tables
    b.LeavesRows decoder entries .createAsset (addressField · "asset_address") AssetRow.ofAction
        t.assets t'.assets ∧
      b.LeavesRows decoder entries .registerValidatorStake stakeKey? StakeRow.ofAction
        t.stakes t'.stakes := by
  intro t t'
  have haccepted := ingest_accepted_of_height hheight h
  have hbuilt : ∀ x ∈ b.placed, ∀ handler output, x.Handled entries decoder b handler output →
      ∃ row, handler.build (x.context b output) = .ok row := by
    intro x hx handler output hhandled
    refine Script.exists_build haccepted.unrefused hx hhandled.output ?_
    rw [Registry.handlerOf_registerAll, hhandled.handler]
  have hassets := haccepted.assets
  have hstakes := haccepted.stakes
  rw [Script.pickedRows_ofBlock _ _ _ IngestStep.assetRows_eq] at hassets
  rw [Script.pickedRows_ofBlock _ _ _ IngestStep.stakeRows_eq] at hstakes
  constructor
  · refine Block.leavesRows SideRow.asset? Handler.build_asset?
      (fun _ _ => AssetRow.ofAction_address) hassets fun x hx output hhandled => ?_
    obtain ⟨side, hside⟩ := hbuilt x hx _ output hhandled
    exact exists_of_map_eq_ok hside
  · refine Block.leavesRows SideRow.stake? Handler.build_stake?
      (fun _ _ => StakeRow.ofAction_key) hstakes fun x hx output hhandled => ?_
    obtain ⟨side, hside⟩ := hbuilt x hx _ output hhandled
    exact exists_of_map_eq_ok hside

/-- Reads an asset and a stake, and nothing else. -/
def Decoder.assetOrStake : Decoder where
  block _ := .error (.block "unknown")
  output
    | [1] => .ok [("asset_address", .str "coin")]
    | [2] => .ok [("node_id", .str "node"), ("stake_start_block", .int 3),
        ("stake_end_block", .int 9), ("staked_amount", .str "5"), ("delegation_fee_rate", .int 1),
        ("reward_address", .str "purse")]
    | _ => .error (.output "unknown")

/-- The creation of an asset of a type. -/
def Action.creation (type : Nat) : Action := ⟨9, .obj [("asset_type", .nat type)]⟩

/-- An asset is created twice, a stake is registered, and a transaction fails that would have
created the asset once more. -/
def Block.creations : Block :=
  { Block.sample 5 0 [] with
    transactions :=
      [⟨"a", "first", [.creation 0, .creation 1], 7⟩, ⟨"b", "second", [⟨4, .null⟩], 8⟩,
        ⟨"c", "third", [.creation 2], 9⟩]
    results := [⟨true, 1, [[1], [1]]⟩, ⟨true, 1, [[2]]⟩, ⟨false, 1, [[1]]⟩] }

/-- The asset is that of the second creation.  The code of the stake had another handler at
first. -/
theorem Store.ingest_sideRows_creations :
    let s := Service.sample.store
    let b := Block.creations
    let entries := [(4, Handler.createAsset), (9, .createAsset), (4, .registerValidatorStake)]
    let out := s.ingest (Registry.none.registerAll entries) .assetOrStake b
    b.height ≠ 1 ∧ out.answer.isOk = true ∧
      (∃ row, out.state.tables.assets.bind (·.find? "coin") = some row ∧ row.typeId = 1) ∧
      (∃ row, out.state.tables.stakes.bind (·.find? ("node", 3)) = some row ∧
        row.actor = "second") := by
  intro s b entries out
  have hok : out.answer.isOk = true := by decide +kernel
  obtain ⟨summary, h⟩ := exists_summary hok
  obtain ⟨hassets, hstakes⟩ := ingest_sideRows (b := b) (by decide) h
  let creation : Placed := ⟨0, 1, ⟨"a", "first", [.creation 0, .creation 1], 7⟩, .creation 1⟩
  let registration : Placed := ⟨1, 0, ⟨"b", "second", [⟨4, .null⟩], 8⟩, ⟨4, .null⟩⟩
  have hcreation : ∃ output, creation.Handled entries .assetOrStake b .createAsset output ∧
      addressField output "asset_address" = some "coin" ∧
      (AssetRow.ofAction (creation.context b output)).toOption.map (·.typeId) = some 1 :=
    ⟨_, ⟨rfl, rfl⟩, by decide +kernel, by decide +kernel⟩
  have hregistration : ∃ output,
      registration.Handled entries .assetOrStake b .registerValidatorStake output ∧
      stakeKey? output = some ("node", 3) ∧
      (StakeRow.ofAction (registration.context b output)).toOption.map (·.actor) =
        some "second" :=
    ⟨_, ⟨rfl, rfl⟩, by decide +kernel, by decide +kernel⟩
  have hlater : ∀ y ∈ b.placed, creation.Before y →
      Registry.lastHandler? entries y.action.typeId = some .createAsset →
      b.outputAt .assetOrStake y.txPosition y.position = none := by decide +kernel
  have hlater' : ∀ y ∈ b.placed, registration.Before y →
      b.outputAt .assetOrStake y.txPosition y.position = none := by decide +kernel
  refine ⟨by decide, hok, ?_, ?_⟩
  · obtain ⟨output, hhandled, hnamed, hbuild⟩ := hcreation
    obtain ⟨row, hrow, hfound⟩ := hassets.last creation (Block.mem_placed.2 ⟨rfl, rfl⟩) output
      "coin" hhandled hnamed fun y hy hbefore output' hhandled' => by
        have hnone := hlater y hy hbefore hhandled'.handler
        rw [hhandled'.output] at hnone
        cases hnone
    rw [hrow] at hbuild
    refine ⟨row, ?_, Option.some.inj hbuild⟩
    rw [← hfound]
  · obtain ⟨output, hhandled, hkey, hbuild⟩ := hregistration
    obtain ⟨row, hrow, hfound⟩ := hstakes.last registration (Block.mem_placed.2 ⟨rfl, rfl⟩) output
      ("node", 3) hhandled hkey fun y hy hbefore output' hhandled' => by
        have hnone := hlater' y hy hbefore
        rw [hhandled'.output] at hnone
        cases hnone
    rw [hrow] at hbuild
    refine ⟨row, ?_, Option.some.inj hbuild⟩
    rw [← hfound]

end ChainWatch
