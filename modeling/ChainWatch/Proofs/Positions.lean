import ChainWatch.Proofs.Totals
import ChainWatch.Proofs.Writes

/-!
# Places in a block

Results belong to transactions by their position, and outputs to actions by theirs.  There may be
more or fewer results than transactions and outputs than actions, and an output that cannot be
decoded does not shift the others.  What a block writes is told here by such places.

* `Block.outputAt`, `Block.Names` : the output of an action, and an address in an output.
* `Executed.outputAt_of`, `TxParticipants.mem_actors`, … : the work on a block in these terms.
* `Placed`, `Block.placed` : the actions of a block with their places, in the order of the document.
* `Block.actionRows_eq`, `Script.sideRows_ofBlock` : the rows of actions and beside them, by places.
* `Script.filterMap_ofBlock` : whatever the steps of handlers tell of a block, by places.
-/

namespace ChainWatch

/-! ### Outputs -/

/-- The output at a position of the transaction at a position: the transaction has a result, which
tells of success, and the output is there and can be decoded. -/
def Block.outputAt (b : Block) (decoder : Decoder) (txPosition position : Nat) : Option Members :=
  b.results[txPosition]?.bind fun r =>
    if r.success then r.outputs[position]?.bind fun raw => (decoder.output raw).toOption else none

/-- Whether an output of the transaction at a position has an address in a field. -/
def Block.Names (b : Block) (decoder : Decoder) (txPosition : Nat) (field a : String) : Prop :=
  a ≠ "" ∧ ∃ position output,
    b.outputAt decoder txPosition position = some output ∧ output.get? field = some (.str a)

namespace Executed

variable (b : Block) (decoder : Decoder) (tx : Transaction) (txPosition position : Nat)

theorem outputAt_of :
    (of decoder tx (b.resultAt txPosition)).outputAt position =
      b.outputAt decoder txPosition position := by
  rw [Block.outputAt, Block.resultAt]
  cases b.results[txPosition]? with
  | none => rfl
  | some r =>
    simp only [of, outputAt, Option.bind_some]
    split
    · rw [List.getElem?_map]
      cases r.outputs[position]? <;> rfl
    · rfl

theorem mem_decoded {e : Executed} {output : Members} :
    output ∈ e.decoded ↔ ∃ position, e.outputAt position = some output := by
  rw [decoded, List.mem_filterMap]
  simp only [outputAt, List.mem_iff_getElem?]
  constructor
  · rintro ⟨result, ⟨position, hresult⟩, hdecoded⟩
    exact ⟨position, by rw [hresult, Option.bind_some, hdecoded]⟩
  · rintro ⟨position, hposition⟩
    obtain ⟨result, hresult, hdecoded⟩ := Option.bind_eq_some_iff.1 hposition
    exact ⟨result, ⟨position, hresult⟩, hdecoded⟩

end Executed

/-! ### Addresses in outputs -/

/-- The addresses in a field of outputs, added to others. -/
def AddressSet.addField (s : AddressSet) (field : String) (outputs : List Members) : AddressSet :=
  outputs.foldl (fun s output => s.add ((addressField output field).getD "")) s

theorem eq_addressField_iff {output : Members} {field a : String} (ha : a ≠ "") :
    a = (addressField output field).getD "" ↔ output.get? field = some (.str a) := by
  unfold addressField
  split
  next address h =>
    rw [h]
    simp [eq_comm]
  next h => simpa [ha] using h a

theorem AddressSet.mem_addField {s : AddressSet} {field : String} {outputs : List Members}
    {a : String} : a ∈ (s.addField field outputs).rows ↔
      a ∈ s.rows ∨ (a ≠ "" ∧ ∃ output ∈ outputs, output.get? field = some (.str a)) := by
  induction outputs generalizing s with
  | nil => simp [addField]
  | cons output outputs ih =>
    have hadd : (s.addField field (output :: outputs)) =
        (s.add ((addressField output field).getD "")).addField field outputs := rfl
    rw [hadd, ih, mem_add, List.exists_mem_cons_iff]
    by_cases ha : a = ""
    · simp [ha]
    · simp [ha, eq_addressField_iff, or_assoc]

namespace TxParticipants

variable {outputs : List Members} {a : String}

theorem foldl_record (p : TxParticipants) : outputs.foldl record p =
    ⟨p.actors.addField "actor" outputs, p.receivers.addField "receiver" outputs⟩ := by
  induction outputs generalizing p with
  | nil => rfl
  | cons output outputs ih => exact ih (p.record output)

theorem mem_actors : a ∈ (ofOutputs outputs).actors.rows ↔
    a ≠ "" ∧ ∃ output ∈ outputs, output.get? "actor" = some (.str a) := by
  rw [ofOutputs, foldl_record, AddressSet.mem_addField]
  simp [Table.empty]

theorem mem_receivers : a ∈ (ofOutputs outputs).receivers.rows ↔
    a ≠ "" ∧ ∃ output ∈ outputs, output.get? "receiver" = some (.str a) := by
  rw [ofOutputs, foldl_record, AddressSet.mem_addField]
  simp [Table.empty]

end TxParticipants

namespace Executed

variable {b : Block} {decoder : Decoder} {tx : Transaction} {txPosition : Nat} {a : String}

theorem exists_decoded_iff (field : String) :
    (a ≠ "" ∧ ∃ output ∈ (of decoder tx (b.resultAt txPosition)).decoded,
      output.get? field = some (.str a)) ↔ b.Names decoder txPosition field a := by
  simp only [mem_decoded, outputAt_of, Block.Names]
  grind

theorem mem_actors : a ∈ (of decoder tx (b.resultAt txPosition)).participants.actors.rows ↔
    b.Names decoder txPosition "actor" a :=
  TxParticipants.mem_actors.trans (exists_decoded_iff "actor")

theorem mem_receivers : a ∈ (of decoder tx (b.resultAt txPosition)).participants.receivers.rows ↔
    b.Names decoder txPosition "receiver" a :=
  TxParticipants.mem_receivers.trans (exists_decoded_iff "receiver")

end Executed

/-! ### Actions with their places -/

theorem pairwise_zipIdx {α : Type} (xs : List α) : xs.zipIdx.Pairwise fun x y => x.2 < y.2 := by
  rw [← List.pairwise_map, List.zipIdx_map_snd]
  exact List.pairwise_lt_range'

/-- An action with its place in a block. -/
structure Placed where
  /-- The position of the transaction. -/
  txPosition : Nat
  /-- The position of the action in the transaction. -/
  position : Nat
  tx : Transaction
  action : Action

/-- Whether an action stands before another in the document. -/
def Placed.Before (x y : Placed) : Prop :=
  x.txPosition < y.txPosition ∨ (x.txPosition = y.txPosition ∧ x.position < y.position)

instance (x y : Placed) : Decidable (x.Before y) := inferInstanceAs (Decidable (_ ∨ _))

/-- The actions of a block with their places, in the order of the document. -/
def Block.placed (b : Block) : List Placed :=
  b.transactions.zipIdx.flatMap fun (tx, txPosition) =>
    tx.actions.zipIdx.map fun (action, position) => ⟨txPosition, position, tx, action⟩

namespace Block

theorem mem_placed {b : Block} {x : Placed} : x ∈ b.placed ↔
    b.transactions[x.txPosition]? = some x.tx ∧ x.tx.actions[x.position]? = some x.action := by
  simp only [placed, List.mem_flatMap, List.mem_map, Prod.exists, List.mk_mem_zipIdx_iff_getElem?]
  constructor
  · rintro ⟨tx, txPosition, htx, action, position, haction, rfl⟩
    exact ⟨htx, haction⟩
  · rintro ⟨htx, haction⟩
    exact ⟨x.tx, x.txPosition, htx, x.action, x.position, haction, rfl⟩

theorem placed_pairwise (b : Block) : b.placed.Pairwise Placed.Before := by
  refine List.pairwise_flatMap.2 ⟨fun (tx, txPosition) _ => ?_, ?_⟩
  · refine List.pairwise_map.2 ((pairwise_zipIdx tx.actions).imp ?_)
    exact fun hlt => .inr ⟨rfl, hlt⟩
  · refine (pairwise_zipIdx b.transactions).imp fun {x y} hlt p hp q hq => ?_
    obtain ⟨_, -, rfl⟩ := List.mem_map.1 hp
    obtain ⟨_, -, rfl⟩ := List.mem_map.1 hq
    exact .inl hlt

end Block

/-! ### Rows by places -/

namespace Placed

variable (x : Placed) (registry : Registry) (decoder : Decoder) (b : Block)

/-- The transaction of an action with what executing it has given. -/
def executed : Executed := .of decoder x.tx (b.resultAt x.txPosition)

/-- The output of an action, if it can be decoded. -/
def output? : Option Members := b.outputAt decoder x.txPosition x.position

/-- What a handler gets to see of an action. -/
def context (output : Members) : ActionContext :=
  { input := x.action.input, output, sponsor := x.tx.sponsor, txHash := x.tx.txHash
    timestamp := b.timestamp }

/-- The row of an action. -/
def row : ActionRow :=
  { txHash := x.tx.txHash, actionType := x.action.typeId, actionIndex := wrapIndex x.position
    actionName := actionName x.action.typeId, input := x.action.input
    output := .obj ((x.output? decoder b).getD []), timestamp := b.timestamp }

/-- The row that an action gives rise to. -/
def sideRow? : Option SideRow :=
  (x.output? decoder b).bind fun output =>
    (registry.handlerOf x.action.typeId).bind fun handler =>
      (handler.build (x.context b output)).toOption

variable {x registry decoder b}

theorem actionRow_executed :
    (x.executed decoder b).actionRow b.timestamp x.action x.position = x.row decoder b := by
  simp only [executed, Executed.actionRow, Executed.outputDocument, Executed.outputAt_of,
    Executed.of_tx, row, output?]

theorem handled_executed :
    (x.executed decoder b).handled registry b.timestamp x.action x.position =
      (x.output? decoder b).bind fun output =>
        (registry.handlerOf x.action.typeId).map fun handler => (handler, x.context b output) := by
  simp only [executed, Executed.handled, Executed.outputAt_of, Executed.of_tx, output?]
  cases b.outputAt decoder x.txPosition x.position with
  | none => rfl
  | some output => cases registry.handlerOf x.action.typeId <;> rfl

end Placed

namespace Block

variable (b : Block) (decoder : Decoder)

/-- The transactions of a block, as they were executed, with their actions. -/
theorem flatMap_executed {α : Type} (f : Executed → Action → Nat → List α) :
    (b.executed decoder).flatMap (fun e =>
        e.actions.flatMap fun (action, position) => f e action position) =
      b.placed.flatMap fun x => f (x.executed decoder b) x.action x.position := by
  simp only [executed, placed, List.flatMap_map, List.flatMap_assoc, Executed.actions,
    Executed.of_tx, Placed.executed]

theorem actionRows_eq : (b.executed decoder).flatMap (·.actionRows b.timestamp) =
    b.placed.map fun x => x.row decoder b := by
  have hrows := b.flatMap_executed decoder fun e action position =>
    [e.actionRow b.timestamp action position]
  simp only [Placed.actionRow_executed] at hrows
  simpa only [Executed.actionRows, List.map_eq_flatMap] using hrows

end Block

/-- The row beside that of an action which a step writes. -/
def IngestStep.sideRow? : IngestStep → Option SideRow
  | writeSide _ row => some row
  | _ => none

/-- Whether something is told by the steps of handlers alone: rows that are known before a handler
is asked tell nothing of it. -/
structure IngestStep.OfHandlers {α : Type} (f : IngestStep → Option α) : Prop where
  report : ∀ line, f (.report line) = none
  action : ∀ row, f (.writeAction row) = none
  transaction : ∀ row, f (.writeTransaction row) = none
  volume : ∀ code, f (.refreshVolume code) = none
  block : ∀ row, f (.writeBlock row) = none

theorem IngestStep.ofHandlers_sideRow? : OfHandlers sideRow? :=
  ⟨fun _ => rfl, fun _ => rfl, fun _ => rfl, fun _ => rfl, fun _ => rfl⟩

namespace Script

variable (registry : Registry) (decoder : Decoder) (b : Block)

theorem sideRows_afterAction (x : Placed) :
    (afterAction registry b (x.executed decoder b) x.action x.position).filterMap
      IngestStep.sideRow? = (x.sideRow? registry decoder b).toList := by
  simp only [afterAction, Placed.handled_executed, Placed.sideRow?]
  cases x.output? decoder b with
  | none =>
    simp only [Option.bind_none]
    split <;> rfl
  | some output =>
    cases registry.handlerOf x.action.typeId with
    | none =>
      simp only [Option.bind_some, Option.map_none]
      split <;> rfl
    | some handler =>
      simp only [Option.bind_some, Option.map_some, ofHandler]
      cases handler.build (x.context b output) <;> rfl

/-- What steps of handlers alone have to tell of a transaction. -/
theorem filterMap_ofTransaction (e : Executed) {α : Type} {f : IngestStep → Option α}
    (hf : IngestStep.OfHandlers f) :
    (ofTransaction registry b e).filterMap f =
      e.actions.flatMap fun (action, position) =>
        (afterAction registry b e action position).filterMap f := by
  have hlines : (missingResult b e ++ badOutputs e).filterMap f = [] := by
    refine List.filterMap_eq_nil_iff.2 fun step hstep => ?_
    obtain ⟨line, rfl⟩ := exists_report_of_mem b e hstep
    exact hf.report line
  have haction : ∀ action position, (ofAction registry b e action position).filterMap f =
      (afterAction registry b e action position).filterMap f := by
    intro action position
    rw [ofAction, List.filterMap_cons_none (hf.action _)]
  have hrow : [IngestStep.writeTransaction (e.transactionRow b)].filterMap f = [] := by
    rw [List.filterMap_cons_none (hf.transaction _), List.filterMap_nil]
  rw [ofTransaction, List.filterMap_append, List.filterMap_append, hlines, hrow,
    List.filterMap_flatMap]
  simp only [haction, List.nil_append, List.append_nil]

/-- What steps of handlers alone have to tell of a block, action by action. -/
theorem filterMap_ofBlock {α : Type} {f : IngestStep → Option α} (hf : IngestStep.OfHandlers f) :
    (ofBlock registry decoder b).filterMap f =
      b.placed.flatMap fun x =>
        (afterAction registry b (x.executed decoder b) x.action x.position).filterMap f := by
  have hactions := b.flatMap_executed decoder fun e action position =>
    (afterAction registry b e action position).filterMap f
  have hcounts : ∀ code, (f (.refreshVolume code)).toList = [] :=
    fun code => by rw [hf.volume, Option.toList_none]
  rw [List.filterMap_eq_flatMap_toList, flatMap_ofBlock registry b hcounts, hf.block,
    Option.toList_none, List.append_nil]
  simp only [← List.filterMap_eq_flatMap_toList, filterMap_ofTransaction registry b _ hf, hactions]

theorem sideRows_ofBlock : (ofBlock registry decoder b).filterMap IngestStep.sideRow? =
    b.placed.filterMap fun x => x.sideRow? registry decoder b := by
  rw [filterMap_ofBlock registry decoder b IngestStep.ofHandlers_sideRow?]
  simp only [sideRows_afterAction, ← List.filterMap_eq_flatMap_toList]

end Script

end ChainWatch
