import ChainWatch.Ingest.Error
import ChainWatch.Ingest.Executed
import ChainWatch.Log

/-!
# What a block asks of the store

The work on a block is a list of steps that is known before the store is looked at: rows to be
written in the order of the document, then the volumes to be counted anew, then the row of the
block itself.

* `IngestStep` : a step.
* `Script.ofAction`, `Script.ofTransaction`, `Script.ofBlock` : the steps of the parts and of the
  whole.
* `touchedCodes` : the types of actions that occur, ascending.
-/

namespace ChainWatch

/-- Where an action stands in its block. -/
structure ActionPlace where
  height : Nat
  txHash : String
  position : Nat
  actionName : String
  deriving DecidableEq, Repr

/-- A step of the work on a block. -/
inductive IngestStep
  /-- Reports something. -/
  | report (line : LogLine)
  /-- Writes the row of an action. -/
  | writeAction (row : ActionRow)
  /-- Writes the row that an action gives rise to. -/
  | writeSide (place : ActionPlace) (row : SideRow)
  /-- Gives up because an action does not give the row it should. -/
  | refuse (place : ActionPlace) (error : FieldError)
  /-- Writes the row of a transaction. -/
  | writeTransaction (row : TransactionRow)
  /-- Counts the actions of a type anew. -/
  | refreshVolume (code : Nat)
  /-- Writes the row of the block. -/
  | writeBlock (row : BlockRow)

/-- The steps of the work on a block. -/
abbrev Script := List IngestStep

namespace Script

/-- What a handler has to say about an action. -/
def ofHandler (place : ActionPlace) (handler : Handler) (ctx : ActionContext) : IngestStep :=
  match handler.build ctx with
  | .ok row => .writeSide place row
  | .error error => .refuse place error

/-- The line about an action whose handler has no output to work on. -/
def skippedHandler (place : ActionPlace) : LogLine :=
  let action := s!"tx {place.txHash} action {place.position}"
  ⟨.warn, s!"Block {place.height}: skipping {place.actionName} handler for {action}, " ++
    "output not decoded"⟩

/-- The steps behind the row of an action. -/
def afterAction (registry : Registry) (b : Block) (e : Executed) (action : Action)
    (position : Nat) : Script :=
  let place : ActionPlace := ⟨b.height, e.tx.txHash, position, actionName action.typeId⟩
  match e.handled registry b.timestamp action position with
  | some (handler, ctx) => [ofHandler place handler ctx]
  | none =>
    if e.success && (e.outputAt position).isNone && registry.hasHandler action.typeId then
      [.report (skippedHandler place)]
    else []

/-- The steps of an action. -/
def ofAction (registry : Registry) (b : Block) (e : Executed) (action : Action)
    (position : Nat) : Script :=
  .writeAction (e.actionRow b.timestamp action position)
    :: afterAction registry b e action position

/-- The line about a transaction without a result. -/
def missingResult (b : Block) (e : Executed) : Script :=
  if e.delivered then []
  else
    let finding := s!"no execution result for tx {e.tx.txHash}, recording as failed"
    [.report ⟨.warn, s!"Block {b.height}: {finding}"⟩]

/-- The lines about outputs that cannot be decoded. -/
def badOutputs (e : Executed) : Script :=
  e.outputs.zipIdx.filterMap fun (output, position) =>
    match output with
    | .ok _ => none
    | .error error =>
      some (.report
        ⟨.warn, s!"Skipping output {position} of tx {e.tx.txHash}: {error.message}"⟩)

/-- The steps of a transaction. -/
def ofTransaction (registry : Registry) (b : Block) (e : Executed) : Script :=
  missingResult b e ++ badOutputs e
    ++ e.actions.flatMap (fun (action, position) => ofAction registry b e action position)
    ++ [.writeTransaction (e.transactionRow b)]

end Script

instance : Keyed Nat Nat := ⟨id⟩

/-- The types of the actions of a block, ascending. -/
def touchedCodes (b : Block) : List Nat :=
  let codes := b.transactions.flatMap fun tx => tx.actions.map (·.typeId)
  (codes.foldl Table.upsert Table.empty).rows

/-- The steps of a block. -/
def Script.ofBlock (registry : Registry) (decoder : Decoder) (b : Block) : Script :=
  let txs := b.executed decoder
  txs.flatMap (Script.ofTransaction registry b)
    ++ (touchedCodes b).map .refreshVolume
    ++ [.writeBlock ((Totals.of txs).blockRow b)]

end ChainWatch
