import ChainWatch.Action.Registry
import ChainWatch.Chain.Participants
import ChainWatch.Ingest.Decoder

/-!
# Executed transactions

A transaction and the result at its position, taken together.  A transaction without a result
counts as failed and has consumed no fee; the outputs of a failed transaction are not looked at.

* `Executed.of`, `Block.executed` : transactions with what executing them has given.
* `Executed.outputAt`, `Executed.handled` : what an action has given, and who deals with it.
* `Executed.transactionRow`, `Executed.actionRow` : the rows.
* `Totals.of`, `Totals.blockRow` : the sums over a block.
-/

namespace ChainWatch

/-- A transaction with what executing it has given. -/
structure Executed where
  tx : Transaction
  /-- Whether a result stands at the position of the transaction. -/
  delivered : Bool
  success : Bool
  fee : Nat
  /-- The outputs by position, as far as they can be decoded; none of a failed transaction. -/
  outputs : List (Except DecodeError Members)

namespace Executed

/-- A transaction with its result. -/
def of (decoder : Decoder) (tx : Transaction) : Option ExecutionResult → Executed
  | some r =>
    { tx, delivered := true, success := r.success, fee := r.fee
      outputs := if r.success then r.outputs.map decoder.output else [] }
  | none => { tx, delivered := false, success := false, fee := 0, outputs := [] }

/-- The outputs that can be decoded, also those behind the last action. -/
def decoded (e : Executed) : List Members := e.outputs.filterMap Except.toOption

/-- The number of outputs that cannot be decoded. -/
def undecodable (e : Executed) : Nat := e.outputs.countP fun output => !output.isOk

/-- The output at the position of an action, if it can be decoded. -/
def outputAt (e : Executed) (position : Nat) : Option Members :=
  e.outputs[position]?.bind Except.toOption

/-- The addresses that the outputs name. -/
def participants (e : Executed) : TxParticipants := .ofOutputs e.decoded

/-- The actions with their positions. -/
def actions (e : Executed) : List (Action × Nat) := e.tx.actions.zipIdx

/-- What the row of an action shows of its output. -/
def outputDocument (e : Executed) (position : Nat) : Json := .obj ((e.outputAt position).getD [])

/-- The row of an action. -/
def actionRow (e : Executed) (time : Instant) (action : Action) (position : Nat) : ActionRow :=
  { txHash := e.tx.txHash, actionType := action.typeId, actionIndex := wrapIndex position
    actionName := actionName action.typeId, input := action.input
    output := e.outputDocument position, timestamp := time }

/-- An action as the row of its transaction shows it. -/
def snapshot (e : Executed) (action : Action) (position : Nat) : ActionSnapshot :=
  { actionType := action.typeId, actionName := actionName action.typeId
    input := action.input, output := e.outputDocument position }

/-- The row of the transaction. -/
def transactionRow (e : Executed) (b : Block) : TransactionRow :=
  { txHash := e.tx.txHash, blockHash := b.blockHash, sponsor := e.tx.sponsor
    actors := e.participants.actors.toList, receivers := e.participants.receivers.toList
    maxFee := clampSigned e.tx.maxFee, success := e.success, fee := clampSigned e.fee
    actions := e.actions.map fun (action, position) => e.snapshot action position
    timestamp := b.timestamp }

/-- The handler of an action and what it gets to see: the code has a handler, and the action has an
output that can be decoded. -/
def handled (e : Executed) (registry : Registry) (time : Instant) (action : Action)
    (position : Nat) : Option (Handler × ActionContext) := do
  let output ← e.outputAt position
  let handler ← registry.handlerOf action.typeId
  return (handler, {
    input := action.input, output, sponsor := e.tx.sponsor, txHash := e.tx.txHash
    timestamp := time })

end Executed

/-- The transactions of a block with what executing them has given. -/
def Block.executed (b : Block) (decoder : Decoder) : List Executed :=
  b.transactions.zipIdx.map fun (tx, position) => .of decoder tx (b.resultAt position)

/-! ### Sums over a block -/

/-- What is summed up over the transactions of a block. -/
structure Totals where
  transactions : Nat
  /-- The consumed fees; the sum stops at the largest unsigned number. -/
  fee : Nat
  participants : Nat
  undecodable : Nat
  deriving DecidableEq, Repr

/-- The addresses that take part in a list of transactions. -/
def participantsOf (txs : List Executed) : BlockParticipants :=
  txs.foldl (fun s e => (BlockParticipants.addSponsor s e.tx.sponsor).absorb e.participants)
    Table.empty

/-- The consumed fees, as a sum that stops at the largest unsigned number. -/
def feeOf (txs : List Executed) : Nat := txs.foldl (fun sum e => addClamped sum e.fee) 0

/-- The sums over a list of transactions. -/
def Totals.of (txs : List Executed) : Totals :=
  { transactions := txs.length, fee := feeOf txs, participants := (participantsOf txs).size
    undecodable := txs.foldl (fun sum e => sum + e.undecodable) 0 }

/-- The row of a block. -/
def Totals.blockRow (t : Totals) (b : Block) : BlockRow :=
  { height := clampSigned b.height, blockHash := b.blockHash, parentHash := b.parentHash
    stateRoot := b.stateRoot, size := clampSigned b.size, txCount := clampCount t.transactions
    totalFee := clampSigned t.fee, avgTxSize := b.avgTxSize
    uniqueParticipants := clampCount t.participants, timestamp := b.timestamp }

end ChainWatch
