import ChainWatch.Json.Basic
import ChainWatch.Text.Hex
import ChainWatch.Time.Instant

/-!
# Blocks

A block holds signed transactions, each an ordered list of actions, and the results of executing
them.  The result of a transaction stands at the same position as the transaction; results may be
missing at the end, and surplus ones belong to nothing.

* `Action`, `Transaction`, `ExecutionResult`, `Block` : the types.
* `Block.timestamp`, `Block.avgTxSize`, `Block.resultAt` : what is derived from a block alone.
* `Block.toJson` : the JSON form, fields in declaration order and outputs in hexadecimal.
-/

namespace ChainWatch

/-- A state-changing operation inside a transaction. -/
structure Action where
  /-- The code of the action's type, below 256. -/
  typeId : Nat
  /-- The decoded input document. -/
  input : Json
  deriving DecidableEq, Repr

/-- A signed transaction. -/
structure Transaction where
  txHash : String
  sponsor : String
  actions : List Action
  maxFee : Nat
  deriving DecidableEq, Repr

/-- The outcome of executing a transaction. -/
structure ExecutionResult where
  success : Bool
  /-- The fee that was consumed. -/
  fee : Nat
  /-- The raw output of every action, by position. -/
  outputs : List Bytes
  deriving DecidableEq, Repr

/-- A finalized block with the results of its transactions. -/
structure Block where
  /-- Height, starting at 1. -/
  height : Nat
  blockHash : String
  parentHash : String
  stateRoot : String
  /-- Milliseconds since the epoch. -/
  timestampMs : Int
  /-- Serialized size in bytes. -/
  size : Nat
  transactions : List Transaction
  /-- Results by position of the transaction. -/
  results : List ExecutionResult
  deriving DecidableEq, Repr

/-- The height at which all derived tables start over. -/
def genesisHeight : Nat := 1

namespace Block

/-- Whether the block starts the chain over. -/
def isGenesis (b : Block) : Bool := b.height = genesisHeight

/-- The block's time; a time outside the calendar counts as the epoch. -/
def timestamp (b : Block) : Instant := .ofMillis b.timestampMs

/-- The result of the transaction at a position, if one was delivered. -/
def resultAt (b : Block) (position : Nat) : Option ExecutionResult := b.results[position]?

/-- Mean transaction size in bytes, zero for a block without transactions. -/
def avgTxSize (b : Block) : Double :=
  if b.transactions.isEmpty then Double.zero
  else (Double.ofNat b.size).div (Double.ofNat b.transactions.length)

end Block

/-! ### JSON form -/

/-- An action as an object. -/
def Action.toJson (a : Action) : Json :=
  .obj [("type_id", .nat a.typeId), ("input", a.input)]

/-- A transaction as an object. -/
def Transaction.toJson (t : Transaction) : Json :=
  .obj [("tx_hash", .str t.txHash), ("sponsor", .str t.sponsor),
    ("actions", .arr (t.actions.map Action.toJson)), ("max_fee", .nat t.maxFee)]

/-- A result as an object, its outputs in lower-case hexadecimal. -/
def ExecutionResult.toJson (r : ExecutionResult) : Json :=
  .obj [("success", .bool r.success), ("fee", .nat r.fee),
    ("outputs", .strings (r.outputs.map Hex.encode))]

/-- A block as an object. -/
def Block.toJson (b : Block) : Json :=
  .obj [("height", .nat b.height), ("block_hash", .str b.blockHash),
    ("parent_hash", .str b.parentHash), ("state_root", .str b.stateRoot),
    ("timestamp_ms", .int b.timestampMs), ("size", .nat b.size),
    ("transactions", .arr (b.transactions.map Transaction.toJson)),
    ("results", .arr (b.results.map ExecutionResult.toJson))]

end ChainWatch
