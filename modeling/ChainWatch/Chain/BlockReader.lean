import ChainWatch.Chain.Block
import ChainWatch.Json.Reader

/-!
# Reading blocks

Blocks, transactions, actions and results are records.  The results of a block, the outputs of a
result and the input of an action may be left out; an output is hexadecimal text.

* `Block.reader` : the reader of a block, built from those of its parts.
-/

namespace ChainWatch

open RecordReader (once need)

/-- The fields of an action that have been read. -/
structure Action.Draft where
  typeId : Option Nat := none
  input : Option Json := none

/-- Reads an action; a missing input is null. -/
def Action.record : RecordReader Action.Draft Action where
  name := "Action"
  fields := ["type_id", "input"]
  required := 1
  blank := {}
  assign depth draft name tree :=
    match name with
    | "type_id" => return { draft with typeId := ← once name draft.typeId .byte depth tree }
    | _ => return { draft with input := ← once name draft.input .any depth tree }
  finish draft := do
    return { typeId := ← need "type_id" draft.typeId, input := draft.input.getD .null }

/-- The fields of a transaction that have been read. -/
structure Transaction.Draft where
  txHash : Option String := none
  sponsor : Option String := none
  actions : Option (List Action) := none
  maxFee : Option Nat := none

/-- Reads a transaction. -/
def Transaction.record : RecordReader Transaction.Draft Transaction where
  name := "Transaction"
  fields := ["tx_hash", "sponsor", "actions", "max_fee"]
  required := 4
  blank := {}
  assign depth draft name tree :=
    match name with
    | "tx_hash" => return { draft with txHash := ← once name draft.txHash .text depth tree }
    | "sponsor" => return { draft with sponsor := ← once name draft.sponsor .text depth tree }
    | "actions" =>
      return { draft with
        actions := ← once name draft.actions (.list Action.record.reader) depth tree }
    | _ => return { draft with maxFee := ← once name draft.maxFee .unsigned depth tree }
  finish draft := do
    return {
      txHash := ← need "tx_hash" draft.txHash
      sponsor := ← need "sponsor" draft.sponsor
      actions := ← need "actions" draft.actions
      maxFee := ← need "max_fee" draft.maxFee }

/-- Reads outputs: all texts first, then their digits from the first one on. -/
def ExecutionResult.outputsReader : Reader (List Bytes) := fun depth tree => do
  let texts ← Reader.list .text depth tree
  texts.mapM fun text => (Hex.decodeText text).mapError .badHex

/-- The fields of a result that have been read. -/
structure ExecutionResult.Draft where
  success : Option Bool := none
  fee : Option Nat := none
  outputs : Option (List Bytes) := none

/-- Reads a result; missing outputs are none. -/
def ExecutionResult.record : RecordReader ExecutionResult.Draft ExecutionResult where
  name := "ExecutionResult"
  fields := ["success", "fee", "outputs"]
  required := 2
  blank := {}
  assign depth draft name tree :=
    match name with
    | "success" => return { draft with success := ← once name draft.success .boolean depth tree }
    | "fee" => return { draft with fee := ← once name draft.fee .unsigned depth tree }
    | _ =>
      return { draft with
        outputs := ← once name draft.outputs ExecutionResult.outputsReader depth tree }
  finish draft := do
    return {
      success := ← need "success" draft.success
      fee := ← need "fee" draft.fee
      outputs := draft.outputs.getD [] }

/-- The fields of a block that have been read. -/
structure Block.Draft where
  height : Option Nat := none
  blockHash : Option String := none
  parentHash : Option String := none
  stateRoot : Option String := none
  timestampMs : Option Int := none
  size : Option Nat := none
  transactions : Option (List Transaction) := none
  results : Option (List ExecutionResult) := none

/-- Reads a block; missing results are none. -/
def Block.record : RecordReader Block.Draft Block where
  name := "ExecutedBlock"
  fields := ["height", "block_hash", "parent_hash", "state_root", "timestamp_ms", "size",
    "transactions", "results"]
  required := 7
  blank := {}
  assign depth draft name tree :=
    match name with
    | "height" => return { draft with height := ← once name draft.height .unsigned depth tree }
    | "block_hash" =>
      return { draft with blockHash := ← once name draft.blockHash .text depth tree }
    | "parent_hash" =>
      return { draft with parentHash := ← once name draft.parentHash .text depth tree }
    | "state_root" =>
      return { draft with stateRoot := ← once name draft.stateRoot .text depth tree }
    | "timestamp_ms" =>
      return { draft with timestampMs := ← once name draft.timestampMs .signed depth tree }
    | "size" => return { draft with size := ← once name draft.size .unsigned depth tree }
    | "transactions" =>
      return { draft with
        transactions :=
          ← once name draft.transactions (.list Transaction.record.reader) depth tree }
    | _ =>
      return { draft with
        results := ← once name draft.results (.list ExecutionResult.record.reader) depth tree }
  finish draft := do
    return {
      height := ← need "height" draft.height
      blockHash := ← need "block_hash" draft.blockHash
      parentHash := ← need "parent_hash" draft.parentHash
      stateRoot := ← need "state_root" draft.stateRoot
      timestampMs := ← need "timestamp_ms" draft.timestampMs
      size := ← need "size" draft.size
      transactions := ← need "transactions" draft.transactions
      results := draft.results.getD [] }

/-- The reader of a block. -/
def Block.reader : Reader Block := Block.record.reader

end ChainWatch
