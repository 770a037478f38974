import ChainWatch.Action.Fields
import ChainWatch.Ingest.Decoder
import ChainWatch.Store.Error

/-!
# Why a block is not ingested

* `HandlerError` : an action's side row cannot be built or stored.
* `IngestError` : the block as a whole cannot be ingested.
-/

namespace ChainWatch

/-- Why the handler of an action fails. -/
inductive HandlerError
  /-- The documents of the action do not give a row. -/
  | field (error : FieldError)
  /-- The row cannot be stored. -/
  | store (error : StoreError)
  deriving DecidableEq, Repr

/-- The wording of a failing handler. -/
def HandlerError.message : HandlerError → String
  | .field error => error.message
  | .store error => s!"Database error: {error.message}"

/-- Why a block is not ingested, or genesis data not adopted. -/
inductive IngestError
  /-- No genesis data has been adopted yet. -/
  | notReady
  /-- The bytes cannot be decoded. -/
  | undecodable (error : DecodeError)
  /-- The handler of an action fails. -/
  | handler (txHash : String) (position : Nat) (source : HandlerError)
  /-- A store access fails. -/
  | store (error : StoreError)
  deriving DecidableEq, Repr

/-- The wording of a failure. -/
def IngestError.message : IngestError → String
  | .notReady => "Decoder is not initialized; call initialize with genesis data first"
  | .undecodable error => error.message
  | .handler txHash position source =>
    s!"Action {position} of transaction {txHash} failed post-processing: {source.message}"
  | .store error => s!"Database error: {error.message}"

end ChainWatch
