import ChainWatch.Ingest.Error

/-!
# Refusals of the HTTP interface

The status of a refusal tells whether to try again: what the sender has done wrong stays wrong, and
a store that does not answer may answer later.

* `ApiError` : the refusals, with status and wording.
* `ApiError.ofStore`, `ApiError.ofIngest` : what a failure becomes.
-/

namespace ChainWatch

/-- Why a request is refused. -/
inductive ApiError
  | notFound (reason : String)
  | invalidRequest (reason : String)
  | notReady (reason : String)
  | unprocessable (reason : String)
  | unavailable (reason : String)
  | database (reason : String)
  deriving DecidableEq, Repr

namespace ApiError

/-- The status of a refusal. -/
def status : ApiError → Nat
  | .notFound _ => 404
  | .invalidRequest _ => 400
  | .notReady _ => 409
  | .unprocessable _ => 422
  | .unavailable _ => 503
  | .database _ => 500

/-- The wording of a refusal. -/
def message : ApiError → String
  | .notFound reason => s!"Not found: {reason}"
  | .invalidRequest reason => s!"Invalid request: {reason}"
  | .notReady reason => reason
  | .unprocessable reason => s!"Unprocessable block: {reason}"
  | .unavailable reason => s!"Store unavailable: {reason}"
  | .database reason => s!"Database error: {reason}"

/-- A failing store access: a store that does not answer is unavailable. -/
def ofStore (error : StoreError) : ApiError :=
  match error with
  | .timeout .. | .connection _ => .unavailable error.message
  | _ => .database error.message

/-- A block that is not ingested, or genesis data that is not adopted. -/
def ofIngest (error : IngestError) : ApiError :=
  match error with
  | .notReady => .notReady error.message
  | .undecodable cause => .invalidRequest cause.message
  | .handler .. => .unprocessable error.message
  | .store cause => ofStore cause

end ApiError

end ChainWatch
