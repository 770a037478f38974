import ChainWatch.Action.Fields
import ChainWatch.Time.Instant

/-!
# What a handler sees of an action

* `ActionContext` : the executed action with its decoded output, and the transaction around it.
-/

namespace ChainWatch

/-- An executed action with a decoded output. -/
structure ActionContext where
  input : Json
  output : Members
  sponsor : String
  txHash : String
  timestamp : Instant
  deriving DecidableEq, Repr

end ChainWatch
