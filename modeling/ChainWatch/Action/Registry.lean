import ChainWatch.Action.Asset
import ChainWatch.Action.Kind
import ChainWatch.Action.Stake

/-!
# Handlers of actions

A handler turns an action into a row beside the action's own.  A registry says which handler, if
any, an action's code has; the last registration of a code counts.

* `Handler.build` : the row that an action gives rise to.
* `Registry.register`, `Registry.handlerOf` : the registrations.
* `Registry.standard` : assets and stakes under the codes of their kinds.
-/

namespace ChainWatch

/-- The handlers there are. -/
inductive Handler
  | createAsset
  | registerValidatorStake
  deriving DecidableEq, Repr

namespace Handler

/-- Every handler. -/
def all : List Handler := [createAsset, registerValidatorStake]

/-- The name of a handler. -/
def name : Handler → String
  | createAsset => "CreateAsset"
  | registerValidatorStake => "RegisterValidatorStake"

/-- The handler of a name. -/
def ofName? (name : String) : Option Handler := all.find? (·.name == name)

/-- The row that an action gives rise to. -/
def build : Handler → ActionContext → Except FieldError SideRow
  | createAsset, ctx => (AssetRow.ofAction ctx).map .asset
  | registerValidatorStake, ctx => (StakeRow.ofAction ctx).map .stake

end Handler

/-- A handler under a code. -/
structure Registration where
  code : Nat
  handler : Handler
  deriving DecidableEq, Repr

instance : Keyed Registration Nat := ⟨Registration.code⟩

/-- The registered handlers by code. -/
abbrev Registry := Table Registration

namespace Registry

/-- Registers a handler, in place of an earlier one of the same code. -/
def register (r : Registry) (code : Nat) (handler : Handler) : Registry :=
  r.upsert ⟨code, handler⟩

/-- Registers a list of handlers from the first on. -/
def registerAll (r : Registry) (entries : List (Nat × Handler)) : Registry :=
  entries.foldl (fun r (code, handler) => r.register code handler) r

/-- The handler of a code. -/
def handlerOf (r : Registry) (code : Nat) : Option Handler := (r.find? code).map (·.handler)

/-- Whether a code has a handler. -/
def hasHandler (r : Registry) (code : Nat) : Bool := (r.handlerOf code).isSome

/-- The codes with a handler, ascending. -/
def codes (r : Registry) : List Nat := r.rows.map (·.code)

/-- No handlers. -/
def none : Registry := Table.empty

/-- The handlers of created assets and registered stakes, under the codes of these kinds. -/
def standard : Registry :=
  none.registerAll
    [(ActionKind.createAsset.code, .createAsset),
     (ActionKind.registerValidatorStake.code, .registerValidatorStake)]

/-- The registry as a log shows it. -/
def text (r : Registry) : String :=
  let codes := ", ".intercalate (r.codes.map toString)
  s!"ActionClassifier \x7b handled_codes: [{codes}] \x7d"

end Registry

end ChainWatch
