import ChainWatch.Action.Context
import ChainWatch.Store.Row

/-!
# Created assets

An action that creates an asset names the address in its output and describes the asset in its
input.

* `assetTypeName` : the names of the three asset types.
* `AssetRow.ofAction` : the row of the asset, or the first field that keeps it from being built.
-/

namespace ChainWatch

/-- The name of an asset type. -/
def assetTypeName : Nat → Option String
  | 0 => some "fungible"
  | 1 => some "non-fungible"
  | 2 => some "fractional"
  | _ => none

/-- A number of decimals fits a signed 32-bit column. -/
def AssetRow.decimalsOf (input : Fields) : Except FieldError (Option Nat) := do
  match ← input.optSigned "decimals" with
  | none => return none
  | some d => return some (← input.narrow "decimals" maxCount d)

/-- The asset that an action creates; the fields are examined in the order in which they stand
here. -/
def AssetRow.ofAction (ctx : ActionContext) : Except FieldError AssetRow := do
  let action := "CreateAsset"
  let input := Fields.ofDocument action ctx.input
  let output : Fields := ⟨action, ctx.output⟩
  let address ← output.text "asset_address"
  let typeId ← input.unsigned "asset_type"
  let typeName ← match assetTypeName typeId with
    | some name => pure name
    | none => input.malformed "asset_type" s!"unknown asset type {typeId}"
  let decimals ← AssetRow.decimalsOf input
  return {
    address, typeId, typeName, decimals
    creator := ctx.sponsor
    txHash := ctx.txHash
    name := ← input.optText "name"
    symbol := ← input.optText "symbol"
    metadata := ← input.optText "metadata"
    maxSupply := ← input.optSigned "max_supply"
    mintAdmin := ← input.optText "mint_admin"
    pauseAdmin := ← input.optText "pause_unpause_admin"
    freezeAdmin := ← input.optText "freeze_unfreeze_admin"
    kycAdmin := ← input.optText "enable_disable_kyc_account_admin"
    timestamp := ctx.timestamp }

end ChainWatch
