import ChainWatch.Action.Context
import ChainWatch.Store.Row

/-!
# Registered stakes

An action that registers a validator's stake tells everything about it in its output.

* `StakeRow.ofAction` : the row of the stake, or the first field that keeps it from being built.
-/

namespace ChainWatch

/-- The stake that an action registers; the fields are examined in the order in which they stand
here. -/
def StakeRow.ofAction (ctx : ActionContext) : Except FieldError StakeRow := do
  let output : Fields := ⟨"RegisterValidatorStake", ctx.output⟩
  return {
    nodeId := ← output.text "node_id"
    startBlock := ← output.signed "stake_start_block"
    actor := ctx.sponsor
    endBlock := ← output.signed "stake_end_block"
    amount := ← output.signed "staked_amount"
    feeRate := ← output.signed "delegation_fee_rate"
    rewardAddress := ← output.text "reward_address"
    txHash := ctx.txHash
    timestamp := ctx.timestamp }

end ChainWatch
