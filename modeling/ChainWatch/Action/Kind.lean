/-!
# Kinds of actions

The codes from 0 to 22 have names; every other code is unknown.

* `ActionKind` : the named kinds in the order of their codes.
* `ActionKind.ofCode?`, `ActionKind.code` : between codes and kinds.
* `actionName` : the name under which an action is stored.
-/

namespace ChainWatch

/-- The named kinds of actions, in the order of their codes. -/
inductive ActionKind
  | transfer
  | contractCall
  | contractDeploy
  | contractPublish
  | createAsset
  | updateAsset
  | mintAssetFT
  | mintAssetNFT
  | burnAssetFT
  | burnAssetNFT
  | registerValidatorStake
  | withdrawValidatorStake
  | claimValidatorStakeRewards
  | delegateUserStake
  | undelegateUserStake
  | claimDelegationStakeRewards
  | createDataset
  | updateDataset
  | initiateContributeDataset
  | completeContributeDataset
  | publishDatasetMarketplace
  | subscribeDatasetMarketplace
  | claimMarketplacePayment
  deriving DecidableEq, Repr

namespace ActionKind

/-- Every kind, at the position of its code. -/
def all : List ActionKind :=
  [transfer, contractCall, contractDeploy, contractPublish, createAsset, updateAsset,
   mintAssetFT, mintAssetNFT, burnAssetFT, burnAssetNFT, registerValidatorStake,
   withdrawValidatorStake, claimValidatorStakeRewards, delegateUserStake, undelegateUserStake,
   claimDelegationStakeRewards, createDataset, updateDataset, initiateContributeDataset,
   completeContributeDataset, publishDatasetMarketplace, subscribeDatasetMarketplace,
   claimMarketplacePayment]

/-- The code of a kind. -/
def code (k : ActionKind) : Nat := k.ctorIdx

/-- The kind of a code, if it has one. -/
def ofCode? (code : Nat) : Option ActionKind := all[code]?

/-- The name of a kind. -/
def name : ActionKind → String
  | transfer => "Transfer"
  | contractCall => "ContractCall"
  | contractDeploy => "ContractDeploy"
  | contractPublish => "ContractPublish"
  | createAsset => "CreateAsset"
  | updateAsset => "UpdateAsset"
  | mintAssetFT => "MintAssetFT"
  | mintAssetNFT => "MintAssetNFT"
  | burnAssetFT => "BurnAssetFT"
  | burnAssetNFT => "BurnAssetNFT"
  | registerValidatorStake => "RegisterValidatorStake"
  | withdrawValidatorStake => "WithdrawValidatorStake"
  | claimValidatorStakeRewards => "ClaimValidatorStakeRewards"
  | delegateUserStake => "DelegateUserStake"
  | undelegateUserStake => "UndelegateUserStake"
  | claimDelegationStakeRewards => "ClaimDelegationStakeRewards"
  | createDataset => "CreateDataset"
  | updateDataset => "UpdateDataset"
  | initiateContributeDataset => "InitiateContributeDataset"
  | completeContributeDataset => "CompleteContributeDataset"
  | publishDatasetMarketplace => "PublishDatasetMarketplace"
  | subscribeDatasetMarketplace => "SubscribeDatasetMarketplace"
  | claimMarketplacePayment => "ClaimMarketplacePayment"

end ActionKind

/-- The name of every action without a kind. -/
def unknownAction : String := "Unknown"

/-- The name under which an action of a code is stored. -/
def actionName (code : Nat) : String :=
  match ActionKind.ofCode? code with
  | some kind => kind.name
  | none => unknownAction

end ChainWatch
