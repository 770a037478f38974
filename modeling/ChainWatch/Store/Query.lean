import ChainWatch.Store.Basic

/-!
# Reading what blocks have left

Every query names itself, so that an error tells which one the store has not answered.

* blocks: `latestBlock`, `findBlock`, `blocksSince`, `allBlocks`
* transactions: `findTransaction`, `countTransactions`, `allTransactions`
* actions: `actionsOf`, `allActions`, `findVolume`, `allVolumes`
* side rows: `findAsset`, `allAssets`, `findStake`, `allStakes`
* the genesis document: `latestGenesis`
-/

namespace ChainWatch

namespace Store

/-- The table of blocks. -/
def blocksFor (s : Store) (operation : Operation) : Except StoreError (Table BlockRow) := do
  Tables.need .blocks (← s.bounded operation).blocks

/-- The block with the greatest height. -/
def latestBlock (s : Store) : Except StoreError (Option BlockRow) :=
  (s.blocksFor .latestBlock).map (·.rows.getLast?)

/-- The block of a height, which is looked up as a signed number. -/
def findBlock (s : Store) (height : Nat) : Except StoreError (Option BlockRow) :=
  (s.blocksFor .findBlock).map (·.find? (wrapSigned height))

/-- The blocks later than an instant, the highest first. -/
def blocksSince (s : Store) (since : Instant) : Except StoreError (List BlockRow) :=
  (s.blocksFor .blocksSince).map fun t => (t.rows.filter (·.timestamp.isAfter since)).reverse

/-- All blocks by height. -/
def allBlocks (s : Store) : Except StoreError (List BlockRow) :=
  (s.blocksFor .allBlocks).map (·.rows)

/-- The table of transactions. -/
def transactionsFor (s : Store) (operation : Operation) :
    Except StoreError (Table TransactionRow) := do
  Tables.need .transactions (← s.bounded operation).transactions

/-- The transaction of a hash. -/
def findTransaction (s : Store) (hash : String) : Except StoreError (Option TransactionRow) := do
  ((← s.transactionsFor .getTransaction).find? hash).mapM TransactionRow.reread

/-- The number of transactions in any of the given blocks; of no blocks it is known without
asking. -/
def countTransactions (s : Store) (hashes : List String) : Except StoreError Nat :=
  if hashes.isEmpty then .ok 0
  else
    (s.transactionsFor .countTransactions).map fun t =>
      t.rows.countP fun r => hashes.contains r.blockHash

/-- All transactions by hash. -/
def allTransactions (s : Store) : Except StoreError (List TransactionRow) := do
  (← s.transactionsFor .allTransactions).rows.mapM TransactionRow.reread

/-- The table of actions. -/
def actionsFor (s : Store) (operation : Operation) : Except StoreError (Table ActionRow) := do
  Tables.need .actions (← s.bounded operation).actions

/-- The actions of a transaction in their order. -/
def actionsOf (s : Store) (hash : String) : Except StoreError (List ActionRow) :=
  (s.actionsFor .actionsOfTransaction).map fun t =>
    (t.rows.filter (·.txHash == hash)).map ActionRow.reread

/-- All actions by transaction and position. -/
def allActions (s : Store) : Except StoreError (List ActionRow) :=
  (s.actionsFor .allActions).map (·.rows.map ActionRow.reread)

/-- The table of volumes. -/
def volumesFor (s : Store) (operation : Operation) : Except StoreError (Table VolumeRow) := do
  Tables.need .volumes (← s.bounded operation).volumes

/-- The volume of a type of action. -/
def findVolume (s : Store) (code : Nat) : Except StoreError (Option VolumeRow) :=
  (s.volumesFor .getVolume).map (·.find? code)

/-- All volumes by type. -/
def allVolumes (s : Store) : Except StoreError (List VolumeRow) :=
  (s.volumesFor .allVolumes).map (·.rows)

/-- The asset of an address. -/
def findAsset (s : Store) (address : String) : Except StoreError (Option AssetRow) := do
  return (← Tables.need .assets (← s.bounded .findAsset).assets).find? address

/-- All assets by address. -/
def allAssets (s : Store) : Except StoreError (List AssetRow) := do
  return (← Tables.need .assets (← s.bounded .allAssets).assets).rows

/-- The stake of a node from a block on, whose number is looked up as a signed one. -/
def findStake (s : Store) (nodeId : String) (start : Nat) :
    Except StoreError (Option StakeRow) := do
  return (← Tables.need .stakes (← s.bounded .findStake).stakes).find? (nodeId, wrapSigned start)

/-- All stakes by node and start. -/
def allStakes (s : Store) : Except StoreError (List StakeRow) := do
  return (← Tables.need .stakes (← s.bounded .allStakes).stakes).rows

/-- The stored genesis document. -/
def latestGenesis (s : Store) : Except StoreError (Option Json) := do
  let t ← Tables.need .genesis (← s.bounded .latestGenesis).genesis
  return t.rows.getLast?.map (·.document.reread)

end Store

end ChainWatch
