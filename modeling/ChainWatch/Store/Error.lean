import ChainWatch.Time.Span

/-!
# Failing store accesses

* `TableName` : the nine tables.
* `Operation` : the accesses that are bounded in time.
* `StoreError` : why an access fails, with its wording.
-/

namespace ChainWatch

/-- The tables of the store. -/
inductive TableName
  | blocks
  | transactions
  | actions
  | assets
  | stakes
  | volumes
  | genesis
  | incidents
  | daily
  deriving DecidableEq, Repr

namespace TableName

/-- Every table, the derived ones first. -/
def all : List TableName :=
  [blocks, transactions, actions, assets, stakes, volumes, genesis, incidents, daily]

/-- The tables that blocks fill. -/
def derived : List TableName := [blocks, transactions, actions, assets, stakes, volumes]

/-- The name of a table in the store. -/
def text : TableName → String
  | blocks => "blocks"
  | transactions => "transactions"
  | actions => "actions"
  | assets => "assets"
  | stakes => "validator_stake"
  | volumes => "action_volumes"
  | genesis => "genesis_data"
  | incidents => "health_events"
  | daily => "daily_health_summaries"

/-- The table of a name. -/
def ofText? (name : String) : Option TableName := all.find? (·.text == name)

end TableName

/-- The store accesses that give up after a while. -/
inductive Operation
  | beginBlock
  | upsertAction
  | runHandler
  | upsertTransaction
  | refreshVolume
  | upsertBlock
  | commitBlock
  | storeGenesis
  | genesisReset
  | latestBlock
  | findBlock
  | blocksSince
  | allBlocks
  | getTransaction
  | countTransactions
  | allTransactions
  | actionsOfTransaction
  | allActions
  | findAsset
  | allAssets
  | findStake
  | allStakes
  | getVolume
  | allVolumes
  | latestGenesis
  | insertIncident
  | closeIncident
  | findOpenIncident
  | findAnyOpenIncident
  | incidentHistory
  | recordDaily
  | dailySince
  deriving DecidableEq, Repr

/-- The name of an access in messages. -/
def Operation.text : Operation → String
  | .beginBlock => "begin_block"
  | .upsertAction => "upsert_action"
  | .runHandler => "action_handler"
  | .upsertTransaction => "upsert_transaction"
  | .refreshVolume => "refresh_action_volume"
  | .upsertBlock => "upsert_block"
  | .commitBlock => "commit_block"
  | .storeGenesis => "store_genesis"
  | .genesisReset => "genesis_reset"
  | .latestBlock => "latest_block"
  | .findBlock => "find_block"
  | .blocksSince => "blocks_since"
  | .allBlocks => "all_blocks"
  | .getTransaction => "get_transaction"
  | .countTransactions => "count_transactions_in_blocks"
  | .allTransactions => "all_transactions"
  | .actionsOfTransaction => "find_actions_by_tx"
  | .allActions => "all_actions"
  | .findAsset => "find_asset"
  | .allAssets => "all_assets"
  | .findStake => "find_validator_stake"
  | .allStakes => "all_validator_stakes"
  | .getVolume => "get_action_volume"
  | .allVolumes => "all_action_volumes"
  | .latestGenesis => "latest_genesis"
  | .insertIncident => "insert_incident"
  | .closeIncident => "close_incident"
  | .findOpenIncident => "find_open_incident"
  | .findAnyOpenIncident => "find_any_open_incident"
  | .incidentHistory => "incident_history"
  | .recordDaily => "record_daily_summary"
  | .dailySince => "daily_summaries_since"

/-- Why a store access fails. -/
inductive StoreError
  /-- The table is not there. -/
  | noTable (table : TableName)
  /-- The table of actions refuses a row. -/
  | rowRefused
  /-- No connection has become free for an access that waits longer than connections are waited
  for. -/
  | noConnection
  /-- The store cannot be opened. -/
  | connection (reason : String)
  /-- The store has not answered in time. -/
  | timeout (operation : Operation) (limit : Span)
  /-- What is stored cannot be understood. -/
  | unreadable (reason : String)
  /-- A stored document nests too deeply to be read back. -/
  | tooDeep (column : String)
  deriving DecidableEq, Repr

/-- The wording of a failing access. -/
def StoreError.message : StoreError → String
  | .noTable table => s!"Database error: store error: no such table: {table.text}"
  | .rowRefused => "Database error: store error: action rejected"
  | .noConnection =>
    "Database error: Failed to acquire connection from pool: Connection pool timed out"
  | .connection reason => s!"Connection error: {reason}"
  | .timeout operation limit => s!"Store call '{operation.text}' timed out after {limit.text}"
  | .unreadable reason => s!"Query error: {reason}"
  | .tooDeep column =>
    s!"Database error: Query Error: error occurred while decoding column \"{column}\": "
      ++ "recursion limit exceeded"

end ChainWatch
