import ChainWatch.Json.Reader
import ChainWatch.Store.Error
import ChainWatch.Store.Table
import ChainWatch.Time.Instant

/-!
# Rows

The nine kinds of rows, each with its key, and their JSON forms.

* `BlockRow`, `TransactionRow`, `ActionRow`, `AssetRow`, `StakeRow`, `VolumeRow` : derived from
  blocks.
* `GenesisRow` : the genesis document.
* `IncidentRow`, `DailyRow` : written by the health monitor.
* `SideRow` : the rows that single actions give rise to.
-/

namespace ChainWatch

/-- A stored block. -/
structure BlockRow where
  height : Int
  blockHash : String
  parentHash : String
  stateRoot : String
  size : Nat
  txCount : Nat
  totalFee : Nat
  avgTxSize : Double
  uniqueParticipants : Nat
  timestamp : Instant
  deriving DecidableEq, Repr

/-- An action as the row of its transaction shows it. -/
structure ActionSnapshot where
  actionType : Nat
  actionName : String
  input : Json
  output : Json
  deriving DecidableEq, Repr

/-- A stored transaction. -/
structure TransactionRow where
  txHash : String
  blockHash : String
  sponsor : String
  /-- Distinct actors of the outputs, ascending. -/
  actors : List String
  /-- Distinct receivers of the outputs, ascending. -/
  receivers : List String
  maxFee : Nat
  success : Bool
  fee : Nat
  /-- The actions in their order. -/
  actions : List ActionSnapshot
  timestamp : Instant
  deriving DecidableEq, Repr

/-- A stored action. -/
structure ActionRow where
  txHash : String
  actionType : Nat
  actionIndex : Int
  actionName : String
  input : Json
  output : Json
  timestamp : Instant
  deriving DecidableEq, Repr

/-- A created asset. -/
structure AssetRow where
  address : String
  typeId : Nat
  typeName : String
  creator : String
  txHash : String
  name : Option String
  symbol : Option String
  decimals : Option Nat
  metadata : Option String
  maxSupply : Option Nat
  mintAdmin : Option String
  pauseAdmin : Option String
  freezeAdmin : Option String
  kycAdmin : Option String
  timestamp : Instant
  deriving DecidableEq, Repr

/-- A registered validator stake. -/
structure StakeRow where
  nodeId : String
  startBlock : Int
  /-- The sponsor of the registering transaction. -/
  actor : String
  endBlock : Nat
  amount : Nat
  feeRate : Nat
  rewardAddress : String
  txHash : String
  timestamp : Instant
  deriving DecidableEq, Repr

/-- The number of stored actions of a type. -/
structure VolumeRow where
  actionType : Nat
  actionName : String
  total : Nat
  deriving DecidableEq, Repr

/-- A stored genesis document. -/
structure GenesisRow where
  id : Nat
  document : Json
  deriving DecidableEq, Repr

/-- A stored incident.  Its state and its services are kept as they were written. -/
structure IncidentRow where
  id : Int
  state : String
  description : String
  services : Json
  startTime : Instant
  endTime : Option Instant
  /-- Whole seconds, once the incident is closed. -/
  duration : Option Int
  timestamp : Instant
  deriving DecidableEq, Repr

/-- A stored daily summary.  Its state and its incidents are kept as they were written. -/
structure DailyRow where
  date : Date
  state : String
  incidents : Json
  lastUpdated : Instant
  deriving DecidableEq, Repr

/-- A row that one action gives rise to, beside its own. -/
inductive SideRow
  | asset (row : AssetRow)
  | stake (row : StakeRow)
  deriving DecidableEq, Repr

instance : Keyed BlockRow Int := ⟨BlockRow.height⟩
instance : Keyed TransactionRow String := ⟨TransactionRow.txHash⟩

/-- Actions are ordered by transaction and position, and by type within these. -/
instance : Keyed ActionRow (String × Int × Nat) :=
  ⟨fun r => (r.txHash, r.actionIndex, r.actionType)⟩

instance : Keyed AssetRow String := ⟨AssetRow.address⟩
instance : Keyed StakeRow (String × Int) := ⟨fun r => (r.nodeId, r.startBlock)⟩
instance : Keyed VolumeRow Nat := ⟨VolumeRow.actionType⟩
instance : Keyed GenesisRow Nat := ⟨GenesisRow.id⟩
instance : Keyed IncidentRow Int := ⟨IncidentRow.id⟩
instance : Keyed DailyRow Int := ⟨fun r => r.date.days⟩

/-! ### JSON forms -/

/-- A block row as an object. -/
def BlockRow.toJson (r : BlockRow) : Json :=
  .obj [("avg_tx_size", .float r.avgTxSize), ("block_hash", .str r.blockHash),
    ("block_height", .int r.height), ("block_size", .nat r.size),
    ("parent_block_hash", .str r.parentHash), ("state_root", .str r.stateRoot),
    ("timestamp", .str r.timestamp.zulu), ("total_fee", .nat r.totalFee),
    ("tx_count", .nat r.txCount), ("unique_participants", .nat r.uniqueParticipants)]

/-- A snapshot as an object. -/
def ActionSnapshot.toJson (s : ActionSnapshot) : Json :=
  .obj [("action_name", .str s.actionName), ("action_type", .nat s.actionType),
    ("input", s.input), ("output", s.output)]

/-- A transaction row as an object. -/
def TransactionRow.toJson (r : TransactionRow) : Json :=
  .obj [("actions", .arr (r.actions.map ActionSnapshot.toJson)), ("actors", .strings r.actors),
    ("block_hash", .str r.blockHash), ("fee", .nat r.fee), ("max_fee", .nat r.maxFee),
    ("receivers", .strings r.receivers), ("sponsor", .str r.sponsor),
    ("success", .bool r.success), ("timestamp", .str r.timestamp.zulu),
    ("tx_hash", .str r.txHash)]

/-- An action row as an object. -/
def ActionRow.toJson (r : ActionRow) : Json :=
  .obj [("action_index", .int r.actionIndex), ("action_name", .str r.actionName),
    ("action_type", .nat r.actionType), ("input", r.input), ("output", r.output),
    ("timestamp", .str r.timestamp.zulu), ("tx_hash", .str r.txHash)]

/-- A natural number or null. -/
def Json.optNat : Option Nat → Json
  | some n => .nat n
  | none => .null

/-- An asset row as an object. -/
def AssetRow.toJson (r : AssetRow) : Json :=
  .obj [("asset_address", .str r.address), ("asset_creator", .str r.creator),
    ("asset_type", .str r.typeName), ("asset_type_id", .nat r.typeId),
    ("decimals", .optNat r.decimals),
    ("enable_disable_kyc_account_admin", .optStr r.kycAdmin),
    ("freeze_unfreeze_admin", .optStr r.freezeAdmin), ("max_supply", .optNat r.maxSupply),
    ("metadata", .optStr r.metadata), ("mint_admin", .optStr r.mintAdmin),
    ("name", .optStr r.name), ("pause_unpause_admin", .optStr r.pauseAdmin),
    ("symbol", .optStr r.symbol), ("timestamp", .str r.timestamp.zulu),
    ("tx_hash", .str r.txHash)]

/-- A stake row as an object. -/
def StakeRow.toJson (r : StakeRow) : Json :=
  .obj [("actor", .str r.actor), ("delegation_fee_rate", .nat r.feeRate),
    ("node_id", .str r.nodeId), ("reward_address", .str r.rewardAddress),
    ("stake_end_block", .nat r.endBlock), ("stake_start_block", .int r.startBlock),
    ("staked_amount", .nat r.amount), ("timestamp", .str r.timestamp.zulu),
    ("tx_hash", .str r.txHash)]

/-- A volume row as an object. -/
def VolumeRow.toJson (r : VolumeRow) : Json :=
  .obj [("action_name", .str r.actionName), ("action_type", .nat r.actionType),
    ("total_count", .nat r.total)]

/-! ### Documents that come back from the store

The store keeps documents as text.  What comes back is the value of that text, in which a double is
read from its digits. -/

mutual

/-- A value as it comes back from its text. -/
def Json.reread : Json → Json
  | .float x =>
    match Raw.literal (x.chars.map some) with
    | some (literal, _) => literal.value.getD (.float x)
    | none => .float x
  | .arr items => .arr (Json.rereadItems items)
  | .obj members => .obj (Json.rereadMembers members)
  | value => value

/-- Values as they come back from their texts. -/
def Json.rereadItems : List Json → List Json
  | [] => []
  | item :: items => item.reread :: Json.rereadItems items

/-- Members as they come back from their texts. -/
def Json.rereadMembers : List (String × Json) → List (String × Json)
  | [] => []
  | (name, value) :: members => (name, value.reread) :: Json.rereadMembers members

end

/-- A snapshot as it comes back from the store. -/
def ActionSnapshot.reread (s : ActionSnapshot) : ActionSnapshot :=
  { s with input := s.input.reread, output := s.output.reread }

/-- How deeply the actions of a transaction nest in its row. -/
def TransactionRow.depth (r : TransactionRow) : Nat :=
  (Json.arr (r.actions.map ActionSnapshot.toJson)).depth

/-- A transaction row as it comes back from the store, if its actions can be read. -/
def TransactionRow.reread (r : TransactionRow) : Except StoreError TransactionRow :=
  if maxDepth < r.depth then .error (.tooDeep "actions")
  else .ok { r with actions := r.actions.map ActionSnapshot.reread }

/-- An action row as it comes back from the store. -/
def ActionRow.reread (r : ActionRow) : ActionRow :=
  { r with input := r.input.reread, output := r.output.reread }

end ChainWatch
