import ChainWatch.Store.Error
import ChainWatch.Store.Row

/-!
# The store

A store is nine tables, any of which may be missing, and the conditions under which it is used: it
may not answer, and it may refuse rows of the table of actions.

* `Tables`, `Store` : the contents, and the contents with the conditions.
* `Store.bounded`, `Store.access` : an access that gives up in time, and one that does not.
* `Store.counts` : the number of rows of every table.
-/

namespace ChainWatch

/-- The contents of the nine tables; `none` where a table is missing. -/
structure Tables where
  blocks : Option (Table BlockRow) := none
  transactions : Option (Table TransactionRow) := none
  actions : Option (Table ActionRow) := none
  assets : Option (Table AssetRow) := none
  stakes : Option (Table StakeRow) := none
  volumes : Option (Table VolumeRow) := none
  genesis : Option (Table GenesisRow) := none
  incidents : Option (Table IncidentRow) := none
  daily : Option (Table DailyRow) := none

/-- The contents and the conditions of a store. -/
structure Store where
  tables : Tables
  /-- The rows that the table of actions refuses. -/
  refuses : ActionRow → Bool := fun _ => false
  /-- Whether accesses are answered. -/
  answering : Bool := true
  /-- How long a bounded access waits. -/
  limit : Span := Span.seconds 5

namespace Tables

/-- A table that has to be there. -/
def need {ρ κ : Type} [Keyed ρ κ] [KeyOrder κ] (name : TableName) :
    Option (Table ρ) → Except StoreError (Table ρ)
  | some table => .ok table
  | none => .error (.noTable name)

/-- The tables with every derived table there; what is there stays. -/
def createDerived (t : Tables) : Tables :=
  { t with
    blocks := some (t.blocks.getD .empty)
    transactions := some (t.transactions.getD .empty)
    actions := some (t.actions.getD .empty)
    assets := some (t.assets.getD .empty)
    stakes := some (t.stakes.getD .empty)
    volumes := some (t.volumes.getD .empty) }

/-- The tables without the derived ones. -/
def dropDerived (t : Tables) : Tables :=
  { t with
    blocks := none, transactions := none, actions := none
    assets := none, stakes := none, volumes := none }

/-- The tables with every table there; what is there stays. -/
def createAll (t : Tables) : Tables :=
  { t.createDerived with
    genesis := some (t.genesis.getD .empty)
    incidents := some (t.incidents.getD .empty)
    daily := some (t.daily.getD .empty) }

/-- The tables without one of them. -/
def drop (t : Tables) : TableName → Tables
  | .blocks => { t with blocks := none }
  | .transactions => { t with transactions := none }
  | .actions => { t with actions := none }
  | .assets => { t with assets := none }
  | .stakes => { t with stakes := none }
  | .volumes => { t with volumes := none }
  | .genesis => { t with genesis := none }
  | .incidents => { t with incidents := none }
  | .daily => { t with daily := none }

/-- The number of rows of a table, if it is there. -/
def sizeOf (t : Tables) : TableName → Option Nat
  | .blocks => t.blocks.map Table.size
  | .transactions => t.transactions.map Table.size
  | .actions => t.actions.map Table.size
  | .assets => t.assets.map Table.size
  | .stakes => t.stakes.map Table.size
  | .volumes => t.volumes.map Table.size
  | .genesis => t.genesis.map Table.size
  | .incidents => t.incidents.map Table.size
  | .daily => t.daily.map Table.size

/-- The number of rows of every table; the first missing one is an error. -/
def counts (t : Tables) : Except StoreError (List (TableName × Nat)) :=
  TableName.all.mapM fun name =>
    match t.sizeOf name with
    | some n => .ok (name, n)
    | none => .error (.noTable name)

end Tables

namespace Store

/-- How long a connection to the store is waited for. -/
def connectionWait : Span := Span.seconds 30

/-- The contents, if the store answers within its limit.  A limit that is not shorter than the wait
for a connection is never reached. -/
def bounded (s : Store) (operation : Operation) : Except StoreError Tables :=
  if s.answering then .ok s.tables
  else if connectionWait.nanos ≤ s.limit.nanos then .error .noConnection
  else .error (.timeout operation s.limit)

/-- The contents, if the store answers. -/
def access (s : Store) : Except StoreError Tables :=
  if s.answering then .ok s.tables else .error .noConnection

/-- The store with other contents. -/
def withTables (s : Store) (t : Tables) : Store := { s with tables := t }

/-- The number of rows of every table. -/
def counts (s : Store) : Except StoreError (List (TableName × Nat)) := do
  (← s.access).counts

end Store

end ChainWatch
