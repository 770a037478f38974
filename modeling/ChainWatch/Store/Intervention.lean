import ChainWatch.Store.Basic

/-!
# Interventions

What is done to a store by others: it stops answering, loses a table, gets a rule against rows of
the table of actions, or has the columns of single rows overwritten.

* `Store.setAnswering`, `Store.dropTable`, `Store.refuse` : the conditions of the store.
* `Store.editIncident`, `Store.editDaily` : rows of the health monitor.
-/

namespace ChainWatch

/-- A table with the row of a key changed, and how many rows that were. -/
def Table.edit {ρ κ : Type} [Keyed ρ κ] [KeyOrder κ] (t : Table ρ) (k : κ) (change : ρ → ρ) :
    Table ρ × Nat :=
  match t.find? k with
  | some row => (t.upsert (change row), 1)
  | none => (t, 0)

namespace Store

/-- The store that answers, or does not. -/
def setAnswering (s : Store) (answering : Bool) : Store := { s with answering }

/-- The store after one of its tables is gone; a rule of the table goes with it. -/
def dropTable (s : Store) (name : TableName) : Store :=
  { s with
    tables := s.tables.drop name
    refuses := if name = .actions then fun _ => false else s.refuses }

/-- The store that refuses further rows of the table of actions. -/
def refuse (s : Store) (rows : ActionRow → Bool) : Store :=
  { s with refuses := fun row => s.refuses row || rows row }

/-- Overwrites columns of an incident, and tells how many rows that were. -/
def editIncident (s : Store) (id : Int) (change : IncidentRow → IncidentRow) :
    Except StoreError (Store × Nat) := do
  let (ledger, count) := (← Tables.need .incidents s.tables.incidents).edit id change
  return (s.withTables { s.tables with incidents := some ledger }, count)

/-- Overwrites columns of the daily summary whose date is written in a given way, and tells how many
rows that were. -/
def editDaily (s : Store) (date : String) (change : DailyRow → DailyRow) :
    Except StoreError (Store × Nat) := do
  let daily ← Tables.need .daily s.tables.daily
  match daily.rows.find? (·.date.text == date) with
  | some row =>
    return (s.withTables { s.tables with daily := some (daily.upsert (change row)) }, 1)
  | none => return (s, 0)

end Store

end ChainWatch
