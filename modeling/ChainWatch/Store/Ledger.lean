import ChainWatch.Health.State
import ChainWatch.Store.Basic

/-!
# The incident ledger

Incidents are appended with ascending numbers and closed in place, once.

* `IncidentRow.toIncident` : a row as an incident, if its columns can be understood.
* `Store.insertIncident`, `Store.closeIncident` : the two ways of writing.
* `Store.findOpenIncident`, `Store.findAnyOpenIncident`, `Store.history` : the ways of reading.
-/

namespace ChainWatch

/-- The incident of a row; its state and its services have to be such. -/
def IncidentRow.toIncident (r : IncidentRow) : Except StoreError Incident := do
  let state ← (HealthState.ofText r.state).mapError .unreadable
  let services ← r.services.reread.toStrings.mapError fun fault =>
    .unreadable s!"Invalid service_names: {fault.message}"
  return {
    id := r.id, state, description := r.description, services, startTime := r.startTime
    endTime := r.endTime, duration := r.duration, timestamp := r.timestamp }

/-- Whether a row goes on. -/
def IncidentRow.isOpen (r : IncidentRow) : Bool := r.endTime.isNone

/-- The number of the next incident. -/
def Table.nextIncidentId (t : Table IncidentRow) : Int :=
  match t.rows.getLast? with
  | some row => row.id + 1
  | none => 1

/-- Of two rows the one that started later, the first if neither did. -/
def IncidentRow.newer (a b : IncidentRow) : IncidentRow :=
  if b.startTime.isAfter a.startTime then b else a

/-- The row that started last; of several the one with the least number. -/
def newestRow? : List IncidentRow → Option IncidentRow
  | [] => none
  | row :: rest => some (rest.foldl IncidentRow.newer row)

/-- Whether a row comes before another when the newest are listed first. -/
def IncidentRow.listedBefore (a b : IncidentRow) : Bool :=
  a.startTime.isAfter b.startTime || (a.startTime == b.startTime && b.id ≤ a.id)

namespace Store

/-- The ledger. -/
def ledgerFor (s : Store) (operation : Operation) :
    Except StoreError (Tables × Table IncidentRow) := do
  let t ← s.bounded operation
  return (t, ← Tables.need .incidents t.incidents)

/-- Appends an open incident. -/
def insertIncident (s : Store) (state : HealthState) (description : String)
    (services : List String) (start : Instant) : Except StoreError (Store × Incident) := do
  let (t, ledger) ← s.ledgerFor .insertIncident
  let row : IncidentRow := {
    id := ledger.nextIncidentId, state := state.text, description
    services := .strings services, startTime := start, endTime := none, duration := none
    timestamp := start }
  let incident ← row.toIncident
  return (s.withTables { t with incidents := some (ledger.upsert row) }, incident)

/-- The whole seconds that an incident has lasted at its end, at least none. -/
def incidentDuration (start finish : Instant) : Int := max (wholeSeconds (finish.since start)) 0

/-- Closes the row of an incident if it is still open, and tells whether it was. -/
def closeIncident (s : Store) (incident : Incident) (finish : Instant) :
    Except StoreError (Store × Bool) := do
  let (t, ledger) ← s.ledgerFor .closeIncident
  match ledger.find? incident.id with
  | some row =>
    if row.isOpen then
      let closed := { row with
        endTime := some finish
        duration := some (incidentDuration incident.startTime finish) }
      return (s.withTables { t with incidents := some (ledger.upsert closed) }, true)
    else return (s, false)
  | none => return (s, false)

/-- The newest open incident of a state. -/
def findOpenIncident (s : Store) (state : HealthState) :
    Except StoreError (Option Incident) := do
  let (_, ledger) ← s.ledgerFor .findOpenIncident
  (newestRow? (ledger.rows.filter fun r => r.state == state.text && r.isOpen)).mapM
    IncidentRow.toIncident

/-- The newest open incident of any state. -/
def findAnyOpenIncident (s : Store) : Except StoreError (Option Incident) := do
  let (_, ledger) ← s.ledgerFor .findAnyOpenIncident
  (newestRow? (ledger.rows.filter IncidentRow.isOpen)).mapM IncidentRow.toIncident

/-- At most `limit` incidents, the newest first; of those that started together the one with the
greatest number. -/
def history (s : Store) (limit : Nat) : Except StoreError (List Incident) := do
  let (_, ledger) ← s.ledgerFor .incidentHistory
  ((ledger.rows.mergeSort IncidentRow.listedBefore).take limit).mapM IncidentRow.toIncident

end Store

end ChainWatch
