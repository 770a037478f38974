import ChainWatch.Health.State
import ChainWatch.Store.Basic

/-!
# Daily summaries

A day keeps the worst state that was recorded on it, and the incident that was current when one
last was.

* `Store.recordDaily` : folds a state and possibly an incident into a day.
* `Store.dailySince` : the summaries after a day.
-/

namespace ChainWatch

/-- The incidents of a row; what is no list of texts counts as none. -/
def DailyRow.incidentList (r : DailyRow) : List String :=
  match r.incidents.reread.toStrings with
  | .ok incidents => incidents
  | .error _ => []

/-- The summary of a row; its state has to be one. -/
def DailyRow.toSummary (r : DailyRow) : Except StoreError DailySummary := do
  let state ← (HealthState.ofText r.state).mapError .unreadable
  return { date := r.date, state, incidents := r.incidentList, lastUpdated := r.lastUpdated }

/-- The row of a summary. -/
def DailySummary.toRow (d : DailySummary) : DailyRow :=
  { date := d.date, state := d.state.text, incidents := .strings d.incidents
    lastUpdated := d.lastUpdated }

/-- The summary of a day after a state has been recorded on it: the worse of the states, and the
given incident, or the former ones if none is given. -/
def DailySummary.merge (former : Option DailySummary) (date : Date) (state : HealthState)
    (incident : Option String) (now : Instant) : DailySummary :=
  { date
    state := match former with
      | some d => d.state.worst state
      | none => state
    incidents := match incident, former with
      | some description, _ => [description]
      | none, some d => d.incidents
      | none, none => []
    lastUpdated := now }

/-- Whether the store counts one day as later than another.  It keeps days as text and compares the
texts, which is the order of the calendar for the years from 0 to 9999. -/
def Date.isAfter (d e : Date) : Bool := e.text < d.text

namespace Store

/-- Folds a state, and an incident if there is one, into the summary of a day. -/
def recordDaily (s : Store) (date : Date) (state : HealthState) (incident : Option String)
    (now : Instant) : Except StoreError (Store × DailySummary) := do
  let t ← s.bounded .recordDaily
  let table ← Tables.need .daily t.daily
  -- a former row with an unknown state is not overwritten
  let former ← (table.find? date.days).mapM DailyRow.toSummary
  let merged := DailySummary.merge former date state incident now
  return (s.withTables { t with daily := some (table.upsert merged.toRow) }, merged)

/-- The summaries after a day, the newest first. -/
def dailySince (s : Store) (since : Date) : Except StoreError (List DailySummary) := do
  let table ← Tables.need .daily (← s.bounded .dailySince).daily
  let later := table.rows.filter (·.date.isAfter since)
  (later.mergeSort fun a b => a.date.isAfter b.date || a.date == b.date).mapM DailyRow.toSummary

end Store

end ChainWatch
