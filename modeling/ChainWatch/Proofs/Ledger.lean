import ChainWatch.Proofs.Frame
import ChainWatch.Proofs.Keyed

/-!
# The ledger

On a store that answers and has its ledger, the accesses of the monitor have closed forms, as long
as the rows are numbered from one on and at most one of them is open.

* `Incident.toRow` : the row that an incident is stored as.
* `IncidentRow.closedAt` : a row after everything open has been closed.
* `Table.Numbered` : the numbers of the rows are one, two, three and so on.
* `Table.upsert_rows_of_next`, `Table.upsert_rows_closedAt`, `Table.upsert_rows_of_open` : the next
  row and a closed row, as lists of rows.
* `Incident.toIncident_toRow` : what is read back of an incident.
* `Store.insertIncident_eq`, `Store.closeIncident_eq`, `Store.findOpenIncident_eq`,
  `Store.findOpenIncident_eq_none`, `Store.findAnyOpenIncident_eq` : the accesses.
-/

namespace ChainWatch

/-- The row that an incident is stored as. -/
def Incident.toRow (i : Incident) : IncidentRow :=
  { id := i.id, state := i.state.text, description := i.description
    services := .strings i.services, startTime := i.startTime, endTime := i.endTime
    duration := i.duration, timestamp := i.timestamp }

namespace IncidentRow

variable (now : Instant) (r : IncidentRow)

/-- A row after everything open has been closed. -/
def closedAt : IncidentRow :=
  if r.isOpen then
    { r with
      endTime := some now, duration := some (max 0 (wholeSeconds (now.since r.startTime))) }
  else r

@[simp] theorem closedAt_id : (r.closedAt now).id = r.id := by
  unfold closedAt
  split <;> rfl

theorem closedAt_of_closed {r : IncidentRow} (h : r.isOpen = false) : r.closedAt now = r := by
  simp [closedAt, h]

@[simp] theorem isOpen_closedAt : (r.closedAt now).isOpen = false := by
  unfold closedAt
  split
  next => rfl
  next h => simpa using h

end IncidentRow

namespace Table

variable {ledger : Table IncidentRow} {row : IncidentRow}

theorem filter_isOpen_map_closedAt (now : Instant) (rows : List IncidentRow) :
    (rows.map (·.closedAt now)).filter IncidentRow.isOpen = [] := by
  rw [List.filter_eq_nil_iff]
  intro r hr
  obtain ⟨r', -, rfl⟩ := List.mem_map.1 hr
  simp

/-! ### Numbers -/

/-- The numbers of the rows are one, two, three and so on. -/
def Numbered (ledger : Table IncidentRow) : Prop :=
  ledger.rows.map (·.id) = (List.range ledger.rows.length).map fun i : Nat => (i : Int) + 1

theorem numbered_empty : (empty : Table IncidentRow).Numbered := rfl

theorem nextIncidentId_of_numbered (h : ledger.Numbered) :
    ledger.nextIncidentId = ledger.rows.length + 1 := by
  have hlast := congrArg List.getLast? h
  rw [List.getLast?_map, List.getLast?_map, List.getLast?_range] at hlast
  unfold nextIncidentId
  by_cases hlength : ledger.rows.length = 0
  · rw [List.length_eq_zero_iff] at hlength
    simp [hlength]
  · rw [if_neg hlength] at hlast
    obtain ⟨row, hrow, hid⟩ := Option.map_eq_some_iff.1 hlast
    rw [hrow]
    simp only [hid]
    omega

theorem lt_nextIncidentId {r : IncidentRow} (hr : r ∈ ledger.rows) :
    r.id < ledger.nextIncidentId := by
  unfold nextIncidentId
  split
  next last hlast =>
    rcases (ledger.getLast?_rows_eq_some_iff.1 hlast).2 r hr with rfl | hbefore
    · omega
    · have hlt : r.id < last.id := compare_lt_iff_lt.1 hbefore
      omega
  next hlast =>
    rw [List.getLast?_eq_none_iff.1 hlast] at hr
    cases hr

/-- The row with the next number is appended. -/
theorem upsert_rows_of_next (h : row.id = ledger.nextIncidentId) :
    (ledger.upsert row).rows = ledger.rows ++ [row] := by
  refine upsert_rows_of_before _ fun r hr => ?_
  have hlt : r.id < row.id := h ▸ lt_nextIncidentId hr
  exact compare_lt_iff_lt.2 hlt

theorem upsert_rows_of_numbered (h : ledger.Numbered) (hrow : row.id = ledger.rows.length + 1) :
    (ledger.upsert row).rows = ledger.rows ++ [row] :=
  upsert_rows_of_next (hrow.trans (nextIncidentId_of_numbered h).symm)

theorem numbered_upsert (h : ledger.Numbered) (hrow : row.id = ledger.rows.length + 1) :
    (ledger.upsert row).Numbered := by
  unfold Numbered at h ⊢
  rw [upsert_rows_of_numbered h hrow, List.map_append, h, List.length_append, List.length_singleton,
    List.range_succ, List.map_append, List.map_singleton, List.map_singleton, hrow]

/-! ### Closing -/

/-- Writing a row closed closes this row and leaves the others as they are. -/
theorem upsert_rows_closedAt (now : Instant) (h : row ∈ ledger.rows) :
    (ledger.upsert (row.closedAt now)).rows =
      ledger.rows.map fun r => if r.id = row.id then r.closedAt now else r := by
  have hfind : ledger.find? row.id = some row := ledger.mem_rows_iff.1 h
  have hfind' : ledger.find? (Keyed.key (row.closedAt now)) = some row := by
    show ledger.find? (row.closedAt now).id = some row
    rw [IncidentRow.closedAt_id, hfind]
  rw [upsert_rows_of_find? _ hfind']
  refine List.map_congr_left fun r hr => ?_
  show (if r.id = (row.closedAt now).id then row.closedAt now else r) = _
  rw [IncidentRow.closedAt_id]
  by_cases hid : r.id = row.id
  · -- the number tells the row
    have hr' : ledger.find? r.id = some r := ledger.mem_rows_iff.1 hr
    rw [hid, hfind] at hr'
    rw [if_pos hid, if_pos hid, Option.some.inj hr']
  · rw [if_neg hid, if_neg hid]

/-- If one row is open, writing it closed closes all that is open. -/
theorem upsert_rows_of_open (now : Instant)
    (h : ledger.rows.filter IncidentRow.isOpen = [row]) :
    (ledger.upsert (row.closedAt now)).rows = ledger.rows.map (·.closedAt now) := by
  have hrow : row ∈ ledger.rows.filter IncidentRow.isOpen := by
    rw [h]
    exact List.mem_singleton_self row
  rw [upsert_rows_closedAt now (List.mem_filter.1 hrow).1]
  refine List.map_congr_left fun r hr => ?_
  by_cases hid : r.id = row.id
  · rw [if_pos hid]
  · rw [if_neg hid, IncidentRow.closedAt_of_closed]
    by_contra hopen
    have hother : r ∈ ledger.rows.filter IncidentRow.isOpen :=
      List.mem_filter.2 ⟨hr, by simpa using hopen⟩
    rw [h, List.mem_singleton] at hother
    exact hid (congrArg IncidentRow.id hother)

theorem numbered_of_rows_map_closedAt {ledger' : Table IncidentRow} {now : Instant}
    (h : ledger.Numbered) (hrows : ledger'.rows = ledger.rows.map (·.closedAt now)) :
    ledger'.Numbered := by
  unfold Numbered at h ⊢
  rw [hrows, List.length_map, ← h, List.map_map]
  exact List.map_congr_left fun r _ => r.closedAt_id now

end Table

/-! ### Reading back -/

theorem Json.rereadItems_map_str (texts : List String) :
    Json.rereadItems (texts.map .str) = texts.map .str := by
  induction texts with
  | nil => rfl
  | cons text texts ih => simp only [List.map_cons, rereadItems, reread, ih]

theorem Json.mapM_text_itemsToRaw (depth : Nat) (texts : List String) :
    (Json.itemsToRaw (texts.map .str)).mapM (Reader.text depth) = .ok texts := by
  induction texts with
  | nil => rfl
  | cons text texts ih =>
    rw [List.map_cons, itemsToRaw, List.mapM_cons, ih]
    rfl

theorem Json.toStrings_reread_strings (texts : List String) :
    (Json.strings texts).reread.toStrings = .ok texts := by
  rw [strings, reread, rereadItems_map_str]
  exact mapM_text_itemsToRaw _ texts

/-- The row of an incident is read back as the incident. -/
@[simp] theorem Incident.toIncident_toRow (i : Incident) : i.toRow.toIncident = .ok i := by
  simp only [toRow, IncidentRow.toIncident, HealthState.ofText_text, Json.toStrings_reread_strings]
  rfl

/-! ### Accesses -/

namespace Store

/-- A store that answers and has a given ledger. -/
structure HasLedger (s : Store) (ledger : Table IncidentRow) : Prop where
  answering : s.answering = true
  incidents : s.tables.incidents = some ledger

/-- The store with another ledger. -/
def withLedger (s : Store) (ledger : Table IncidentRow) : Store :=
  s.withTables { s.tables with incidents := some ledger }

variable {s : Store} {ledger : Table IncidentRow}

theorem HasLedger.withLedger (h : s.HasLedger ledger) (ledger' : Table IncidentRow) :
    (s.withLedger ledger').HasLedger ledger' := ⟨h.answering, rfl⟩

theorem ledgerFor_eq (h : s.HasLedger ledger) (operation : Operation) :
    s.ledgerFor operation = .ok (s.tables, ledger) := by
  simp [ledgerFor, bounded, h.answering, h.incidents, Tables.need, bind, Except.bind, pure,
    Except.pure]

/-- A failure of the chain is recorded under the next number. -/
theorem insertIncident_eq (h : s.HasLedger ledger) (description : String) (now : Instant) :
    ∃ incident : Incident,
      s.insertIncident .red description [chainService] now =
        .ok (s.withLedger (ledger.upsert incident.toRow), incident) ∧
      incident =
        ⟨ledger.nextIncidentId, .red, description, [chainService], now, none, none, now⟩ := by
  refine ⟨_, ?_, rfl⟩
  simp only [insertIncident, ledgerFor_eq h, bind, Except.bind]
  rfl

theorem closeIncident_eq (h : s.HasLedger ledger) {incident : Incident} (now : Instant)
    (hopen : ledger.rows.filter IncidentRow.isOpen = [incident.toRow]) :
    s.closeIncident incident now =
      .ok (s.withLedger (ledger.upsert (incident.toRow.closedAt now)), true) := by
  have hrow : incident.toRow ∈ ledger.rows.filter IncidentRow.isOpen := by
    rw [hopen]
    exact List.mem_singleton_self _
  obtain ⟨hmem, hisOpen⟩ := List.mem_filter.1 hrow
  have hfind : ledger.find? incident.id = some incident.toRow := (ledger.mem_rows_iff).1 hmem
  simp only [closeIncident, ledgerFor_eq h, bind, Except.bind, hfind, hisOpen, ↓reduceIte,
    incidentDuration, IncidentRow.closedAt, max_comm (0 : Int)]
  rfl

theorem findOpenIncident_eq_none (h : s.HasLedger ledger) (state : HealthState)
    (hnone : ledger.rows.filter IncidentRow.isOpen = []) : s.findOpenIncident state = .ok none := by
  have hfilter : (ledger.rows.filter fun r => r.state == state.text && r.isOpen) = [] := by
    rw [List.filter_eq_nil_iff] at hnone ⊢
    intro r hr hboth
    rw [Bool.and_eq_true] at hboth
    exact hnone r hr hboth.2
  simp only [findOpenIncident, ledgerFor_eq h, bind, Except.bind, hfilter]
  rfl

theorem findAnyOpenIncident_eq (h : s.HasLedger ledger) {opened : Option Incident}
    (hopened : ledger.rows.filter IncidentRow.isOpen = opened.toList.map Incident.toRow) :
    s.findAnyOpenIncident = .ok opened := by
  simp only [findAnyOpenIncident, ledgerFor_eq h, bind, Except.bind, hopened]
  cases opened with
  | none => rfl
  | some incident => simp [newestRow?, Except.map, Functor.map]

/-- The open incident is found under its state. -/
theorem findOpenIncident_eq (h : s.HasLedger ledger) {incident : Incident}
    (hopened : ledger.rows.filter IncidentRow.isOpen = [incident.toRow]) :
    s.findOpenIncident incident.state = .ok (some incident) := by
  have hfilter : (ledger.rows.filter fun r => r.state == incident.state.text && r.isOpen) =
      [incident.toRow] := by
    rw [← List.filter_filter, hopened]
    simp [Incident.toRow]
  simp only [findOpenIncident, ledgerFor_eq h, bind, Except.bind, hfilter]
  simp [newestRow?, Except.map, Functor.map]

end Store

end ChainWatch
