import ChainWatch.Proofs.SharedLedger

/-!
# The history in the ledger

Rows are added to the ledger at its end, open, and an open row is closed at most once.  Nothing else
is ever done to a row, although any number of monitors write the ledger and close what they have in
memory, which other monitors may have closed before.

A monitor computes the duration from the start that it has in memory.  It is the start of the row,
because an incident comes into memory from the ledger and the start of a row never changes.

* `Table.Closed`, `Table.Continued` : a ledger in which rows have been closed, and one to which rows
  have been added after that.
* `Table.Holds` : the row of an incident is there, with the start that is in memory.
* `Monitor.settle_continues`, `Service.Holds.step_continued` : what a look at the chain and any
  other event make of a ledger.
* `Station.run_history` : a row in any two states of a run.
-/

namespace ChainWatch

/-! ### Rows -/

namespace IncidentRow

variable {now : Instant} {r : IncidentRow}

/-- End and duration are both there, or neither of them is. -/
def Paired (r : IncidentRow) : Prop := r.endTime.isSome = r.duration.isSome

theorem closedAt_of_open (h : r.isOpen = true) : r.closedAt now =
    { r with
      endTime := some now, duration := some (max 0 (wholeSeconds (now.since r.startTime))) } :=
  if_pos h

@[simp] theorem closedAt_startTime : (r.closedAt now).startTime = r.startTime := by
  unfold closedAt
  split <;> rfl

@[simp] theorem closedAt_closedAt (later : Instant) :
    (r.closedAt now).closedAt later = r.closedAt now :=
  closedAt_of_closed later (r.isOpen_closedAt now)

theorem Paired.closedAt (h : r.Paired) (now : Instant) : (r.closedAt now).Paired := by
  unfold IncidentRow.closedAt
  split
  · rfl
  · exact h

theorem startTime_of_toIncident {incident : Incident} (h : r.toIncident = .ok incident) :
    incident.startTime = r.startTime := by
  obtain ⟨state, -, h⟩ := bind_eq_ok.1 h
  obtain ⟨services, -, ⟨⟩⟩ := bind_eq_ok.1 h
  rfl

end IncidentRow

theorem foldl_newer_mem (row : IncidentRow) (rest : List IncidentRow) :
    rest.foldl IncidentRow.newer row ∈ row :: rest := by
  induction rest generalizing row with
  | nil => simp
  | cons other rest ih =>
    have hnewer : row.newer other = other ∨ row.newer other = row := ite_eq_or_eq _ _ _
    have hmem := ih (row.newer other)
    rw [List.mem_cons] at hmem
    simp only [List.foldl_cons, List.mem_cons]
    rcases hmem with hlast | hrest
    · rw [hlast]
      exact hnewer.elim (fun h => .inr (.inl h)) .inl
    · exact .inr (.inr hrest)

theorem mem_of_newestRow? {rows : List IncidentRow} {r : IncidentRow}
    (h : newestRow? rows = some r) : r ∈ rows := by
  cases rows with
  | nil => cases h
  | cons row rest => exact Option.some.inj h ▸ foldl_newer_mem row rest

/-! ### Ledgers -/

namespace Table

variable {ledger mid ledger' : Table IncidentRow} {now : Instant} {r : IncidentRow} {id : Int}

/-- Some rows have been closed, if they were open, and nothing else has changed. -/
def Closed (ledger ledger' : Table IncidentRow) (now : Instant) : Prop :=
  ∃ p : IncidentRow → Bool,
    ledger'.rows = ledger.rows.map fun r => if p r then r.closedAt now else r

/-- Some rows have been closed, and then open rows may have been added. -/
def Continued (ledger ledger' : Table IncidentRow) (now : Instant) : Prop :=
  ∃ (p : IncidentRow → Bool) (added : List IncidentRow),
    ledger'.rows = ledger.rows.map (fun r => if p r then r.closedAt now else r) ++ added ∧
      ∀ r ∈ added, r.endTime = none ∧ r.duration = none

theorem Closed.refl (ledger : Table IncidentRow) (now : Instant) : ledger.Closed ledger now :=
  ⟨fun _ => false, by simp⟩

theorem Closed.continued (h : ledger.Closed ledger' now) : ledger.Continued ledger' now := by
  obtain ⟨p, hrows⟩ := h
  exact ⟨p, [], by simpa using hrows, by simp⟩

theorem Closed.trans_continued (h : ledger.Closed mid now) (h' : mid.Continued ledger' now) :
    ledger.Continued ledger' now := by
  obtain ⟨p, hmid⟩ := h
  obtain ⟨q, added, hrows, hadded⟩ := h'
  refine ⟨fun r => p r || q r, added, ?_, hadded⟩
  rw [hrows, hmid, List.map_map]
  congr 1
  refine List.map_congr_left fun r _ => ?_
  cases hp : p r <;> simp [hp]

/-- A row is still there, and it has not changed unless it was open. -/
theorem Continued.find? (h : ledger.Continued ledger' now) (hr : ledger.find? id = some r) :
    ledger'.find? id = some r ∨
      r.isOpen = true ∧ ledger'.find? id = some (r.closedAt now) := by
  obtain ⟨p, added, hrows, -⟩ := h
  obtain ⟨hmem, hid⟩ := ledger.find?_eq_some_iff.1 hr
  have hmem' : (if p r then r.closedAt now else r) ∈ ledger'.rows := by
    rw [hrows]
    exact List.mem_append_left _ (List.mem_map_of_mem hmem)
  by_cases hclosed : p r = true ∧ r.isOpen = true
  · rw [if_pos hclosed.1] at hmem'
    exact .inr ⟨hclosed.2, ledger'.find?_eq_some_iff.2 ⟨hmem', (r.closedAt_id now).trans hid⟩⟩
  · have hsame : (if p r then r.closedAt now else r) = r := by
      by_cases hp : p r = true
      · rw [if_pos hp, IncidentRow.closedAt_of_closed]
        simpa using fun hopen => hclosed ⟨hp, hopen⟩
      · rw [if_neg hp]
    rw [hsame] at hmem'
    exact .inl (ledger'.find?_eq_some_iff.2 ⟨hmem', hid⟩)

theorem Continued.paired (h : ledger.Continued ledger' now)
    (hpaired : ∀ r ∈ ledger.rows, r.Paired) : ∀ r ∈ ledger'.rows, r.Paired := by
  obtain ⟨p, added, hrows, hadded⟩ := h
  intro r hr
  rw [hrows, List.mem_append, List.mem_map] at hr
  rcases hr with ⟨r, hr, rfl⟩ | hr
  · split
    · exact (hpaired r hr).closedAt now
    · exact hpaired r hr
  · rw [IncidentRow.Paired, (hadded r hr).1, (hadded r hr).2]
    rfl

theorem Continued.numbers (h : ledger.Continued ledger' now) :
    ledger.rows.map (·.id) <+: ledger'.rows.map (·.id) := by
  obtain ⟨p, added, hrows, -⟩ := h
  rw [hrows, List.map_append, List.map_map]
  have hids : ((·.id) ∘ fun r : IncidentRow => if p r then r.closedAt now else r) = (·.id) := by
    funext r
    cases hp : p r <;> simp [hp]
  rw [hids]
  exact List.prefix_append _ _

/-- The row of an incident is there, with its start. -/
def Holds (ledger : Table IncidentRow) (incident : Incident) : Prop :=
  ∃ r, ledger.find? incident.id = some r ∧ r.startTime = incident.startTime

theorem Holds.continued {incident : Incident} (h : ledger.Holds incident)
    (hledger : ledger.Continued ledger' now) : ledger'.Holds incident := by
  obtain ⟨r, hr, hstart⟩ := h
  rcases hledger.find? hr with hr' | ⟨-, hr'⟩
  · exact ⟨r, hr', hstart⟩
  · exact ⟨_, hr', IncidentRow.closedAt_startTime.trans hstart⟩

theorem holds_of_toIncident {incident : Incident} (hr : r ∈ ledger.rows)
    (h : r.toIncident = .ok incident) : ledger.Holds incident := by
  refine ⟨r, ?_, (IncidentRow.startTime_of_toIncident h).symm⟩
  rw [IncidentRow.id_of_toIncident h]
  exact ledger.mem_rows_iff.1 hr

theorem closed_upsert (h : r ∈ ledger.rows) :
    ledger.Closed (ledger.upsert (r.closedAt now)) now :=
  ⟨fun other => other.id = r.id, by simpa using upsert_rows_closedAt now h⟩

/-- An open row with the next number is added at the end. -/
theorem continued_upsert_next (hid : r.id = ledger.nextIncidentId) (hend : r.endTime = none)
    (hduration : r.duration = none) : ledger.Continued (ledger.upsert r) now :=
  ⟨fun _ => false, [r], by simp [upsert_rows_of_next hid], by simp [hend, hduration]⟩

end Table

/-! ### Accesses -/

namespace Store

variable {s s' : Store} {ledger : Table IncidentRow}

theorem ledgerFor_ledger (hledger : s.tables.incidents = some ledger) {operation : Operation}
    {t : Tables} {ledger' : Table IncidentRow} (h : s.ledgerFor operation = .ok (t, ledger')) :
    ledger' = ledger :=
  Option.some.inj ((ledgerFor_eq_ok h).2.symm.trans hledger)

theorem closeIncident_closed (hledger : s.tables.incidents = some ledger) {incident : Incident}
    (hheld : ledger.Holds incident) {now : Instant} {closed : Bool}
    (h : s.closeIncident incident now = .ok (s', closed)) :
    ∃ ledger', s'.tables.incidents = some ledger' ∧ ledger.Closed ledger' now := by
  have ha : s.answering = true := by
    by_contra ha
    obtain ⟨error, herror⟩ := ledgerFor_of_outage (by simpa using ha) .closeIncident
    simp [closeIncident, herror, bind, Except.bind] at h
  rcases closeIncident_cases ⟨ha, hledger⟩ incident now with ⟨hclose, -⟩ |
    ⟨row, hfind, hopen, hclose⟩
  · rw [hclose] at h
    cases h
    exact ⟨ledger, hledger, .refl ledger now⟩
  · rw [hclose] at h
    cases h
    obtain ⟨row', hfind', hstart⟩ := hheld
    obtain rfl : row' = row := Option.some.inj (hfind'.symm.trans hfind)
    refine ⟨_, rfl, ?_⟩
    have hrow : { row' with
        endTime := some now, duration := some (incidentDuration incident.startTime now) } =
          row'.closedAt now := by
      rw [IncidentRow.closedAt_of_open hopen, incidentDuration, hstart, max_comm]
    rw [hrow]
    exact Table.closed_upsert (ledger.find?_eq_some_iff.1 hfind).1

theorem insertIncident_continued (hledger : s.tables.incidents = some ledger)
    {state : HealthState} {description : String} {services : List String} {now : Instant}
    {incident : Incident}
    (h : s.insertIncident state description services now = .ok (s', incident)) :
    ∃ ledger', s'.tables.incidents = some ledger' ∧ ledger.Continued ledger' now ∧
      ledger'.Holds incident := by
  obtain ⟨⟨t, ledger'⟩, ht, h⟩ := bind_eq_ok.1 h
  obtain rfl := ledgerFor_ledger hledger ht
  obtain ⟨incident', hincident, ⟨⟩⟩ := bind_eq_ok.1 h
  exact ⟨_, rfl, Table.continued_upsert_next rfl rfl rfl,
    Table.holds_of_toIncident ((ledger'.mem_upsert).2 (.inl rfl)) hincident⟩

/-- What a search finds is in the ledger. -/
theorem holds_of_newestRow? {rows : List IncidentRow} (hrows : ∀ r ∈ rows, r ∈ ledger.rows)
    {found : Incident}
    (h : (newestRow? rows).mapM IncidentRow.toIncident = .ok (some found)) :
    ledger.Holds found := by
  cases hnewest : newestRow? rows with
  | none =>
    rw [hnewest] at h
    cases h
  | some row =>
    rw [hnewest] at h
    cases hrow : row.toIncident with
    | error error => simp [hrow, Functor.map, Except.map] at h
    | ok incident =>
      simp only [Option.mapM_some, hrow, Functor.map, Except.map, Except.ok.injEq,
        Option.some.injEq] at h
      subst h
      exact Table.holds_of_toIncident (hrows row (mem_of_newestRow? hnewest)) hrow

theorem findOpenIncident_holds (hledger : s.tables.incidents = some ledger) {state : HealthState}
    {found : Incident} (h : s.findOpenIncident state = .ok (some found)) :
    ledger.Holds found := by
  obtain ⟨⟨t, ledger'⟩, ht, h⟩ := bind_eq_ok.1 h
  obtain rfl := ledgerFor_ledger hledger ht
  exact holds_of_newestRow? (fun r hr => (List.mem_filter.1 hr).1) h

theorem findAnyOpenIncident_holds (hledger : s.tables.incidents = some ledger) {found : Incident}
    (h : s.findAnyOpenIncident = .ok (some found)) : ledger.Holds found := by
  obtain ⟨⟨t, ledger'⟩, ht, h⟩ := bind_eq_ok.1 h
  obtain rfl := ledgerFor_ledger hledger ht
  exact holds_of_newestRow? (fun r hr => (List.mem_filter.1 hr).1) h

end Store

/-! ### A look at the chain -/

namespace Monitor

variable {s : Store} {ledger : Table IncidentRow} {current : Option Incident}
  (settings : HealthSettings) (state : HealthState) (report : LivenessReport) (now : Instant)

/-- The ledger goes on from what it was, and the current incident is in it. -/
def Continues (ledger : Table IncidentRow) (now : Instant)
    (out : Outcome Store (Option Incident)) : Prop :=
  ∃ ledger', out.state.tables.incidents = some ledger' ∧ ledger.Continued ledger' now ∧
    ∀ incident ∈ out.answer, ledger'.Holds incident

theorem Continues.of_same {log : Log} (hledger : s.tables.incidents = some ledger)
    (hheld : ∀ incident ∈ current, ledger.Holds incident) :
    Continues ledger now ⟨s, current, log⟩ :=
  ⟨ledger, hledger, (Table.Closed.refl ledger now).continued, hheld⟩

theorem Continues.of_closed {mid : Table IncidentRow} {out : Outcome Store (Option Incident)}
    (hclosed : ledger.Closed mid now) (h : Continues mid now out) : Continues ledger now out := by
  obtain ⟨ledger', hledger', hcontinued, hheld⟩ := h
  exact ⟨ledger', hledger', hclosed.trans_continued hcontinued, hheld⟩

theorem supersede_closed (hledger : s.tables.incidents = some ledger) {incident : Incident}
    (hheld : ledger.Holds incident) :
    ∃ ledger', (supersede s incident now).1.tables.incidents = some ledger' ∧
      ledger.Closed ledger' now := by
  unfold supersede
  split
  next hclose => exact Store.closeIncident_closed hledger hheld hclose
  next hclose => exact Store.closeIncident_closed hledger hheld hclose
  next => exact ⟨ledger, hledger, .refl ledger now⟩

theorem openIncident_continues (hledger : s.tables.incidents = some ledger) :
    Continues ledger now (openIncident s state report now) := by
  unfold openIncident
  split
  next s' incident hinsert =>
    obtain ⟨ledger', hledger', hcontinued, hheld⟩ :=
      Store.insertIncident_continued hledger hinsert
    exact ⟨ledger', hledger', hcontinued, by simpa using hheld⟩
  next => exact .of_same now hledger (by simp)

theorem adoptOrOpen_continues (hledger : s.tables.incidents = some ledger) :
    Continues ledger now (adoptOrOpen settings s state report now) := by
  unfold adoptOrOpen
  split
  next found hfind =>
    have hheld := Store.findOpenIncident_holds hledger hfind
    split
    · exact .of_same now hledger (by simpa using hheld)
    · obtain ⟨mid, hmid, hclosed⟩ := supersede_closed now hledger hheld
      exact .of_closed now hclosed (openIncident_continues state report now hmid)
  next => exact openIncident_continues state report now hledger
  next => exact openIncident_continues state report now hledger

theorem raise_continues (hledger : s.tables.incidents = some ledger)
    (hheld : ∀ incident ∈ current, ledger.Holds incident) :
    Continues ledger now (raise settings s current state report now) := by
  unfold raise
  split
  next => exact adoptOrOpen_continues settings state report now hledger
  next incident =>
    split
    · exact .of_same now hledger hheld
    · obtain ⟨mid, hmid, hclosed⟩ := supersede_closed now hledger (hheld incident rfl)
      exact .of_closed now hclosed (adoptOrOpen_continues settings state report now hmid)

theorem resolve_continues (hledger : s.tables.incidents = some ledger)
    (hheld : ∀ incident ∈ current, ledger.Holds incident) :
    Continues ledger now (resolve s current now) := by
  unfold resolve
  split
  next => exact .of_same now hledger hheld
  next incident =>
    split
    next hclose =>
      obtain ⟨ledger', hledger', hclosed⟩ :=
        Store.closeIncident_closed hledger (hheld incident rfl) hclose
      exact ⟨ledger', hledger', hclosed.continued, by simp⟩
    next => exact .of_same now hledger hheld

/-- A look at the chain closes rows of the ledger and adds to it, and does nothing else to it. -/
theorem settle_continues (hledger : s.tables.incidents = some ledger)
    (hheld : ∀ incident ∈ current, ledger.Holds incident) :
    Continues ledger now (settle settings s current report now) := by
  unfold settle
  split
  · exact resolve_continues now hledger hheld
  · exact raise_continues settings .red report now hledger hheld

/-- What a monitor has in memory after it has resumed is in the ledger, if it was before. -/
theorem resume_holds (m : Monitor) (hledger : s.tables.incidents = some ledger)
    (hheld : ∀ incident ∈ m.status.currentIncident, ledger.Holds incident) :
    ∀ incident ∈ (m.resume s).state.status.currentIncident, ledger.Holds incident := by
  unfold resume
  split
  next => exact hheld
  next => exact hheld
  next found hfind => simpa using Store.findAnyOpenIncident_holds hledger hfind

end Monitor

namespace Service

variable {svc : Service} {ledger : Table IncidentRow}

/-- The ledger of a service, which holds what the monitor has in memory. -/
structure Holds (svc : Service) (ledger : Table IncidentRow) : Prop where
  incidents : svc.store.tables.incidents = some ledger
  held : ∀ incident ∈ svc.monitor.status.currentIncident, ledger.Holds incident

/-- In a look at the chain the ledger goes on from what it was, and in any other event it stays as
it is. -/
theorem Holds.step_continued (h : svc.Holds ledger) (e : Event) :
    ∃ ledger', (svc.step e).state.Holds ledger' ∧
      (ledger' = ledger ∨ ∃ now, e = .tick now ∧ ledger.Continued ledger' now) := by
  have hothers (he : e.isTick = false)
      (hheld' : ∀ incident ∈ (svc.step e).state.monitor.status.currentIncident,
        ledger.Holds incident) : (svc.step e).state.Holds ledger :=
    ⟨step_incidents he h.incidents, hheld'⟩
  cases e with
  | tick now =>
    obtain ⟨ledger', hledger', hcontinued, hheld'⟩ :=
      Monitor.settle_continues svc.monitor.settings (svc.look now).report now h.incidents h.held
    -- the summary of the day is written after that, and the ledger is not touched again
    obtain ⟨daily, hdaily⟩ := Monitor.recordDay_store (svc.settle now).state now
      (svc.step (.tick now)).state.monitor.status
    have hincidents := (congrArg (fun s => s.tables.incidents) hdaily).trans hledger'
    exact ⟨ledger', ⟨hincidents, hheld'⟩, .inr ⟨now, rfl, hcontinued⟩⟩
  | resume =>
    exact ⟨ledger, hothers rfl (Monitor.resume_holds svc.monitor h.incidents h.held), .inl rfl⟩
  | restart => exact ⟨ledger, hothers rfl (by simp [step]), .inl rfl⟩
  | _ => exact ⟨ledger, hothers rfl h.held, .inl rfl⟩

end Service

/-! ### Runs -/

namespace Station

variable {st : Station} {ledger : Table IncidentRow} {id : Int} {r : IncidentRow}

/-- The row of a number in the ledger, if there is one. -/
def row? (st : Station) (id : Int) : Option IncidentRow :=
  st.store.tables.incidents.bind (·.find? id)

/-- The ledger, in which end and duration go together, holds what the monitors have in memory. -/
structure Keeps (st : Station) (ledger : Table IncidentRow) : Prop where
  incidents : st.store.tables.incidents = some ledger
  paired : ∀ r ∈ ledger.rows, r.Paired
  held : ∀ i, ∀ incident ∈ (st.monitors i).status.currentIncident, ledger.Holds incident

theorem Keeps.row?_eq (h : st.Keeps ledger) (id : Int) : st.row? id = ledger.find? id := by
  rw [row?, h.incidents, Option.bind_some]

/-- One monitor's event keeps the ledger, and the memories of all the others with it. -/
theorem Keeps.step (h : st.Keeps ledger) (i : Nat) (e : Event) :
    ∃ ledger', (st.step i e).Keeps ledger' ∧
      (ledger' = ledger ∨ ∃ now, e = .tick now ∧ ledger.Continued ledger' now) := by
  have hholds : (st.service i).Holds ledger := ⟨h.incidents, h.held i⟩
  obtain ⟨ledger', ⟨hledger', hheld'⟩, hcases⟩ := hholds.step_continued e
  have hcontinued : ∃ now, ledger.Continued ledger' now := by
    rcases hcases with rfl | ⟨now, -, hcontinued⟩
    · exact ⟨⟨0, false⟩, (Table.Closed.refl ledger' _).continued⟩
    · exact ⟨now, hcontinued⟩
  obtain ⟨now, hcontinued⟩ := hcontinued
  refine ⟨ledger', ⟨hledger', hcontinued.paired h.paired, fun j incident hincident => ?_⟩, hcases⟩
  by_cases hj : j = i
  · subst hj
    simp only [Station.step, Function.update_self] at hincident
    exact hheld' incident hincident
  · simp only [Station.step, Function.update_of_ne hj] at hincident
    exact (h.held j incident hincident).continued hcontinued

theorem run_append (es rest : List (Nat × Event)) : st.run (es ++ rest) = (st.run es).run rest :=
  List.foldl_append

theorem Keeps.run (h : st.Keeps ledger) (es : List (Nat × Event)) :
    ∃ ledger', (st.run es).Keeps ledger' ∧
      ledger.rows.map (·.id) <+: ledger'.rows.map (·.id) := by
  induction es generalizing st ledger with
  | nil => exact ⟨ledger, h, List.prefix_rfl⟩
  | cons event rest ih =>
    obtain ⟨mid, hmid, hcases⟩ := h.step event.1 event.2
    obtain ⟨ledger', hledger', hids⟩ := ih hmid
    refine ⟨ledger', hledger', List.IsPrefix.trans ?_ hids⟩
    rcases hcases with rfl | ⟨now, -, hcontinued⟩
    · exact List.prefix_rfl
    · exact hcontinued.numbers

/-- A row stays as it is, or it is closed by one look at the chain and stays as it is after that. -/
theorem Keeps.run_row? (h : st.Keeps ledger) (hr : st.row? id = some r)
    (es : List (Nat × Event)) :
    (st.run es).row? id = some r ∨
      ∃ pre i now post, es = pre ++ (i, .tick now) :: post ∧ r.isOpen = true ∧
        (st.run pre).row? id = some r ∧
        (st.run (pre ++ [(i, .tick now)])).row? id = some (r.closedAt now) ∧
        (st.run es).row? id = some (r.closedAt now) := by
  induction es generalizing st ledger r with
  | nil => exact .inl hr
  | cons event rest ih =>
    obtain ⟨i, e⟩ := event
    obtain ⟨mid, hmid, hcases⟩ := h.step i e
    -- the row after the first event
    have hfirst : (st.step i e).row? id = some r ∨
        ∃ now, e = .tick now ∧ r.isOpen = true ∧
          (st.step i e).row? id = some (r.closedAt now) := by
      rw [h.row?_eq] at hr
      rw [hmid.row?_eq]
      rcases hcases with rfl | ⟨now, rfl, hcontinued⟩
      · exact .inl hr
      · rcases hcontinued.find? hr with hr' | ⟨hopen, hr'⟩
        · exact .inl hr'
        · exact .inr ⟨now, rfl, hopen, hr'⟩
    rcases hfirst with hr' | ⟨now, rfl, hopen, hr'⟩
    · rcases ih hmid hr' with hsame | ⟨pre, j, now, post, rfl, hopen, hpre, hclosed, hend⟩
      · exact .inl hsame
      · exact .inr ⟨(i, e) :: pre, j, now, post, rfl, hopen, hpre, hclosed, hend⟩
    · refine .inr ⟨[], i, now, rest, rfl, hopen, hr, hr', ?_⟩
      -- a closed row cannot be closed again
      rcases ih hmid hr' with hsame | ⟨pre, j, later, post, -, hreopened, -⟩
      · exact hsame
      · rw [IncidentRow.isOpen_closedAt] at hreopened
        cases hreopened

/-- **The ledger only grows, and an incident is closed once.**  Any number of monitors keep a ledger
in which end and duration go together; what they have in memory at first, if anything, is in the
ledger.  Take any two states of a run, one after the other.  The numbers of the first ledger begin
those of the second.  A row of the first is in the second as it was, or it was open, with neither
end nor duration, and one look at the chain in between closed it: the row was as before ahead of
that look, and after it the row has the time of the look for its end, with the duration that goes
with it, and does not change again. -/
theorem run_history (st : Station) {ledger : Table IncidentRow}
    (hledger : st.store.tables.incidents = some ledger)
    (hpaired : ∀ r ∈ ledger.rows, r.endTime.isSome = r.duration.isSome)
    (hmemory : ∀ i, ∀ incident ∈ (st.monitors i).status.currentIncident,
      ∃ r ∈ ledger.rows, r.id = incident.id ∧ r.startTime = incident.startTime)
    (before after : List (Nat × Event)) :
    (∃ earlier later, (st.run before).store.tables.incidents = some earlier ∧
      (st.run (before ++ after)).store.tables.incidents = some later ∧
      earlier.rows.map (·.id) <+: later.rows.map (·.id)) ∧
    ∀ id r, (st.run before).row? id = some r →
      r.endTime.isSome = r.duration.isSome ∧
      ((st.run (before ++ after)).row? id = some r ∨
        r.endTime = none ∧ r.duration = none ∧
        ∃ pre i now post, after = pre ++ (i, .tick now) :: post ∧
          let closed : IncidentRow := { r with
            endTime := some now, duration := some (max 0 (wholeSeconds (now.since r.startTime))) }
          (st.run (before ++ pre)).row? id = some r ∧
            (st.run (before ++ pre ++ [(i, .tick now)])).row? id = some closed ∧
            (st.run (before ++ after)).row? id = some closed) := by
  have hkeeps : st.Keeps ledger := by
    refine ⟨hledger, hpaired, fun i incident hincident => ?_⟩
    obtain ⟨r, hr, hid, hstart⟩ := hmemory i incident hincident
    exact ⟨r, ledger.find?_eq_some_iff.2 ⟨hr, hid⟩, hstart⟩
  obtain ⟨earlier, hearlier, -⟩ := hkeeps.run before
  obtain ⟨later, hlater, hids⟩ := hearlier.run after
  rw [run_append]
  refine ⟨⟨earlier, later, hearlier.incidents, hlater.incidents, hids⟩, fun id r hr => ?_⟩
  have hr' : earlier.find? id = some r := hearlier.row?_eq id ▸ hr
  have hpairedRow : r.Paired := hearlier.paired r (earlier.find?_eq_some_iff.1 hr').1
  refine ⟨hpairedRow, ?_⟩
  rcases hearlier.run_row? hr after with
    hsame | ⟨pre, i, now, post, rfl, hopen, hpre, hclosed, hend⟩
  · exact .inl hsame
  · rw [IncidentRow.closedAt_of_open hopen] at hclosed hend
    have hendTime : r.endTime = none := Option.isNone_iff_eq_none.1 hopen
    have hduration : r.duration = none := by
      rw [IncidentRow.Paired, hendTime] at hpairedRow
      simpa using hpairedRow.symm
    refine .inr ⟨hendTime, hduration, pre, i, now, post, rfl, ?_, ?_, hend⟩
    · rw [run_append]
      exact hpre
    · rw [List.append_assoc, run_append]
      exact hclosed

/-- The row that was left open is closed by the second monitor, an hour after it has started.  The
first one, which has it in memory, comes too late to close it again. -/
theorem run_history_turns :
    let st := sample .red (.strings ["blockchain"])
    let r := leftOpen .red (.strings ["blockchain"])
    ∃ ledger, st.store.tables.incidents = some ledger ∧
      (∀ r ∈ ledger.rows, r.endTime.isSome = r.duration.isSome) ∧
      (∀ i, ∀ incident ∈ (st.monitors i).status.currentIncident,
        ∃ r ∈ ledger.rows, r.id = incident.id ∧ r.startTime = incident.startTime) ∧
      (st.run turns).row? 7 =
        some { r with endTime := some ⟨3700000000000, false⟩, duration := some 3600 } ∧
      ∃ pre i now post, turns = pre ++ (i, .tick now) :: post ∧ (st.run pre).row? 7 = some r := by
  intro st r
  let ledger : Table IncidentRow := Table.empty.upsert r
  have hpaired : ∀ r ∈ ledger.rows, r.endTime.isSome = r.duration.isSome := by
    intro r hr
    obtain rfl := List.mem_singleton.1 hr
    rfl
  have hmemory : ∀ i, ∀ incident ∈ (st.monitors i).status.currentIncident,
      ∃ r ∈ ledger.rows, r.id = incident.id ∧ r.startTime = incident.startTime := by
    rintro i incident ⟨⟩
  have hend : (st.run turns).row? 7 =
      some { r with endTime := some ⟨3700000000000, false⟩, duration := some 3600 } := by
    decide +kernel
  refine ⟨ledger, rfl, hpaired, hmemory, hend, ?_⟩
  obtain ⟨-, hrows⟩ := run_history st rfl hpaired hmemory [] turns
  obtain ⟨-, hsame | ⟨-, -, pre, i, now, post, hsplit, hpre, -⟩⟩ := hrows 7 r rfl
  · rw [List.nil_append, hend] at hsame
    simp [r, leftOpen] at hsame
  · exact ⟨pre, i, now, post, hsplit, hpre⟩

end Station

end ChainWatch
