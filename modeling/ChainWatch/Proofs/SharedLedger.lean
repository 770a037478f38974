import ChainWatch.Proofs.Orphans

/-!
# Monitors that share a ledger

Any number of monitors may keep one ledger, each with a memory of its own.  What a monitor has in
memory can be anything: an open row, a row that another monitor has closed, or nothing at all
although a row is open.  Yet the ledger never gets a second open row of a state.  A monitor only
ever closes what it has in memory, and before it opens a row of the state red it searches the ledger
for one and closes what it finds.

The search has to be able to read what it finds, which is so for every row that a monitor has
written.  Beside an open row that cannot be read another one is opened.

* `Table.openRows`, `Table.Orderly` : the open rows of a state; at most one of each.
* `Store.closeIncident_cases`, `Store.closeIncident_spec`, `Store.findOpenIncident_spec` : closing
  and searching.
* `Monitor.settle_orderly` : a look at the chain, whatever is in memory.
* `Station` : a store with any number of monitors.
* `Station.run_openRows` : the open rows after any run of a station.
-/

namespace ChainWatch

/-! ### Open rows -/

theorem HealthState.eq_of_text_eq {a b : HealthState} (h : a.text = b.text) : a = b := by
  have ha := ofText_text a
  rw [h, ofText_text] at ha
  exact (Except.ok.inj ha).symm

namespace Table

variable {ledger : Table IncidentRow} {row : IncidentRow} {state : HealthState}

/-- The open rows of a state. -/
def openRows (ledger : Table IncidentRow) (state : HealthState) : List IncidentRow :=
  ledger.rows.filter fun r => r.state == state.text && r.isOpen

theorem mem_openRows {r : IncidentRow} :
    r ∈ ledger.openRows state ↔ r ∈ ledger.rows ∧ r.state = state.text ∧ r.isOpen = true := by
  simp [openRows]

/-- A written row that is not one of the open rows of a state can only take the place of one. -/
theorem openRows_upsert (h : ¬(row.state = state.text ∧ row.isOpen = true)) :
    (ledger.upsert row).openRows state =
      (ledger.openRows state).filter fun r => decide (r.id ≠ row.id) := by
  have hleft : ((ledger.upsert row).openRows state).Pairwise Keyed.Before :=
    (ledger.upsert row).ascending.filter _
  have hright : ((ledger.openRows state).filter fun r => decide (r.id ≠ row.id)).Pairwise
      Keyed.Before := (ledger.ascending.filter _).filter _
  refine hleft.eq_of_mem_iff hright fun r => ?_
  rw [mem_openRows, mem_upsert, List.mem_filter, mem_openRows, decide_eq_true_eq]
  constructor
  · rintro ⟨rfl | ⟨hr, hid⟩, hopen⟩
    · exact absurd hopen h
    · exact ⟨⟨hr, hopen⟩, hid⟩
  · rintro ⟨⟨hr, hopen⟩, hid⟩
    exact ⟨.inr ⟨hr, hid⟩, hopen⟩

/-- Where no row of a state is open, a written one is the only one. -/
theorem openRows_upsert_of_empty (h : ledger.openRows state = []) (hstate : row.state = state.text)
    (hopen : row.isOpen = true) : (ledger.upsert row).openRows state = [row] := by
  have hleft : ((ledger.upsert row).openRows state).Pairwise Keyed.Before :=
    (ledger.upsert row).ascending.filter _
  refine hleft.eq_of_mem_iff (List.pairwise_singleton _ row) fun r => ?_
  rw [mem_openRows, mem_upsert, List.mem_singleton]
  constructor
  · rintro ⟨rfl | ⟨hr, -⟩, hboth⟩
    · rfl
    · have hmem : r ∈ ledger.openRows state := mem_openRows.2 ⟨hr, hboth⟩
      rw [h] at hmem
      cases hmem
  · rintro rfl
    exact ⟨.inl rfl, hstate, hopen⟩

/-- At most one row of each state is open, and an open row of the state red can be read. -/
structure Orderly (ledger : Table IncidentRow) : Prop where
  single : ∀ state, (ledger.openRows state).length ≤ 1
  legible : ∀ r ∈ ledger.openRows .red, ∃ incident, r.toIncident = .ok incident

/-- Closing rows keeps a ledger orderly. -/
theorem Orderly.filter (h : ledger.Orderly) {ledger' : Table IncidentRow} {p : IncidentRow → Bool}
    (hrows : ∀ state, ledger'.openRows state = (ledger.openRows state).filter p) :
    ledger'.Orderly where
  single state := by
    rw [hrows]
    exact (List.length_filter_le _ _).trans (h.single state)
  legible r hr := by
    rw [hrows] at hr
    exact h.legible r (List.mem_of_mem_filter hr)

/-- So does a red row that can be read, if none is open. -/
theorem Orderly.upsert_red (h : ledger.Orderly) (hnone : ledger.openRows .red = [])
    (incident : Incident) (hred : incident.state = .red) (hopen : incident.endTime = none) :
    (ledger.upsert incident.toRow).Orderly := by
  have hstate : incident.toRow.state = HealthState.red.text := congrArg HealthState.text hred
  have hisOpen : incident.toRow.isOpen = true := by simp [IncidentRow.isOpen, Incident.toRow, hopen]
  have hrows : (ledger.upsert incident.toRow).openRows .red = [incident.toRow] :=
    openRows_upsert_of_empty hnone hstate hisOpen
  constructor
  · intro state
    by_cases hs : state = .red
    · rw [hs, hrows]
      exact le_rfl
    · have hother : ¬(incident.toRow.state = state.text ∧ incident.toRow.isOpen = true) := by
        rintro ⟨htext, -⟩
        exact hs (HealthState.eq_of_text_eq (htext.symm.trans hstate))
      rw [openRows_upsert hother]
      exact (List.length_filter_le _ _).trans (h.single state)
  · intro r hr
    rw [hrows, List.mem_singleton] at hr
    subst hr
    exact ⟨incident, incident.toIncident_toRow⟩

end Table

theorem IncidentRow.id_of_toIncident {r : IncidentRow} {incident : Incident}
    (h : r.toIncident = .ok incident) : incident.id = r.id := by
  obtain ⟨state, -, h⟩ := bind_eq_ok.1 h
  obtain ⟨services, -, ⟨⟩⟩ := bind_eq_ok.1 h
  rfl

/-! ### Accesses -/

namespace Store

variable {s : Store} {ledger : Table IncidentRow}

/-- Closing an incident writes the open row of its number, if there is one, and nothing else. -/
theorem closeIncident_cases (h : s.HasLedger ledger) (incident : Incident) (now : Instant) :
    (s.closeIncident incident now = .ok (s, false) ∧
        ∀ r ∈ ledger.rows, r.id = incident.id → r.isOpen = false) ∨
      ∃ row, ledger.find? incident.id = some row ∧ row.isOpen = true ∧
        s.closeIncident incident now = .ok (s.withLedger (ledger.upsert { row with
          endTime := some now
          duration := some (incidentDuration incident.startTime now) }), true) := by
  -- the number tells the row
  have hnumber : ∀ r ∈ ledger.rows, r.id = incident.id → ledger.find? incident.id = some r :=
    fun r hr hid => hid ▸ ledger.mem_rows_iff.1 hr
  simp only [closeIncident, ledgerFor_eq h, bind, Except.bind]
  cases hfind : ledger.find? incident.id with
  | none =>
    refine .inl ⟨rfl, fun r hr hid => ?_⟩
    rw [hnumber r hr hid] at hfind
    cases hfind
  | some row =>
    by_cases hopen : row.isOpen = true
    · exact .inr ⟨row, rfl, hopen, if_pos hopen⟩
    · refine .inl ⟨if_neg hopen, fun r hr hid => ?_⟩
      rw [hnumber r hr hid, Option.some.injEq] at hfind
      rw [hfind]
      exact Bool.eq_false_of_not_eq_true hopen

/-- Closing an incident leaves open what has another number. -/
theorem closeIncident_spec (h : s.HasLedger ledger) (incident : Incident) (now : Instant) :
    ∃ s' closed ledger', s.closeIncident incident now = .ok (s', closed) ∧ s'.HasLedger ledger' ∧
      ∀ state, ledger'.openRows state =
        (ledger.openRows state).filter fun r => decide (r.id ≠ incident.id) := by
  rcases closeIncident_cases h incident now with ⟨hclose, hclosed⟩ | ⟨row, hfind, -, hclose⟩
  · refine ⟨s, false, ledger, hclose, h, fun state => ?_⟩
    refine (List.filter_eq_self.2 fun r hr => ?_).symm
    refine decide_eq_true fun hid => ?_
    obtain ⟨hmem, -, hopen⟩ := Table.mem_openRows.1 hr
    rw [hclosed r hmem hid] at hopen
    cases hopen
  · have hid : row.id = incident.id := (ledger.find?_eq_some_iff.1 hfind).2
    refine ⟨_, true, _, hclose, h.withLedger _, fun state => ?_⟩
    rw [Table.openRows_upsert (by rintro ⟨-, ⟨⟩⟩), hid]

/-- The search finds the open red row of an orderly ledger, if there is one. -/
theorem findOpenIncident_spec (h : s.HasLedger ledger) (ho : ledger.Orderly) :
    (s.findOpenIncident .red = .ok none ∧ ledger.openRows .red = []) ∨
      ∃ found, s.findOpenIncident .red = .ok (some found) ∧
        ∀ r ∈ ledger.openRows .red, r.id = found.id := by
  have hsearch : s.findOpenIncident .red =
      (newestRow? (ledger.openRows .red)).mapM IncidentRow.toIncident := by
    simp only [findOpenIncident, ledgerFor_eq h, bind, Except.bind, Table.openRows]
  have hsingle := ho.single .red
  rcases hrows : ledger.openRows .red with _ | ⟨row, _ | ⟨other, rest⟩⟩
  · left
    rw [hsearch, hrows]
    exact ⟨rfl, rfl⟩
  · right
    obtain ⟨found, hfound⟩ := ho.legible row (by simp [hrows])
    refine ⟨found, ?_, fun r hr => ?_⟩
    · rw [hsearch, hrows]
      simp [newestRow?, hfound, Except.map, Functor.map]
    · rw [List.mem_singleton] at hr
      rw [hr, IncidentRow.id_of_toIncident hfound]
  · rw [hrows] at hsingle
    simp at hsingle

/-- The ledger of a store is there and orderly, whether or not the store answers. -/
def Orderly (s : Store) : Prop := ∃ ledger, s.tables.incidents = some ledger ∧ ledger.Orderly

theorem HasLedger.orderly (h : s.HasLedger ledger) (ho : ledger.Orderly) : s.Orderly :=
  ⟨ledger, h.incidents, ho⟩

end Store

/-! ### A look at the chain -/

namespace Monitor

variable {s : Store} {ledger : Table IncidentRow} (settings : HealthSettings)
  (current : Option Incident) (report : LivenessReport) (now : Instant)

/-- An incident that gives way to another is not open any more, and nothing else has changed. -/
theorem supersede_spec (h : s.HasLedger ledger) (incident : Incident) :
    ∃ ledger', (supersede s incident now).1.HasLedger ledger' ∧
      ∀ state, ledger'.openRows state =
        (ledger.openRows state).filter fun r => decide (r.id ≠ incident.id) := by
  obtain ⟨s', closed, ledger', hclose, hledger, hrows⟩ := Store.closeIncident_spec h incident now
  refine ⟨ledger', ?_, hrows⟩
  cases closed <;> simpa only [supersede, hclose] using hledger

theorem openIncident_orderly (h : s.HasLedger ledger) (ho : ledger.Orderly)
    (hnone : ledger.openRows .red = []) : (openIncident s .red report now).state.Orderly := by
  obtain ⟨incident, hinsert, hincident⟩ :=
    Store.insertIncident_eq h (incidentDescription report) now
  simp only [openIncident, hinsert]
  refine (h.withLedger _).orderly (ho.upsert_red hnone incident ?_ ?_)
  · rw [hincident]
  · rw [hincident]

/-- What the search finds either covers the failure or is closed before a row is opened. -/
theorem adoptOrOpen_orderly (h : s.HasLedger ledger) (ho : ledger.Orderly) :
    (adoptOrOpen settings s .red report now).state.Orderly := by
  rcases Store.findOpenIncident_spec h ho with ⟨hfind, hnone⟩ | ⟨found, hfind, hfound⟩
  · simp only [adoptOrOpen, hfind]
    exact openIncident_orderly report now h ho hnone
  · by_cases hcovers : covers settings found now = true
    · simp only [adoptOrOpen, hfind, if_pos hcovers]
      exact h.orderly ho
    · obtain ⟨ledger', hledger, hrows⟩ := supersede_spec now h found
      have hnone : ledger'.openRows .red = [] := by
        rw [hrows, List.filter_eq_nil_iff]
        intro r hr
        simp [hfound r hr]
      simp only [adoptOrOpen, hfind, if_neg hcovers]
      exact openIncident_orderly report now hledger (ho.filter hrows) hnone

/-- A loss of the chain, whatever is in memory: it is kept, or else closed ahead of the search. -/
theorem raise_orderly (h : s.HasLedger ledger) (ho : ledger.Orderly) :
    (raise settings s current .red report now).state.Orderly := by
  cases current with
  | none => exact adoptOrOpen_orderly settings report now h ho
  | some incident =>
    by_cases hkeep : incident.state = .red ∧ covers settings incident now = true
    · simp only [raise, if_pos hkeep]
      exact h.orderly ho
    · obtain ⟨ledger', hledger, hrows⟩ := supersede_spec now h incident
      simp only [raise, if_neg hkeep]
      exact adoptOrOpen_orderly settings report now hledger (ho.filter hrows)

theorem resolve_orderly (h : s.HasLedger ledger) (ho : ledger.Orderly) :
    (resolve s current now).state.Orderly := by
  cases current with
  | none => exact h.orderly ho
  | some incident =>
    obtain ⟨s', closed, ledger', hclose, hledger, hrows⟩ :=
      Store.closeIncident_spec h incident now
    simp only [resolve, hclose]
    exact hledger.orderly (ho.filter hrows)

/-- A store that does not answer stays as it is. -/
theorem settle_state_of_outage (ha : s.answering = false) :
    (settle settings s current report now).state = s := by
  have hadopt := (adoptOrOpen_of_outage settings report now ha .red).1
  unfold settle
  split
  · cases current with
    | none => rfl
    | some incident =>
      obtain ⟨error, herror⟩ := Store.ledgerFor_of_outage ha .closeIncident
      simp only [resolve, Store.closeIncident, herror, bind, Except.bind]
  · cases current with
    | none => exact hadopt
    | some incident =>
      by_cases hkeep : incident.state = .red ∧ covers settings incident now = true
      · simp only [raise, if_pos hkeep]
      · simp only [raise, if_neg hkeep, supersede_of_outage now ha]
        exact hadopt

/-- A look at the chain keeps the ledger orderly, whatever the monitor has in memory. -/
theorem settle_orderly (h : s.Orderly) : (settle settings s current report now).state.Orderly := by
  obtain ⟨ledger, hincidents, ho⟩ := h
  cases ha : s.answering with
  | false =>
    rw [settle_state_of_outage settings current report now ha]
    exact ⟨ledger, hincidents, ho⟩
  | true =>
    have hledger : s.HasLedger ledger := ⟨ha, hincidents⟩
    unfold settle
    split
    · exact resolve_orderly current now hledger ho
    · exact raise_orderly settings current report now hledger ho

end Monitor

/-- Whatever happens to a service, and whatever its monitor has in memory, the ledger stays
orderly. -/
theorem Service.step_orderly {svc : Service} (e : Event) (h : svc.store.Orderly) :
    (svc.step e).state.store.Orderly := by
  have hothers : e.isTick = false → (svc.step e).state.store.Orderly := by
    intro he
    obtain ⟨ledger, hincidents, ho⟩ := h
    exact ⟨ledger, step_incidents he hincidents, ho⟩
  cases e with
  | tick now =>
    obtain ⟨ledger, hincidents, ho⟩ : (svc.settle now).state.Orderly :=
      Monitor.settle_orderly _ _ _ now h
    -- the summary of the day is written after that, and the ledger is not touched again
    obtain ⟨daily, hdaily⟩ := Monitor.recordDay_store (svc.settle now).state now
      (svc.step (.tick now)).state.monitor.status
    exact ⟨ledger, (congrArg (fun s => s.tables.incidents) hdaily).trans hincidents, ho⟩
  | _ => exact hothers rfl

/-! ### Stations -/

/-- A store with an indexer and any number of monitors, each with its settings and its memory. -/
structure Station where
  store : Store
  indexer : Indexer
  monitors : Nat → Monitor

namespace Station

variable {st : Station}

/-- The station as one of its monitors sees it. -/
def service (st : Station) (i : Nat) : Service :=
  { store := st.store, indexer := st.indexer, monitor := st.monitors i }

/-- The station after an event, in which one of the monitors has a part. -/
def step (st : Station) (i : Nat) (e : Event) : Station :=
  let after := ((st.service i).step e).state
  { store := after.store, indexer := after.indexer
    monitors := Function.update st.monitors i after.monitor }

/-- The station after a list of events. -/
def run (st : Station) (es : List (Nat × Event)) : Station :=
  es.foldl (fun st (i, e) => st.step i e) st

theorem run_orderly (es : List (Nat × Event)) (h : st.store.Orderly) :
    (st.run es).store.Orderly := by
  induction es generalizing st with
  | nil => exact h
  | cons event rest ih => exact ih (Service.step_orderly event.2 h)

/-- **At most one incident of a state is ever open.**  Any number of monitors, with anything in
memory, keep a ledger in which at most one row of each state is open, and in which an open red row
can be read.  They look at the chain at any times, are replaced by new ones, resume or do not, while
blocks arrive and the store stops and starts to answer.  In every state that is reached, at most one
row of each state is open. -/
theorem run_openRows (st : Station) {ledger : Table IncidentRow}
    (hledger : st.store.tables.incidents = some ledger)
    (hsingle : ∀ state, (ledger.openRows state).length ≤ 1)
    (hlegible : ∀ r ∈ ledger.openRows .red, ∃ incident, r.toIncident = .ok incident)
    (es : List (Nat × Event)) :
    ∃ ledger', (st.run es).store.tables.incidents = some ledger' ∧
      ∀ state, (ledger'.openRows state).length ≤ 1 := by
  obtain ⟨ledger', hledger', ho⟩ := run_orderly es ⟨ledger, hledger, hsingle, hlegible⟩
  exact ⟨ledger', hledger', ho.single⟩

/-- An open row of a state, whose services are given as a document. -/
def leftOpen (state : HealthState) (services : Json) : IncidentRow :=
  { id := 7, state := state.text, description := "left open", services
    startTime := ⟨100000000000, false⟩, endTime := none, duration := none
    timestamp := ⟨100000000000, false⟩ }

/-- A station with one open row in its ledger. -/
def sample (state : HealthState) (services : Json) : Station :=
  { store := Service.sample.store.withLedger (Table.empty.upsert (leftOpen state services))
    indexer := Service.sample.indexer
    monitors := fun _ => { settings := {} } }

/-- Two monitors that take turns.  One takes up the open row, the other one closes it an hour later
and begins the next, the store does not answer for a while, and then the first one, which still has
the closed row in memory, finds the chain lost.  A third one is new. -/
def turns : List (Nat × Event) :=
  [(0, .resume), (1, .tick ⟨3700000000000, false⟩), (1, .answering false),
    (1, .tick ⟨9000000000000, false⟩), (1, .answering true), (2, .restart),
    (0, .tick ⟨9100000000000, false⟩), (2, .tick ⟨9200000000000, false⟩)]

theorem run_openRows_turns :
    let st := sample .red (.strings ["blockchain"])
    ∃ ledger, st.store.tables.incidents = some ledger ∧
      (∀ state, (ledger.openRows state).length ≤ 1) ∧
      (∀ r ∈ ledger.openRows .red, ∃ incident, r.toIncident = .ok incident) ∧
      (st.run turns).store.tables.incidents.map (fun ledger => ledger.rows.map (·.duration)) =
        some [some 3600, some 5400, none] ∧
      ∃ ledger', (st.run turns).store.tables.incidents = some ledger' ∧
        ∀ state, (ledger'.openRows state).length ≤ 1 := by
  intro st
  let ledger : Table IncidentRow := Table.empty.upsert (leftOpen .red (.strings ["blockchain"]))
  have hsingle : ∀ state, (ledger.openRows state).length ≤ 1 := by
    intro state
    cases state <;> decide
  have hlegible : ∀ r ∈ ledger.openRows .red, ∃ incident, r.toIncident = .ok incident := by
    intro r hr
    obtain rfl := List.mem_singleton.1 hr
    exact ⟨_, rfl⟩
  exact ⟨ledger, rfl, hsingle, hlegible, by decide +kernel,
    run_openRows st rfl hsingle hlegible turns⟩

/-- Beside an open row whose services are no list of texts, a second one is opened. -/
theorem unread_row_is_doubled :
    let st := sample .red (.str "blockchain")
    (∃ ledger, st.store.tables.incidents = some ledger ∧
      ∀ state, (ledger.openRows state).length ≤ 1) ∧
    (st.run [(0, .tick ⟨101000000000, false⟩)]).store.tables.incidents.map
      (fun ledger => (ledger.openRows .red).map (·.id)) = some [7, 8] := by
  refine ⟨⟨_, rfl, fun state => ?_⟩, rfl⟩
  cases state <;> decide

end Station

end ChainWatch
