import ChainWatch.Proofs.Ledger
import ChainWatch.Proofs.Monitoring

/-!
# The ledger as a segmentation

The monitor looks at the chain again and again, and blocks arrive in between.  Seen from outside,
the ledger cuts the times at which the chain was lost greedily into incidents: a failed look belongs
to the open incident if that has begun less than a window ago, and begins a new one otherwise.

The monitor works with an incident in memory and a ledger in the store.  The invariant is that the
open rows of the ledger are the incident in memory, so that neither ever knows more than the other.

* `Sighting`, `segment` : a look at the chain, and what it does to the rows of the ledger.
* `Store.Watched` : ledger and memory agree.
* `Monitor.settle_spec` : what a look at the chain leaves of both.
* `Service.run_ledger` : the ledger after any number of looks and deliveries.
-/

namespace ChainWatch

/-! ### The segmentation -/

/-- A look at the chain: when it happens and what it shows. -/
structure Sighting where
  now : Instant
  report : LivenessReport

namespace Sighting

/-- Whether the chain was lost. -/
def lost (x : Sighting) : Bool := !x.report.service.isReachable

/-- The row of an incident that begins with a look. -/
def row (x : Sighting) (id : Int) : IncidentRow :=
  { id, state := "red", description := incidentDescription x.report
    services := .strings ["blockchain"], startTime := x.now, endTime := none, duration := none
    timestamp := x.now }

end Sighting

/-- The rows of the ledger after a look.  If the chain is lost and an open row has begun less than
the window ago, nothing changes.  Otherwise everything open is closed, and if the chain is lost, a
new row begins. -/
def segment (window : Int) (rows : List IncidentRow) (x : Sighting) : List IncidentRow :=
  if x.lost then
    if rows.any fun r => r.isOpen && x.now.since r.startTime < window then rows
    else rows.map (·.closedAt x.now) ++ [x.row (rows.length + 1)]
  else rows.map (·.closedAt x.now)

/-- What an event shows of the chain. -/
def Event.sighting? (svc : Service) : Event → Option Sighting
  | tick now => some ⟨now, (svc.store.probe svc.monitor.settings now).1⟩
  | _ => none

/-- What a run shows of the chain. -/
def Service.sightings (svc : Service) : List Event → List Sighting
  | [] => []
  | e :: rest => (e.sighting? svc).toList ++ (svc.step e).state.sightings rest

/-! ### Ledger and memory -/

/-- A closed row tells how many whole seconds it has lasted. -/
def IncidentRow.Timed (r : IncidentRow) : Prop :=
  ∀ finish, r.endTime = some finish →
    r.duration = some (max 0 (wholeSeconds (finish.since r.startTime)))

theorem IncidentRow.timed_closedAt {r : IncidentRow} (h : r.Timed) (now : Instant) :
    (r.closedAt now).Timed := by
  unfold closedAt
  split
  · rintro finish ⟨⟩
    rfl
  · exact h

/-- The ledger of a store and the incident in memory agree: the open row, if there is one, is the
incident. -/
structure Store.Watched (s : Store) (ledger : Table IncidentRow) (current : Option Incident) :
    Prop where
  hasLedger : s.HasLedger ledger
  numbered : ledger.Numbered
  timed : ∀ r ∈ ledger.rows, r.Timed
  opened : ledger.rows.filter IncidentRow.isOpen = current.toList.map Incident.toRow
  red : ∀ incident, current = some incident → incident.state = .red

namespace Store.Watched

variable {s : Store} {ledger : Table IncidentRow} {incident : Incident}

/-- An empty ledger agrees with a memory of nothing. -/
theorem of_empty (h : s.HasLedger .empty) : s.Watched .empty none where
  hasLedger := h
  numbered := Table.numbered_empty
  timed := by
    intro r hr
    cases hr
  opened := rfl
  red := by
    rintro _ ⟨⟩

theorem rows_map_closedAt (h : s.Watched ledger none) (now : Instant) :
    ledger.rows.map (·.closedAt now) = ledger.rows := by
  have hclosed := List.filter_eq_nil_iff.1 h.opened
  refine (List.map_congr_left fun r hr => ?_).trans (List.map_id _)
  exact IncidentRow.closedAt_of_closed now (by simpa using hclosed r hr)

/-- A condition on the open rows is one on the incident in memory. -/
theorem any_open {current : Option Incident} (h : s.Watched ledger current)
    (p : IncidentRow → Bool) :
    ledger.rows.any (fun r => r.isOpen && p r) = current.any fun incident => p incident.toRow := by
  rw [← List.any_filter, h.opened]
  cases current <;> simp

/-- The incident in memory can be closed, and nothing is open then. -/
theorem close_current (h : s.Watched ledger (some incident)) (now : Instant) :
    ∃ s' ledger', s.closeIncident incident now = .ok (s', true) ∧ s'.Watched ledger' none ∧
      ledger'.rows = ledger.rows.map (·.closedAt now) := by
  have hrows := Table.upsert_rows_of_open now h.opened
  refine ⟨_, _, Store.closeIncident_eq h.hasLedger now h.opened, ?_, hrows⟩
  exact {
    hasLedger := h.hasLedger.withLedger _
    numbered := Table.numbered_of_rows_map_closedAt h.numbered hrows
    timed := by
      intro r hr
      rw [hrows] at hr
      obtain ⟨r', hr', rfl⟩ := List.mem_map.1 hr
      exact IncidentRow.timed_closedAt (h.timed r' hr') now
    opened := by
      rw [hrows]
      exact Table.filter_isOpen_map_closedAt now ledger.rows
    red := by
      rintro _ ⟨⟩ }

/-- If nothing is open, the next row can be, and it is the incident in memory then. -/
theorem open_next (h : s.Watched ledger none) (x : Sighting) :
    ∃ s' ledger' incident,
      s.insertIncident .red (incidentDescription x.report) [chainService] x.now =
        .ok (s', incident) ∧
      s'.Watched ledger' (some incident) ∧
      ledger'.rows = ledger.rows ++ [x.row (ledger.rows.length + 1)] := by
  obtain ⟨incident, hinsert, hincident⟩ :=
    Store.insertIncident_eq h.hasLedger (incidentDescription x.report) x.now
  have hrow : incident.toRow = x.row (ledger.rows.length + 1) := by
    rw [hincident, Table.nextIncidentId_of_numbered h.numbered]
    rfl
  have hid : incident.toRow.id = ledger.rows.length + 1 := congrArg IncidentRow.id hrow
  have hrows := Table.upsert_rows_of_numbered h.numbered hid
  refine ⟨_, _, incident, hinsert, ?_, hrows.trans (by rw [hrow])⟩
  exact {
    hasLedger := h.hasLedger.withLedger _
    numbered := Table.numbered_upsert h.numbered hid
    timed := by
      intro r hr
      rw [hrows, List.mem_append, List.mem_singleton] at hr
      rcases hr with hr | rfl
      · exact h.timed r hr
      · rw [hrow]
        rintro finish ⟨⟩
    opened := by
      rw [hrows, List.filter_append, h.opened, hrow]
      rw [Option.toList_some, List.map_singleton, hrow]
      rfl
    red := by
      rintro _ ⟨⟩
      rw [hincident] }

end Store.Watched

/-! ### A look at the chain -/

namespace Monitor

variable {s : Store} {ledger : Table IncidentRow} {current : Option Incident}
  (settings : HealthSettings) (x : Sighting)

theorem openIncident_spec (h : s.Watched ledger none) :
    ∃ ledger', (openIncident s .red x.report x.now).state.Watched ledger'
        (openIncident s .red x.report x.now).answer ∧
      (openIncident s .red x.report x.now).answer.isSome = true ∧
      ledger'.rows = ledger.rows ++ [x.row (ledger.rows.length + 1)] := by
  obtain ⟨s', ledger', incident, hinsert, hwatched, hrows⟩ := h.open_next x
  simp only [openIncident, hinsert]
  exact ⟨ledger', hwatched, rfl, hrows⟩

/-- Where nothing is open, nothing is adopted. -/
theorem adoptOrOpen_eq (h : s.Watched ledger none) :
    adoptOrOpen settings s .red x.report x.now = openIncident s .red x.report x.now := by
  have hnone := Store.findOpenIncident_eq_none h.hasLedger .red h.opened
  simp only [adoptOrOpen, hnone]

theorem raise_spec (h : s.Watched ledger current) (hlost : x.lost = true) :
    ∃ ledger', (raise settings s current .red x.report x.now).state.Watched ledger'
        (raise settings s current .red x.report x.now).answer ∧
      (raise settings s current .red x.report x.now).answer.isSome = true ∧
      ledger'.rows = segment settings.debounceNanos ledger.rows x := by
  have hany := h.any_open fun r => decide (x.now.since r.startTime < settings.debounceNanos)
  rw [segment, if_pos hlost, hany]
  cases current with
  | none =>
    obtain ⟨ledger', hwatched, hsome, hrows⟩ := openIncident_spec x h
    simp only [raise, adoptOrOpen_eq settings x h]
    refine ⟨ledger', hwatched, hsome, ?_⟩
    rw [Option.any_none, if_neg Bool.false_ne_true, h.rows_map_closedAt]
    exact hrows
  | some incident =>
    rw [Option.any_some]
    by_cases hcovers : x.now.since incident.startTime < settings.debounceNanos
    · have hkeep : incident.state = .red ∧ covers settings incident x.now = true :=
        ⟨h.red incident rfl, decide_eq_true hcovers⟩
      simp only [raise, if_pos hkeep]
      exact ⟨ledger, h, rfl, (if_pos (decide_eq_true hcovers)).symm⟩
    · have hgiveUp : ¬(incident.state = .red ∧ covers settings incident x.now = true) :=
        fun hkeep => hcovers (of_decide_eq_true hkeep.2)
      obtain ⟨s', closed, hclose, hnone, hclosed⟩ := h.close_current x.now
      obtain ⟨ledger', hwatched, hsome, hrows⟩ := openIncident_spec x hnone
      simp only [raise, if_neg hgiveUp, supersede, hclose, adoptOrOpen_eq settings x hnone]
      refine ⟨ledger', hwatched, hsome, ?_⟩
      have hnot : ¬decide (x.now.since incident.toRow.startTime < settings.debounceNanos) = true :=
        fun hc => hcovers (of_decide_eq_true hc)
      rw [if_neg hnot, hrows, hclosed, List.length_map]

theorem resolve_spec (h : s.Watched ledger current) (now : Instant) :
    ∃ ledger', (resolve s current now).state.Watched ledger' (resolve s current now).answer ∧
      (resolve s current now).answer.isSome = false ∧
      ledger'.rows = ledger.rows.map (·.closedAt now) := by
  cases current with
  | none => exact ⟨ledger, h, rfl, (h.rows_map_closedAt now).symm⟩
  | some incident =>
    obtain ⟨s', closed, hclose, hnone, hclosed⟩ := h.close_current now
    simp only [resolve, hclose]
    exact ⟨closed, hnone, rfl, hclosed⟩

/-- A look at the chain moves the ledger by one step of the segmentation, and memory with it. -/
theorem settle_spec (h : s.Watched ledger current) :
    ∃ ledger', (settle settings s current x.report x.now).state.Watched ledger'
        (settle settings s current x.report x.now).answer ∧
      (settle settings s current x.report x.now).answer.isSome = x.lost ∧
      ledger'.rows = segment settings.debounceNanos ledger.rows x := by
  by_cases hreachable : x.report.service.isReachable = true
  · have hlost : x.lost = false := by simp [Sighting.lost, hreachable]
    rw [settle, if_pos hreachable, segment, hlost, if_neg Bool.false_ne_true]
    exact resolve_spec h x.now
  · have hlost : x.lost = true := by simp [Sighting.lost, hreachable]
    rw [settle, if_neg hreachable, hlost]
    exact raise_spec settings x h hlost

theorem recordDay_watched (h : s.Watched ledger current) (status : HealthStatus) (now : Instant) :
    (recordDay s status now).1.Watched ledger current := by
  unfold recordDay
  split
  next s' merged hrecord =>
    obtain ⟨daily, rfl, -⟩ := Store.recordDaily_store hrecord
    have hledger := h.hasLedger
    exact ⟨⟨hledger.answering, hledger.incidents⟩, h.numbered, h.timed, h.opened, h.red⟩
  next => exact h

end Monitor

/-! ### Runs -/

namespace Service

variable {svc : Service} {ledger : Table IncidentRow}

/-- Ledger and memory of a service agree. -/
def Watched (svc : Service) (ledger : Table IncidentRow) : Prop :=
  svc.store.Watched ledger svc.monitor.status.currentIncident

theorem step_delivery_watched {e : Event} (he : e.isDelivery = true) (h : svc.Watched ledger) :
    (svc.step e).state.Watched ledger ∧ (svc.step e).state.monitor = svc.monitor := by
  obtain ⟨hmonitor, hanswering, hincidents, -⟩ := svc.step_of_delivery he .none
  have hledger : (svc.step e).state.store.HasLedger ledger :=
    ⟨hanswering.trans h.hasLedger.answering, hincidents.trans h.hasLedger.incidents⟩
  refine ⟨?_, hmonitor⟩
  rw [Watched, hmonitor]
  exact ⟨hledger, h.numbered, h.timed, h.opened, h.red⟩

/-- A look at the chain or a delivery keeps ledger and memory in agreement; a look moves the ledger
by a step of the segmentation. -/
theorem step_watched {e : Event} (he : e.isTick = true ∨ e.isDelivery = true)
    (h : svc.Watched ledger) :
    ∃ ledger', (svc.step e).state.Watched ledger' ∧
      (svc.step e).state.monitor.settings = svc.monitor.settings ∧
      ledger'.rows = (e.sighting? svc).toList.foldl
        (segment svc.monitor.settings.debounceNanos) ledger.rows ∧
      (svc.step e).state.monitor.status.currentIncident.isSome =
        ((e.sighting? svc).map Sighting.lost).getD svc.monitor.status.currentIncident.isSome := by
  rcases he with htick | hdelivery
  · cases e with
    | tick now =>
      obtain ⟨ledger', hwatched, hsome, hrows⟩ := Monitor.settle_spec svc.monitor.settings
        ⟨now, (svc.store.probe svc.monitor.settings now).1⟩ h
      exact ⟨ledger', Monitor.recordDay_watched hwatched _ now, rfl, hrows, hsome⟩
    | _ => cases htick
  · obtain ⟨hwatched, hmonitor⟩ := step_delivery_watched hdelivery h
    have hnone : e.sighting? svc = none := by
      cases e with
      | tick now => cases hdelivery
      | _ => rfl
    rw [hnone, hmonitor]
    exact ⟨ledger, hwatched, rfl, rfl, rfl⟩

/-- A run of looks and deliveries moves the ledger by a step of the segmentation for each look. -/
theorem run_watched {es : List Event} (hes : ∀ e ∈ es, e.isTick = true ∨ e.isDelivery = true)
    (h : svc.Watched ledger) :
    ∃ ledger', (svc.run es).state.Watched ledger' ∧
      ledger'.rows =
        (svc.sightings es).foldl (segment svc.monitor.settings.debounceNanos) ledger.rows ∧
      (svc.run es).state.monitor.status.currentIncident.isSome =
        ((svc.sightings es).getLast?.map Sighting.lost).getD
          svc.monitor.status.currentIncident.isSome := by
  induction es generalizing svc ledger with
  | nil => exact ⟨ledger, h, rfl, rfl⟩
  | cons e rest ih =>
    rw [List.forall_mem_cons] at hes
    obtain ⟨next, hnext, hsettings, hrows, hlost⟩ := step_watched hes.1 h
    obtain ⟨last, hlast, hlastRows, hlastLost⟩ := ih hes.2 hnext
    refine ⟨last, hlast, ?_, ?_⟩
    · rw [hlastRows, hsettings, hrows, sightings, List.foldl_append]
    · rw [run_cons_state, hlastLost, hlost, sightings, List.getLast?_append]
      -- the last look is the last one of the rest, or else the one of this event
      cases ((svc.step e).state.sightings rest).getLast? with
      | some x => rfl
      | none => cases e.sighting? svc <;> rfl

/-- **The ledger is the greedy segmentation of the times at which the chain was lost.**  A monitor
that knows of no incident begins with an empty ledger on a store that answers, and looks at the
chain at any times, in any order, while genesis data and blocks arrive.  Then the ledger is what the
segmentation makes of the looks; every closed row tells its whole seconds, at least none; at most
one row is open, namely the current incident; and there is one exactly if the last look found the
chain lost.  The window of the segmentation is the one that the monitor goes by: the configured
debounce, but an hour for one that is too long for a difference of instants. -/
theorem run_ledger (svc : Service) (hanswering : svc.store.answering = true)
    (hempty : svc.store.tables.incidents = some .empty)
    (hfresh : svc.monitor.status.currentIncident = none) {es : List Event}
    (hes : ∀ e ∈ es, e.isTick = true ∨ e.isDelivery = true) :
    ∃ ledger, (svc.run es).state.store.tables.incidents = some ledger ∧
      ledger.rows = (svc.sightings es).foldl (segment svc.monitor.settings.debounceNanos) [] ∧
      (∀ r ∈ ledger.rows, r.Timed) ∧
      (ledger.rows.filter IncidentRow.isOpen).length ≤ 1 ∧
      ledger.rows.filter IncidentRow.isOpen =
        (svc.run es).state.monitor.status.currentIncident.toList.map Incident.toRow ∧
      (svc.run es).state.monitor.status.currentIncident.isSome =
        (svc.sightings es).getLast?.any Sighting.lost := by
  have hstart : svc.Watched .empty := by
    rw [Watched, hfresh]
    exact .of_empty ⟨hanswering, hempty⟩
  obtain ⟨ledger, hwatched, hrows, hlost⟩ := run_watched hes hstart
  refine ⟨ledger, hwatched.hasLedger.incidents, hrows, hwatched.timed, ?_, hwatched.opened, ?_⟩
  · rw [hwatched.opened, List.length_map]
    cases (svc.run es).state.monitor.status.currentIncident <;> simp
  · rw [hlost, hfresh]
    cases (svc.sightings es).getLast? <;> rfl

/-- The chain is lost, looked at again by a clock that goes back, lost for an hour, and found
again. -/
def outage : List Event :=
  [.tick ⟨100000000000, false⟩, .tick ⟨50000000000, false⟩, .tick ⟨3700000000000, false⟩,
    .ingest (.sample 6 3700000 []), .tick ⟨3701000000000, false⟩]

/-- The second incident begins exactly a window after the first, which it therefore closes. -/
theorem run_ledger_outage :
    sample.store.answering = true ∧ sample.store.tables.incidents = some .empty ∧
      sample.monitor.status.currentIncident = none ∧
      (∀ e ∈ outage, e.isTick = true ∨ e.isDelivery = true) ∧
      (sample.sightings outage).map Sighting.lost = [true, true, true, false] ∧
      ∃ ledger, (sample.run outage).state.store.tables.incidents = some ledger ∧
        ledger.rows.map (·.duration) = [some 3600, some 1] := by
  have hevents : ∀ e ∈ outage, e.isTick = true ∨ e.isDelivery = true := by decide
  obtain ⟨ledger, hledger, hrows, -⟩ :=
    sample.run_ledger rfl rfl rfl hevents
  refine ⟨rfl, rfl, rfl, hevents, rfl, ledger, hledger, ?_⟩
  rw [hrows]
  rfl

end Service

end ChainWatch
