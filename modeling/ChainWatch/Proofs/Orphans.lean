import ChainWatch.Proofs.Monitoring
import ChainWatch.Proofs.Segmentation

/-!
# Orphaned incidents

The monitor closes the incident that it has in memory, and does not search the ledger when the chain
is back.  An open row that has gone from memory is an orphan: no look at a chain that is back closes
it.  A row goes from memory in two ways.  A new monitor takes over, or the monitor looks at the
chain while the store does not answer and gives up an incident that has become too old: it can then
neither close the row nor record another one.  An orphan is taken up by a monitor that resumes, and
by the next look at a chain that is lost, if the store answers.

* `Event.letsGo`, `Event.takesUp`, `Service.orphans` : the runs that leave an orphan.
* `Monitor.settle_of_outage` : a look at the chain during an outage.
* `Store.Overseen` : ledger and memory agree, but for an orphan.
* `Monitor.raise_of_forgotten` : a loss of the chain takes up an orphan as if it were in memory.
* `Service.run_orphans` : the open rows after a look that finds the chain.
-/

namespace ChainWatch

/-! ### Letting go and taking up -/

namespace Service

/-- A look at the chain. -/
def look (svc : Service) (now : Instant) : Sighting :=
  ⟨now, (svc.store.probe svc.monitor.settings now).1⟩

/-- The ledger and the current incident after a look at the chain. -/
def settle (svc : Service) (now : Instant) : Outcome Store (Option Incident) :=
  Monitor.settle svc.monitor.settings svc.store svc.monitor.status.currentIncident
    (svc.look now).report now

end Service

namespace Event

/-- Whether an event drops the current incident from memory and leaves its row open. -/
def letsGo (svc : Service) : Event → Bool
  | restart => svc.monitor.status.currentIncident.isSome
  | tick now =>
    !svc.store.answering &&
      svc.monitor.status.currentIncident.any (!Monitor.covers svc.monitor.settings · now)
  | _ => false

/-- Whether an event brings what is open in the ledger into memory. -/
def takesUp (svc : Service) : Event → Bool
  | resume => svc.store.answering
  | tick now => svc.store.answering && (svc.look now).lost
  | _ => false

end Event

namespace Service

/-- Whether something in a run takes up what is open in the ledger. -/
def takesUp (svc : Service) : List Event → Bool
  | [] => false
  | e :: rest => e.takesUp svc || (svc.step e).state.takesUp rest

/-- Whether a run lets an incident go, and nothing takes it up after that. -/
def orphans (svc : Service) : List Event → Bool
  | [] => false
  | e :: rest =>
    (svc.step e).state.orphans rest || (e.letsGo svc && !(svc.step e).state.takesUp rest)

end Service

/-! ### Outages -/

namespace Store

variable {s : Store}

theorem ledgerFor_of_outage (ha : s.answering = false) (operation : Operation) :
    ∃ error, s.ledgerFor operation = .error error := by
  obtain ⟨error, herror⟩ := exists_error_of_outage ha operation
  refine ⟨error, ?_⟩
  simp only [ledgerFor, herror, bind, Except.bind]

/-- The chain is not found on a store that does not answer. -/
theorem probe_of_outage (ha : s.answering = false) (settings : HealthSettings) (now : Instant) :
    (s.probe settings now).1.service.isReachable = false := by
  obtain ⟨error, herror⟩ := exists_error_of_outage ha .latestBlock
  simp only [probe, latestBlock, blocksFor, herror, bind, Except.bind, Except.map,
    LivenessReport.unanswered]

end Store

namespace Monitor

variable {s : Store} (settings : HealthSettings) (report : LivenessReport) (now : Instant)

theorem supersede_of_outage (ha : s.answering = false) (incident : Incident) :
    (supersede s incident now).1 = s := by
  obtain ⟨error, herror⟩ := Store.ledgerFor_of_outage ha .closeIncident
  simp only [supersede, Store.closeIncident, herror, bind, Except.bind]

theorem openIncident_of_outage (ha : s.answering = false) (state : HealthState) :
    (openIncident s state report now).state = s ∧
      (openIncident s state report now).answer = none := by
  obtain ⟨error, herror⟩ := Store.ledgerFor_of_outage ha .insertIncident
  simp only [openIncident, Store.insertIncident, herror, bind, Except.bind, and_self]

theorem adoptOrOpen_of_outage (ha : s.answering = false) (state : HealthState) :
    (adoptOrOpen settings s state report now).state = s ∧
      (adoptOrOpen settings s state report now).answer = none := by
  obtain ⟨error, herror⟩ := Store.ledgerFor_of_outage ha .findOpenIncident
  simp only [adoptOrOpen, Store.findOpenIncident, herror, bind, Except.bind]
  exact openIncident_of_outage report now ha state

/-- In an outage the ledger stays as it is, and an incident that is too old is given up. -/
theorem settle_of_outage (ha : s.answering = false) {current : Option Incident}
    (hred : ∀ incident, current = some incident → incident.state = .red)
    (hlost : report.service.isReachable = false) :
    (settle settings s current report now).state = s ∧
      (settle settings s current report now).answer = current.filter (covers settings · now) := by
  rw [settle, if_neg (by simp [hlost])]
  cases current with
  | none => exact adoptOrOpen_of_outage settings report now ha .red
  | some incident =>
    by_cases hcovers : covers settings incident now = true
    · have hkeep : incident.state = .red ∧ covers settings incident now = true :=
        ⟨hred incident rfl, hcovers⟩
      simp only [raise, if_pos hkeep, Option.filter_some, if_pos hcovers, and_self]
    · have hgiveUp : ¬(incident.state = .red ∧ covers settings incident now = true) :=
        fun hkeep => hcovers hkeep.2
      simp only [raise, if_neg hgiveUp, supersede_of_outage now ha, Option.filter_some,
        if_neg hcovers]
      exact adoptOrOpen_of_outage settings report now ha .red

end Monitor

/-! ### The open row and memory -/

/-- At most one row of the ledger is open, and it is in memory unless it is an orphan.  This is so
whether or not the store answers at the time. -/
structure Store.Overseen (s : Store) (opened current : Option Incident) (orphaned : Bool) :
    Prop where
  watched : ∃ ledger, (s.setAnswering true).Watched ledger opened
  current : current = if orphaned then none else opened
  isSome : orphaned = true → opened.isSome = true

namespace Store

variable {s s' : Store} {ledger : Table IncidentRow} {opened current : Option Incident}
  {orphaned : Bool}

/-- Ledger and incident agree in every store that answers and has the ledger. -/
theorem Watched.of_incidents (h : s.Watched ledger opened) (ha : s'.answering = true)
    (hledger : s'.tables.incidents = some ledger) : s'.Watched ledger opened :=
  ⟨⟨ha, hledger⟩, h.numbered, h.timed, h.opened, h.red⟩

theorem Overseen.of_watched (h : s.Watched ledger opened) : s.Overseen opened opened false :=
  ⟨⟨ledger, h.of_incidents rfl h.hasLedger.incidents⟩, rfl, nofun⟩

theorem Overseen.watched_of_answering (h : s.Overseen opened current orphaned)
    (ha : s.answering = true) : ∃ ledger, s.Watched ledger opened := by
  obtain ⟨ledger, hwatched⟩ := h.watched
  exact ⟨ledger, hwatched.of_incidents ha hwatched.hasLedger.incidents⟩

theorem Overseen.of_incidents (h : s.Overseen opened current orphaned)
    (hledger : ∀ ledger, s.tables.incidents = some ledger → s'.tables.incidents = some ledger) :
    s'.Overseen opened current orphaned := by
  obtain ⟨ledger, hwatched⟩ := h.watched
  have hsame := hledger ledger hwatched.hasLedger.incidents
  exact ⟨⟨ledger, hwatched.of_incidents rfl hsame⟩, h.current, h.isSome⟩

theorem Overseen.red (h : s.Overseen opened current orphaned) (incident : Incident)
    (hincident : current = some incident) : incident.state = .red := by
  obtain ⟨ledger, hwatched⟩ := h.watched
  rw [h.current] at hincident
  split at hincident
  · cases hincident
  · exact hwatched.red incident hincident

/-- An incident that is dropped from memory is an orphan. -/
theorem Overseen.filter (h : s.Overseen opened current orphaned) (p : Incident → Bool) :
    s.Overseen opened (current.filter p) (current.any (!p ·) || orphaned) := by
  cases orphaned with
  | true =>
    obtain rfl : current = none := h.current
    exact h
  | false =>
    obtain rfl : current = opened := h.current
    cases current with
    | none => exact ⟨h.watched, rfl, nofun⟩
    | some incident =>
      refine ⟨h.watched, ?_, fun _ => rfl⟩
      cases hp : p incident <;> simp [Option.filter_some, hp]

end Store

namespace Monitor

variable {s : Store} {ledger : Table IncidentRow} {opened current : Option Incident}
  {orphaned : Bool} (settings : HealthSettings) (x : Sighting)

/-- If the chain is lost, it makes no difference whether the open row is in memory. -/
theorem raise_of_forgotten (h : s.Watched ledger opened) :
    raise settings s none .red x.report x.now = raise settings s opened .red x.report x.now := by
  cases opened with
  | none => rfl
  | some incident =>
    have hred : incident.state = .red := h.red incident rfl
    have hfind := Store.findOpenIncident_eq h.hasLedger h.opened
    rw [hred] at hfind
    by_cases hcovers : covers settings incident x.now = true
    · simp only [raise, adoptOrOpen, hfind, hred, hcovers, and_self, ↓reduceIte]
    · -- given up from memory or found in the ledger, the row is closed before the next one begins
      obtain ⟨s', closed, hclose, hnone, -⟩ := h.close_current x.now
      have hgiveUp : ¬(incident.state = .red ∧ covers settings incident x.now = true) :=
        fun hkeep => hcovers hkeep.2
      have hsupersede : (supersede s incident x.now).1 = s' := by simp only [supersede, hclose]
      have hadopt := adoptOrOpen_eq settings x hnone
      simp only [raise, if_neg hgiveUp, hsupersede, hadopt]
      simp only [adoptOrOpen, hfind, if_neg hcovers, hsupersede]

/-- If the store answers, a look at the chain takes up an orphan unless the chain is found, and
memory tells whether the chain is lost. -/
theorem settle_overseen (h : s.Overseen opened current orphaned) (ha : s.answering = true) :
    ∃ opened', (settle settings s current x.report x.now).state.Overseen opened'
        (settle settings s current x.report x.now).answer (orphaned && !x.lost) ∧
      (settle settings s current x.report x.now).answer.isSome = x.lost := by
  obtain ⟨ledger, hwatched⟩ := h.watched_of_answering ha
  cases orphaned with
  | false =>
    obtain rfl : current = opened := h.current
    obtain ⟨ledger', hwatched', hsome, -⟩ := settle_spec settings x hwatched
    exact ⟨_, .of_watched hwatched', hsome⟩
  | true =>
    -- nothing is in memory, so a chain that is found changes nothing
    obtain rfl : current = none := h.current
    by_cases hreachable : x.report.service.isReachable = true
    · have hlost : x.lost = false := by simp [Sighting.lost, hreachable]
      rw [settle, if_pos hreachable, hlost]
      exact ⟨opened, h, rfl⟩
    · have hlost : x.lost = true := by simp [Sighting.lost, hreachable]
      obtain ⟨ledger', hwatched', hsome, -⟩ := raise_spec settings x hwatched hlost
      rw [settle, if_neg hreachable, hlost, raise_of_forgotten settings x hwatched]
      exact ⟨_, .of_watched hwatched', hsome⟩

/-- In an outage a look at the chain makes an orphan of an incident that is too old. -/
theorem settle_overseen_of_outage (h : s.Overseen opened current orphaned)
    (ha : s.answering = false) (hlost : x.lost = true) :
    (settle settings s current x.report x.now).state.Overseen opened
      (settle settings s current x.report x.now).answer
      (current.any (!covers settings · x.now) || orphaned) := by
  have hunreachable : x.report.service.isReachable = false := by simpa [Sighting.lost] using hlost
  obtain ⟨hstate, hanswer⟩ := settle_of_outage settings x.report x.now ha h.red hunreachable
  rw [hstate, hanswer]
  exact h.filter (covers settings · x.now)

end Monitor

/-! ### Runs -/

namespace Service

variable {svc : Service} {opened : Option Incident} {orphaned : Bool}

/-- What the monitor has in memory of the open row. -/
def Overseen (svc : Service) (opened : Option Incident) (orphaned : Bool) : Prop :=
  svc.store.Overseen opened svc.monitor.status.currentIncident orphaned

theorem look_lost_of_outage (ha : svc.store.answering = false) (now : Instant) :
    (svc.look now).lost = true := by
  simp [look, Sighting.lost, Store.probe_of_outage ha]

/-- The summary of the day, which is recorded at the end of a look, has no part in this. -/
theorem step_tick_of_settle {now : Instant}
    (h : (svc.settle now).state.Overseen opened (svc.settle now).answer orphaned) :
    (svc.step (.tick now)).state.Overseen opened orphaned := by
  obtain ⟨daily, hdaily⟩ := Monitor.recordDay_store (svc.settle now).state now
    (svc.step (.tick now)).state.monitor.status
  exact h.of_incidents fun ledger hledger =>
    (congrArg (fun s => s.tables.incidents) hdaily).trans hledger

/-- A look at the chain, whether or not the store answers. -/
theorem step_tick_overseen (now : Instant) (h : svc.Overseen opened orphaned) :
    ∃ opened', (svc.step (.tick now)).state.Overseen opened'
      ((Event.tick now).letsGo svc || (orphaned && !(Event.tick now).takesUp svc)) := by
  cases ha : svc.store.answering with
  | true =>
    obtain ⟨opened', hsettled, -⟩ :=
      Monitor.settle_overseen svc.monitor.settings (svc.look now) h ha
    refine ⟨opened', ?_⟩
    simp only [Event.letsGo, Event.takesUp, ha, Bool.not_true, Bool.false_and, Bool.false_or,
      Bool.true_and]
    exact step_tick_of_settle hsettled
  | false =>
    have hlost := look_lost_of_outage ha now
    have hsettled :=
      Monitor.settle_overseen_of_outage svc.monitor.settings (svc.look now) h ha hlost
    refine ⟨opened, ?_⟩
    simp only [Event.letsGo, Event.takesUp, ha, Bool.not_false, Bool.false_and, Bool.true_and,
      Bool.and_true]
    exact step_tick_of_settle hsettled

/-- What leaves the monitor and the ledger as they are, leaves orphans as they are. -/
theorem step_overseen_of_monitor {e : Event} (h : svc.Overseen opened orphaned)
    (he : e.isTick = false) (hmonitor : (svc.step e).state.monitor = svc.monitor) :
    (svc.step e).state.Overseen opened orphaned := by
  rw [Overseen, hmonitor]
  exact h.of_incidents fun ledger hledger => step_incidents he hledger

/-- A monitor that resumes takes up what is open, if the store answers. -/
theorem step_resume_overseen (h : svc.Overseen opened orphaned) :
    (svc.step .resume).state.Overseen opened (orphaned && !svc.store.answering) := by
  cases ha : svc.store.answering with
  | true =>
    obtain ⟨ledger, hwatched⟩ := h.watched_of_answering ha
    have hfind := Store.findAnyOpenIncident_eq hwatched.hasLedger hwatched.opened
    have hcurrent : (svc.step .resume).state.monitor.status.currentIncident = opened := by
      cases opened with
      | none => simpa only [step, Monitor.resume, hfind, ite_self] using h.current
      | some incident => simp only [step, Monitor.resume, hfind]
    rw [Bool.not_true, Bool.and_false, Overseen, hcurrent]
    exact .of_watched hwatched
  | false =>
    obtain ⟨error, herror⟩ := Store.ledgerFor_of_outage ha .findAnyOpenIncident
    rw [Bool.not_false, Bool.and_true]
    refine step_overseen_of_monitor h rfl ?_
    simp only [step, Monitor.resume, Store.findAnyOpenIncident, herror, bind, Except.bind]

/-- A new monitor knows of nothing. -/
theorem step_restart_overseen (h : svc.Overseen opened orphaned) :
    (svc.step .restart).state.Overseen opened
      (svc.monitor.status.currentIncident.isSome || orphaned) := by
  have hdropped := h.filter fun _ => false
  simpa [Overseen, step] using hdropped

/-- An event makes an orphan of the incident that it lets go, and no orphan is left if it takes up
what is open. -/
theorem step_overseen (e : Event) (h : svc.Overseen opened orphaned) :
    ∃ opened', (svc.step e).state.Overseen opened'
      (e.letsGo svc || (orphaned && !e.takesUp svc)) := by
  cases e with
  | tick now => exact step_tick_overseen now h
  | resume => exact ⟨opened, step_resume_overseen h⟩
  | restart =>
    refine ⟨opened, ?_⟩
    simp only [Event.letsGo, Event.takesUp, Bool.not_false, Bool.and_true]
    exact step_restart_overseen h
  | _ =>
    refine ⟨opened, ?_⟩
    simp only [Event.letsGo, Event.takesUp, Bool.not_false, Bool.and_true, Bool.false_or]
    exact step_overseen_of_monitor h rfl rfl

/-- What a run lets go and does not take up again is an orphan at its end. -/
theorem run_overseen (es : List Event) (h : svc.Overseen opened orphaned) :
    ∃ opened', (svc.run es).state.Overseen opened'
      (svc.orphans es || (orphaned && !svc.takesUp es)) := by
  induction es generalizing svc opened orphaned with
  | nil =>
    refine ⟨opened, ?_⟩
    simp only [orphans, takesUp, Bool.not_false, Bool.and_true, Bool.false_or]
    exact h
  | cons e rest ih =>
    obtain ⟨next, hnext⟩ := step_overseen e h
    obtain ⟨last, hlast⟩ := ih hnext
    refine ⟨last, ?_⟩
    rw [run_cons_state]
    have hbool : (svc.orphans (e :: rest) || (orphaned && !svc.takesUp (e :: rest))) =
        ((svc.step e).state.orphans rest ||
          ((e.letsGo svc || (orphaned && !e.takesUp svc)) &&
            !(svc.step e).state.takesUp rest)) := by
      rw [orphans, takesUp, Bool.not_or, ← Bool.and_assoc, Bool.or_assoc,
        ← Bool.and_or_distrib_right]
    rw [hbool]
    exact hlast

/-- **A look that finds the chain leaves a row open exactly if the run has left an orphan.**  A
service begins with an empty ledger and knows of no incident, and anything may happen to it.  After
any further look at the chain that finds it, memory is empty.  One row of the ledger is open if the
run has let an incident go that nothing has taken up since, and none otherwise. -/
theorem run_orphans (svc : Service) (hempty : svc.store.tables.incidents = some .empty)
    (hfresh : svc.monitor.status.currentIncident = none) (es : List Event) {now : Instant}
    (hfound : ((svc.run es).state.look now).lost = false) :
    let after := ((svc.run es).state.step (.tick now)).state
    after.monitor.status.currentIncident = none ∧
      ∃ ledger, after.store.tables.incidents = some ledger ∧
        (ledger.rows.filter IncidentRow.isOpen).length = if svc.orphans es then 1 else 0 := by
  intro after
  have hstart : svc.Overseen none false :=
    ⟨⟨.empty, .of_empty ⟨rfl, hempty⟩⟩, hfresh, nofun⟩
  obtain ⟨opened, h⟩ := run_overseen es hstart
  rw [Bool.false_and, Bool.or_false] at h
  -- only a store that answers can tell that the chain is there
  have ha : (svc.run es).state.store.answering = true := by
    by_contra houtage
    have hlost := look_lost_of_outage (Bool.eq_false_of_not_eq_true houtage) now
    rw [hfound] at hlost
    cases hlost
  obtain ⟨opened', hsettled, hsome⟩ :=
    Monitor.settle_overseen (svc.run es).state.monitor.settings
      ((svc.run es).state.look now) h ha
  rw [hfound, Bool.not_false, Bool.and_true] at hsettled
  rw [hfound] at hsome
  have hnone : after.monitor.status.currentIncident = none :=
    Option.isNone_iff_eq_none.1 (Option.isSome_eq_false_iff.1 hsome)
  obtain ⟨⟨ledger, hwatched⟩, hcurrent, hopened⟩ := step_tick_of_settle hsettled
  refine ⟨hnone, ledger, hwatched.hasLedger.incidents, ?_⟩
  rw [hwatched.opened]
  cases horphans : svc.orphans es with
  | true =>
    obtain ⟨incident, rfl⟩ := Option.isSome_iff_exists.1 (hopened horphans)
    rfl
  | false =>
    rw [horphans, if_neg Bool.false_ne_true] at hcurrent
    rw [← hcurrent, hnone]
    rfl

/-- The chain is lost, the store does not answer to the monitor that takes over, and the chain is
found again when the store does. -/
def takeover : List Event :=
  [.tick ⟨100000000000, false⟩, .answering false, .restart, .resume, .answering true,
    .ingest (.sample 6 105000 [])]

/-- The new monitor does not know of the open row. -/
theorem run_orphans_takeover :
    sample.store.tables.incidents = some .empty ∧ sample.monitor.status.currentIncident = none ∧
      ((sample.run takeover).state.look ⟨106000000000, false⟩).lost = false ∧
      sample.orphans takeover = true ∧
      let after := ((sample.run takeover).state.step (.tick ⟨106000000000, false⟩)).state
      after.monitor.status.currentIncident = none ∧
        ∃ ledger, after.store.tables.incidents = some ledger ∧
          (ledger.rows.filter IncidentRow.isOpen).length =
            if sample.orphans takeover then 1 else 0 :=
  ⟨rfl, rfl, rfl, rfl, run_orphans sample rfl rfl takeover rfl⟩

/-- The chain is lost, the store does not answer for two hours, in which the monitor looks at the
chain once, and the chain is found again when the store does. -/
def longOutage : List Event :=
  [.tick ⟨100000000000, false⟩, .answering false, .tick ⟨7300000000000, false⟩, .answering true,
    .ingest (.sample 6 7305000 [])]

/-- The look that finds the chain leaves the row open. -/
theorem longOutage_leaves_row_open :
    sample.store.tables.incidents = some .empty ∧ sample.monitor.status.currentIncident = none ∧
      (∀ e ∈ longOutage, e.isTick = true ∨ e.isDelivery = true ∨
        ∃ answering, e = .answering answering) ∧
      (sample.run longOutage).state.store.answering = true ∧
      ((sample.run longOutage).state.look ⟨7306000000000, false⟩).lost = false ∧
      ((sample.run longOutage).state.step
          (.tick ⟨7306000000000, false⟩)).state.store.tables.incidents.map
        (fun ledger => ledger.rows.map (·.endTime)) = some [none] := by
  refine ⟨rfl, rfl, ?_, rfl, rfl, rfl⟩
  simp [longOutage, Event.isTick, Event.isDelivery]

end Service

end ChainWatch
