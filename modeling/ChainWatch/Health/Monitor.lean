import ChainWatch.Health.Liveness
import ChainWatch.Outcome
import ChainWatch.Store.Daily
import ChainWatch.Store.Ledger

/-!
# The health monitor

The monitor looks at the chain from time to time and keeps the ledger: while the chain is lost there
is an open incident, and a new one takes its place once it is too old to cover further failures.

* `Monitor.tick` : a look at the chain, with what follows from it.
* `Monitor.raise`, `Monitor.resolve` : the ledger while the chain is lost, and when it is back.
* `Monitor.resume` : takes up the incident that an earlier monitor has left open.
* `Monitor.rollup` : the summaries of the last ninety days.
* `HealthSettings.schedule` : a monitor that is started, ticks once and is stopped.
-/

namespace ChainWatch

/-- The monitor: its settings and what it knew after its last look. -/
structure Monitor where
  settings : HealthSettings
  status : HealthStatus := {}
  deriving DecidableEq, Repr

namespace Monitor

/-- Whether an incident is young enough to cover another failure. -/
def covers (settings : HealthSettings) (incident : Incident) (now : Instant) : Bool :=
  now.since incident.startTime < settings.debounceNanos

/-- Closes an incident that gives way to another. -/
def supersede (s : Store) (incident : Incident) (now : Instant) : Store × Log :=
  match s.closeIncident incident now with
  | .ok (s, true) =>
    (s, [⟨.info, s!"Closed superseded {incident.state.text} incident #{incident.id}"⟩])
  | .ok (s, false) => (s, [])
  | .error error =>
    (s, [⟨.error, s!"Failed to close incident #{incident.id}: {error.message}"⟩])

/-- Opens an incident, if the store lets it. -/
def openIncident (s : Store) (state : HealthState) (report : LivenessReport) (now : Instant) :
    Outcome Store (Option Incident) :=
  match s.insertIncident state (incidentDescription report) [chainService] now with
  | .ok (s, incident) =>
    let reason := report.service.lastError.getD "unknown"
    ⟨s, some incident, [⟨.warn, s!"Opened {state.text} incident #{incident.id}: {reason}"⟩]⟩
  | .error error => ⟨s, none, [⟨.error, s!"Failed to record incident: {error.message}"⟩]⟩

/-- Adopts the open incident of the ledger if it is young enough, and opens a new one otherwise. -/
def adoptOrOpen (settings : HealthSettings) (s : Store) (state : HealthState)
    (report : LivenessReport) (now : Instant) : Outcome Store (Option Incident) :=
  match s.findOpenIncident state with
  | .ok (some found) =>
    if covers settings found now then ⟨s, some found, []⟩
    else
      let (s, closing) := supersede s found now
      let out := openIncident s state report now
      { out with log := closing ++ out.log }
  | .ok none => openIncident s state report now
  -- a ledger that cannot be searched does not keep the failure from being recorded
  | .error error =>
    let out := openIncident s state report now
    { out with
      log := ⟨.error, s!"Failed to look up open incidents: {error.message}"⟩ :: out.log }

/-- Keeps the current incident if it covers the failure; otherwise closes it and sees to another. -/
def raise (settings : HealthSettings) (s : Store) (current : Option Incident)
    (state : HealthState) (report : LivenessReport) (now : Instant) :
    Outcome Store (Option Incident) :=
  match current with
  | none => adoptOrOpen settings s state report now
  | some incident =>
    if incident.state = state ∧ covers settings incident now then ⟨s, some incident, []⟩
    else
      let (s, closing) := supersede s incident now
      let out := adoptOrOpen settings s state report now
      { out with log := closing ++ out.log }

/-- Closes the current incident; it stays if the store does not answer. -/
def resolve (s : Store) (current : Option Incident) (now : Instant) :
    Outcome Store (Option Incident) :=
  match current with
  | none => ⟨s, none, []⟩
  | some incident =>
    match s.closeIncident incident now with
    | .ok (s, _) =>
      let seconds := wholeSeconds (now.since incident.startTime)
      ⟨s, none,
        [⟨.info, s!"Closed {incident.state.text} incident #{incident.id} after {seconds}s"⟩]⟩
    | .error error =>
      ⟨s, some incident,
        [⟨.error, s!"Failed to close incident #{incident.id}: {error.message}"⟩]⟩

/-- Folds the state and the current incident into the summary of the day. -/
def recordDay (s : Store) (status : HealthStatus) (now : Instant) : Store × Log :=
  match s.recordDaily now.date status.state (status.currentIncident.map (·.description)) now with
  | .ok (s, _) => (s, [])
  | .error error =>
    (s, [⟨.error, s!"Failed to update daily health summary: {error.message}"⟩])

/-- The state that a look at the chain results in. -/
def stateOf (report : LivenessReport) : HealthState :=
  if report.service.isReachable then .green else .red

/-- Brings the ledger in line with a look at the chain, and tells the incident that is current. -/
def settle (settings : HealthSettings) (s : Store) (current : Option Incident)
    (report : LivenessReport) (now : Instant) : Outcome Store (Option Incident) :=
  if report.service.isReachable then resolve s current now
  else raise settings s current .red report now

/-- Looks at the chain, and brings the ledger and the summary of the day in line. -/
def tick (m : Monitor) (s : Store) (now : Instant) : Outcome (Monitor × Store) HealthStatus :=
  let (report, probing) := s.probe m.settings now
  let out := settle m.settings s m.status.currentIncident report now
  let status : HealthStatus := {
    state := stateOf report
    details := [(chainService, report.service.isReachable)]
    services := [(chainService, report.service)]
    stats := report.stats
    currentIncident := out.answer }
  let (s, recording) := recordDay out.state status now
  ⟨({ m with status }, s), status, probing ++ out.log ++ recording⟩

/-- Takes up the newest open incident of the ledger. -/
def resume (m : Monitor) (s : Store) : Outcome Monitor (Except StoreError (Option Incident)) :=
  match s.findAnyOpenIncident with
  | .error error => ⟨m, .error error, []⟩
  | .ok none => ⟨m, .ok none, []⟩
  | .ok (some incident) =>
    let status := { m.status with state := incident.state, currentIncident := some incident }
    let what := s!"{incident.state.text} incident #{incident.id}"
    ⟨{ m with status }, .ok (some incident),
      [⟨.info, s!"Resuming open {what} started at {incident.startTime.plain}"⟩]⟩

/-- The number of days that the rollup reaches back. -/
def rollupDays : Nat := 90

/-- The summaries of the last ninety days, the newest first. -/
def rollup (s : Store) (now : Instant) : Except StoreError (List DailySummary) :=
  s.dailySince ⟨now.date.days - rollupDays⟩

end Monitor

/-- What a scheduled monitor does that is stopped after its first tick. -/
def HealthSettings.schedule (settings : HealthSettings) (s : Store) (now : Instant) :
    Outcome Store HealthStatus :=
  let out := (Monitor.mk settings {}).tick s now
  ⟨out.state.2, out.answer,
    ⟨.info, s!"[HEALTH] Monitor started, tick every {settings.tickInterval.text}"⟩
      :: out.log ++ [⟨.info, s!"[HEALTH] State is now {out.answer.state.text}"⟩,
        ⟨.info, "[HEALTH] Monitor stopped"⟩]⟩

end ChainWatch
