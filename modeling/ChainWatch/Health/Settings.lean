import ChainWatch.Time.Span

/-!
# Settings of the health monitor

* `HealthSettings` : the four lengths of time, with their defaults.
-/

namespace ChainWatch

/-- The lengths of time that the health monitor goes by. -/
structure HealthSettings where
  /-- The time from one look at the chain to the next. -/
  tickInterval : Span := .seconds 6
  /-- The age of the newest block from which on the chain counts as lost. -/
  staleAfter : Span := .seconds 12
  /-- How long an open incident covers further failures of the same state. -/
  debounce : Span := .seconds 3600
  /-- The trailing window of the statistics. -/
  statsWindow : Span := .seconds 60
  deriving DecidableEq, Repr

namespace HealthSettings

/-- The debounce as a difference of instants; one too long for that stands for an hour. -/
def debounceNanos (h : HealthSettings) : Int :=
  h.debounce.signed?.getD (Span.seconds 3600).nanos

/-- The window as a difference of instants; one too long for that stands for a minute. -/
def windowNanos (h : HealthSettings) : Int :=
  h.statsWindow.signed?.getD (Span.seconds 60).nanos

end HealthSettings

end ChainWatch
