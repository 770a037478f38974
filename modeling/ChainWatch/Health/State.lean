import ChainWatch.Json.Reader
import ChainWatch.Time.Instant

/-!
# Health

* `HealthState` : green, yellow or red, from best to worst.
* `Incident` : an interval of bad health; open until it has an end.
* `DailySummary` : the worst state of a day and the incident it ended with.
* `HealthStatus` : what the monitor knows after its last look at the chain.
-/

namespace ChainWatch

/-- The health of the chain, from best to worst. -/
inductive HealthState
  | green
  | yellow
  | red
  deriving DecidableEq, Repr

namespace HealthState

/-- The name of a state. -/
def text : HealthState → String
  | green => "green"
  | yellow => "yellow"
  | red => "red"

/-- The place of a state between best and worst. -/
def severity : HealthState → Nat
  | green => 0
  | yellow => 1
  | red => 2

/-- The worse of two states. -/
def worst (a b : HealthState) : HealthState := if a.severity < b.severity then b else a

/-- The state of a name; other texts are quoted in the refusal. -/
def ofText (name : String) : Except String HealthState :=
  match name with
  | "green" => .ok green
  | "yellow" => .ok yellow
  | "red" => .ok red
  | other => .error s!"unknown health state '{other}'"

@[simp]
theorem ofText_text (s : HealthState) : ofText s.text = .ok s := by
  cases s <;> rfl

end HealthState

/-- An incident of the ledger. -/
structure Incident where
  id : Int
  state : HealthState
  description : String
  services : List String
  startTime : Instant
  endTime : Option Instant
  /-- Whole seconds from start to end, once the incident is closed. -/
  duration : Option Int
  timestamp : Instant
  deriving DecidableEq, Repr

/-- Whether an incident goes on. -/
def Incident.isOpen (i : Incident) : Bool := i.endTime.isNone

/-- The worst state of a day, and the incidents that belong to it. -/
structure DailySummary where
  date : Date
  state : HealthState
  incidents : List String
  lastUpdated : Instant
  deriving DecidableEq, Repr

/-- Whether a service can be reached. -/
structure ServiceStatus where
  isReachable : Bool := false
  lastError : Option String := none
  lastChecked : Option Instant := none
  lastSuccessful : Option Instant := none
  deriving DecidableEq, Repr

/-- What the stored blocks tell about the chain. -/
structure ChainStats where
  lastBlockHeight : Int := 0
  lastBlockHash : String := ""
  lastBlockTime : Option Instant := none
  consensusActive : Bool := false
  /-- Blocks within the trailing window. -/
  recentBlocks : Nat := 0
  /-- Transactions of these blocks. -/
  recentTransactions : Nat := 0
  /-- Mean seconds between consecutive blocks of the window. -/
  avgBlockTime : Double := Double.zero
  deriving DecidableEq, Repr

/-- What the monitor knows after its last look. -/
structure HealthStatus where
  state : HealthState := .green
  /-- Whether each service was reached; nothing before the first look. -/
  details : List (String × Bool) := []
  services : List (String × ServiceStatus) := []
  stats : ChainStats := {}
  currentIncident : Option Incident := none
  deriving DecidableEq, Repr

/-! ### JSON forms -/

/-- An instant or null. -/
def Json.optInstant : Option Instant → Json
  | some t => .str t.zulu
  | none => .null

/-- An incident as an object. -/
def Incident.toJson (i : Incident) : Json :=
  .obj [("id", .int i.id), ("state", .str i.state.text), ("description", .str i.description),
    ("service_names", .strings i.services), ("start_time", .str i.startTime.zulu),
    ("end_time", .optInstant i.endTime), ("duration", .optInt i.duration),
    ("timestamp", .str i.timestamp.zulu)]

/-- A daily summary as an object. -/
def DailySummary.toJson (d : DailySummary) : Json :=
  .obj [("date", .str d.date.text), ("state", .str d.state.text),
    ("incidents", .strings d.incidents), ("last_updated", .str d.lastUpdated.zulu)]

/-- The status of a service as an object; an error is a member only if there is one. -/
def ServiceStatus.toJson (s : ServiceStatus) : Json :=
  .obj ([("is_reachable", .bool s.isReachable)]
    ++ (s.lastError.map fun e => ("last_error", Json.str e)).toList
    ++ [("last_checked", .optInstant s.lastChecked),
      ("last_successful", .optInstant s.lastSuccessful)])

/-- The statistics as an object. -/
def ChainStats.toJson (s : ChainStats) : Json :=
  .obj [("last_block_height", .int s.lastBlockHeight), ("last_block_hash", .str s.lastBlockHash),
    ("last_block_time", .optInstant s.lastBlockTime),
    ("consensus_active", .bool s.consensusActive), ("recent_block_count", .nat s.recentBlocks),
    ("recent_tx_count", .nat s.recentTransactions),
    ("avg_block_time_secs", .float s.avgBlockTime)]

/-- A status as an object. -/
def HealthStatus.toJson (s : HealthStatus) : Json :=
  .obj [("state", .str s.state.text),
    ("details", .obj (s.details.map fun (name, reached) => (name, .bool reached))),
    ("service_statuses", .obj (s.services.map fun (name, status) => (name, status.toJson))),
    ("blockchain_stats", s.stats.toJson),
    ("current_incident", (s.currentIncident.map Incident.toJson).getD .null)]

end ChainWatch
