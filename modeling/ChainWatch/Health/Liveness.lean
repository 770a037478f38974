import ChainWatch.Health.Settings
import ChainWatch.Health.State
import ChainWatch.Log
import ChainWatch.Store.Query

/-!
# Liveness

The chain counts as reachable as long as the newest stored block is not too old.  A block from the
future is fresh.

* `isFresh` : the judgement.
* `LivenessReport`, `Store.probe` : a look at the chain.
* `incidentDescription` : the text of an incident.
-/

namespace ChainWatch

/-- The service that incidents are recorded for. -/
def chainService : String := "blockchain"

/-- What a look at the chain has shown. -/
structure LivenessReport where
  service : ServiceStatus
  stats : ChainStats := {}
  /-- The age of the newest block in nanoseconds. -/
  age : Option Int := none
  deriving DecidableEq, Repr

/-- Whether an age in nanoseconds is at most a span; a negative one always is. -/
def isFresh (staleAfter : Span) (age : Int) : Bool := age ≤ staleAfter.nanos

/-- The seconds between two blocks, to the millisecond. -/
def gapSeconds (earlier later : BlockRow) : Double :=
  (Double.ofInt (wholeMillis (later.timestamp.since earlier.timestamp))).div (Double.ofNat 1000)

/-- The seconds between every two consecutive blocks. -/
def gaps : List BlockRow → List Double
  | earlier :: later :: rest => gapSeconds earlier later :: gaps (later :: rest)
  | _ => []

/-- The mean time in seconds between consecutive blocks, which are listed by ascending height; zero
for fewer than two. -/
def avgBlockTime (blocks : List BlockRow) : Double :=
  match gaps blocks with
  | [] => Double.zero
  | gaps => (gaps.foldl Double.add Double.zero).div (Double.ofNat gaps.length)

/-- Fills in what the blocks of the trailing window tell; what cannot be read is left out.  The
window has to begin within the calendar, between `Instant.minNanos` and `Instant.maxNanos`.  A look
for which it does not breaks off here, before anything is written, and is not modelled. -/
def Store.fillWindow (s : Store) (settings : HealthSettings) (now : Instant)
    (stats : ChainStats) : ChainStats × Log :=
  match s.blocksSince (now.backBy settings.windowNanos) with
  | .error error => (stats, [⟨.warn, s!"Error counting recent blocks: {error.message}"⟩])
  | .ok recent =>
    let stats := { stats with
      recentBlocks := recent.length, avgBlockTime := avgBlockTime recent.reverse }
    match s.countTransactions (recent.map (·.blockHash)) with
    | .error error =>
      (stats, [⟨.warn, s!"Error counting recent transactions: {error.message}"⟩])
    | .ok count => ({ stats with recentTransactions := count }, [])

/-- The report of a look that has not found a block. -/
def LivenessReport.unanswered (now : Instant) (reason : String) : LivenessReport :=
  { service :=
      { lastChecked := some now, lastError := some s!"Failed to query last block: {reason}" } }

/-- What the age of the newest block says about the service. -/
def ServiceStatus.ofAge (staleAfter : Span) (now : Instant) (age : Int) : ServiceStatus :=
  if isFresh staleAfter age then
    { isReachable := true, lastChecked := some now, lastSuccessful := some now }
  else
    { lastChecked := some now
      lastError :=
        some s!"Connection to chain lost - no new blocks in {wholeSeconds age}s" }

/-- Looks at the chain. -/
def Store.probe (s : Store) (settings : HealthSettings) (now : Instant) :
    LivenessReport × Log :=
  match s.latestBlock with
  | .error error => (.unanswered now error.message, [])
  | .ok none => (.unanswered now "no blocks stored", [])
  | .ok (some latest) =>
    let age := now.since latest.timestamp
    let (stats, log) := s.fillWindow settings now {
      lastBlockHeight := latest.height, lastBlockHash := latest.blockHash
      lastBlockTime := some latest.timestamp
      consensusActive := isFresh settings.staleAfter age }
    ({ service := .ofAge settings.staleAfter now age, stats, age := some age }, log)

/-- The text of an incident. -/
def incidentDescription (r : LivenessReport) : String :=
  let error := r.service.lastError.getD "unknown"
  let time := (r.stats.lastBlockTime.map Instant.offset).getD "never"
  let age := match r.age with
    | some age => s!"- Block Age: {wholeSeconds age}s\n"
    | none => ""
  s!"CRITICAL: Chain unresponsive\n- Error: {error}\n" ++
    s!"- Last Block Height: {r.stats.lastBlockHeight}\n- Last Block Time: {time}\n{age}"

end ChainWatch
