import ChainWatch.Health.Settings
import ChainWatch.Numeral.Word
import ChainWatch.Text.Percent

/-!
# Configuration

The configuration comes from variables of the environment.  A variable that is not set, or whose
number cannot be read, leaves a default in force.

* `Environment` : the variables.
* `Settings.ofEnvironment` : the configuration.
* `databaseUrl` : the address of the database, put together from its parts.
-/

namespace ChainWatch

/-- The values of the variables that are set. -/
abbrev Environment := String → Option String

namespace Environment

/-- The text of a variable. -/
def text (env : Environment) (name standard : String) : String := (env name).getD standard

/-- The number of a variable, of at most `limit`. -/
def number (env : Environment) (name : String) (limit standard : Nat) : Nat :=
  match (env name).map (readUnsigned limit) with
  | some (.ok n) => n
  | _ => standard

/-- Whether a variable says yes: it is the word `true` in letters of either case. -/
def flag (env : Environment) (name : String) : Bool :=
  match env name with
  | some value => value.toList.map Char.toLower == ['t', 'r', 'u', 'e']
  | none => false

/-- The whole seconds of a variable. -/
def seconds (env : Environment) (name : String) (standard : Span) : Span :=
  .seconds (env.number name maxUnsigned standard.toSeconds)

end Environment

/-- How the database is used. -/
structure DatabaseSettings where
  url : String
  maxConnections : Nat
  minConnections : Nat
  /-- Whether derived tables and genesis document are dropped at the start. -/
  resetOnStart : Bool
  /-- How long a store access may take. -/
  storeTimeout : Span
  deriving DecidableEq, Repr

/-- Where the service listens. -/
structure ServerSettings where
  host : String
  port : Nat
  deriving DecidableEq, Repr

/-- The configuration. -/
structure Settings where
  database : DatabaseSettings
  server : ServerSettings
  health : HealthSettings
  deriving DecidableEq, Repr

/-- The address that the service listens at. -/
def ServerSettings.address (s : ServerSettings) : String := s!"{s.host}:{s.port}"

/-- The address of the database, put together from its parts; the password is encoded. -/
def databaseUrl (env : Environment) : String :=
  let user := env.text "DB_USER" "postgres"
  let password := Percent.escape (env.text "DB_PASSWORD" "postgres")
  let host := env.text "DB_HOST" "localhost"
  let port := env.text "DB_PORT" "5432"
  let name := env.text "DB_NAME" "nuklaivm"
  let mode := env.text "DB_SSL_MODE" "disable"
  s!"postgres://{user}:{password}@{host}:{port}/{name}?sslmode={mode}"

/-- The largest unsigned 32-bit number. -/
def maxPool : Nat := 0xFFFFFFFF

/-- The largest port. -/
def maxPort : Nat := 0xFFFF

namespace Settings

/-- The names of the variables. -/
def variableNames : List String :=
  ["DATABASE_URL", "DB_USER", "DB_PASSWORD", "DB_HOST", "DB_PORT", "DB_NAME", "DB_SSL_MODE",
   "DB_POOL_MAX", "DB_POOL_MIN", "DB_RESET", "STORE_TIMEOUT_SECS", "SERVER_HOST", "SERVER_PORT",
   "HEALTH_TICK_INTERVAL_SECS", "HEALTH_STALE_BLOCK_SECS", "HEALTH_DEBOUNCE_SECS"]

/-- How the database is used. -/
def databaseOf (env : Environment) : DatabaseSettings :=
  { url := env.text "DATABASE_URL" (databaseUrl env)
    maxConnections := env.number "DB_POOL_MAX" maxPool 25
    minConnections := env.number "DB_POOL_MIN" maxPool 2
    resetOnStart := env.flag "DB_RESET"
    storeTimeout := env.seconds "STORE_TIMEOUT_SECS" (.seconds 5) }

/-- Where the service listens. -/
def serverOf (env : Environment) : ServerSettings :=
  { host := env.text "SERVER_HOST" "0.0.0.0", port := env.number "SERVER_PORT" maxPort 8080 }

/-- How the monitor is set. -/
def healthOf (env : Environment) : HealthSettings :=
  let standard : HealthSettings := {}
  { tickInterval := env.seconds "HEALTH_TICK_INTERVAL_SECS" standard.tickInterval
    staleAfter := env.seconds "HEALTH_STALE_BLOCK_SECS" standard.staleAfter
    debounce := env.seconds "HEALTH_DEBOUNCE_SECS" standard.debounce
    statsWindow := standard.statsWindow }

/-- The configuration that the variables give. -/
def ofEnvironment (env : Environment) : Settings :=
  ⟨databaseOf env, serverOf env, healthOf env⟩

end Settings

end ChainWatch
