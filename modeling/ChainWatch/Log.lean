/-!
# Log lines

Operations return what they have to report as a list of lines.

* `LogLine` : a level and a text.
-/

namespace ChainWatch

/-- How urgent a line is. -/
inductive LogLevel
  | debug
  | info
  | warn
  | error
  deriving DecidableEq, Repr

/-- The name of a level. -/
def LogLevel.name : LogLevel → String
  | .debug => "DEBUG"
  | .info => "INFO"
  | .warn => "WARN"
  | .error => "ERROR"

/-- A line of the log. -/
structure LogLine where
  level : LogLevel
  text : String
  deriving DecidableEq, Repr

/-- Lines in the order in which they were logged. -/
abbrev Log := List LogLine

end ChainWatch
