import ChainWatch.Tool.Run

/-!
# The command line

Reads the environment, does what the arguments ask for, and prints output and log.

* `main` : the program.
-/

namespace ChainWatch

/-- The variables of the environment that the configuration knows. -/
def readEnvironment : IO Environment := do
  let values ← Settings.variableNames.mapM fun name => return (name, ← IO.getEnv name)
  return fun name => (values.lookup name).join

/-- Runs the tool, with the log on the error output. -/
def runTool (arguments : List String) : IO UInt32 := do
  let out := Tool.start (.ofEnvironment (← readEnvironment)) arguments
  for line in out.log do
    IO.eprintln s!"{line.level.name} {line.text}"
  for line in out.answer.stdout do
    IO.println line
  return UInt32.ofNat out.answer.exit

end ChainWatch

/-- The program. -/
def main (arguments : List String) : IO UInt32 := ChainWatch.runTool arguments
