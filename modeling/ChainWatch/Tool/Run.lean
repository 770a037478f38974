import ChainWatch.Store.Connection
import ChainWatch.Store.Intervention
import ChainWatch.Store.Schema
import ChainWatch.Tool.Arguments

/-!
# What the tool does

* `Tool.Result` : exit status and output.
* `Tool.execute`, `Tool.run` : a command, and a list of arguments.
* `Tool.start` : the same for the store that the configuration names.
-/

namespace ChainWatch

namespace Tool

/-- What the tool leaves its caller with: zero for success, one for a failing store and two for
arguments without meaning. -/
structure Result where
  exit : Nat
  stdout : List String := []
  deriving DecidableEq, Repr

/-- A text filled up with blanks behind it. -/
def padRight (width : Nat) (text : String) : String :=
  text ++ String.ofList (List.replicate (width - text.length) ' ')

/-- A text filled up with blanks before it. -/
def padLeft (width : Nat) (text : String) : String :=
  String.ofList (List.replicate (width - text.length) ' ') ++ text

/-- A table and the number of its rows. -/
def countLine (table : TableName) (rows : Nat) : String :=
  padRight 24 table.text ++ " " ++ padLeft 12 (toString rows)

/-- The result of an operation without output. -/
def Result.ofOutcome (out : Outcome Store (Except StoreError Unit)) : Outcome Store Result :=
  match out.answer with
  | .ok _ => ⟨out.state, ⟨0, []⟩, out.log⟩
  | .error _ => ⟨out.state, ⟨1, []⟩, out.log⟩

/-- Creates all tables and empties the derived ones. -/
def resetDerived (s : Store) : Outcome Store (Except StoreError Unit) :=
  let created := s.createSchema
  match created.answer with
  | .ok _ =>
    let out := created.state.resetDerived
    { out with log := created.log ++ out.log }
  | .error _ => created

/-- Carries out a command. -/
def execute (s : Store) : Command → Outcome Store Result
  | .create => Result.ofOutcome s.createSchema
  | .reset true => Result.ofOutcome s.resetForStartup
  | .reset false => Result.ofOutcome (resetDerived s)
  | .status =>
    match s.counts with
    | .ok counts => ⟨s, ⟨0, counts.map fun (table, rows) => countLine table rows⟩, []⟩
    | .error _ => ⟨s, ⟨1, []⟩, []⟩

/-- Does what a list of arguments asks for.  The tool has a connection of its own, so it is of no
concern to it whether the store answers anyone else. -/
def run (s : Store) (arguments : List String) : Outcome Store Result :=
  match Invocation.ofArguments arguments with
  | .run command =>
    let out := execute (s.setAnswering true) command
    { out with state := out.state.setAnswering s.answering }
  | .tell lines => ⟨s, ⟨0, lines⟩, []⟩
  | .misuse => ⟨s, ⟨2, []⟩, []⟩

/-- Does what a list of arguments asks for to the store that the configuration names.  Arguments
without meaning are found before the store is opened. -/
def start (settings : Settings) (arguments : List String) : Outcome Store Result :=
  let opened := openStore settings.database
  match Invocation.ofArguments arguments with
  | .run command =>
    match opened.answer with
    | .ok _ =>
      let out := execute opened.state command
      { out with log := opened.log ++ out.log }
    | .error _ => ⟨opened.state, ⟨1, []⟩, opened.log⟩
  | .tell lines => ⟨opened.state, ⟨0, lines⟩, []⟩
  | .misuse => ⟨opened.state, ⟨2, []⟩, []⟩

end Tool

end ChainWatch
