import ChainWatch.Version

/-!
# Arguments of the tool

The tool has three commands.  Arguments are read from left to right; the first one that asks for a
text, or that has no place, settles what happens.

* `Command`, `Invocation` : what can be asked for.
* `Invocation.ofArguments` : reads the arguments.
-/

namespace ChainWatch

namespace Tool

/-- What the tool can do to a store. -/
inductive Command
  /-- Creates the missing tables. -/
  | create
  /-- Empties the derived tables. -/
  | reset (withGenesis : Bool)
  /-- Counts the rows. -/
  | status
  deriving DecidableEq, Repr

/-- What the arguments ask for. -/
inductive Invocation
  | run (command : Command)
  /-- A text about the tool. -/
  | tell (lines : List String)
  /-- Nothing that the tool knows. -/
  | misuse
  deriving DecidableEq, Repr

/-! ### Texts about the tool -/

/-- The text about the tool as a whole. -/
def help : List String :=
  ["Subscriber database management CLI",
   "",
   "Usage: subscriber_db <COMMAND>",
   "",
   "Commands:",
   "  create  Create any missing tables",
   "  reset   Drop and recreate the derived tables",
   "  status  Show row counts per table",
   "  help    Print this message or the help of the given subcommand(s)",
   "",
   "Options:",
   "  -h, --help     Print help",
   "  -V, --version  Print version"]

/-- The text about a command. -/
def commandHelp : Command → List String
  | .create =>
    ["Create any missing tables",
     "",
     "Usage: subscriber_db create",
     "",
     "Options:",
     "  -h, --help  Print help"]
  | .reset _ =>
    ["Drop and recreate the derived tables",
     "",
     "Usage: subscriber_db reset [OPTIONS]",
     "",
     "Options:",
     "      --with-genesis  Also drop the stored genesis document",
     "  -h, --help          Print help"]
  | .status =>
    ["Show row counts per table",
     "",
     "Usage: subscriber_db status",
     "",
     "Options:",
     "  -h, --help  Print help"]

/-- The text about the command that tells the others. -/
def helpHelp : List String :=
  ["Print this message or the help of the given subcommand(s)",
   "",
   "Usage: subscriber_db help [COMMAND]...",
   "",
   "Arguments:",
   "  [COMMAND]...  Print help for the subcommand(s)"]

/-- Name and version of the package that the tool belongs to. -/
def versionLine : String := s!"vm-subscriber {programVersion}"

/-! ### Reading -/

/-- The command of a name. -/
def commandOf? : String → Option Command
  | "create" => some .create
  | "reset" => some (.reset false)
  | "status" => some .status
  | _ => none

/-- The first letter of an argument that is a dash with letters. -/
def shortFlag? (argument : String) : Option Char :=
  match argument.toList with
  | '-' :: c :: _ => if c = '-' then none else some c
  | _ => none

/-- Whether an argument asks for help. -/
def asksHelp (argument : String) : Bool :=
  argument == "--help" || shortFlag? argument == some 'h'

/-- Whether an argument asks for the version. -/
def asksVersion (argument : String) : Bool :=
  argument == "--version" || shortFlag? argument == some 'V'

/-- Reads what follows a command. -/
def readCommand : Command → List String → Invocation
  | command, [] => .run command
  | command, argument :: rest =>
    if asksHelp argument then .tell (commandHelp command)
    else if argument == "--" && rest.isEmpty then .run command
    else if command = .reset false ∧ argument = "--with-genesis" then
      readCommand (.reset true) rest
    else .misuse

/-- Reads what follows the request for help. -/
def readHelp : List String → Invocation
  | [] => .tell help
  | ["help"] => .tell helpHelp
  | [name] =>
    match commandOf? name with
    | some command => .tell (commandHelp command)
    | none => .misuse
  | _ => .misuse

/-- Reads the arguments. -/
def Invocation.ofArguments : List String → Invocation
  | [] => .misuse
  | argument :: rest =>
    if asksHelp argument then .tell help
    else if asksVersion argument then .tell [versionLine]
    else if argument == "help" then readHelp rest
    else
      match commandOf? argument with
      | some command => readCommand command rest
      | none => .misuse

end Tool

end ChainWatch
