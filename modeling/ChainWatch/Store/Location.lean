import ChainWatch.Numeral.Word
import ChainWatch.Text.Quoted
import ChainWatch.Url.Form
import ChainWatch.Url.Parser

/-!
# Locations of stores

An address leads to a store in memory, to one in a file, or to one that a server keeps.  Behind a
question mark stand parameters, which tell how to open it.  There are no files to be found and no
servers that answer, but a file may be created.

* `OpenFault` : why an address does not open, with its wording.
* `FileLocation` : the address of a file, and how it is to be opened.
* `checkLocation` : whether an address opens.
-/

namespace ChainWatch

/-- Why an address does not open. -/
inductive OpenFault
  /-- Nothing is known that could open it. -/
  | noDriver (url : String)
  /-- A parameter does not have this value. -/
  | unknownValue (parameter value : String)
  /-- There is no such parameter. -/
  | unknownParameter (parameter : String)
  /-- A parameter of a server cannot be read. -/
  | unreadableParameter (reason : String)
  /-- A name holds the character that ends names. -/
  | nulInName
  /-- Files are not kept in this way. -/
  | noFileSystem (name : String)
  /-- Files are not looked for on this host. -/
  | foreignHost (name : String)
  /-- The file is not there. -/
  | noFile
  /-- No server answers. -/
  | noServer
  deriving DecidableEq, Repr

namespace OpenFault

/-- What is wrong with a configuration. -/
def configuration (reason : String) : String := "error with configuration: " ++ reason

/-- A parameter without such a value. -/
def noValue (parameter value : String) : String :=
  configuration s!"unknown value {Quoted.text value} for `{parameter}`"

/-- A refusal by the store itself, which has a code. -/
def refusal (code : Nat) (reason : String) : String :=
  s!"error returned from database: (code: {code}) {reason}"

/-- The wording of an address that does not open. -/
def message : OpenFault → String
  | .noDriver url => s!"The connection string '{url}' has no supporting driver."
  | .unknownValue parameter value => noValue parameter value
  | .unknownParameter parameter =>
    configuration s!"unknown query parameter `{parameter}` while parsing connection URL"
  | .unreadableParameter reason => configuration reason
  | .nulInName =>
    "error communicating with database: filename passed to SQLite must not contain nul bytes"
  | .noFileSystem name => refusal 1 s!"no such vfs: {name}"
  | .foreignHost name => refusal 1 s!"invalid uri authority: {name}"
  | .noFile => refusal 14 "unable to open database file"
  | .noServer => "pool timed out while waiting for an open connection"

end OpenFault

/-! ### Files -/

/-- Where a file is, and how it is to be opened. -/
structure FileLocation where
  name : List Char
  inMemory : Bool := false
  readOnly : Bool := false
  /-- Whether the file is created if it is not there. -/
  create : Bool := false
  /-- The way in which files are kept, if it is not the usual one. -/
  fileSystem : Option String := none
  deriving DecidableEq, Repr

/-- The name of the store in memory. -/
def memoryName : List Char := ":memory:".toList

/-- The way in which files are kept in memory. -/
def memoryFileSystem : String := "memdb"

/-- The ways in which files can be kept. -/
def fileSystems : List String :=
  ["unix", "unix-none", "unix-dotfile", "unix-excl", memoryFileSystem]

/-- An address without the marks in front that end with two slashes. -/
def dropSlashedMarks : List Char → List Char
  | 's' :: 'q' :: 'l' :: 'i' :: 't' :: 'e' :: ':' :: '/' :: '/' :: rest => dropSlashedMarks rest
  | chars => chars

/-- An address without the marks in front. -/
def dropPlainMarks : List Char → List Char
  | 's' :: 'q' :: 'l' :: 'i' :: 't' :: 'e' :: ':' :: rest => dropPlainMarks rest
  | chars => chars

namespace FileLocation

/-- Takes up a parameter of an address. -/
def assign (f : FileLocation) (parameter : String × String) : Except OpenFault FileLocation :=
  let (name, value) := parameter
  match name, value with
  | "mode", "ro" => .ok { f with readOnly := true }
  | "mode", "rw" => .ok f
  | "mode", "rwc" => .ok { f with create := true }
  | "mode", "memory" => .ok { f with inMemory := true }
  | "cache", "private" | "cache", "shared" => .ok f
  | "immutable", "true" | "immutable", "1" | "immutable", "false" | "immutable", "0" => .ok f
  | "vfs", _ => .ok { f with fileSystem := some value }
  | "mode", _ | "cache", _ | "immutable", _ => .error (.unknownValue name value)
  | _, _ => .error (.unknownParameter name)

/-- Reads an address: a name with groups of a percent sign and two digits, and parameters. -/
def ofAddress (address : List Char) : Except OpenFault FileLocation :=
  let rest := dropPlainMarks (dropSlashedMarks address)
  let name := rest.takeWhile (· != '?')
  let decoded := (Utf8.decode (Percent.decode (Utf8.encodeChars name))).map fun c =>
    c.getD (Char.ofNat 0xFFFD)
  let plain : FileLocation :=
    if name = memoryName then { name, inMemory := true } else { name := decoded }
  (Form.parameters ((rest.dropWhile (· != '?')).drop 1)).foldlM assign plain

/-- The path that a name stands for: one that starts with `file:` is a URL. -/
def path (f : FileLocation) : Except OpenFault (List Char) :=
  let cut (chars : List Char) : List Char := chars.takeWhile fun c => c != '?' && c != '#'
  match f.name with
  | 'f' :: 'i' :: 'l' :: 'e' :: ':' :: '/' :: '/' :: rest =>
    let host := rest.takeWhile (· != '/')
    if host.isEmpty ∨ host = "localhost".toList then .ok (cut (rest.drop host.length))
    else .error (.foreignHost (String.ofList host))
  | 'f' :: 'i' :: 'l' :: 'e' :: ':' :: rest => .ok (cut rest)
  | name => .ok name

/-- Whether a file can be created at a path: its directory has to be there. -/
def canCreate (path : List Char) : Bool :=
  !path.contains '/' ||
    match path with
    | '/' :: 't' :: 'm' :: 'p' :: '/' :: name => !name.isEmpty && !name.contains '/'
    | _ => false

/-- Whether a location opens. -/
def check (f : FileLocation) : Except OpenFault Unit := do
  if f.name.contains '\x00' then throw .nulInName
  let path ← f.path
  match f.fileSystem with
  | some name => if !fileSystems.contains name then throw (.noFileSystem name)
  | none => pure ()
  -- a store without a name is kept for as long as it is open
  if f.inMemory ∨ path.isEmpty ∨ path = memoryName ∨ f.fileSystem = some memoryFileSystem then
    return ()
  if f.create ∧ !f.readOnly ∧ canCreate path then return ()
  throw .noFile

end FileLocation

/-! ### Servers -/

/-- Whether a parameter of a server can be read. -/
def checkServerParameter (parameter : String × String) : Except OpenFault Unit :=
  let number (limit : Nat) : Except OpenFault Unit :=
    match readUnsigned limit parameter.2 with
    | .ok _ => .ok ()
    | .error fault => .error (.unreadableParameter fault.message)
  match parameter.1 with
  | "sslmode" | "ssl-mode" =>
    let value := String.ofList (parameter.2.toList.map Char.toLower)
    if ["disable", "allow", "prefer", "require", "verify-ca", "verify-full"].contains value then
      .ok ()
    else .error (.unreadableParameter (OpenFault.noValue "ssl_mode" parameter.2))
  | "statement-cache-capacity" => number maxUnsigned
  | "port" => number 65535
  | _ => .ok ()

/-- Whether an address opens. -/
def checkLocation (url : String) : Except OpenFault Unit :=
  match Url.parse? url with
  | none => .error (.noDriver url)
  | some u =>
    match String.ofList u.scheme with
    | "sqlite" => do (← FileLocation.ofAddress url.toList).check
    | "postgres" | "postgresql" => do
      (Form.parameters (u.query.getD [])).forM checkServerParameter
      throw .noServer
    | _ => .error (.noDriver url)

end ChainWatch
