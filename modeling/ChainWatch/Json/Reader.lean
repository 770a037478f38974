import ChainWatch.Json.Printer
import ChainWatch.Json.Raw
import ChainWatch.Text.Quoted

/-!
# Reading JSON

A reader takes the tree of a text and the number of nesting levels still allowed, and gives a value
or the first fault from the left.

* `ReadFault` : what can be wrong, with its wording.
* `Reader` : the readers of numbers, texts, lists and whole values.
* `RecordReader` : records, written as objects or as lists of their fields.
* `Json.parse` : the value of a text.
-/

namespace ChainWatch

/-- What a reader found, as far as messages tell. -/
inductive Found
  | null
  | bool (value : Bool)
  | int (value : Int)
  | float (value : Double)
  | text (value : String)
  | list
  | record
  deriving DecidableEq, Repr

/-- The wording of what was found. -/
def Found.wording : Found → String
  | .null => "null"
  | .bool b => s!"boolean `{b}`"
  | .int n => s!"integer `{n}`"
  | .float x => s!"floating point `{x.text}`"
  | .text s => "string " ++ Quoted.text s
  | .list => "sequence"
  | .record => "map"

/-- What can be wrong with a text that should hold a value. -/
inductive ReadFault
  /-- The text is no JSON, or holds a string or a number that cannot be represented. -/
  | notJson
  /-- Values are nested too deeply. -/
  | tooDeep
  | missingField (name : String)
  | duplicateField (name : String)
  /-- The value is of another kind. -/
  | wrongKind (found : Found) (wanted : String)
  /-- The kind is right and the value is not. -/
  | wrongValue (found : Found) (wanted : String)
  /-- A list of fields ends too early. -/
  | wrongLength (length : Nat) (wanted : String)
  /-- A text should hold hexadecimal digits and does not. -/
  | badHex (fault : Hex.Fault)
  deriving DecidableEq, Repr

/-- The wording of an obstacle in hexadecimal text. -/
def Hex.Fault.message : Hex.Fault → String
  | .oddLength => "Odd number of digits"
  | .badDigit byte position =>
    s!"Invalid character {Quoted.char (Char.ofNat byte.toNat)} at position {position}"

/-- The wording of a fault. -/
def ReadFault.message : ReadFault → String
  | .notJson => "invalid JSON"
  | .tooDeep => "recursion limit exceeded"
  | .missingField name => s!"missing field `{name}`"
  | .duplicateField name => s!"duplicate field `{name}`"
  | .wrongKind found wanted => s!"invalid type: {found.wording}, expected {wanted}"
  | .wrongValue found wanted => s!"invalid value: {found.wording}, expected {wanted}"
  | .wrongLength length wanted => s!"invalid length {length}, expected {wanted}"
  | .badHex fault => fault.message

/-- A reader of trees, given the number of nesting levels still allowed. -/
abbrev Reader (α : Type) := Nat → Raw → Except ReadFault α

/-- Documents may nest this deep. -/
def maxDepth : Nat := 127

namespace Raw

/-- What stands at a place where another kind of value is wanted. -/
def found : Raw → Except ReadFault Found
  | .null => .ok .null
  | .bool b => .ok (.bool b)
  | .number (some (.int n)) => .ok (.int n)
  | .number (some (.float x)) => .ok (.float x)
  | .text (some s) => .ok (.text s)
  | .list _ => .ok .list
  | .record _ => .ok .record
  | _ => .error .notJson

/-- The fault of standing where another kind of value is wanted. -/
def mismatch {α : Type} (wanted : String) (tree : Raw) : Except ReadFault α :=
  tree.found.bind fun found => .error (.wrongKind found wanted)

mutual

/-- The value of a tree. -/
def toJson : Nat → Raw → Except ReadFault Json
  | _, .null => .ok .null
  | _, .bool b => .ok (.bool b)
  | _, .number (some value) => .ok value
  | _, .text (some s) => .ok (.str s)
  | 0, .list _ => .error .tooDeep
  | depth + 1, .list items => (itemsToJson depth items).map .arr
  | 0, .record _ => .error .tooDeep
  | depth + 1, .record members => (membersToJson depth [] members).map .obj
  | _, _ => .error .notJson

/-- The values of a list of trees. -/
def itemsToJson (depth : Nat) : List Raw → Except ReadFault (List Json)
  | [] => .ok []
  | item :: items => do
    let value ← item.toJson depth
    let values ← itemsToJson depth items
    return value :: values

/-- The members read so far and those of a list of trees. -/
def membersToJson (depth : Nat) (done : Members) :
    List (Option String × Raw) → Except ReadFault Members
  | [] => .ok done
  | (none, _) :: _ => .error .notJson
  | (some name, tree) :: members => do
    let value ← tree.toJson depth
    -- of several members of one name the last one counts
    membersToJson depth (done.insert name value) members

end

end Raw

namespace Reader

/-- Any value. -/
def any : Reader Json := Raw.toJson

/-- A natural number of at most `limit`. -/
def natural (limit : Nat) (wanted : String) : Reader Nat
  | _, .number (some (.int n)) =>
    if 0 ≤ n ∧ n ≤ limit then .ok n.toNat else .error (.wrongValue (.int n) wanted)
  | _, tree => tree.mismatch wanted

/-- An unsigned 64-bit integer. -/
def unsigned : Reader Nat := natural maxUnsigned "u64"

/-- An integer that fits a byte. -/
def byte : Reader Nat := natural 255 "u8"

/-- A signed 64-bit integer. -/
def signed : Reader Int
  | _, .number (some (.int n)) =>
    if n ≤ maxSigned then .ok n else .error (.wrongValue (.int n) "i64")
  | _, tree => tree.mismatch "i64"

/-- A text. -/
def text : Reader String
  | _, .text (some s) => .ok s
  | _, tree => tree.mismatch "a string"

/-- A truth value. -/
def boolean : Reader Bool
  | _, .bool b => .ok b
  | _, tree => tree.mismatch "a boolean"

/-- A list of values. -/
def list {α : Type} (item : Reader α) : Reader (List α)
  | 0, .list _ => .error .tooDeep
  | depth + 1, .list items => items.mapM (item depth)
  | _, tree => tree.mismatch "a sequence"

end Reader

/-- How a record is read: a draft collects the fields that are there, and is completed when the
record ends. -/
structure RecordReader (σ α : Type) where
  /-- The name of the record in messages. -/
  name : String
  /-- The names of the fields in their order. -/
  fields : List String
  /-- How many of the first fields have no default. -/
  required : Nat
  /-- The draft before any field is read. -/
  blank : σ
  /-- Reads a field into the draft. -/
  assign : Nat → σ → String → Raw → Except ReadFault σ
  /-- Completes the draft, or names the first field that is missing. -/
  finish : σ → Except ReadFault α

namespace RecordReader

variable {σ α : Type}

/-- What messages call the record. -/
def wanted (r : RecordReader σ α) : String := s!"struct {r.name}"

/-- Reads a field that may be given once. -/
def once {β : Type} (name : String) (slot : Option β) (read : Reader β) (depth : Nat)
    (tree : Raw) : Except ReadFault (Option β) :=
  match slot with
  | some _ => .error (.duplicateField name)
  | none => (read depth tree).map some

/-- The value of a field that has no default. -/
def need {β : Type} (name : String) : Option β → Except ReadFault β
  | some value => .ok value
  | none => .error (.missingField name)

/-- Reads members from left to right; those that the record does not know have to be JSON and are
passed over. -/
def readMembers (r : RecordReader σ α) (depth : Nat) :
    σ → List (Option String × Raw) → Except ReadFault σ
  | draft, [] => .ok draft
  | _, (none, _) :: _ => .error .notJson
  | draft, (some name, tree) :: rest =>
    if r.fields.contains name then do
      r.readMembers depth (← r.assign depth draft name tree) rest
    else if tree.isSound then r.readMembers depth draft rest
    else .error .notJson

/-- Reads items as the values of the fields in their order; `count` of them are read already. -/
def readItems (r : RecordReader σ α) (depth : Nat) :
    Nat → σ → List String → List Raw → Except ReadFault σ
  | _, draft, [], [] => .ok draft
  | _, _, [], _ :: _ => .error .notJson
  | count, draft, _ :: _, [] =>
    if r.required ≤ count then .ok draft
    else .error (.wrongLength count s!"{r.wanted} with {r.fields.length} elements")
  | count, draft, name :: names, tree :: rest => do
    r.readItems depth (count + 1) (← r.assign depth draft name tree) names rest

/-- The reader of the record. -/
def reader (r : RecordReader σ α) : Reader α
  | 0, .list _ | 0, .record _ => .error .tooDeep
  | depth + 1, .record members => do r.finish (← r.readMembers depth r.blank members)
  | depth + 1, .list items => do r.finish (← r.readItems depth 0 r.blank r.fields items)
  | _, tree => tree.mismatch r.wanted

end RecordReader

namespace Reader

/-- Reads a whole text in which values nest at most `depth` levels. -/
def run {α : Type} (read : Reader α) (depth : Nat) (bytes : Bytes) : Except ReadFault α := do
  let (tree, ended) := Raw.document bytes
  let value ← read depth tree
  if ended then .ok value else .error .notJson

end Reader

/-- The value of a text. -/
def Json.parse (bytes : Bytes) : Except ReadFault Json := Reader.any.run maxDepth bytes

namespace Json

mutual

/-- A value as a tree. -/
def toRaw : Json → Raw
  | .null => .null
  | .bool b => .bool b
  | .int n => .number (some (.int n))
  | .float x => .number (some (.float x))
  | .str s => .text (some s)
  | .arr items => .list (itemsToRaw items)
  | .obj members => .record (membersToRaw members)

/-- Values as trees. -/
def itemsToRaw : List Json → List Raw
  | [] => []
  | item :: items => item.toRaw :: itemsToRaw items

/-- Members as trees. -/
def membersToRaw : List (String × Json) → List (Option String × Raw)
  | [] => []
  | (name, value) :: members => (some name, value.toRaw) :: membersToRaw members

end

/-- A list of texts, if a value is one. -/
def toStrings (doc : Json) : Except ReadFault (List String) :=
  (Reader.list Reader.text) maxDepth doc.toRaw

end Json

end ChainWatch
