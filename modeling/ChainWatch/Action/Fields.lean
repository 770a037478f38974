import ChainWatch.Json.Printer
import ChainWatch.Numeral.Word

/-!
# Fields of action documents

An action's input and output are documents with named fields.  A field that is null counts as
absent, and a document that is no object has no fields.  Numbers may be given as integers, as
whole doubles, or as decimal text.

* `FieldError` : which field is missing or malformed.
* `Fields.text`, `Fields.optText` : texts.
* `Fields.unsigned`, `Fields.signed`, `Fields.optSigned` : numbers.
-/

namespace ChainWatch

/-- A field that keeps an action from being recorded. -/
inductive FieldError
  /-- A required field is absent. -/
  | missing (action field : String)
  /-- A field has a value that cannot be used. -/
  | malformed (action field reason : String)
  deriving DecidableEq, Repr

/-- The wording of a field error. -/
def FieldError.message : FieldError → String
  | .missing action field => s!"{action}: required field '{field}' is missing"
  | .malformed action field reason => s!"{action}: field '{field}' is malformed: {reason}"

/-- The fields of a document, read for an action of a given name. -/
structure Fields where
  /-- The action that messages name. -/
  action : String
  members : Members

namespace Fields

/-- The fields of a document; only objects have any. -/
def ofDocument (action : String) (doc : Json) : Fields := ⟨action, doc.members?.getD []⟩

/-- The value of a field, unless it is absent or null. -/
def get? (f : Fields) (field : String) : Option Json :=
  (f.members.get? field).filter (· ≠ .null)

/-- The error of a malformed field. -/
def malformed {α : Type} (f : Fields) (field reason : String) : Except FieldError α :=
  .error (.malformed f.action field reason)

/-- The error of a missing field. -/
def missing {α : Type} (f : Fields) (field : String) : Except FieldError α :=
  .error (.missing f.action field)

/-- A text that has to be there and not be empty. -/
def text (f : Fields) (field : String) : Except FieldError String :=
  match f.get? field with
  | none => f.missing field
  | some (.str s) => if s.isEmpty then f.malformed field "empty string" else .ok s
  | some other => f.malformed field s!"expected a string, got {other.text}"

/-- A text that may be absent. -/
def optText (f : Fields) (field : String) : Except FieldError (Option String) :=
  match f.get? field with
  | none => .ok none
  | some (.str s) => .ok (some s)
  | some other => f.malformed field s!"expected a string, got {other.text}"

/-- The unsigned integer that a double is taken for: it has to be whole and to lie between zero and
the largest unsigned integer, which is itself rounded to a double. -/
def ofDouble? (x : Double) : Option Nat :=
  if x.isWhole && Double.zero.le x && x.le (.ofNat maxUnsigned) then some x.toUnsigned else none

/-- The unsigned integer that a value stands for. -/
def toUnsigned (f : Fields) (field : String) : Json → Except FieldError Nat
  | .int n =>
    if 0 ≤ n then .ok n.toNat else f.malformed field s!"not an unsigned integer: {n}"
  | .float x =>
    match ofDouble? x with
    | some n => .ok n
    | none => f.malformed field s!"not an unsigned integer: {x.text}"
  | .str s =>
    match readUnsigned maxUnsigned s with
    | .ok n => .ok n
    | .error fault => f.malformed field fault.message
  | other => f.malformed field s!"expected a number, got {other.text}"

/-- An unsigned number that has to be there. -/
def unsigned (f : Fields) (field : String) : Except FieldError Nat :=
  match f.get? field with
  | none => f.missing field
  | some value => f.toUnsigned field value

/-- A number that a signed column can hold. -/
def narrow (f : Fields) (field : String) (limit n : Nat) : Except FieldError Nat :=
  if n ≤ limit then .ok n else f.malformed field "out of range"

/-- An unsigned number that has to be there and fit a signed column. -/
def signed (f : Fields) (field : String) : Except FieldError Nat :=
  (f.unsigned field).bind (f.narrow field maxSigned)

/-- An unsigned number that may be absent and has to fit a signed column. -/
def optSigned (f : Fields) (field : String) : Except FieldError (Option Nat) :=
  match f.get? field with
  | none => .ok none
  | some value => ((f.toUnsigned field value).bind (f.narrow field maxSigned)).map some

end Fields

end ChainWatch
