import ChainWatch.Text.Hex

/-!
# Properties of characters

A property of characters is kept as runs of codes that share a value, in ascending order, and
looked up by bisection.  The runs of a value are written as words: `5F` is a single code and `61-7A`
a run, in hexadecimal.

* `CodeTable`, `CodeTable.find?` : the runs of a property, and the value of a code.
* `CodeTable.runs` : the runs that a text writes down.
* `CodeSet` : codes without values.
-/

namespace ChainWatch

/-- Codes next to each other that share a value. -/
structure CodeRun (α : Type) where
  first : Nat
  last : Nat
  value : α

/-- Runs of codes; the look-up relies on their ascending order. -/
structure CodeTable (α : Type) where
  entries : Array (CodeRun α)

namespace CodeTable

variable {α : Type}

/-- The words of a text, which blanks and line ends separate. -/
def words (text : String) : List (List Char) :=
  (text.toList.splitOnP fun c => c == ' ' || c == '\n').filter fun word => !word.isEmpty

/-- The number that hexadecimal digits denote. -/
def number (digits : List Char) : Nat :=
  digits.foldl (fun n c => 16 * n + (Hex.value? c.toNat).getD 0) 0

/-- The first and the last code of a word. -/
def bounds (word : List Char) : Nat × Nat :=
  match word.dropWhile (· != '-') with
  | _hyphen :: last => (number (word.takeWhile (· != '-')), number last)
  | [] => (number word, number word)

/-- The runs that a text writes down, with a value for all of them. -/
def runs (text : String) (value : α) : List (CodeRun α) :=
  (words text).map fun word => ⟨(bounds word).1, (bounds word).2, value⟩

/-- The table of runs in any order. -/
def ofRuns (runs : List (CodeRun α)) : CodeTable α :=
  ⟨(runs.mergeSort fun a b => a.first ≤ b.first).toArray⟩

/-- The run of a code among those from place `low` up to place `high`. -/
def findIn (entries : Array (CodeRun α)) (code low high : Nat) (h : high ≤ entries.size) :
    Option α :=
  if hlt : low < high then
    let middle := low + (high - low) / 2
    let run := entries[middle]
    if code < run.first then findIn entries code low middle (by omega)
    else if run.last < code then findIn entries code (middle + 1) high h
    else some run.value
  else none
termination_by high - low

/-- The value of a code, if it has one. -/
def find? (t : CodeTable α) (code : Nat) : Option α :=
  findIn t.entries code 0 t.entries.size (Nat.le_refl _)

end CodeTable

/-- A set of codes. -/
abbrev CodeSet := CodeTable Unit

namespace CodeSet

/-- The set that a text writes down. -/
def ofText (text : String) : CodeSet := .ofRuns (CodeTable.runs text ())

/-- Whether a character belongs to a set. -/
def contains (s : CodeSet) (c : Char) : Bool := (CodeTable.find? s c.toNat).isSome

end CodeSet

end ChainWatch
