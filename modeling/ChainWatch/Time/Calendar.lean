import ChainWatch.Numeral.Word
import ChainWatch.Text.Blank

/-!
# Calendar days

A date is the number of days since 1970-01-01 in the proleptic Gregorian calendar.  Years are
counted in eras of four hundred, from March to February, so that leap days stand at the end.

* `Date.ofCivil`, `Date.civil` : from year, month and day, and back.
* `Date.text` : `2024-05-01`; years beyond four digits carry a sign.
* `Date.read?`, `Date.parse?` : read such a text, in which zeros may be left out and blanks put in.
-/

namespace ChainWatch

/-- A calendar day, as the number of days since 1970-01-01. -/
structure Date where
  days : Int
  deriving DecidableEq, Repr, Inhabited

namespace Date

/-- A year, a month from 1 to 12, and a day of the month. -/
structure Civil where
  year : Int
  month : Int
  day : Int
  deriving DecidableEq, Repr

/-- The day of a civil date. -/
def ofCivil (c : Civil) : Date :=
  let year := if c.month ≤ 2 then c.year - 1 else c.year
  let era := year / 400
  let yearOfEra := year % 400
  let monthFromMarch := (c.month + 9) % 12
  -- five months from March on have 153 days, the longer ones first
  let dayOfYear := (153 * monthFromMarch + 2) / 5 + c.day - 1
  let dayOfEra := yearOfEra * 365 + yearOfEra / 4 - yearOfEra / 100 + dayOfYear
  -- 1970-01-01 is day 719468 of the count from 0000-03-01
  ⟨era * 146097 + dayOfEra - 719468⟩

/-- The civil date of a day. -/
def civil (d : Date) : Civil :=
  let shifted := d.days + 719468
  let era := shifted / 146097
  let dayOfEra := shifted % 146097
  let yearOfEra := (dayOfEra - dayOfEra / 1460 + dayOfEra / 36524 - dayOfEra / 146096) / 365
  let dayOfYear := dayOfEra - (365 * yearOfEra + yearOfEra / 4 - yearOfEra / 100)
  let monthFromMarch := (5 * dayOfYear + 2) / 153
  let day := dayOfYear - (153 * monthFromMarch + 2) / 5 + 1
  let month := if monthFromMarch < 10 then monthFromMarch + 3 else monthFromMarch - 9
  let year := yearOfEra + era * 400 + (if month ≤ 2 then 1 else 0)
  ⟨year, month, day⟩

/-- A natural number with at least `width` digits. -/
def padded (width : Nat) (n : Nat) : String :=
  let digits := toString n
  String.ofList (List.replicate (width - digits.length) '0') ++ digits

/-- A year with four digits, and with a sign if it has more or is negative. -/
def yearText (year : Int) : String :=
  if 0 ≤ year ∧ year ≤ 9999 then padded 4 year.toNat
  else (if year < 0 then "-" else "+") ++ padded 4 year.natAbs

/-- Year, month and day, joined by hyphens. -/
def text (d : Date) : String :=
  let c := d.civil
  s!"{yearText c.year}-{padded 2 c.month.toNat}-{padded 2 c.day.toNat}"

/-- The number of days of a month. -/
def daysInMonth (year month : Int) : Int :=
  if month = 2 then
    if year % 4 = 0 ∧ (year % 100 ≠ 0 ∨ year % 400 = 0) then 29 else 28
  else if month = 4 ∨ month = 6 ∨ month = 9 ∨ month = 11 then 30
  else 31

/-- The first year of the calendar. -/
def firstYear : Int := -262143

/-- The last year of the calendar. -/
def lastYear : Int := 262142

/-- The day of a civil date, if there is such a date. -/
def ofCivil? (year : Int) (month day : Nat) : Option Date :=
  if firstYear ≤ year ∧ year ≤ lastYear ∧ 1 ≤ month ∧ month ≤ 12 ∧ 1 ≤ day
      ∧ (day : Int) ≤ daysInMonth year month then
    some (ofCivil ⟨year, month, day⟩)
  else none

/-- The number that decimal digits denote. -/
def number (digits : List Char) : Nat :=
  digits.foldl (fun n c => 10 * n + (digitValue c).getD 0) 0

/-- The number of at most `width` digits behind blanks, and the text behind it. -/
def readNumber (width : Nat) (chars : List Char) : Option (Nat × List Char) :=
  let chars := dropBlanks chars
  let digits := (chars.take width).takeWhile Char.isDigit
  if digits.isEmpty then none else some (number digits, chars.drop digits.length)

/-- The text behind a mark that follows blanks. -/
def readMark (mark : Char) (chars : List Char) : Option (List Char) :=
  match dropBlanks chars with
  | c :: rest => if c = mark then some rest else none
  | [] => none

/-- A year behind blanks: with a sign right in front of it, it may have any number of digits, and
otherwise at most four. -/
def readYear (chars : List Char) : Option (Int × List Char) :=
  let signed (rest : List Char) : Option (Nat × List Char) :=
    if rest.head?.any Char.isDigit then readNumber rest.length rest else none
  match dropBlanks chars with
  | '-' :: rest => (signed rest).map fun (year, rest) => (-(year : Int), rest)
  | '+' :: rest => (signed rest).map fun (year, rest) => ((year : Int), rest)
  | chars => (readNumber 4 chars).map fun (year, rest) => ((year : Int), rest)

/-- Reads a date at the start of a text, and gives the text behind it. -/
def read? (chars : List Char) : Option (Date × List Char) := do
  let (year, rest) ← readYear chars
  let (month, rest) ← readNumber 2 (← readMark '-' rest)
  let (day, rest) ← readNumber 2 (← readMark '-' rest)
  return (← ofCivil? year month day, rest)

/-- Reads a date; blanks may follow it. -/
def parse? (text : String) : Option Date := do
  let (date, rest) ← read? text.toList
  if (dropBlanks rest).isEmpty then some date else none

end Date

end ChainWatch
