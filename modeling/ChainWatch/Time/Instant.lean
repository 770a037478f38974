import ChainWatch.Time.Calendar

/-!
# Points in time

An instant is a number of nanoseconds since 1970-01-01T00:00:00 in universal time.  Its text has
no fraction, or one of three, six or nine digits, whichever is the shortest that is exact.

* `Instant.ofMillis` : from milliseconds; what lies outside the calendar becomes the epoch.
* `Instant.zulu`, `Instant.offset`, `Instant.plain` : the three ways of writing one.
* `Instant.parse?` : reads the first two, in which zeros may be left out and blanks put in.
* `Instant.since`, `Instant.backBy` : the difference of two instants, and a shift into the past.
* `Instant.isAfter` : the order in which the store keeps instants.
* `wholeSeconds`, `wholeMillis` : differences, cut off toward zero.
-/

namespace ChainWatch

/-- A point in time, in nanoseconds since the epoch. -/
structure Instant where
  nanos : Int
  /-- Whether a leap second is meant, which follows the second that the nanoseconds count. -/
  leap : Bool := false
  deriving DecidableEq, Repr, Inhabited

/-- A difference of nanoseconds in whole seconds, cut off toward zero. -/
def wholeSeconds (nanos : Int) : Int := nanos.tdiv 1000000000

/-- A difference of nanoseconds in whole milliseconds, cut off toward zero. -/
def wholeMillis (nanos : Int) : Int := nanos.tdiv 1000000

namespace Instant

/-- The nanoseconds since midnight. -/
def sinceMidnight (t : Instant) : Nat := (t.nanos % 86400000000000).toNat

/-- The leap seconds that an instant is ahead of the nanoseconds that it counts, as seen from
another: one, unless the other has a later second of the day. -/
def leapsSeenFrom (t u : Instant) : Int :=
  if t.leap ∧ u.sinceMidnight / 1000000000 ≤ t.sinceMidnight / 1000000000 then 1 else 0

/-- The number of nanoseconds from one instant to a later one. -/
def since (later earlier : Instant) : Int :=
  let leaps := later.leapsSeenFrom earlier - earlier.leapsSeenFrom later
  later.nanos - earlier.nanos + leaps * 1000000000

/-- The nanoseconds of the leap second that an instant is ahead of those that it counts. -/
def leapNanos (t : Instant) : Int := if t.leap then 1000000000 else 0

/-- The instant that lies a number of nanoseconds back, at least none.  A leap second that is not
left is still meant; one that is left has been a second later than its nanoseconds say. -/
def backBy (t : Instant) (nanos : Int) : Instant :=
  if t.leap ∧ nanos ≤ t.nanos % 1000000000 then { t with nanos := t.nanos - nanos }
  else { nanos := t.nanos + t.leapNanos - nanos }

/-- The first representable instant, the start of the year -262143, in milliseconds. -/
def minMillis : Int := -8334601228800000

/-- The last representable millisecond, at the end of the year 262142. -/
def maxMillis : Int := 8210266876799999

/-- The instant of a number of milliseconds since the epoch.  A number outside the calendar stands
for the epoch itself. -/
def ofMillis (millis : Int) : Instant :=
  if minMillis ≤ millis ∧ millis ≤ maxMillis then { nanos := millis * 1000000 }
  else { nanos := 0 }

/-- The day of an instant. -/
def date (t : Instant) : Date := ⟨t.nanos / 86400000000000⟩

/-- The digits of a fraction of a second: none, three, six or nine. -/
def fractionText (nanos : Nat) : String :=
  if nanos = 0 then ""
  else if nanos % 1000000 = 0 then "." ++ Date.padded 3 (nanos / 1000000)
  else if nanos % 1000 = 0 then "." ++ Date.padded 6 (nanos / 1000)
  else "." ++ Date.padded 9 nanos

/-- Hours, minutes and seconds with their fraction. -/
def clockText (t : Instant) : String :=
  let seconds := t.sinceMidnight / 1000000000
  let second := seconds % 60 + (if t.leap then 1 else 0)
  s!"{Date.padded 2 (seconds / 3600)}:{Date.padded 2 (seconds / 60 % 60)}:{
    Date.padded 2 second}{fractionText (t.sinceMidnight % 1000000000)}"

/-- `2024-05-01T12:00:00Z`. -/
def zulu (t : Instant) : String := s!"{t.date.text}T{t.clockText}Z"

/-- `2024-05-01T12:00:00+00:00`. -/
def offset (t : Instant) : String := s!"{t.date.text}T{t.clockText}+00:00"

/-- `2024-05-01 12:00:00 UTC`. -/
def plain (t : Instant) : String := s!"{t.date.text} {t.clockText} UTC"

/-- Whether the store counts one instant as later than another.  It keeps instants as text and
compares the texts, which is the order of time for the years from 0 to 9999. -/
def isAfter (t u : Instant) : Bool := u.offset < t.offset

/-! ### Reading -/

/-- The first instant of the calendar, in nanoseconds. -/
def minNanos : Int := minMillis * 1000000

/-- The last instant of the calendar, in nanoseconds. -/
def maxNanos : Int := maxMillis * 1000000 + 999999

/-- The nanoseconds of a fraction behind a point, and the text behind it; digits beyond the ninth
count for nothing. -/
def readFraction (chars : List Char) : Option (Nat × List Char) :=
  match chars with
  | '.' :: rest =>
    let digits := rest.takeWhile Char.isDigit
    if digits.isEmpty then none
    else
      let nanos := Date.number ((digits ++ List.replicate 9 '0').take 9)
      some (nanos, rest.drop digits.length)
  | rest => some (0, rest)

/-- The sign of an offset. -/
def offsetSign? (c : Char) : Option Int :=
  if c = '+' then some 1 else if c = '-' ∨ c = Char.ofNat 0x2212 then some (-1) else none

/-- The seconds of an offset such as `+01:30`, which is less than a day; colons and blanks may
separate its parts. -/
def readOffset : List Char → Option (Int × List Char)
  | sign :: h :: g :: rest => do
    let sign ← offsetSign? sign
    match rest.dropWhile fun c => c == ':' || isBlank c with
    | m :: n :: rest =>
      if [h, g, m, n].all Char.isDigit then
        let hours := Date.number [h, g]
        let minutes := Date.number [m, n]
        if hours < 24 ∧ minutes < 60 then
          some (sign * (hours * 3600 + minutes * 60 : Nat), rest)
        else none
      else none
    | _ => none
  | _ => none

/-- The seconds of a zone: an offset, or a name of universal time. -/
def readZone (chars : List Char) : Option (Int × List Char) :=
  match chars with
  | 'Z' :: rest | 'z' :: rest => some (0, rest)
  | _ =>
    if (chars.take 3).map Char.toUpper = ['U', 'T', 'C'] then some (0, chars.drop 3)
    else readOffset chars

/-- The text behind the mark between date and time of day. -/
def readSeparator : List Char → Option (List Char)
  | 'T' :: rest | 't' :: rest | ' ' :: rest => some rest
  | _ => none

/-- Reads a date, a time of day and a zone.  The second after the last one of a minute is a leap
second. -/
def parse? (text : String) : Option Instant := do
  let (date, rest) ← Date.read? text.toList
  let (hours, rest) ← Date.readNumber 2 (← readSeparator rest)
  let (minutes, rest) ← Date.readNumber 2 (← Date.readMark ':' rest)
  let (seconds, rest) ← Date.readNumber 2 (← Date.readMark ':' rest)
  let (fraction, rest) ← readFraction rest
  let (shift, rest) ← readZone (dropBlanks rest)
  let leap := seconds == 60
  let clock := hours * 3600 + minutes * 60 + (if leap then 59 else seconds)
  let nanos := (date.days * 86400 + clock - shift) * 1000000000 + fraction
  if (dropBlanks rest).isEmpty ∧ hours < 24 ∧ minutes < 60 ∧ seconds ≤ 60
      ∧ minNanos ≤ nanos ∧ nanos ≤ maxNanos then
    some { nanos, leap }
  else none

end Instant

end ChainWatch
