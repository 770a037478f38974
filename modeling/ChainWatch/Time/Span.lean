import ChainWatch.Time.Instant

/-!
# Lengths of time

A span is a number of nanoseconds that is never negative.

* `Span.text` : `5s`, `1.5s`, `250ms`, `0ns`: the largest unit that fits, with the exact fraction.
* `Span.signed?` : the span as a difference of instants, if it is not too long for one.
-/

namespace ChainWatch

/-- A length of time in nanoseconds. -/
structure Span where
  nanos : Nat
  deriving DecidableEq, Repr, Inhabited

namespace Span

/-- A number of seconds. -/
def seconds (n : Nat) : Span := ⟨n * 1000000000⟩

/-- A number of milliseconds. -/
def millis (n : Nat) : Span := ⟨n * 1000000⟩

/-- The longest span: the largest unsigned number of seconds and almost one more. -/
def longest : Span := ⟨maxUnsigned * 1000000000 + 999999999⟩

/-- The whole seconds of a span. -/
def toSeconds (s : Span) : Nat := s.nanos / 1000000000

/-- The whole milliseconds of a span. -/
def toMillis (s : Span) : Nat := s.nanos / 1000000

/-- A number of parts of a unit that has `10 ^ places` of them, without trailing zeros. -/
def inUnit (places : Nat) (parts : Nat) : String :=
  let whole := toString (parts / Nat.pow 10 places)
  let digits := (Date.padded places (parts % Nat.pow 10 places)).toList
  let significant := (digits.reverse.dropWhile (· == '0')).reverse
  if places = 0 ∨ significant.isEmpty then whole
  else whole ++ "." ++ String.ofList significant

/-- The span in the largest unit of which it has at least one. -/
def text (s : Span) : String :=
  if 1000000000 ≤ s.nanos then inUnit 9 s.nanos ++ "s"
  else if 1000000 ≤ s.nanos then inUnit 6 s.nanos ++ "ms"
  else if 1000 ≤ s.nanos then inUnit 3 s.nanos ++ "µs"
  else inUnit 0 s.nanos ++ "ns"

/-- The nanoseconds of a span that can be taken from an instant: at most the largest signed number
of milliseconds. -/
def signed? (s : Span) : Option Int :=
  if s.nanos ≤ maxSigned * 1000000 then some s.nanos else none

end Span

end ChainWatch
