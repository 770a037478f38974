import ChainWatch.Numeral.Word
import ChainWatch.Json.Basic

/-!
# Number literals

A literal is an optional minus sign, a whole part, and possibly a fraction and an exponent.  A
whole literal in range is an integer.  Any other literal is a double, computed in two rounded
steps: its digits, as far as they fit an unsigned 64-bit integer, are rounded to a double, and the
double is scaled by a power of ten that is itself a double.

* `Literal` : the parts of a literal.
* `Literal.value` : its value, unless it is too large for a double.
-/

namespace ChainWatch

namespace Json

/-- The digits of a number literal. -/
structure Literal where
  negative : Bool
  /-- The digits before the point. -/
  whole : List Nat
  /-- The digits after the point; none if there is no point. -/
  fraction : List Nat
  /-- The power of ten, if one is written. -/
  exponent : Option Int
  deriving Repr

/-- Digits collected into an unsigned integer: as soon as one does not fit, it and all later ones
are only counted. -/
def collect : Nat → List Nat → Nat × Nat
  | significand, [] => (significand, 0)
  | significand, d :: rest =>
    if maxUnsigned < significand * 10 + d then (significand, rest.length + 1)
    else collect (significand * 10 + d) rest

/-- A power of ten as a double. -/
def tenPower (k : Nat) : Double := .ofNat (Nat.pow 10 k)

/-- The largest power of ten that is a double. -/
def maxTen : Nat := 308

/-- The double `± significand · 10 ^ power`, rounded after each step; `none` beyond the largest
double. -/
def scaled (negative : Bool) (significand : Nat) (power : Int) : Option Double :=
  let x := Double.ofNat significand
  let signed (y : Double) : Double := { y with negative := negative }
  if 0 ≤ power then
    if power ≤ maxTen then
      let y := x.mul (tenPower power.toNat)
      if y.isFinite then some (signed y) else none
    else if x.isZero then some (signed x) else none
  else
    let down := (-power).toNat
    if down ≤ maxTen then some (signed (x.div (tenPower down)))
    else if down ≤ 2 * maxTen then
      some (signed ((x.div (tenPower maxTen)).div (tenPower (down - maxTen))))
    else some (signed Double.zero)

/-- The integer that digits and a sign denote, if it is in range; a negative zero is none. -/
def signedInt? (negative : Bool) (n : Nat) : Option Int :=
  if negative then if n = 0 ∨ 0x8000000000000000 < n then none else some (-n)
  else some n

/-- The value of a literal; `none` if it is too large for a double. -/
def Literal.value (l : Literal) : Option Json :=
  let (whole, dropped) := collect 0 l.whole
  if l.fraction.isEmpty ∧ l.exponent.isNone ∧ dropped = 0 then
    match signedInt? l.negative whole with
    | some n => some (.int n)
    | none => some (.float { Double.ofNat whole with negative := true })
  else
    let (significand, beyond) := collect whole l.fraction
    let places : Int := l.fraction.length - beyond
    (scaled l.negative significand (dropped - places + l.exponent.getD 0)).map .float

end Json

end ChainWatch
