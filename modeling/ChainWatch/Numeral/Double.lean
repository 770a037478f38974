import ChainWatch.Numeral.Word

/-!
# Binary floating-point numbers

A `Double` is a sign, a mantissa and a power of two, so every number here denotes an exact
fraction, and each operation is the exact operation followed by one rounding.

* `Double.ofQuotient` : the double nearest to a fraction, a tie going to the even mantissa.
* `Double.add`, `Double.mul`, `Double.div` : exact, then rounded.
* `Double.isFinite` : whether the exponent stays within the format's range.
* `Double.isWhole`, `Double.le`, `Double.toUnsigned` : a test for whole numbers, the order, and the
  way to an unsigned integer.
-/

namespace ChainWatch

/-- The number `± mantissa · 2 ^ exponent`.  The mantissa stays below `2 ^ 53`, and reaches
`2 ^ 52` unless the exponent is the least one. -/
structure Double where
  /-- Whether the sign is a minus; zero has both signs. -/
  negative : Bool
  /-- The significant bits as an integer. -/
  mantissa : Nat
  /-- The weight of the lowest bit. -/
  exponent : Int
  deriving DecidableEq, Repr

namespace Double

/-- The weight of the lowest bit of the smallest positive number. -/
def minExponent : Int := -1074

/-- The weight of the lowest bit of the largest numbers. -/
def maxExponent : Int := 971

/-- Zero with a plus sign. -/
def zero : Double := ⟨false, 0, minExponent⟩

instance : Inhabited Double := ⟨zero⟩

/-- A quotient rounded to the nearest integer; a half goes to the even neighbour. -/
def divRound (num den : Nat) : Nat :=
  let low := num / den
  let rest := 2 * (num % den)
  if rest < den then low
  else if den < rest then low + 1
  else if low % 2 = 0 then low else low + 1

/-- The greatest `k` with `2 ^ k ≤ num / den`, for positive arguments. -/
def binaryOrder (num den : Nat) : Int :=
  let guess : Int := (Nat.log2 num : Int) - Nat.log2 den
  -- the lengths of two numbers tell the order of their quotient up to one
  let reached :=
    if 0 ≤ guess then den * Nat.pow 2 guess.toNat ≤ num
    else den ≤ num * Nat.pow 2 (-guess).toNat
  if reached then guess else guess - 1

/-- The double nearest to `± num / den`, of two the one with the even mantissa.  The exponent is
bounded below only; `isFinite` tells whether the format can hold the result. -/
def ofQuotient (negative : Bool) (num den : Nat) : Double :=
  if num = 0 then ⟨negative, 0, minExponent⟩
  else
    let e := max (binaryOrder num den - 52) minExponent
    let m :=
      if 0 ≤ e then divRound num (den * Nat.pow 2 e.toNat)
      else divRound (num * Nat.pow 2 (-e).toNat) den
    -- rounding up may carry into one bit more
    if m = Nat.pow 2 53 then ⟨negative, Nat.pow 2 52, e + 1⟩ else ⟨negative, m, e⟩

/-- The double nearest to a natural number. -/
def ofNat (n : Nat) : Double := ofQuotient false n 1

/-- The double nearest to an integer. -/
def ofInt (n : Int) : Double := ofQuotient (decide (n < 0)) n.natAbs 1

/-- The magnitude as an exact fraction. -/
def fraction (x : Double) : Nat × Nat :=
  if 0 ≤ x.exponent then (x.mantissa * Nat.pow 2 x.exponent.toNat, 1)
  else (x.mantissa, Nat.pow 2 (-x.exponent).toNat)

/-- Whether the number lies in the range of the format. -/
def isFinite (x : Double) : Bool := x.exponent ≤ maxExponent

/-- Whether the number is one of the two zeros. -/
def isZero (x : Double) : Bool := x.mantissa = 0

/-- The number with the other sign. -/
def neg (x : Double) : Double := { x with negative := !x.negative }

/-- The rounded product. -/
def mul (x y : Double) : Double :=
  let (a, b) := x.fraction
  let (c, d) := y.fraction
  ofQuotient (x.negative != y.negative) (a * c) (b * d)

/-- The rounded quotient by a number other than zero. -/
def div (x y : Double) : Double :=
  let (a, b) := x.fraction
  let (c, d) := y.fraction
  ofQuotient (x.negative != y.negative) (a * d) (b * c)

/-- The rounded sum; an exact zero has a plus sign unless both terms are negative zeros. -/
def add (x y : Double) : Double :=
  let (a, b) := x.fraction
  let (c, d) := y.fraction
  -- both terms over the common denominator
  let left : Int := if x.negative then -(a * d : Nat) else (a * d : Nat)
  let right : Int := if y.negative then -(c * b : Nat) else (c * b : Nat)
  let sum := left + right
  if sum = 0 then ⟨x.negative && y.negative, 0, minExponent⟩
  else ofQuotient (decide (sum < 0)) sum.natAbs (b * d)

/-- The numerator of the exact fraction, with the sign. -/
def numerator (x : Double) : Int := if x.negative then -x.fraction.1 else x.fraction.1

/-- Whether the number is whole. -/
def isWhole (x : Double) : Bool := x.fraction.1 % x.fraction.2 = 0

/-- Whether a number is at most another one; the two zeros are equal. -/
def le (x y : Double) : Bool := x.numerator * y.fraction.2 ≤ y.numerator * x.fraction.2

/-- The integral part as an unsigned 64-bit integer: what is too large becomes the largest, and
what is negative becomes zero. -/
def toUnsigned (x : Double) : Nat :=
  if x.negative then 0 else min (x.fraction.1 / x.fraction.2) maxUnsigned

end Double

end ChainWatch
