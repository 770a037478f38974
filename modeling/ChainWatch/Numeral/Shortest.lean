import ChainWatch.Numeral.Double

/-!
# Shortest decimal text

A double stands for an interval of reals, those that round to it.  Its text holds the fewest
digits of a decimal in that interval, and among those the decimal nearest to the double.

* `Double.shortest` : the digits and their power of ten, found on one decimal grid after the other.
* `NumberFormat` : where positional notation ends and how exponents are written.
* `Double.text` : the two put together.
-/

namespace ChainWatch

namespace Double

/-- A decimal number `digits · 10 ^ power`. -/
structure Decimal where
  digits : Nat
  power : Int
  deriving DecidableEq, Repr

/-- The reals that round to a double, scaled by a common denominator. -/
structure Interval where
  low : Nat
  value : Nat
  high : Nat
  den : Nat
  /-- Whether the two ends round to the double as well. -/
  closed : Bool
  deriving Repr

/-- The interval around a nonzero magnitude, in quarters of the last bit.  Below a power of two the
spacing is half as wide. -/
def interval (x : Double) : Interval :=
  let halfBelow := x.mantissa = Nat.pow 2 52 ∧ minExponent < x.exponent
  -- a half of the spacing is two quarters, below a power of two only one
  let low := 4 * x.mantissa - (if halfBelow then 1 else 2)
  let scale := if 2 ≤ x.exponent then Nat.pow 2 (x.exponent - 2).toNat else 1
  let den := if 2 ≤ x.exponent then 1 else Nat.pow 2 (2 - x.exponent).toNat
  { low := low * scale
    value := 4 * x.mantissa * scale
    high := (4 * x.mantissa + 2) * scale
    den := den
    closed := x.mantissa % 2 = 0 }

/-- Whether `c · 10 ^ power` lies in the interval. -/
def Interval.holds (i : Interval) (c : Nat) (power : Int) : Bool :=
  let up := if 0 ≤ power then Nat.pow 10 power.toNat else 1
  let down := if 0 ≤ power then 1 else Nat.pow 10 (-power).toNat
  let point := c * up * i.den
  if i.closed then i.low * down ≤ point ∧ point ≤ i.high * down
  else i.low * down < point ∧ point < i.high * down

/-- The least `k` from the given one on with `num · 10 ^ k ≥ den`, looking at most `fuel` steps
ahead. -/
def tensNeeded (num den : Nat) : Nat → Nat → Nat
  | 0, k => k
  | fuel + 1, k => if den ≤ num * Nat.pow 10 k then k else tensNeeded num den fuel (k + 1)

/-- The `k` with `10 ^ (k - 1) ≤ num / den < 10 ^ k`. -/
def decimalOrder (num den : Nat) : Int :=
  if den ≤ num then (Nat.toDigits 10 (num / den)).length
  else 1 - tensNeeded num den (Nat.log2 den + 1) 1

/-- The point of the grid of spacing `10 ^ power` that represents the interval: one of the two
neighbours of its value, the nearer if both lie inside, the even one if they are equally near. -/
def Interval.onGrid (i : Interval) (power : Int) : Option Nat :=
  let num := if 0 ≤ power then i.value else i.value * Nat.pow 10 (-power).toNat
  let den := if 0 ≤ power then i.den * Nat.pow 10 power.toNat else i.den
  let below := num / den
  match i.holds below power, i.holds (below + 1) power with
  | true, true => some (divRound num den)
  | true, false => some below
  | false, true => some (below + 1)
  | false, false => none

/-- A decimal without trailing zeros among its digits. -/
def Decimal.trim : Nat → Decimal → Decimal
  | 0, d => d
  | fuel + 1, d =>
    if d.digits ≠ 0 ∧ d.digits % 10 = 0 then trim fuel ⟨d.digits / 10, d.power + 1⟩ else d

/-- The fewest digits that read back, for a number other than zero. -/
def shortest (x : Double) : Decimal :=
  let i := x.interval
  let order := decimalOrder i.value i.den
  -- seventeen digits tell any two doubles apart
  let grids := (List.range 17).map fun n => order - (n + 1 : Nat)
  let found := grids.findSome? fun power => (i.onGrid power).map fun c => Decimal.mk c power
  (found.getD ⟨0, 0⟩).trim 20

end Double

/-- How a format writes the digits of a number. -/
structure NumberFormat where
  /-- Largest number of digits before the point in positional notation. -/
  maxWhole : Int
  /-- Largest number of zeros between the point and the first digit. -/
  maxZeros : Int

/-- Numbers are written positionally from `0.00001` up to below `10 ^ 16`. -/
def NumberFormat.standard : NumberFormat := ⟨16, 4⟩

namespace Double

/-- The digits of a natural number. -/
def digitChars (n : Nat) : List Char := Nat.toDigits 10 n

/-- A power of ten with its sign. -/
def exponentChars (e : Int) : List Char :=
  'e' :: (if e < 0 then '-' else '+') :: digitChars e.natAbs

/-- The magnitude of a decimal as text, with at least one digit after the point in positional
notation. -/
def Decimal.chars (format : NumberFormat) (d : Decimal) : List Char :=
  let digits := digitChars d.digits
  let count : Int := digits.length
  let order := count + d.power
  if 0 ≤ d.power ∧ order ≤ format.maxWhole then
    digits ++ List.replicate d.power.toNat '0' ++ ['.', '0']
  else if 0 < order ∧ order ≤ format.maxWhole then
    digits.take order.toNat ++ '.' :: digits.drop order.toNat
  else if -format.maxZeros ≤ order ∧ order ≤ 0 then
    '0' :: '.' :: (List.replicate (-order).toNat '0' ++ digits)
  else
    -- one digit in front of the point, and no point behind a digit that stands alone
    match digits with
    | [d] => d :: exponentChars (order - 1)
    | d :: rest => d :: '.' :: (rest ++ exponentChars (order - 1))
    | [] => []

/-- The text of a double. -/
def chars (x : Double) : List Char :=
  let magnitude :=
    if x.isZero then ['0', '.', '0'] else x.shortest.chars NumberFormat.standard
  if x.negative then '-' :: magnitude else magnitude

/-- The text of a double. -/
def text (x : Double) : String := String.ofList x.chars

end Double

end ChainWatch
