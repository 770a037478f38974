/-!
# Bounded integers

Numbers arrive as unsigned 64-bit integers and are stored in signed columns.  Two rules lead from
the one to the other: *clamping* keeps the order and flattens what is too large, *wrapping* keeps
the low bits.  Numbers written as text are read digit by digit, and the first obstacle is named.

* `clampSigned`, `wrapSigned`, `wrapIndex` : into a signed column.
* `addClamped` : a sum that stops at the largest unsigned number.
* `readUnsigned` : decimal text, with the reason of a refusal.
-/

namespace ChainWatch

/-- The largest unsigned 64-bit integer. -/
def maxUnsigned : Nat := 0xFFFFFFFFFFFFFFFF

/-- The largest signed 64-bit integer. -/
def maxSigned : Nat := 0x7FFFFFFFFFFFFFFF

/-- The largest signed 32-bit integer. -/
def maxCount : Nat := 0x7FFFFFFF

/-- An unsigned number in a signed 64-bit column: what is too large becomes the largest. -/
def clampSigned (n : Nat) : Nat := min n maxSigned

/-- A count in a signed 32-bit column: what is too large becomes the largest. -/
def clampCount (n : Nat) : Nat := min n maxCount

/-- The signed 64-bit number with the same bits. -/
def wrapSigned (n : Nat) : Int := Int.bmod n 0x10000000000000000

/-- The signed 32-bit number with the same low bits. -/
def wrapIndex (n : Nat) : Int := Int.bmod n 0x100000000

/-- The sum of two unsigned numbers, stopping at the largest one. -/
def addClamped (m n : Nat) : Nat := min (m + n) maxUnsigned

theorem wrapSigned_of_le {n : Nat} (h : n ≤ maxSigned) : wrapSigned n = n := by
  unfold maxSigned at h
  exact Int.bmod_eq_of_le_mul_two (by omega) (by omega)

theorem wrapIndex_of_le {n : Nat} (h : n ≤ maxCount) : wrapIndex n = n := by
  unfold maxCount at h
  exact Int.bmod_eq_of_le_mul_two (by omega) (by omega)

/-- Why a text is not a number of the wanted size. -/
inductive NumeralFault
  /-- There is nothing to read. -/
  | empty
  /-- A character is no decimal digit. -/
  | badDigit
  /-- The number exceeds the limit. -/
  | tooLarge
  deriving DecidableEq, Repr

/-- The wording of a refused number. -/
def NumeralFault.message : NumeralFault → String
  | .empty => "cannot parse integer from empty string"
  | .badDigit => "invalid digit found in string"
  | .tooLarge => "number too large to fit in target type"

/-- The value of a decimal digit. -/
def digitValue (c : Char) : Option Nat :=
  if '0' ≤ c ∧ c ≤ '9' then some (c.toNat - '0'.toNat) else none

/-- Reads on from the value of the digits so far; the first obstacle from the left is the one
reported. -/
def readDigits (limit : Nat) : Nat → List Char → Except NumeralFault Nat
  | value, [] => .ok value
  | value, c :: rest =>
    match digitValue c with
    | none => .error .badDigit
    | some d =>
      if limit < value * 10 + d then .error .tooLarge else readDigits limit (value * 10 + d) rest

/-- An unsigned number of at most `limit` in decimal, with an optional plus sign. -/
def readUnsigned (limit : Nat) (text : String) : Except NumeralFault Nat :=
  match text.toList with
  | [] => .error .empty
  | ['+'] => .error .badDigit
  | '+' :: digits => readDigits limit 0 digits
  | digits => readDigits limit 0 digits

end ChainWatch
