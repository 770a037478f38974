import ChainWatch.Text.Utf8

/-!
# Hexadecimal text

Two digits stand for one byte.  Text is written in lower case and read in either case; a leading
`0x`, also a repeated one, is passed over before reading.

* `Hex.encode` : the digits of a byte string.
* `Hex.decode` : the bytes of a text, or the first obstacle.
-/

namespace ChainWatch

namespace Hex

/-- The lower-case digit of a number below sixteen. -/
def digit (n : Nat) : Char :=
  if n < 10 then Char.ofNat ('0'.toNat + n) else Char.ofNat ('a'.toNat + (n - 10))

/-- The upper-case digit of a number below sixteen. -/
def upperDigit (n : Nat) : Char :=
  if n < 10 then Char.ofNat ('0'.toNat + n) else Char.ofNat ('A'.toNat + (n - 10))

/-- The value of a digit, given by its code. -/
def value? (code : Nat) : Option Nat :=
  if '0'.toNat ≤ code ∧ code ≤ '9'.toNat then some (code - '0'.toNat)
  else if 'a'.toNat ≤ code ∧ code ≤ 'f'.toNat then some (code - 'a'.toNat + 10)
  else if 'A'.toNat ≤ code ∧ code ≤ 'F'.toNat then some (code - 'A'.toNat + 10)
  else none

/-- The two digits of a byte, the high half first. -/
def pair (b : UInt8) : List Char := [digit (b.toNat / 16), digit (b.toNat % 16)]

/-- The digits of a byte string. -/
def encode (bytes : Bytes) : String := String.ofList (bytes.flatMap pair)

/-- Why a text is no hexadecimal byte string. -/
inductive Fault
  /-- A digit has no partner. -/
  | oddLength
  /-- A byte of the text is no digit. -/
  | badDigit (byte : UInt8) (position : Nat)
  deriving DecidableEq, Repr

/-- Reads pairs of digits; `position` counts the bytes already read. -/
def decodeFrom (position : Nat) : Bytes → Except Fault Bytes
  | [] => .ok []
  | [_] => .error .oddLength
  | high :: low :: rest =>
    match value? high.toNat with
    | none => .error (.badDigit high position)
    | some h =>
      match value? low.toNat with
      | none => .error (.badDigit low (position + 1))
      | some l => (decodeFrom (position + 2) rest).map (UInt8.ofNat (16 * h + l) :: ·)

/-- The bytes that a text in ASCII digits stands for; an odd length is reported first. -/
def decode (text : Bytes) : Except Fault Bytes :=
  if text.length % 2 = 1 then .error .oddLength else decodeFrom 0 text

/-- A text without the `0x` marks at its start. -/
def dropMarks : List Char → List Char
  | '0' :: 'x' :: rest => dropMarks rest
  | chars => chars

/-- The bytes that a marked or unmarked text stands for. -/
def decodeText (text : String) : Except Fault Bytes :=
  decode (Utf8.encodeChars (dropMarks text.toList))

end Hex

end ChainWatch
