import ChainWatch.Text.Hex

/-!
# Percent-encoding

A byte that may not stand for itself is written as a percent sign and two upper-case hexadecimal
digits.  Which characters are written so is a parameter.

* `Percent.encode` : writes the characters of a set by their bytes.
* `Percent.decode` : reads every group back and leaves everything else as it is.
* `Percent.escape` : the encoding of a secret, in which only unreserved characters stay.
-/

namespace ChainWatch

namespace Percent

/-- A percent sign and the two digits of a byte. -/
def group (b : UInt8) : List Char :=
  ['%', Hex.upperDigit (b.toNat / 16), Hex.upperDigit (b.toNat % 16)]

/-- The groups of all bytes of a character. -/
def groups (c : Char) : List Char := (String.utf8EncodeChar c).flatMap group

/-- Writes the characters that `needs` selects as groups and the others as they are. -/
def encodeChars (needs : Char → Bool) (chars : List Char) : List Char :=
  chars.flatMap fun c => if needs c then groups c else [c]

/-- Writes the characters that `needs` selects as groups and the others as they are. -/
def encode (needs : Char → Bool) (text : String) : String :=
  String.ofList (encodeChars needs text.toList)

/-- Replaces every group by its byte. -/
def decode : Bytes → Bytes
  | 0x25 :: high :: low :: rest =>
    match Hex.value? high.toNat, Hex.value? low.toNat with
    | some h, some l => UInt8.ofNat (16 * h + l) :: decode rest
    | _, _ => 0x25 :: decode (high :: low :: rest)
  | b :: rest => b :: decode rest
  | [] => []

/-- The characters that stand for themselves everywhere in a URL. -/
def isUnreserved (c : Char) : Bool :=
  ('A' ≤ c && c ≤ 'Z') || ('a' ≤ c && c ≤ 'z') || ('0' ≤ c && c ≤ '9')
    || c == '-' || c == '_' || c == '.' || c == '~'

/-- The encoding of a secret that becomes part of a URL. -/
def escape (secret : String) : String := encode (fun c => !isUnreserved c) secret

end Percent

end ChainWatch
