/-!
# UTF-8

Bytes become characters one after the other; a byte that starts no well-formed sequence is kept as
a gap, so that a reader can decide whether it stands where text is wanted.

* `Utf8.encode` : the bytes of a text.
* `Utf8.decode` : the characters of a byte string, `none` for every ill-formed byte.
-/

namespace ChainWatch

/-- A byte string. -/
abbrev Bytes := List UInt8

namespace Utf8

/-- The bytes of a list of characters. -/
def encodeChars (chars : List Char) : Bytes := chars.flatMap String.utf8EncodeChar

/-- The bytes of a text. -/
def encode (text : String) : Bytes := encodeChars text.toList

/-- Whether a byte continues a sequence. -/
def isContinuation (b : UInt8) : Bool := 0x80 ≤ b && b ≤ 0xBF

/-- The six bits that a continuation byte carries. -/
def payload (b : UInt8) : Nat := b.toNat % 64

/-- The character with a given code in a given range, surrogates excepted. -/
def charIn (low high code : Nat) : Option Char :=
  if low ≤ code ∧ code ≤ high ∧ (code < 0xD800 ∨ 0xDFFF < code) then some (Char.ofNat code)
  else none

/-- The character that starts with `lead`, and the number of further bytes it takes; overlong
forms, surrogates and codes beyond Unicode are refused. -/
def sequence (lead : UInt8) (rest : Bytes) : Option (Char × Nat) :=
  if lead < 0x80 then some (Char.ofNat lead.toNat, 0)
  else if lead < 0xC0 then none
  else if lead < 0xE0 then
    match rest with
    | b :: _ =>
      if isContinuation b then
        (charIn 0x80 0x7FF (lead.toNat % 32 * 64 + payload b)).map (·, 1)
      else none
    | _ => none
  else if lead < 0xF0 then
    match rest with
    | b :: c :: _ =>
      if isContinuation b && isContinuation c then
        (charIn 0x800 0xFFFF ((lead.toNat % 16 * 64 + payload b) * 64 + payload c)).map (·, 2)
      else none
    | _ => none
  else if lead < 0xF8 then
    match rest with
    | b :: c :: d :: _ =>
      if isContinuation b && isContinuation c && isContinuation d then
        (charIn 0x10000 0x10FFFF
          (((lead.toNat % 8 * 64 + payload b) * 64 + payload c) * 64 + payload d)).map (·, 3)
      else none
    | _ => none
  else none

/-- Decodes after passing over the bytes that the last character has used. -/
def decodeFrom : Nat → Bytes → List (Option Char)
  | _, [] => []
  | used + 1, _ :: rest => decodeFrom used rest
  | 0, lead :: rest =>
    match sequence lead rest with
    | some (c, more) => some c :: decodeFrom more rest
    | none => none :: decodeFrom 0 rest

/-- The characters of a byte string, with a gap for every ill-formed byte. -/
def decode (bytes : Bytes) : List (Option Char) := decodeFrom 0 bytes

end Utf8

end ChainWatch
