import ChainWatch.Json.Basic

/-!
# Compact JSON text

A document is written without blanks, the members of an object in the order in which they stand.

* `Json.chars` : the characters of a value.
* `Json.text` : the same as a text.
-/

namespace ChainWatch

namespace Json

/-- The four digits of a control character's code. -/
def controlDigits (c : Char) : List Char :=
  let hex := Nat.toDigits 16 c.toNat
  List.replicate (4 - hex.length) '0' ++ hex

/-- A character inside a string: quotes, backslashes and controls are escaped. -/
def escaped (c : Char) : List Char :=
  if c = '"' then ['\\', '"']
  else if c = '\\' then ['\\', '\\']
  else if c.toNat = 0x08 then ['\\', 'b']
  else if c.toNat = 0x0C then ['\\', 'f']
  else if c = '\n' then ['\\', 'n']
  else if c = '\r' then ['\\', 'r']
  else if c = '\t' then ['\\', 't']
  else if c.toNat < 0x20 then ['\\', 'u'] ++ controlDigits c
  else [c]

/-- A text between quotes. -/
def quoted (s : String) : List Char := '"' :: s.toList.flatMap escaped ++ ['"']

/-- The digits of an integer, after a minus sign if it is negative. -/
def intChars (n : Int) : List Char :=
  if n < 0 then '-' :: Nat.toDigits 10 n.natAbs else Nat.toDigits 10 n.natAbs

mutual

/-- The characters of a value. -/
def chars : Json → List Char
  | .null => ['n', 'u', 'l', 'l']
  | .bool true => ['t', 'r', 'u', 'e']
  | .bool false => ['f', 'a', 'l', 's', 'e']
  | .int n => intChars n
  | .float x => x.chars
  | .str s => quoted s
  | .arr [] => ['[', ']']
  | .arr (item :: items) => '[' :: item.chars ++ itemChars items ++ [']']
  | .obj [] => ['{', '}']
  | .obj ((name, value) :: members) =>
    '{' :: quoted name ++ ':' :: value.chars ++ memberChars members ++ ['}']

/-- The characters of the items after the first, each behind a comma. -/
def itemChars : List Json → List Char
  | [] => []
  | item :: items => ',' :: item.chars ++ itemChars items

/-- The characters of the members after the first, each behind a comma. -/
def memberChars : List (String × Json) → List Char
  | [] => []
  | (name, value) :: members =>
    ',' :: quoted name ++ ':' :: value.chars ++ memberChars members

end

/-- The text of a value. -/
def text (j : Json) : String := String.ofList j.chars

end Json

end ChainWatch
