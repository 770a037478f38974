import ChainWatch.Text.Invisible

/-!
# Quoted text in messages

A text or a character that a message quotes is written so that the reader sees what is there:
controls and other invisible characters appear by their codes.

* `Quoted.text` : a text between double quotes.
* `Quoted.char` : a character between single quotes.
-/

namespace ChainWatch

namespace Quoted

/-- A backslash, `u` and the code in braces. -/
def code (c : Char) : List Char :=
  ['\\', 'u', '{'] ++ Nat.toDigits 16 c.toNat ++ ['}']

/-- One character inside quotes of kind `mark`. -/
def escaped (mark c : Char) : List Char :=
  if c = mark ∨ c = '\\' then ['\\', c]
  else if c = '\n' then ['\\', 'n']
  else if c = '\r' then ['\\', 'r']
  else if c = '\t' then ['\\', 't']
  else if c.toNat = 0 then ['\\', '0']
  else if isInvisible c then code c
  else [c]

/-- A text between double quotes. -/
def text (s : String) : String :=
  String.ofList ('"' :: s.toList.flatMap (escaped '"') ++ ['"'])

/-- A character between single quotes. -/
def char (c : Char) : String :=
  String.ofList ('\'' :: escaped '\'' c ++ ['\''])

end Quoted

end ChainWatch
