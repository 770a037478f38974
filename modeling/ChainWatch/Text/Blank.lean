/-!
# Blanks

Characters that stand for empty room: the blank, tabs and line ends, and the spaces of other widths.

* `isBlank` : whether a character is one of them.
* `dropBlanks` : a text from its first other character on.
-/

namespace ChainWatch

/-- The codes of the blanks beyond ASCII. -/
def wideBlanks : List (Nat × Nat) :=
  [(0x85, 0x85), (0xA0, 0xA0), (0x1680, 0x1680), (0x2000, 0x200A), (0x2028, 0x2029),
   (0x202F, 0x202F), (0x205F, 0x205F), (0x3000, 0x3000)]

/-- Whether a character is a blank. -/
def isBlank (c : Char) : Bool :=
  c == ' ' || (9 ≤ c.toNat && c.toNat ≤ 13)
    || wideBlanks.any fun (first, last) => first ≤ c.toNat && c.toNat ≤ last

/-- A text without the blanks at its start. -/
def dropBlanks (chars : List Char) : List Char := chars.dropWhile isBlank

end ChainWatch
