import ChainWatch.Text.CombiningClass
import ChainWatch.Text.Composite

/-!
# Composed text

The same letter with marks can be written in several ways.  In composed text the marks stand in the
order of their places, and a letter and a mark that have a code in common are written by it.

* `decomposed` : a text in letters and single marks.
* `ordered` : its marks in the order of their places.
* `composed` : the composed form of a text.
-/

namespace ChainWatch

/-- A character in its parts, taken apart at most `depth` times; no character needs more than
three. -/
def decomposedChar : Nat → Char → List Char
  | 0, c => [c]
  | depth + 1, c =>
    match parts? c with
    | some (letter, mark) => decomposedChar depth letter ++ [mark]
    | none => [c]

/-- A text in letters and single marks. -/
def decomposed (chars : List Char) : List Char := chars.flatMap (decomposedChar 3)

/-- Adds a character to a text given from its end: a mark passes the marks of higher places. -/
def settle (ending : List Char) (c : Char) : List Char :=
  match ending with
  | [] => [c]
  | last :: rest =>
    if combiningClass c ≠ 0 ∧ combiningClass c < combiningClass last then last :: settle rest c
    else c :: last :: rest

/-- A text with its marks in the order of their places. -/
def ordered (chars : List Char) : List Char := (chars.foldl settle []).reverse

/-- Composes what follows a letter.  The marks between, given from their end, do not go with the
letter, and hide it from what has no higher place than they. -/
def composeBehind (letter : Char) (between : List Char) : List Char → List Char
  | [] => letter :: between.reverse
  | c :: rest =>
    let isHidden := between.head?.any fun last => combiningClass c ≤ combiningClass last
    match if isHidden then none else composite? letter c with
    | some whole => composeBehind whole between rest
    | none =>
      if combiningClass c = 0 then letter :: between.reverse ++ composeBehind c [] rest
      else composeBehind letter (c :: between) rest

/-- Composes an ordered text; marks at its start have no letter to go with. -/
def composeOrdered : List Char → List Char
  | [] => []
  | c :: rest => if combiningClass c = 0 then composeBehind c [] rest else c :: composeOrdered rest

/-- The composed form of a text. -/
def composed (chars : List Char) : List Char := composeOrdered (ordered (decomposed chars))

end ChainWatch
