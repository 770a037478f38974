import ChainWatch.Text.Composed
import ChainWatch.Text.Direction
import ChainWatch.Text.Joining
import ChainWatch.Text.Mark
import ChainWatch.Url.Domain.Mapping
import ChainWatch.Url.Punycode
import ChainWatch.Url.Reserved

/-!
# Labels of domain names

A label in letters beyond ASCII is written in ASCII behind a mark.  Not every text is a label: its
letters have to look the same to everybody who reads it.

* `Label` : a label and its written form.
* `Label.ofPiece?` : the labels of a piece of a name.
* `Label.runsOneWay` : whether a label can stand beside letters that are written from the right.
-/

namespace ChainWatch

/-- Whether all of a text is ASCII. -/
def isAscii (chars : List Char) : Bool := chars.all (·.toNat < 0x80)

/-- A label of a domain name. -/
structure Label where
  /-- The label in letters. -/
  chars : List Char
  /-- The label in ASCII. -/
  written : List Char
  deriving DecidableEq, Repr

namespace Label

/-! ### Joiners -/

/-- The character that keeps two letters apart. -/
def nonJoiner : Char := Char.ofNat 0x200C

/-- The character that joins two letters. -/
def joiner : Char := Char.ofNat 0x200D

/-- Whether the first character of a text that takes part in joining joins from one of some
sides. -/
def joinsFrom (sides : List Joining) (chars : List Char) : Bool :=
  match (chars.map joining?).dropWhile (· == some .transparent) with
  | some side :: _ => sides.contains side
  | _ => false

/-- Whether a joiner shows between the characters `before`, given from their end, and those
`behind`: at a letter without its vowel, or where it keeps letters from joining each other. -/
def showsJoiner (c : Char) (before behind : List Char) : Bool :=
  before.head?.any (combiningClass · == 9)
    || (c == nonJoiner && joinsFrom [.left, .dual] before && joinsFrom [.right, .dual] behind)

/-- Whether every joiner shows; `before` are the characters before the text, from their end. -/
def showsJoiners (before : List Char) : List Char → Bool
  | [] => true
  | c :: rest =>
    ((c != nonJoiner && c != joiner) || showsJoiner c before rest) && showsJoiners (c :: before) rest

/-! ### Labels in letters and in ASCII -/

/-- The greatest length of a label with letters beyond ASCII. -/
def longest : Nat := 1000

/-- The greatest number of characters that are read behind the mark. -/
def longestWritten : Nat := 2000

/-- Whether a text is a label by itself: it needs a letter for its marks and its joiners. -/
def isValid (chars : List Char) : Bool :=
  isAscii chars
    || (!chars.head?.any isMark && showsJoiners [] chars && chars.length ≤ longest)

/-- The mark of a label with letters beyond ASCII. -/
def mark : List Char := ['x', 'n', '-', '-']

/-- The text behind the mark, if a text starts with it. -/
def markedPart? : List Char → Option (List Char)
  | 'x' :: 'n' :: '-' :: '-' :: rest => some rest
  | _ => none

/-- Whether nothing of a text would be mapped, composed or refused. -/
def isSettled (chars : List Char) : Bool :=
  Mapping.text chars == some chars && composed chars == chars
    && !chars.any fun c => isForbiddenInDomain c || c == '.'

/-- The label in letters for what is written behind the mark. -/
def read? (digits : List Char) : Option (List Char) := do
  if digits.isEmpty ∨ digits.getLast? = some '-' ∨ longestWritten < digits.length then none
  let chars ← Punycode.decode digits
  if isSettled chars ∧ isValid chars then some chars else none

/-- The label for mapped and composed characters. -/
def ofChars? (chars : List Char) : Option Label := do
  match markedPart? chars with
  | some digits =>
    if isAscii digits then
      let chars ← read? digits
      return ⟨chars, mark ++ Punycode.encode chars⟩
    else none
  | none =>
    if isValid chars then
      some ⟨chars, if isAscii chars then chars else mark ++ Punycode.encode chars⟩
    else none

/-- The labels of a piece between dots.  Some characters stand for further dots. -/
def ofPiece? (piece : List Char) : Option (List Label) := do
  if isAscii piece then
    let lower := piece.map Char.toLower
    if lower.any isForbiddenInDomain then none
    match markedPart? lower with
    | some digits => return [⟨← read? digits, lower⟩]
    | none => return [⟨lower, lower⟩]
  else
    let chars := composed (← Mapping.text piece)
    if chars.any isForbiddenInDomain then none
    (chars.splitOn '.').mapM ofChars?

/-! ### Directions -/

/-- Whether a label has letters or digits that are written from the right. -/
def turns (label : Label) : Bool :=
  -- there are none before the letters of Hebrew
  label.chars.any fun c => 0x590 ≤ c.toNat && [.right, .arabicNumber].contains (direction c)

/-- Whether the directions of a label leave no doubt how it is read: it starts with a letter, holds
letters of one direction and numbers of one kind, and ends with one of these, marks aside. -/
def runsOneWay (label : Label) : Bool :=
  let directions := label.chars.map direction
  let ending := (directions.reverse.dropWhile (· == .mark)).head?
  match directions with
  | [] => true
  | .left :: rest =>
    rest.all [.left, .europeanNumber, .neutral, .mark].contains
      && ending.any [.left, .europeanNumber].contains
  | .right :: rest =>
    rest.all [.right, .arabicNumber, .europeanNumber, .neutral, .mark].contains
      && ending.any [.right, .arabicNumber, .europeanNumber].contains
      && !(rest.contains .arabicNumber && rest.contains .europeanNumber)
  | _ => false

end Label

end ChainWatch
