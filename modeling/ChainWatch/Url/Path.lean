/-!
# Path segments

A segment of one dot is passed over, and one of two dots takes the segment before it away; either
leaves an empty segment if it stands at the end.  A drive, a letter with a colon or a bar, is never
taken away, and at the start of a path of a file it is written with a colon.

* `isDrive` : whether a text names a drive.
* `resolveDots` : the segments of a path without such dots.
-/

namespace ChainWatch

/-- A dot, written as it is or by its code. -/
def isDot (chars : List Char) : Bool :=
  chars == ['.'] || chars.map Char.toLower == ['%', '2', 'e']

/-- Two dots, each written as it is or by its code. -/
def isDoubleDot : List Char → Bool
  | '.' :: rest => isDot rest
  | '%' :: '2' :: e :: rest => e.toLower == 'e' && isDot rest
  | _ => false

/-- Whether a text starts with a drive; a backslash may follow. -/
def startsWithDrive : List Char → Bool
  | letter :: sign :: rest =>
    letter.isAlpha && (sign == ':' || sign == '|') && (rest.isEmpty || rest.head? == some '\\')
  | _ => false

/-- Whether a text names a drive. -/
def isDrive (chars : List Char) : Bool := startsWithDrive chars && chars.length == 2

/-- Segments without the last one, unless that is a drive. -/
def dropSegment (done : List (List Char)) : List (List Char) :=
  if done.getLast?.any startsWithDrive then done else done.dropLast

/-- Segments with one more; in a path of a file, a drive that comes first gets a colon. -/
def addSegment (ofFile : Bool) (done : List (List Char)) (segment : List Char) :
    List (List Char) :=
  if ofFile ∧ done.isEmpty ∧ isDrive segment then [segment.take 1 ++ [':']] else done ++ [segment]

/-- The segments of a path behind those that are `done`. -/
def resolveDots (ofFile : Bool) (done : List (List Char)) : List (List Char) → List (List Char)
  | [] => done
  | [last] =>
    if isDoubleDot last then dropSegment done ++ [[]]
    else if isDot last then done ++ [[]]
    else addSegment ofFile done last
  | segment :: rest =>
    if isDoubleDot segment then resolveDots ofFile (dropSegment done) rest
    else if isDot segment then resolveDots ofFile done rest
    else resolveDots ofFile (addSegment ofFile done segment) rest

end ChainWatch
