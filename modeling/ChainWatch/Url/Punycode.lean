/-!
# Punycode

A label with letters beyond ASCII is written in ASCII: first its ASCII characters, then the others
as the distances between them, in the order of their codes.  The distances are numbers to a
varying base, whose thresholds follow the distances seen so far.

* `Punycode.encode` : the characters behind the mark of such a label.
* `Punycode.decode` : the label that such characters stand for.
-/

namespace ChainWatch

namespace Punycode

/-- The digit of a value below thirty-six: letters first. -/
def digit (value : Nat) : Char :=
  if value < 26 then Char.ofNat ('a'.toNat + value) else Char.ofNat ('0'.toNat + (value - 26))

/-- The value of a digit, whose letters may be of either case. -/
def value? (c : Char) : Option Nat :=
  if 'a' ≤ c ∧ c ≤ 'z' then some (c.toNat - 'a'.toNat)
  else if 'A' ≤ c ∧ c ≤ 'Z' then some (c.toNat - 'A'.toNat)
  else if '0' ≤ c ∧ c ≤ '9' then some (c.toNat - '0'.toNat + 26)
  else none

/-- The threshold at a weight of a number. -/
def threshold (bias weight : Nat) : Nat := max 1 (min 26 (weight - bias))

theorem threshold_pos (bias weight : Nat) : 1 ≤ threshold bias weight := Nat.le_max_left ..

/-- The digits of a distance from a weight on. -/
def digitsFrom (bias weight distance : Nat) : List Char :=
  let t := threshold bias weight
  if distance < t then [digit distance]
  else
    digit (t + (distance - t) % (36 - t))
      :: digitsFrom bias (weight + 36) ((distance - t) / (36 - t))
termination_by distance
decreasing_by
  have ht : 1 ≤ t := threshold_pos bias weight
  exact Nat.lt_of_le_of_lt (Nat.div_le_self ..) (by omega)

/-- Divides a distance until it is small, and counts the divisions. -/
def shrink (distance : Nat) : Nat × Nat :=
  if 455 < distance then
    let (rest, count) := shrink (distance / 35)
    (rest, count + 1)
  else (distance, 0)
termination_by distance

/-- The bias behind a distance; `count` characters have been written then. -/
def adapt (distance count : Nat) (first : Bool) : Nat :=
  -- the first distance counts from the start of the codes, so it says little about the others
  let halved := if first then distance / 700 else distance / 2
  let (rest, steps) := shrink (halved + halved / count)
  36 * steps + 36 * rest / (rest + 38)

/-! ### Encoding -/

/-- How far the encoding has come. -/
structure State where
  output : List Char := []
  distance : Nat := 0
  bias : Nat := 72
  /-- The number of characters written. -/
  count : Nat

/-- Passes a character of the label while those of a code are being written. -/
def pass (basics code : Nat) (s : State) (c : Char) : State :=
  if c.toNat < code then { s with distance := s.distance + 1 }
  else if c.toNat = code then
    { output := s.output ++ digitsFrom s.bias 36 s.distance, distance := 0
      bias := adapt s.distance (s.count + 1) (s.count == basics), count := s.count + 1 }
  else s

/-- Writes the characters of ascending codes, the first of which lies beyond `reached`. -/
def writeCodes (label : List Char) (basics : Nat) : Nat → List Nat → State → State
  | _, [], s => s
  | reached, code :: codes, s =>
    let s := { s with distance := s.distance + (code - reached) * (s.count + 1) }
    let s := label.foldl (pass basics code) s
    writeCodes label basics (code + 1) codes { s with distance := s.distance + 1 }

/-- The encoding of a label. -/
def encode (label : List Char) : List Char :=
  let basics := label.filter fun c => c.toNat < 0x80
  let codes := ((label.map Char.toNat).filter (0x80 ≤ ·)).mergeSort.eraseDups
  let s := writeCodes label basics.length 0x80 codes { count := basics.length }
  (if basics.isEmpty then [] else basics ++ ['-']) ++ s.output

/-! ### Decoding -/

/-- Numbers are read as long as the weights of their digits stay below this one. -/
def weightLimit : Nat := 0x100000000

/-- Adds the number at the start of some digits to `sum`, and gives the digits behind it. -/
def readDistance (bias : Nat) : Nat → Nat → Nat → List Char → Option (Nat × List Char)
  | _, _, _, [] => none
  | place, weight, sum, c :: rest =>
    match value? c with
    | none => none
    | some value =>
      let t := threshold bias place
      if value < t then some (sum + value * weight, rest)
      else if weightLimit ≤ weight * (36 - t) then none
      else readDistance bias (place + 36) (weight * (36 - t)) (sum + value * weight) rest

theorem length_of_readDistance {bias place weight sum : Nat} {digits : List Char}
    {r : Nat × List Char} (h : readDistance bias place weight sum digits = some r) :
    r.2.length < digits.length := by
  fun_induction readDistance bias place weight sum digits with
  | case1 | case2 | case4 => simp at h
  | case3 =>
    cases Option.some.inj h
    simp
  | case5 _ _ _ c rest _ _ _ _ _ ih =>
    have := ih h
    simp only [List.length_cons]
    omega

/-- The character of a code, surrogates and codes beyond Unicode excepted. -/
def charOf (code : Nat) : Option Char :=
  if h : code.isValidChar then some (Char.ofNatAux code h) else none

/-- Puts characters into a label, whose ascending codes go on from `code`; `place` is where the
count of the distances stands. -/
def insertFrom (bias code place : Nat) (label : List Char) : List Char → Option (List Char)
  | [] => some label
  | c :: rest =>
    match _ : readDistance bias 36 1 place (c :: rest) with
    | none => none
    | some (sum, left) =>
      let count := label.length + 1
      match charOf (code + sum / count) with
      | none => none
      | some inserted =>
        insertFrom (adapt (sum - place) count (place == 0)) (code + sum / count) (sum % count + 1)
          (label.insertIdx (sum % count) inserted) left
termination_by digits => digits.length
decreasing_by exact length_of_readDistance (by assumption)

/-- The label that characters behind the mark stand for.  The last hyphen ends the ASCII characters;
one that ends nothing is no digit either. -/
def decode (chars : List Char) : Option (List Char) :=
  let digits := (chars.reverse.takeWhile (· != '-')).reverse
  let basics := chars.take (chars.length - digits.length)
  if basics.length = 1 then none
  else insertFrom 72 0x80 0 (basics.dropLast.map Char.toLower) digits

end Punycode

end ChainWatch
