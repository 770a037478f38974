import ChainWatch.Text.Hex

/-!
# Numeric hosts

* `Ipv4.parse?`, `Ipv4.chars` : four bytes; a number may stand for several of the last ones, and
  may be octal or hexadecimal.
* `Ipv6.parse?`, `Ipv6.chars` : eight groups of sixteen bits, of which a run of zeros is left out.
-/

namespace ChainWatch

/-- The number of a list of digits in a base up to sixteen; nothing is zero. -/
def readBase (base : Nat) (digits : List Char) : Option Nat :=
  digits.foldl (fun value c => do
    let d ← Hex.value? c.toNat
    if d < base then return (← value) * base + d else none) (some 0)

namespace Ipv4

/-- A part of an address: octal behind a zero, hexadecimal behind `0x`, decimal otherwise. -/
def part? : List Char → Option Nat
  | [] => none
  | '0' :: 'x' :: digits | '0' :: 'X' :: digits => readBase 16 digits
  | '0' :: digit :: digits => readBase 8 (digit :: digits)
  | digits => readBase 10 digits

/-- The parts of a host; a point at its end counts for nothing. -/
def parts (host : List Char) : List (List Char) :=
  let parts := host.splitOn '.'
  if parts.getLast? = some [] ∧ 1 < parts.length then parts.dropLast else parts

/-- Whether the last part of a host is a number, so that the host has to be an address. -/
def isMeant (host : List Char) : Bool :=
  match (parts host).getLast? with
  | some last => (!last.isEmpty && last.all Char.isDigit) || (part? last).isSome
  | none => false

/-- The number that the parts denote: every part but the last is a byte, and the last one fills
the rest. -/
def combine : Nat → List Nat → Option Nat
  | 0, _ => none
  | room, [last] => if last < Nat.pow 256 room then some last else none
  | room + 1, byte :: rest =>
    if byte < 256 then (combine room rest).map (byte * Nat.pow 256 room + ·) else none
  | _, _ => none

/-- The address of a host as a number. -/
def parse? (host : List Char) : Option Nat := do
  combine 4 (← (parts host).mapM part?)

/-- The four bytes of an address, joined by points. -/
def chars (address : Nat) : List Char :=
  let byte (place : Nat) := Nat.toDigits 10 (address / Nat.pow 256 place % 256)
  byte 3 ++ '.' :: byte 2 ++ '.' :: byte 1 ++ '.' :: byte 0

/-- A byte in decimal without needless zeros. -/
def byte? (digits : List Char) : Option Nat := do
  let n ← readBase 10 digits
  if digits.isEmpty ∨ (digits.head? = some '0' ∧ digits ≠ ['0']) ∨ 255 < n then none else n

end Ipv4

namespace Ipv6

/-- The two groups of an address of four bytes at the end. -/
def tailGroups (tail : List Char) : Option (List Nat) := do
  match ← (tail.splitOn '.').mapM Ipv4.byte? with
  | [a, b, c, d] => return [a * 256 + b, c * 256 + d]
  | _ => none

/-- The groups at the start of a text, `none` standing for the run that is left out.  There are at
most `room` of them, and at most one run. -/
def groups : Nat → Bool → List Char → Option (List (Option Nat))
  | _, _, [] => some []
  | 0, _, _ :: _ => none
  | room + 1, seen, ':' :: rest => if seen then none else (groups room true rest).map (none :: ·)
  | room + 1, seen, chars => do
    let digits := (chars.take 4).takeWhile fun c => (Hex.value? c.toNat).isSome
    let group ← readBase 16 digits
    match chars.drop digits.length with
    | [] => some [some group]
    -- an address of four bytes fills the room of two groups
    | '.' :: _ =>
      if digits.isEmpty ∨ room = 0 then none else (← tailGroups chars).map some
    | ':' :: c :: rest => return some group :: (← groups room seen (c :: rest))
    | _ => none

/-- The eight groups, the run of zeros put in. -/
def expand (groups : List (Option Nat)) : Option (List Nat) :=
  let front := groups.takeWhile Option.isSome
  match groups.drop front.length with
  | [] => if groups.length = 8 then some (groups.filterMap id) else none
  | _ :: back =>
    some (front.filterMap id ++ List.replicate (8 - (front.length + back.length)) 0
      ++ back.filterMap id)

/-- The groups of an address without its brackets. -/
def parse? (chars : List Char) : Option (List Nat) := do
  match chars with
  | ':' :: ':' :: rest => expand (none :: (← groups 7 true rest))
  | ':' :: _ => none
  | [_] | [] => none
  | chars => expand (← groups 8 false chars)

/-- The length of the run of zeros at the start of a list. -/
def zeros (groups : List Nat) : Nat := (groups.takeWhile (· == 0)).length

/-- Where the longest run of at least two zeros starts, and its length; the first one of several. -/
def longestRun (groups : List Nat) : Option (Nat × Nat) :=
  ((List.range groups.length).map fun start => (start, zeros (groups.drop start))).foldl
    (fun best (start, length) =>
      if 2 ≤ length ∧ (best.map (·.2)).getD 0 < length then some (start, length) else best)
    none

/-- Groups in hexadecimal, joined by colons. -/
def joined (groups : List Nat) : List Char :=
  ((groups.map (Nat.toDigits 16)).intersperse [':']).flatten

/-- The address in brackets. -/
def chars (groups : List Nat) : List Char :=
  let inner := match longestRun groups with
    | some (start, length) =>
      joined (groups.take start) ++ ':' :: ':' :: joined (groups.drop (start + length))
    | none => joined groups
  '[' :: inner ++ [']']

end Ipv6

end ChainWatch
