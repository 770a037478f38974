import ChainWatch.Json.Literal
import ChainWatch.Text.Hex

/-!
# JSON text as a tree

Reading has two stages.  The first, here, turns text into a tree that keeps everything a reader
may care about: the order of members, repeated names, and the place where the text stops being
JSON.  A `Raw.broken` node stands at that place and nothing follows it.  The second stage reads
the tree from left to right and reports the first fault that it meets, whether the text is broken
there or the value is not the wanted one.

* `Raw` : the trees.
* `Raw.value` : the tree at the start of a text, with the rest of the text unless it is broken.
* `Raw.document` : the tree of a whole text.
* `Raw.isSound` : whether a tree holds no broken place.
-/

namespace ChainWatch

/-- The tree of a JSON text. -/
inductive Raw
  | null
  | bool (value : Bool)
  /-- A number, or a literal too large for a double. -/
  | number (value : Option Json)
  /-- A text, or a string that is no text: an unpaired surrogate or an ill-formed byte. -/
  | text (value : Option String)
  | list (items : List Raw)
  | record (members : List (Option String × Raw))
  /-- Here the text stops being JSON. -/
  | broken
  deriving Repr, Inhabited

namespace Raw

/-- A character, or a gap for an ill-formed byte. -/
abbrev Symbol := Option Char

/-- Whether a symbol is a blank between values. -/
def isBlank : Symbol → Bool
  | some c => c == ' ' || c == '\n' || c == '\t' || c == '\r'
  | none => false

/-- The text after its leading blanks. -/
def skipBlanks (s : List Symbol) : List Symbol := s.dropWhile isBlank

/-- The rest of a text that starts with a word. -/
def afterWord : List Char → List Symbol → Option (List Symbol)
  | [], s => some s
  | c :: word, some d :: s => if c = d then afterWord word s else none
  | _ :: _, _ => none

/-! ### Strings -/

/-- What a string is made of before escapes are paired. -/
inductive Piece
  | char (c : Char)
  /-- An escaped code, possibly half of a pair. -/
  | unit (code : Nat)
  /-- An ill-formed byte. -/
  | gap
  deriving Repr

/-- The code of four hexadecimal digits. -/
def unitOf (a b c d : Symbol) : Option Nat :=
  match a.bind (Hex.value? ·.toNat), b.bind (Hex.value? ·.toNat), c.bind (Hex.value? ·.toNat),
    d.bind (Hex.value? ·.toNat) with
  | some a, some b, some c, some d => some (((a * 16 + b) * 16 + c) * 16 + d)
  | _, _, _, _ => none

/-- The character that a one-letter escape stands for. -/
def simpleEscape (c : Char) : Option Char :=
  if c = '"' ∨ c = '\\' ∨ c = '/' then some c
  else if c = 'b' then some (Char.ofNat 0x08)
  else if c = 'f' then some (Char.ofNat 0x0C)
  else if c = 'n' then some '\n'
  else if c = 'r' then some '\r'
  else if c = 't' then some '\t'
  else none

/-- The pieces up to the closing quote, and the text behind it; `none` if the string is not closed
or holds a bare control character or an unknown escape. -/
def pieces : List Symbol → Option (List Piece × List Symbol)
  | some '"' :: rest => some ([], rest)
  | some '\\' :: some 'u' :: a :: b :: c :: d :: rest =>
    match unitOf a b c d with
    | some code => (pieces rest).map fun (ps, s) => (.unit code :: ps, s)
    | none => none
  | some '\\' :: some e :: rest =>
    match simpleEscape e with
    | some c => (pieces rest).map fun (ps, s) => (.char c :: ps, s)
    | none => none
  | some '\\' :: _ => none
  | some c :: rest =>
    if c.toNat < 0x20 then none else (pieces rest).map fun (ps, s) => (.char c :: ps, s)
  | none :: rest => (pieces rest).map fun (ps, s) => (.gap :: ps, s)
  | [] => none

/-- The characters of a string: a high surrogate needs a low one right behind it, and together
they are one character. -/
def assemble : List Piece → Option (List Char)
  | [] => some []
  | .char c :: rest => (assemble rest).map (c :: ·)
  | .gap :: _ => none
  | .unit code :: rest =>
    -- a code that is no surrogate is a character by itself
    if code < 0xD800 ∨ 0xDFFF < code then (assemble rest).map (Char.ofNat code :: ·)
    else
      match rest with
      | .unit low :: rest =>
        if code < 0xDC00 ∧ 0xDC00 ≤ low ∧ low ≤ 0xDFFF then
          (assemble rest).map
            (Char.ofNat (0x10000 + (code - 0xD800) * 0x400 + (low - 0xDC00)) :: ·)
        else none
      | _ => none

/-- The text of a string's pieces. -/
def textOf (ps : List Piece) : Option String := (assemble ps).map String.ofList

/-! ### Numbers -/

/-- The digits at the start of a text. -/
def digits : List Symbol → List Nat × List Symbol
  | some c :: rest =>
    match digitValue c with
    | some d => let (ds, s) := digits rest; (d :: ds, s)
    | none => ([], some c :: rest)
  | s => ([], s)

/-- The whole part of a literal: a zero alone, or digits that start with another. -/
def wholePart (s : List Symbol) : Option (List Nat × List Symbol) :=
  match digits s with
  | ([], _) => none
  -- a zero in front of other digits
  | (0 :: _ :: _, _) => none
  | found => some found

/-- The fraction of a literal, if there is one. -/
def fractionPart (s : List Symbol) : Option (List Nat × List Symbol) :=
  match s with
  | some '.' :: rest =>
    match digits rest with
    | ([], _) => none
    | found => some found
  | _ => some ([], s)

/-- The value of a list of decimal digits. -/
def ofDigits (ds : List Nat) : Nat := ds.foldl (fun n d => n * 10 + d) 0

/-- The exponent of a literal, if there is one. -/
def exponentPart (s : List Symbol) : Option (Option Int × List Symbol) :=
  let signed (negative : Bool) (s : List Symbol) : Option (Option Int × List Symbol) :=
    match digits s with
    | ([], _) => none
    | (ds, rest) =>
      some (some (if negative then -(ofDigits ds : Int) else ofDigits ds), rest)
  match s with
  | some 'e' :: some '+' :: rest | some 'E' :: some '+' :: rest => signed false rest
  | some 'e' :: some '-' :: rest | some 'E' :: some '-' :: rest => signed true rest
  | some 'e' :: rest | some 'E' :: rest => signed false rest
  | _ => some (none, s)

/-- The number literal at the start of a text. -/
def literal (s : List Symbol) : Option (Json.Literal × List Symbol) := do
  let (negative, s) := match s with
    | some '-' :: rest => (true, rest)
    | _ => (false, s)
  let (whole, s) ← wholePart s
  let (fraction, s) ← fractionPart s
  let (exponent, s) ← exponentPart s
  return (⟨negative, whole, fraction, exponent⟩, s)

/-! ### Values -/

mutual

/-- The tree at the start of a text, after blanks, with the rest of the text unless it is broken.
The fuel bounds the nesting and the number of items; twice the length of the text is enough. -/
def value : Nat → List Symbol → Raw × Option (List Symbol)
  | 0, _ => (.broken, none)
  | fuel + 1, s =>
    match skipBlanks s with
    | some 'n' :: rest => word ['u', 'l', 'l'] .null rest
    | some 't' :: rest => word ['r', 'u', 'e'] (.bool true) rest
    | some 'f' :: rest => word ['a', 'l', 's', 'e'] (.bool false) rest
    | some '"' :: rest =>
      match pieces rest with
      | some (ps, rest) => (.text (textOf ps), some rest)
      | none => (.broken, none)
    | some '[' :: rest =>
      match skipBlanks rest with
      | some ']' :: rest => (.list [], some rest)
      | rest => let (items, s) := items fuel rest; (.list items, s)
    | some '{' :: rest =>
      match skipBlanks rest with
      | some '}' :: rest => (.record [], some rest)
      | rest => let (members, s) := members fuel rest; (.record members, s)
    | rest =>
      match literal rest with
      | some (l, rest) => (.number l.value, some rest)
      | none => (.broken, none)

/-- The rest of a word whose first letter is read. -/
def word (letters : List Char) (tree : Raw) (s : List Symbol) : Raw × Option (List Symbol) :=
  match afterWord letters s with
  | some rest => (tree, some rest)
  | none => (.broken, none)

/-- The items of a list from the start of one of them. -/
def items : Nat → List Symbol → List Raw × Option (List Symbol)
  | 0, _ => ([.broken], none)
  | fuel + 1, s =>
    match value fuel s with
    | (item, none) => ([item], none)
    | (item, some s) =>
      match skipBlanks s with
      | some ']' :: rest => ([item], some rest)
      | some ',' :: rest => let (more, s) := items fuel rest; (item :: more, s)
      | _ => ([item, .broken], none)

/-- The members of an object from the start of a name. -/
def members : Nat → List Symbol → List (Option String × Raw) × Option (List Symbol)
  | 0, _ => ([(none, .broken)], none)
  | fuel + 1, s =>
    match skipBlanks s with
    | some '"' :: rest =>
      match pieces rest with
      | none => ([(none, .broken)], none)
      | some (name, rest) =>
        match skipBlanks rest with
        | some ':' :: rest =>
          match value fuel rest with
          | (tree, none) => ([(textOf name, tree)], none)
          | (tree, some s) =>
            match skipBlanks s with
            | some ',' :: rest =>
              let (more, s) := members fuel rest
              ((textOf name, tree) :: more, s)
            | some '}' :: rest => ([(textOf name, tree)], some rest)
            | _ => ([(textOf name, tree), (none, .broken)], none)
        | _ => ([(textOf name, .broken)], none)
    | _ => ([(none, .broken)], none)

end

mutual

/-- Whether a tree holds no broken place. -/
def isSound : Raw → Bool
  | .broken => false
  | .list items => soundItems items
  | .record members => soundMembers members
  | _ => true

/-- Whether no item holds a broken place. -/
def soundItems : List Raw → Bool
  | [] => true
  | item :: items => item.isSound && soundItems items

/-- Whether no member holds a broken place. -/
def soundMembers : List (Option String × Raw) → Bool
  | [] => true
  | (_, tree) :: members => tree.isSound && soundMembers members

end

/-- The tree of a whole text, and whether nothing but blanks follows it. -/
def document (bytes : Bytes) : Raw × Bool :=
  let symbols := Utf8.decode bytes
  match value (2 * symbols.length + 2) symbols with
  | (tree, none) => (tree, false)
  | (tree, some rest) => (tree, (skipBlanks rest).isEmpty)

end Raw

end ChainWatch
