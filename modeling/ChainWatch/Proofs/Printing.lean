import ChainWatch.Json.Reader
import ChainWatch.Proofs.Encoding
import ChainWatch.Proofs.Numerals
import Mathlib.Tactic.IntervalCases

/-!
# Documents that are written and read

A document without doubles is read back from its text.  The text is first read as a tree, which
keeps members in the order in which they were written, and the tree as a document, in which they are
in the order of their names.

* `Json.All` : a property of a value and of all values inside it.
* `Raw.pieces_quoted`, `Raw.literal_intChars` : texts and integers.
* `Raw.value_chars` : the tree of what is written, with whatever follows it.
* `Raw.document_text` : the tree of a whole text.
* `Json.toJson_toRaw` : the document of a tree.
-/

namespace ChainWatch

namespace Json

/-! ### Properties of documents -/

mutual

/-- Whether a value and all values inside it have a property. -/
def All (p : Json → Prop) : Json → Prop
  | .arr items => p (.arr items) ∧ AllItems p items
  | .obj members => p (.obj members) ∧ AllMembers p members
  | j => p j

/-- Whether some values and all values inside them have a property. -/
def AllItems (p : Json → Prop) : List Json → Prop
  | [] => True
  | item :: items => All p item ∧ AllItems p items

/-- Whether the values of some members and all values inside them have a property. -/
def AllMembers (p : Json → Prop) : List (String × Json) → Prop
  | [] => True
  | (_, value) :: members => All p value ∧ AllMembers p members

end

mutual

theorem All.zip {p q r : Json → Prop} (h : ∀ j, p j → q j → r j) :
    (j : Json) → j.All p → j.All q → j.All r
  | .arr items, hp, hq => ⟨h _ hp.1 hq.1, AllItems.zip h items hp.2 hq.2⟩
  | .obj members, hp, hq => ⟨h _ hp.1 hq.1, AllMembers.zip h members hp.2 hq.2⟩
  | .null, hp, hq | .bool _, hp, hq | .int _, hp, hq | .float _, hp, hq | .str _, hp, hq =>
    h _ hp hq

theorem AllItems.zip {p q r : Json → Prop} (h : ∀ j, p j → q j → r j) :
    (items : List Json) → AllItems p items → AllItems q items → AllItems r items
  | [], _, _ => trivial
  | item :: items, hp, hq => ⟨All.zip h item hp.1 hq.1, AllItems.zip h items hp.2 hq.2⟩

theorem AllMembers.zip {p q r : Json → Prop} (h : ∀ j, p j → q j → r j) :
    (members : List (String × Json)) → AllMembers p members → AllMembers q members →
      AllMembers r members
  | [], _, _ => trivial
  | (_, value) :: members, hp, hq =>
    ⟨All.zip h value hp.1 hq.1, AllMembers.zip h members hp.2 hq.2⟩

end

theorem allItems_iff {p : Json → Prop} {items : List Json} :
    AllItems p items ↔ ∀ item ∈ items, item.All p := by
  induction items with
  | nil => simp [AllItems]
  | cons item items ih => simp [AllItems, ih]

/-- An integer of 64 bits, signed or unsigned. -/
def InRange (n : Int) : Prop := -0x8000000000000000 ≤ n ∧ n ≤ maxUnsigned

theorem inRange_nat {n : Nat} (h : n ≤ maxUnsigned) : InRange n :=
  ⟨by omega, Int.ofNat_le.2 h⟩

/-- No double, and no integer out of range. -/
def Exact : Json → Prop
  | .int n => InRange n
  | .float _ => False
  | _ => True

/-- No object, unless its members are in ascending order of their names. -/
def Ordered : Json → Prop
  | .obj members => members.Pairwise fun m m' => compare m.1 m'.1 = .lt
  | _ => True

/-! ### Texts -/

theorem controlDigits_eq {c : Char} (h : c.toNat < 0x20) :
    controlDigits c = ['0', '0', Hex.digit (c.toNat / 16), Hex.digit (c.toNat % 16)] := by
  have hdigits : ∀ n < 0x20, List.replicate (4 - (Nat.toDigits 16 n).length) '0' ++
      Nat.toDigits 16 n = ['0', '0', Hex.digit (n / 16), Hex.digit (n % 16)] := by decide
  exact hdigits c.toNat h

/-- A character is written with a one-letter escape, with its code, or as it is. -/
theorem escaped_cases (c : Char) :
    (∃ e, escaped c = ['\\', e] ∧ e ≠ 'u' ∧ Raw.simpleEscape e = some c) ∨
      (escaped c = '\\' :: 'u' :: controlDigits c ∧ c.toNat < 0x20) ∨
      (escaped c = [c] ∧ c ≠ '"' ∧ c ≠ '\\' ∧ ¬c.toNat < 0x20) := by
  by_cases hquote : c = '"'
  · exact .inl ⟨'"', by simp [escaped, hquote], by decide, by rw [hquote]; rfl⟩
  by_cases hslash : c = '\\'
  · exact .inl ⟨'\\', by simp [escaped, hslash], by decide, by rw [hslash]; rfl⟩
  by_cases hback : c.toNat = 0x08
  · obtain rfl : c = Char.ofNat 0x08 := Char.toNat_inj.1 hback
    exact .inl ⟨'b', rfl, by decide, rfl⟩
  by_cases hfeed : c.toNat = 0x0C
  · obtain rfl : c = Char.ofNat 0x0C := Char.toNat_inj.1 hfeed
    exact .inl ⟨'f', rfl, by decide, rfl⟩
  by_cases hline : c = '\n'
  · exact .inl ⟨'n', by simp [escaped, hline], by decide, by rw [hline]; rfl⟩
  by_cases hreturn : c = '\r'
  · exact .inl ⟨'r', by simp [escaped, hreturn], by decide, by rw [hreturn]; rfl⟩
  by_cases htab : c = '\t'
  · exact .inl ⟨'t', by simp [escaped, htab], by decide, by rw [htab]; rfl⟩
  right
  simp only [escaped, if_neg hquote, if_neg hslash, if_neg hback, if_neg hfeed, if_neg hline,
    if_neg hreturn, if_neg htab]
  by_cases hcontrol : c.toNat < 0x20
  · rw [if_pos hcontrol]
    exact .inl ⟨rfl, hcontrol⟩
  · rw [if_neg hcontrol]
    exact .inr ⟨rfl, hquote, hslash, hcontrol⟩

end Json

namespace Raw

theorem unitOf_controlDigits {n : Nat} (h : n < 0x20) :
    unitOf (some '0') (some '0') (some (Hex.digit (n / 16))) (some (Hex.digit (n % 16))) =
      some n := by
  have hzero : Hex.value? '0'.toNat = some 0 := rfl
  simp only [unitOf, Option.bind_some, hzero, Hex.value?_digit (show n / 16 < 16 by omega),
    Hex.value?_digit (show n % 16 < 16 by omega), Option.some.injEq]
  omega

/-- A character is read back from what it is written as inside a string. -/
theorem pieces_escaped (c : Char) (rest : List Symbol) :
    ∃ p, pieces ((Json.escaped c).map some ++ rest) =
        (pieces rest).map (fun (ps, s) => (p :: ps, s)) ∧
      ∀ ps, assemble (p :: ps) = (assemble ps).map (c :: ·) := by
  rcases Json.escaped_cases c with ⟨e, hwritten, hunit, hescape⟩ | ⟨hwritten, hcontrol⟩ |
    ⟨hwritten, hquote, hslash, hcontrol⟩
  · refine ⟨.char c, ?_, fun _ => rfl⟩
    simp only [hwritten, List.map_cons, List.map_nil, List.cons_append, List.nil_append]
    rw [pieces, hescape]
    simp [hunit]
  · refine ⟨.unit c.toNat, ?_, fun ps => ?_⟩
    · simp only [hwritten, Json.controlDigits_eq hcontrol, List.map_cons, List.map_nil,
        List.cons_append, List.nil_append, pieces, unitOf_controlDigits hcontrol]
    · rw [assemble.eq_def]
      simp only
      rw [if_pos (by omega), Char.ofNat_toNat]
  · refine ⟨.char c, ?_, fun _ => rfl⟩
    simp only [hwritten, List.map_cons, List.map_nil, List.cons_append, List.nil_append]
    rw [pieces, if_neg hcontrol] <;> simp [hquote, hslash]

theorem pieces_flatMap_escaped (chars : List Char) (rest : List Symbol) :
    ∃ ps, pieces ((chars.flatMap Json.escaped).map some ++ some '"' :: rest) = some (ps, rest) ∧
      assemble ps = some chars := by
  induction chars with
  | nil => exact ⟨[], by simp [pieces], rfl⟩
  | cons c chars ih =>
    obtain ⟨ps, hps, hassemble⟩ := ih
    obtain ⟨p, hp, hcons⟩ :=
      pieces_escaped c ((chars.flatMap Json.escaped).map some ++ some '"' :: rest)
    refine ⟨p :: ps, ?_, ?_⟩
    · rw [List.flatMap_cons, List.map_append, List.append_assoc, hp, hps, Option.map_some]
    · rw [hcons, hassemble, Option.map_some]

/-- A text is read back from what it is written as. -/
theorem pieces_quoted (text : String) (rest : List Symbol) :
    ∃ ps tail, (Json.quoted text).map some ++ rest = some '"' :: tail ∧
      pieces tail = some (ps, rest) ∧ textOf ps = some text := by
  obtain ⟨ps, hps, hassemble⟩ := pieces_flatMap_escaped text.toList rest
  refine ⟨ps, _, ?_, hps, ?_⟩
  · simp [Json.quoted]
  · rw [textOf, hassemble, Option.map_some, String.ofList_toList]

end Raw

/-! ### Integers -/

namespace Json

/-- The digits of a number, the first one first. -/
def decimal (n : Nat) : List Nat := (Nat.toDigits 10 n).map fun c => c.toNat - '0'.toNat

theorem foldl_decimal (n : Nat) : (decimal n).foldl (fun m d => m * 10 + d) 0 = n := by
  rw [decimal, List.foldl_map]
  simpa only [Nat.ofDigitChars, Nat.mul_comm 10] using Nat.ofDigitChars_ten_toDigits (n := n)

/-- The digits of a number do not begin with a zero, unless it is zero. -/
theorem exists_decimal_eq_cons {n : Nat} (h : 0 < n) : ∃ d ds, decimal n = d :: ds ∧ 0 < d := by
  induction n using Nat.strong_induction_on with
  | _ n ih =>
    rw [decimal, Nat.toDigits_eq_if (by decide)]
    by_cases hsmall : n < 10
    · rw [if_pos hsmall]
      refine ⟨_, _, rfl, ?_⟩
      revert h
      interval_cases n <;> decide
    · obtain ⟨d, ds, hdigits, hd⟩ := ih (n / 10) (by omega) (by omega)
      rw [if_neg hsmall, List.map_append]
      rw [decimal] at hdigits
      rw [hdigits]
      exact ⟨d, _, rfl, hd⟩

theorem le_foldl_digits (ds : List Nat) (n : Nat) : n ≤ ds.foldl (fun m d => m * 10 + d) n := by
  induction ds generalizing n with
  | nil => exact Nat.le_refl n
  | cons d ds ih => exact Nat.le_trans (by omega) (ih (n * 10 + d))

/-- The digits of a number in range are all collected. -/
theorem collect_eq {ds : List Nat} {n : Nat}
    (h : ds.foldl (fun m d => m * 10 + d) n ≤ maxUnsigned) :
    collect n ds = (ds.foldl (fun m d => m * 10 + d) n, 0) := by
  induction ds generalizing n with
  | nil => rfl
  | cons d ds ih =>
    have hle := Nat.le_trans (le_foldl_digits ds (n * 10 + d)) h
    rw [collect, if_neg (by omega), ih h, List.foldl_cons]

theorem collect_decimal {n : Nat} (h : n ≤ maxUnsigned) : collect 0 (decimal n) = (n, 0) := by
  have hfold := foldl_decimal n
  rw [collect_eq (hfold.trans_le h), hfold]

theorem value_decimal {n : Int} (h : InRange n) :
    Literal.value ⟨decide (n < 0), decimal n.natAbs, [], none⟩ = some (.int n) := by
  obtain ⟨hlow, hhigh⟩ := h
  have hsmall : n.natAbs ≤ maxUnsigned := by
    unfold maxUnsigned at hhigh ⊢
    omega
  have hsigned : signedInt? (decide (n < 0)) n.natAbs = some n := by
    by_cases hneg : n < 0
    · simp only [signedInt?, hneg, decide_true, ↓reduceIte]
      rw [if_neg (by omega), Option.some.injEq]
      omega
    · simp only [signedInt?, hneg, decide_false, Bool.false_eq_true, ↓reduceIte, Option.some.injEq]
      omega
  simp only [Literal.value, collect_decimal hsmall, List.isEmpty_nil, Option.isNone_none, and_self,
    ↓reduceIte, hsigned]

end Json

namespace Raw

/-- What can follow a value: the end, a comma, or what closes a list or an object. -/
inductive Stops : List Symbol → Prop
  | nil : Stops []
  | comma (rest : List Symbol) : Stops (some ',' :: rest)
  | bracket (rest : List Symbol) : Stops (some ']' :: rest)
  | brace (rest : List Symbol) : Stops (some '}' :: rest)

theorem digits_append {chars : List Char} (hchars : ∀ c ∈ chars, c.isDigit = true)
    {rest : List Symbol} (hrest : Stops rest) :
    digits (chars.map some ++ rest) = (chars.map fun c => c.toNat - '0'.toNat, rest) := by
  induction chars with
  | nil => cases hrest <;> rfl
  | cons c chars ih =>
    rw [List.forall_mem_cons] at hchars
    simp only [List.map_cons, List.cons_append, digits, digitValue_eq, if_pos hchars.1,
      ih hchars.2]

theorem wholePart_toDigits (n : Nat) {rest : List Symbol} (hrest : Stops rest) :
    wholePart ((Nat.toDigits 10 n).map some ++ rest) = some (Json.decimal n, rest) := by
  have hdigits : digits ((Nat.toDigits 10 n).map some ++ rest) = (Json.decimal n, rest) :=
    digits_append (fun c => Nat.isDigit_of_mem_toDigits (by decide) (by decide)) hrest
  rw [wholePart, hdigits]
  rcases Nat.eq_zero_or_pos n with rfl | hpos
  · rfl
  · obtain ⟨d, ds, hdecimal, hd⟩ := Json.exists_decimal_eq_cons hpos
    obtain ⟨d, rfl⟩ := Nat.exists_eq_add_one_of_ne_zero hd.ne'
    rw [hdecimal]
    cases ds <;> rfl

theorem exists_toDigits_eq_cons (n : Nat) :
    ∃ c chars, Nat.toDigits 10 n = c :: chars ∧ c.isDigit = true := by
  obtain ⟨c, chars, hchars⟩ := List.exists_cons_of_ne_nil (Nat.toDigits_ne_nil (n := n) (b := 10))
  have hmem : c ∈ Nat.toDigits 10 n := by
    rw [hchars]
    exact List.mem_cons_self
  exact ⟨c, chars, hchars, Nat.isDigit_of_mem_toDigits (by decide) (by decide) hmem⟩

/-- An integer is read back from what it is written as. -/
theorem literal_intChars (n : Int) {rest : List Symbol} (hrest : Stops rest) :
    literal ((Json.intChars n).map some ++ rest) =
      some (⟨decide (n < 0), Json.decimal n.natAbs, [], none⟩, rest) := by
  have hwhole := wholePart_toDigits n.natAbs hrest
  have hfraction : fractionPart rest = some ([], rest) := by cases hrest <;> rfl
  have hexponent : exponentPart rest = some (none, rest) := by cases hrest <;> rfl
  by_cases hneg : n < 0
  · simp [literal, Json.intChars, hneg, hwhole, hfraction, hexponent]
  · obtain ⟨c, chars, hchars, hdigit⟩ := exists_toDigits_eq_cons n.natAbs
    have hminus : c ≠ '-' := by
      rintro rfl
      cases hdigit
    rw [hchars, List.map_cons, List.cons_append] at hwhole
    simp [literal, Json.intChars, hneg, hchars, hminus, hwhole, hfraction, hexponent]

/-! ### Trees -/

theorem skipBlanks_cons {c : Char} (h : isBlank (some c) = false) (s : List Symbol) :
    skipBlanks (some c :: s) = some c :: s := by
  simp [skipBlanks, h]

theorem isBlank_of_numeral {c : Char} (hc : c = '-' ∨ c.isDigit = true) :
    isBlank (some c) = false := by
  rw [Bool.eq_false_iff]
  intro hblank
  simp only [isBlank, Bool.or_eq_true, beq_iff_eq] at hblank
  rcases hblank with ((rfl | rfl) | rfl) | rfl <;> exact absurd hc (by decide)

/-- A value that starts with a sign or a digit is a number. -/
theorem value_of_literal {c : Char} (hc : c = '-' ∨ c.isDigit = true) (fuel : Nat)
    {s rest : List Symbol} {l : Json.Literal} (hliteral : literal (some c :: s) = some (l, rest)) :
    value (fuel + 1) (some c :: s) = (.number l.value, some rest) := by
  rw [value, skipBlanks_cons (isBlank_of_numeral hc)]
  split
  case h_7 => rw [hliteral]
  all_goals
    rename_i heq
    cases heq
    exact absurd hc (by decide)

theorem exists_intChars_eq_cons (n : Int) :
    ∃ c chars, Json.intChars n = c :: chars ∧ (c = '-' ∨ c.isDigit = true) := by
  obtain ⟨c, chars, hchars, hc⟩ := exists_toDigits_eq_cons n.natAbs
  unfold Json.intChars
  split
  · exact ⟨_, _, rfl, .inl rfl⟩
  · exact ⟨_, _, hchars, .inr hc⟩

theorem value_intChars {n : Int} (hn : Json.InRange n) (fuel : Nat) {rest : List Symbol}
    (hrest : Stops rest) :
    value (fuel + 1) ((Json.intChars n).map some ++ rest) =
      (.number (some (.int n)), some rest) := by
  obtain ⟨c, chars, hchars, hc⟩ := exists_intChars_eq_cons n
  have hliteral := literal_intChars n hrest
  rw [hchars] at hliteral ⊢
  rw [← Json.value_decimal hn]
  exact value_of_literal hc fuel hliteral

section Inside

variable {fuel : Nat} {s rest : List Symbol} {tree : Raw}

theorem items_of_comma (h : value fuel s = (tree, some (some ',' :: rest))) :
    items (fuel + 1) s = (tree :: (items fuel rest).1, (items fuel rest).2) := by
  rw [items, h]
  rfl

theorem items_of_bracket (h : value fuel s = (tree, some (some ']' :: rest))) :
    items (fuel + 1) s = ([tree], some rest) := by
  rw [items, h]
  rfl

theorem members_of_comma (name : String) (h : value fuel s = (tree, some (some ',' :: rest))) :
    members (fuel + 1) ((Json.quoted name).map some ++ some ':' :: s) =
      ((some name, tree) :: (members fuel rest).1, (members fuel rest).2) := by
  obtain ⟨ps, tail, hquoted, hpieces, hname⟩ := pieces_quoted name (some ':' :: s)
  rw [hquoted, members, skipBlanks_cons rfl]
  simp only [hpieces, skipBlanks_cons (c := ':') rfl, h, hname]
  rfl

theorem members_of_brace (name : String) (h : value fuel s = (tree, some (some '}' :: rest))) :
    members (fuel + 1) ((Json.quoted name).map some ++ some ':' :: s) =
      ([(some name, tree)], some rest) := by
  obtain ⟨ps, tail, hquoted, hpieces, hname⟩ := pieces_quoted name (some ':' :: s)
  rw [hquoted, members, skipBlanks_cons rfl]
  simp only [hpieces, skipBlanks_cons (c := ':') rfl, h, hname]
  rfl

end Inside

theorem value_list {c : Char} (hblank : isBlank (some c) = false) (hclose : c ≠ ']') (fuel : Nat)
    (s : List Symbol) : value (fuel + 1) (some '[' :: some c :: s) =
      (.list (items fuel (some c :: s)).1, (items fuel (some c :: s)).2) := by
  rw [value, skipBlanks_cons rfl]
  simp [skipBlanks_cons hblank, hclose]

theorem value_record (fuel : Nat) (s : List Symbol) :
    value (fuel + 1) (some '{' :: some '"' :: s) =
      (.record (members fuel (some '"' :: s)).1, (members fuel (some '"' :: s)).2) := by
  rw [value, skipBlanks_cons rfl]
  rfl

theorem exists_chars_eq_cons {j : Json} (h : j.All Json.Exact) :
    ∃ c chars, j.chars = c :: chars ∧ isBlank (some c) = false ∧ c ≠ ']' := by
  cases j with
  | bool b => cases b <;> exact ⟨_, _, rfl, rfl, by decide⟩
  | int n =>
    obtain ⟨c, chars, hchars, hc⟩ := exists_intChars_eq_cons n
    refine ⟨c, chars, hchars, isBlank_of_numeral hc, ?_⟩
    rintro rfl
    exact absurd hc (by decide)
  | float x => exact h.elim
  | arr items => cases items <;> exact ⟨_, _, rfl, rfl, by decide⟩
  | obj members =>
    rcases members with _ | ⟨⟨name, doc⟩, members⟩ <;> exact ⟨_, _, rfl, rfl, by decide⟩
  | _ => exact ⟨_, _, rfl, rfl, by decide⟩

-- The fuel goes down by one for every item and for every level, and an item or a level takes at
-- least one symbol, so that twice the number of symbols is enough for both.
mutual

/-- A value is read back as its tree, whatever follows it. -/
theorem value_chars : (j : Json) → j.All Json.Exact → (fuel : Nat) → 2 * j.chars.length ≤ fuel →
    (rest : List Symbol) → Stops rest →
    value fuel (j.chars.map some ++ rest) = (j.toRaw, some rest)
  | j, h, 0, hfuel, _, _ => by
    obtain ⟨c, chars, hchars, -⟩ := exists_chars_eq_cons h
    rw [hchars] at hfuel
    simp at hfuel
  | .null, _, fuel + 1, _, rest, _ => rfl
  | .bool true, _, fuel + 1, _, rest, _ => rfl
  | .bool false, _, fuel + 1, _, rest, _ => rfl
  | .int n, hn, fuel + 1, _, rest, hrest => value_intChars hn fuel hrest
  | .str s, _, fuel + 1, _, rest, _ => by
    obtain ⟨ps, tail, hquoted, hpieces, htext⟩ := pieces_quoted s rest
    rw [Json.chars, hquoted, value, skipBlanks_cons rfl]
    simp only [hpieces, htext, Json.toRaw]
  | .arr [], _, fuel + 1, _, rest, _ => rfl
  | .arr (item :: items), h, fuel + 1, hfuel, rest, _ => by
    obtain ⟨-, hitem, hitems⟩ := h
    simp only [Json.chars, List.length_cons, List.length_append, List.length_nil] at hfuel
    obtain ⟨fuel, rfl⟩ : ∃ g, fuel = g + 1 := ⟨fuel - 1, by omega⟩
    have hvalue := value_chars item hitem fuel (by omega)
      ((Json.itemChars items).map some ++ some ']' :: rest) (by cases items <;> constructor)
    have hall := items_itemChars items hitems fuel (by omega) rest _ _ hvalue
    obtain ⟨c, chars, hchars, hblank, hclose⟩ := exists_chars_eq_cons hitem
    simp only [Json.chars, hchars, List.map_cons, List.map_append, List.map_nil, List.cons_append,
      List.append_assoc, List.nil_append] at hall ⊢
    rw [value_list hblank hclose, hall]
    rfl
  | .obj [], _, fuel + 1, _, rest, _ => rfl
  | .obj ((name, doc) :: members), h, fuel + 1, hfuel, rest, _ => by
    obtain ⟨-, hdoc, hmembers⟩ := h
    simp only [Json.chars, List.length_cons, List.length_append, List.length_nil] at hfuel
    obtain ⟨fuel, rfl⟩ : ∃ g, fuel = g + 1 := ⟨fuel - 1, by omega⟩
    have hvalue := value_chars doc hdoc fuel (by omega)
      ((Json.memberChars members).map some ++ some '}' :: rest) (by cases members <;> constructor)
    have hall := members_memberChars members hmembers fuel (by omega) rest name _ _ hvalue
    simp only [Json.chars, Json.quoted, List.map_cons, List.map_append, List.map_nil,
      List.cons_append, List.append_assoc, List.nil_append] at hall ⊢
    rw [value_record, hall]
    rfl

/-- Behind an item, the further items of a list are read back. -/
theorem items_itemChars : (items : List Json) → Json.AllItems Json.Exact items → (fuel : Nat) →
    2 * (Json.itemChars items).length ≤ fuel → (rest : List Symbol) → (tree : Raw) →
    (s : List Symbol) →
    value fuel s = (tree, some ((Json.itemChars items).map some ++ some ']' :: rest)) →
    Raw.items (fuel + 1) s = (tree :: Json.itemsToRaw items, some rest)
  | [], _, fuel, _, rest, tree, s, htree => items_of_bracket htree
  | item :: items, h, fuel, hfuel, rest, tree, s, htree => by
    simp only [Json.itemChars, List.length_cons, List.length_append] at hfuel
    obtain ⟨fuel, rfl⟩ : ∃ g, fuel = g + 1 := ⟨fuel - 1, by omega⟩
    have hvalue := value_chars item h.1 fuel (by omega)
      ((Json.itemChars items).map some ++ some ']' :: rest) (by cases items <;> constructor)
    have hitems := items_itemChars items h.2 fuel (by omega) rest _ _ hvalue
    simp only [Json.itemChars, List.cons_append, List.map_cons, List.map_append,
      List.append_assoc] at htree
    rw [items_of_comma htree, hitems]
    rfl

/-- Behind the value of a member, the further members of an object are read back. -/
theorem members_memberChars : (members : List (String × Json)) →
    Json.AllMembers Json.Exact members → (fuel : Nat) →
    2 * (Json.memberChars members).length ≤ fuel → (rest : List Symbol) → (name : String) →
    (tree : Raw) → (s : List Symbol) →
    value fuel s = (tree, some ((Json.memberChars members).map some ++ some '}' :: rest)) →
    Raw.members (fuel + 1) ((Json.quoted name).map some ++ some ':' :: s) =
      ((some name, tree) :: Json.membersToRaw members, some rest)
  | [], _, fuel, _, rest, name, tree, s, htree => members_of_brace name htree
  | (other, doc) :: members, h, fuel, hfuel, rest, name, tree, s, htree => by
    simp only [Json.memberChars, List.length_cons, List.length_append] at hfuel
    obtain ⟨fuel, rfl⟩ : ∃ g, fuel = g + 1 := ⟨fuel - 1, by omega⟩
    have hvalue := value_chars doc h.1 fuel (by omega)
      ((Json.memberChars members).map some ++ some '}' :: rest) (by cases members <;> constructor)
    have hmembers := members_memberChars members h.2 fuel (by omega) rest other _ _ hvalue
    simp only [Json.memberChars, List.cons_append, List.map_cons, List.map_append,
      List.append_assoc] at htree
    rw [members_of_comma name htree, hmembers]
    rfl

end

/-- A document is read back as its tree. -/
theorem document_text {j : Json} (h : j.All Json.Exact) :
    document (Utf8.encode j.text) = (j.toRaw, true) := by
  have hsymbols : Utf8.decode (Utf8.encode j.text) = j.chars.map some := by
    rw [Utf8.encode, Json.text, String.toList_ofList, Utf8.decode_encodeChars]
  have hvalue := value_chars j h (2 * j.chars.length + 2) (by omega) [] .nil
  rw [List.append_nil] at hvalue
  rw [document, hsymbols]
  simp only [List.length_map, hvalue]
  rfl

end Raw

/-! ### Documents -/

theorem Members.insert_of_greatest {name : String} {value : Json} {done : Members}
    (h : ∀ m ∈ done, compare m.1 name = .lt) :
    Members.insert name value done = done ++ [(name, value)] := by
  induction done with
  | nil => rfl
  | cons m done ih =>
    rw [List.forall_mem_cons] at h
    obtain ⟨other, old⟩ := m
    have hgt : compare name other = .gt := Std.OrientedCmp.gt_iff_lt.2 h.1
    rw [Members.insert, hgt]
    simp only
    rw [ih h.2]
    rfl

namespace Json

mutual

/-- A document is read back from its tree, if it does not nest too deeply. -/
theorem toJson_toRaw : (j : Json) → j.All Ordered → (depth : Nat) → j.depth ≤ depth →
    j.toRaw.toJson depth = .ok j
  | .null, _, _, _ | .bool _, _, _, _ | .int _, _, _, _ | .float _, _, _, _ | .str _, _, _, _ => by
    rw [toRaw, Raw.toJson]
  | .arr items, h, depth + 1, hdepth => by
    have hitems := itemsToJson_itemsToRaw items h.2 depth (by simpa [Json.depth] using hdepth)
    rw [toRaw, Raw.toJson, hitems]
    rfl
  | .obj members, h, depth + 1, hdepth => by
    have hmembers := membersToJson_membersToRaw members h.2 depth
      (by simpa [Json.depth] using hdepth) [] h.1
    rw [toRaw, Raw.toJson, hmembers]
    rfl
  | .arr _, _, 0, hdepth | .obj _, _, 0, hdepth => by simp [Json.depth] at hdepth

theorem itemsToJson_itemsToRaw : (items : List Json) → AllItems Ordered items → (depth : Nat) →
    depthOfItems items ≤ depth → Raw.itemsToJson depth (itemsToRaw items) = .ok items
  | [], _, _, _ => rfl
  | item :: items, h, depth, hdepth => by
    simp only [depthOfItems, Nat.max_le] at hdepth
    have hitem := toJson_toRaw item h.1 depth hdepth.1
    have hitems := itemsToJson_itemsToRaw items h.2 depth hdepth.2
    simp only [itemsToRaw, Raw.itemsToJson, hitem, hitems]
    rfl

theorem membersToJson_membersToRaw : (members : List (String × Json)) →
    AllMembers Ordered members → (depth : Nat) → depthOfMembers members ≤ depth →
    (done : Members) → (done ++ members).Pairwise (fun m m' => compare m.1 m'.1 = .lt) →
    Raw.membersToJson depth done (membersToRaw members) = .ok (done ++ members)
  | [], _, _, _, done, _ => by rw [membersToRaw, Raw.membersToJson, List.append_nil]
  | (name, doc) :: members, h, depth, hdepth, done, hordered => by
    simp only [depthOfMembers, Nat.max_le] at hdepth
    have hdoc := toJson_toRaw doc h.1 depth hdepth.1
    have hbefore : ∀ m ∈ done, compare m.1 name = .lt := fun m hm =>
      (List.pairwise_append.1 hordered).2.2 m hm _ List.mem_cons_self
    have hmembers := membersToJson_membersToRaw members h.2 depth hdepth.2 (done ++ [(name, doc)])
      (by simpa using hordered)
    simp only [membersToRaw, Raw.membersToJson, hdoc, Members.insert_of_greatest hbefore]
    simpa [bind, Except.bind] using hmembers

end

end Json

end ChainWatch
