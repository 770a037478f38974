import ChainWatch.Text.Hex
import Mathlib.Algebra.Group.Nat.Even
import Mathlib.Data.List.Basic

/-!
# Encoded text

Text travels as UTF-8, and byte strings travel as hexadecimal text.  Both are read back as what was
written.  More hexadecimal texts are read than written: digits may be of either case, and a text may
begin with marks.  What is read of them is written as the same digits in lower case, without the
marks.

* `Utf8.decode_encodeChars`, `Utf8.encode_injective` : characters are read back from their bytes.
* `Hex.isDigit` : the digits, of either case.
* `Hex.exists_decodeText_iff` : which texts stand for byte strings.
* `Hex.encode_of_decodeText`, `Hex.decodeText_encode` : writing what was read, and the other way
  round.
-/

namespace ChainWatch

/-! ### UTF-8 -/

namespace Utf8

theorem decodeFrom_length_append (tail rest : Bytes) :
    decodeFrom tail.length (tail ++ rest) = decodeFrom 0 rest := by
  induction tail with
  | nil => rfl
  | cons b tail ih => exact ih

/-- The code of a character is no surrogate, and within Unicode. -/
theorem toNat_cases (c : Char) : c.toNat < 0xD800 ∨ 0xDFFF < c.toNat ∧ c.toNat < 0x110000 :=
  c.valid

theorem charIn_toNat {low high : Nat} {c : Char} (hlow : low ≤ c.toNat) (hhigh : c.toNat ≤ high) :
    charIn low high c.toNat = some c := by
  have hsurrogate : c.toNat < 0xD800 ∨ 0xDFFF < c.toNat := by
    have hcases := toNat_cases c
    omega
  rw [charIn, if_pos ⟨hlow, hhigh, hsurrogate⟩, Char.ofNat_toNat]

theorem toNat_ofNat {n : Nat} (h : n < 256) : (UInt8.ofNat n).toNat = n :=
  UInt8.toNat_ofNat_of_lt' h

theorem isContinuation_ofNat {n : Nat} (h : n < 64) :
    isContinuation (UInt8.ofNat (n + 128)) = true := by
  have hbyte := toNat_ofNat (n := n + 128) (by omega)
  simp only [isContinuation, UInt8.le_iff_toNat_le, hbyte, UInt8.reduceToNat, Bool.and_eq_true,
    decide_eq_true_eq]
  omega

theorem payload_ofNat {n : Nat} (h : n < 64) : payload (UInt8.ofNat (n + 128)) = n := by
  rw [payload, toNat_ofNat (by omega)]
  omega

theorem utf8EncodeChar_of_ascii {c : Char} (h : c.toNat < 128) :
    String.utf8EncodeChar c = [UInt8.ofNat c.toNat] :=
  if_pos (Nat.le_of_lt_succ h)

/-- Beyond ASCII, no byte of a character is that of another one within. -/
theorem le_of_mem_utf8EncodeChar {c : Char} (h : 128 ≤ c.toNat) :
    ∀ b ∈ String.utf8EncodeChar c, 128 ≤ b.toNat := by
  have hval : c.val.toNat = c.toNat := rfl
  rw [String.utf8EncodeChar]
  simp only [hval]
  rw [if_neg (by omega)]
  intro b hb
  split at hb
  · simp only [List.mem_cons, List.not_mem_nil, or_false] at hb
    rcases hb with rfl | rfl <;> rw [toNat_ofNat (by omega)] <;> omega
  split at hb
  · simp only [List.mem_cons, List.not_mem_nil, or_false] at hb
    rcases hb with rfl | rfl | rfl <;> rw [toNat_ofNat (by omega)] <;> omega
  · simp only [List.mem_cons, List.not_mem_nil, or_false] at hb
    rcases hb with rfl | rfl | rfl | rfl <;> rw [toNat_ofNat (by omega)] <;> omega

theorem encodeChars_append (front back : List Char) :
    encodeChars (front ++ back) = encodeChars front ++ encodeChars back :=
  List.flatMap_append

theorem encodeChars_of_ascii {chars : List Char} (h : ∀ c ∈ chars, c.toNat < 128) :
    encodeChars chars = chars.map fun c => UInt8.ofNat c.toNat := by
  rw [encodeChars, List.map_eq_flatMap]
  exact List.flatMap_congr fun c hc => utf8EncodeChar_of_ascii (h c hc)

theorem sequence_of_ascii {lead : UInt8} (h : lead.toNat < 0x80) (rest : Bytes) :
    sequence lead rest = some (Char.ofNat lead.toNat, 0) := by
  have hlead : lead < 0x80 := UInt8.lt_iff_toNat_lt.2 h
  unfold sequence
  rw [if_pos hlead]

/-- A character is read back from its bytes, whatever follows them. -/
theorem sequence_utf8EncodeChar (c : Char) :
    ∃ lead tail, String.utf8EncodeChar c = lead :: tail ∧
      ∀ rest, sequence lead (tail ++ rest) = some (c, tail.length) := by
  have hcases := toNat_cases c
  have hval : c.val.toNat = c.toNat := rfl
  rw [String.utf8EncodeChar]
  simp only [hval]
  by_cases h1 : c.toNat ≤ 0x7F
  · have hlead := toNat_ofNat (n := c.toNat) (by omega)
    refine ⟨_, _, if_pos h1, fun rest => ?_⟩
    rw [sequence_of_ascii (by omega), hlead, Char.ofNat_toNat]
    rfl
  rw [if_neg h1]
  -- the code is put together again from the bits that the bytes carry
  have hcode2 : c.toNat / 64 % 32 * 64 + c.toNat % 64 = c.toNat % 0x800 := by omega
  have hcode3 : (c.toNat / 4096 % 16 * 64 + c.toNat / 64 % 64) * 64 + c.toNat % 64 =
      c.toNat % 0x10000 := by omega
  have hcode4 : ((c.toNat / 262144 % 8 * 64 + c.toNat / 4096 % 64) * 64 + c.toNat / 64 % 64) * 64 +
      c.toNat % 64 = c.toNat % 0x200000 := by omega
  have hmod (n : Nat) : n % 64 < 64 := Nat.mod_lt n (by decide)
  have htail := fun n => isContinuation_ofNat (hmod n)
  have hpayload := fun n => payload_ofNat (hmod n)
  by_cases h2 : c.toNat ≤ 0x7FF
  · have hlead := toNat_ofNat (n := c.toNat / 64 % 32 + 192) (by omega)
    have hlow : (c.toNat / 64 % 32 + 192) % 32 = c.toNat / 64 % 32 := by omega
    refine ⟨_, _, if_pos h2, fun rest => ?_⟩
    simp only [sequence, UInt8.lt_iff_toNat_lt, hlead, UInt8.reduceToNat, List.cons_append, htail,
      hpayload, hlow, hcode2, ↓reduceIte]
    rw [if_neg (by omega), if_neg (by omega), if_pos (by omega), Nat.mod_eq_of_lt (by omega),
      charIn_toNat (by omega) h2]
    rfl
  rw [if_neg h2]
  by_cases h3 : c.toNat ≤ 0xFFFF
  · have hlead := toNat_ofNat (n := c.toNat / 4096 % 16 + 224) (by omega)
    have hlow : (c.toNat / 4096 % 16 + 224) % 16 = c.toNat / 4096 % 16 := by omega
    refine ⟨_, _, if_pos h3, fun rest => ?_⟩
    simp only [sequence, UInt8.lt_iff_toNat_lt, hlead, UInt8.reduceToNat, List.cons_append, htail,
      hpayload, hlow, hcode3, Bool.and_self, ↓reduceIte]
    rw [if_neg (by omega), if_neg (by omega), if_neg (by omega), if_pos (by omega),
      Nat.mod_eq_of_lt (by omega), charIn_toNat (by omega) h3]
    rfl
  · have hlead := toNat_ofNat (n := c.toNat / 262144 % 8 + 240) (by omega)
    have hlow : (c.toNat / 262144 % 8 + 240) % 8 = c.toNat / 262144 % 8 := by omega
    refine ⟨_, _, if_neg h3, fun rest => ?_⟩
    simp only [sequence, UInt8.lt_iff_toNat_lt, hlead, UInt8.reduceToNat, List.cons_append, htail,
      hpayload, hlow, hcode4, Bool.and_self, ↓reduceIte]
    rw [if_neg (by omega), if_neg (by omega), if_neg (by omega), if_neg (by omega),
      if_pos (by omega), Nat.mod_eq_of_lt (by omega), charIn_toNat (by omega) (by omega)]
    rfl

/-- Characters are read back from their bytes. -/
theorem decode_encodeChars (chars : List Char) : decode (encodeChars chars) = chars.map some := by
  induction chars with
  | nil => rfl
  | cons c chars ih =>
    obtain ⟨lead, tail, hbytes, hsequence⟩ := sequence_utf8EncodeChar c
    have hcons : encodeChars (c :: chars) = lead :: (tail ++ encodeChars chars) := by
      rw [encodeChars, List.flatMap_cons, hbytes]
      rfl
    rw [hcons, decode, decodeFrom, hsequence]
    simp only [decodeFrom_length_append]
    rw [List.map_cons, ← ih, decode]

theorem encode_injective {s t : String} (h : encode s = encode t) : s = t := by
  have hchars := congrArg decode h
  rw [encode, encode, decode_encodeChars, decode_encodeChars] at hchars
  exact String.toList_inj.1 (List.map_injective_iff.2 (Option.some_injective _) hchars)

end Utf8

namespace Hex

/-! ### Digits -/

/-- Whether a character is a hexadecimal digit, of either case. -/
def isDigit (c : Char) : Bool :=
  c.isDigit || ('a'.toNat ≤ c.toNat && c.toNat ≤ 'f'.toNat) ||
    ('A'.toNat ≤ c.toNat && c.toNat ≤ 'F'.toNat)

theorem value?_digit {n : Nat} (h : n < 16) : value? (digit n).toNat = some n := by
  revert h
  revert n
  decide

theorem isSome_value? (c : Char) : (value? c.toNat).isSome = isDigit c := by
  have hdigit : c.isDigit = (decide ('0'.toNat ≤ c.toNat) && decide (c.toNat ≤ '9'.toNat)) := by
    rw [Bool.eq_iff_iff, Char.isDigit_iff_toNat]
    simp
  simp only [value?, isDigit, hdigit]
  split
  · simp_all
  split
  · simp_all
  split <;> simp_all

theorem value?_of_le {n : Nat} (h : 128 ≤ n) : value? n = none := by
  have h9 : ¬n ≤ '9'.toNat := fun hle => absurd (Nat.le_trans h hle) (by decide)
  have hf : ¬n ≤ 'f'.toNat := fun hle => absurd (Nat.le_trans h hle) (by decide)
  have hF : ¬n ≤ 'F'.toNat := fun hle => absurd (Nat.le_trans h hle) (by decide)
  rw [value?, if_neg (fun hn => h9 hn.2), if_neg (fun hn => hf hn.2), if_neg (fun hn => hF hn.2)]

theorem lt_of_isDigit {c : Char} (h : isDigit c = true) : c.toNat < 128 := by
  rw [← isSome_value?] at h
  by_contra hlarge
  rw [value?_of_le (by omega)] at h
  cases h

theorem isDigit_digit {n : Nat} (h : n < 16) : isDigit (digit n) = true := by
  rw [← isSome_value?, value?_digit h]
  rfl

/-- A digit stands for a number below sixteen, and the digit of this number is the same one in lower
case. -/
theorem digit_of_value? {n v : Nat} (h : value? n = some v) :
    v < 16 ∧ digit v = (Char.ofNat n).toLower := by
  have hall : ∀ n < 128, ∀ v ∈ value? n, v < 16 ∧ digit v = (Char.ofNat n).toLower := by decide
  refine hall n ?_ v h
  by_contra hlarge
  rw [value?_of_le (by omega)] at h
  cases h

theorem pair_halves {high low : Nat} (hhigh : high < 16) (hlow : low < 16) :
    pair (UInt8.ofNat (16 * high + low)) = [digit high, digit low] := by
  have hdiv : (16 * high + low) / 16 = high := by omega
  have hmod : (16 * high + low) % 16 = low := by omega
  rw [pair, Utf8.toNat_ofNat (by omega), hdiv, hmod]

/-! ### Bytes -/

/-- What is read is written as the same digits in lower case. -/
theorem flatMap_pair_of_decodeFrom {position : Nat} {text bytes : Bytes}
    (h : decodeFrom position text = .ok bytes) :
    bytes.flatMap pair = text.map fun b => (Char.ofNat b.toNat).toLower := by
  induction position, text using decodeFrom.induct generalizing bytes with
  | case1 =>
    cases h
    rfl
  | case2 => cases h
  | case3 position high low rest hhigh => simp [decodeFrom, hhigh] at h
  | case4 position high low rest _ hhigh hlow => simp [decodeFrom, hhigh, hlow] at h
  | case5 position high low rest hi hhigh lo hlow ih =>
    simp only [decodeFrom, hhigh, hlow] at h
    cases hrest : decodeFrom (position + 2) rest with
    | error fault => simp [hrest, Except.map] at h
    | ok more =>
      simp only [hrest, Except.map, Except.ok.injEq] at h
      obtain ⟨hhi, hdigit⟩ := digit_of_value? hhigh
      obtain ⟨hlo, hdigit'⟩ := digit_of_value? hlow
      rw [← h, List.flatMap_cons, pair_halves hhi hlo, ih hrest, hdigit, hdigit']
      rfl

/-- Bytes are read if they are digits and their number is even. -/
theorem exists_decodeFrom_iff (position : Nat) (text : Bytes) :
    (∃ bytes, decodeFrom position text = .ok bytes) ↔
      Even text.length ∧ ∀ b ∈ text, (value? b.toNat).isSome = true := by
  induction position, text using decodeFrom.induct with
  | case1 => simp [decodeFrom]
  | case2 => simp [decodeFrom]
  | case3 position high low rest hhigh => simp [decodeFrom, hhigh]
  | case4 position high low rest _ hhigh hlow => simp [decodeFrom, hhigh, hlow]
  | case5 position high low rest hi hhigh lo hlow ih =>
    have hlength : Even (high :: low :: rest).length ↔ Even rest.length := by
      simp [Nat.even_add_one]
    rw [hlength, List.forall_mem_cons, List.forall_mem_cons, hhigh, hlow]
    simp only [Option.isSome_some, true_and]
    rw [← ih]
    simp only [decodeFrom, hhigh, hlow]
    cases decodeFrom (position + 2) rest <;> simp [Except.map]

theorem exists_decode_iff (text : Bytes) :
    (∃ bytes, decode text = .ok bytes) ↔
      Even text.length ∧ ∀ b ∈ text, (value? b.toNat).isSome = true := by
  rw [decode, ← exists_decodeFrom_iff 0]
  split
  next hodd =>
    rw [exists_decodeFrom_iff, Nat.even_iff]
    simp [hodd]
  next => rfl

theorem isDigit_of_mem_flatMap_pair (bytes : Bytes) :
    ∀ c ∈ bytes.flatMap pair, isDigit c = true := by
  intro c hc
  obtain ⟨b, -, hc⟩ := List.mem_flatMap.1 hc
  have hb := b.toNat_lt
  simp only [pair, List.mem_cons, List.not_mem_nil, or_false] at hc
  rcases hc with rfl | rfl <;> exact isDigit_digit (by omega)

theorem decodeFrom_flatMap_pair (position : Nat) (bytes : Bytes) :
    decodeFrom position ((bytes.flatMap pair).map fun c => UInt8.ofNat c.toNat) = .ok bytes := by
  induction bytes generalizing position with
  | nil => rfl
  | cons b bytes ih =>
    have hb := b.toNat_lt
    have hvalue (n : Nat) (hn : n < 16) :
        value? (UInt8.ofNat (digit n).toNat).toNat = some n := by
      have hsmall := lt_of_isDigit (isDigit_digit hn)
      rw [Utf8.toNat_ofNat (by omega), value?_digit hn]
    have hbyte : UInt8.ofNat (16 * (b.toNat / 16) + b.toNat % 16) = b := by
      rw [Nat.div_add_mod, UInt8.ofNat_toNat]
    simp only [List.flatMap_cons, pair, List.cons_append, List.nil_append, List.map_cons,
      decodeFrom, hvalue (b.toNat / 16) (by omega), hvalue (b.toNat % 16) (by omega), ih, hbyte]
    rfl

/-! ### Characters -/

/-- A character is a digit if all its bytes are. -/
theorem forall_utf8EncodeChar_iff (c : Char) :
    (∀ b ∈ String.utf8EncodeChar c, (value? b.toNat).isSome = true) ↔ isDigit c = true := by
  by_cases hsmall : c.toNat < 128
  · rw [Utf8.utf8EncodeChar_of_ascii hsmall, List.forall_mem_singleton, Utf8.toNat_ofNat (by omega),
      isSome_value?]
  · -- such a character has a byte, and none of its bytes is a digit
    refine iff_of_false (fun hall => ?_) fun hdigit => hsmall (lt_of_isDigit hdigit)
    obtain ⟨b, hb⟩ := List.exists_mem_of_length_pos
      ((String.length_utf8EncodeChar c).symm ▸ c.utf8Size_pos)
    have hdigit := hall b hb
    rw [value?_of_le (Utf8.le_of_mem_utf8EncodeChar (Nat.le_of_not_lt hsmall) b hb)] at hdigit
    cases hdigit

theorem encodeChars_of_digits {chars : List Char} (h : ∀ c ∈ chars, isDigit c = true) :
    Utf8.encodeChars chars = chars.map fun c => UInt8.ofNat c.toNat :=
  Utf8.encodeChars_of_ascii fun c hc => lt_of_isDigit (h c hc)

/-- Characters are read if they are digits and their number is even. -/
theorem exists_decode_encodeChars_iff (chars : List Char) :
    (∃ bytes, decode (Utf8.encodeChars chars) = .ok bytes) ↔
      Even chars.length ∧ ∀ c ∈ chars, isDigit c = true := by
  have hdigits : (∀ b ∈ Utf8.encodeChars chars, (value? b.toNat).isSome = true) ↔
      ∀ c ∈ chars, isDigit c = true := by
    simp only [Utf8.encodeChars, List.mem_flatMap, ← forall_utf8EncodeChar_iff]
    exact ⟨fun h c hc b hb => h b ⟨c, hc, hb⟩, fun h b ⟨c, hc, hb⟩ => h c hc b hb⟩
  rw [exists_decode_iff, hdigits]
  refine and_congr_left fun h => ?_
  rw [encodeChars_of_digits h, List.length_map]

theorem encode_of_decode {chars : List Char} {bytes : Bytes}
    (h : decode (Utf8.encodeChars chars) = .ok bytes) :
    encode bytes = String.ofList (chars.map Char.toLower) := by
  have hdigits := ((exists_decode_encodeChars_iff chars).1 ⟨bytes, h⟩).2
  have hfrom : decodeFrom 0 (Utf8.encodeChars chars) = .ok bytes := by
    rw [decode] at h
    split at h
    · cases h
    · exact h
  rw [encode, flatMap_pair_of_decodeFrom hfrom, encodeChars_of_digits hdigits, List.map_map]
  congr 1
  refine List.map_congr_left fun c hc => ?_
  have hsmall := lt_of_isDigit (hdigits c hc)
  rw [Function.comp_apply, Utf8.toNat_ofNat (by omega), Char.ofNat_toNat]

/-! ### Marks -/

theorem dropMarks_of_unmarked {digits : List Char} (h : ¬['0', 'x'] <+: digits) :
    dropMarks digits = digits := by
  rw [dropMarks.eq_def]
  split
  · exact absurd ⟨_, rfl⟩ h
  · rfl

/-- All marks at the start of a text are passed over. -/
theorem dropMarks_marked (marks : Nat) {digits : List Char} (h : ¬['0', 'x'] <+: digits) :
    dropMarks ((List.replicate marks ['0', 'x']).flatten ++ digits) = digits := by
  induction marks with
  | zero => exact dropMarks_of_unmarked h
  | succ marks ih => exact ih

section Marked

variable {s : String} {marks : Nat} {digits : List Char}
  (hs : s.toList = (List.replicate marks ['0', 'x']).flatten ++ digits)
  (hunmarked : ¬['0', 'x'] <+: digits)

include hs hunmarked

/-- A text is read if behind its marks there are digits, and an even number of them. -/
theorem exists_decodeText_iff :
    (∃ bytes, decodeText s = .ok bytes) ↔
      Even digits.length ∧ ∀ c ∈ digits, isDigit c = true := by
  rw [decodeText, hs, dropMarks_marked marks hunmarked]
  exact exists_decode_encodeChars_iff digits

/-- What is read is written as the digits behind the marks, in lower case. -/
theorem encode_of_decodeText {bytes : Bytes} (h : decodeText s = .ok bytes) :
    encode bytes = String.ofList (digits.map Char.toLower) := by
  rw [decodeText, hs, dropMarks_marked marks hunmarked] at h
  exact encode_of_decode h

end Marked

/-- What is written is read back. -/
theorem decodeText_encode (bytes : Bytes) : decodeText (encode bytes) = .ok bytes := by
  have hdigits := isDigit_of_mem_flatMap_pair bytes
  have hunmarked : ¬['0', 'x'] <+: bytes.flatMap pair := fun h =>
    absurd (hdigits 'x' (h.subset (by simp))) (by decide)
  have heven : (bytes.flatMap pair).length % 2 ≠ 1 := by
    simp [List.length_flatMap, pair]
  rw [decodeText, encode, String.toList_ofList, dropMarks_of_unmarked hunmarked,
    encodeChars_of_digits hdigits, decode, List.length_map, if_neg heven, decodeFrom_flatMap_pair]

end Hex

end ChainWatch
