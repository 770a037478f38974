import ChainWatch.Proofs.Encoding
import ChainWatch.Proofs.Masking

/-!
# Encoded passwords

A password becomes part of an address character by character: an unreserved character stands for
itself, any other one is written as the groups of its bytes.  Decoding goes byte by byte, knows no
characters and replaces whatever looks like a group.  It still comes back to the password, also if
that one looks like an encoded text, since the percent sign is among the characters that are
written as groups.

* `Percent.Escaped` : unreserved characters and groups, and nothing else.
* `Percent.decode_of_encode` : decoding undoes encoding, whichever characters stand for themselves.
* `Percent.escape_injective` : different secrets have different encodings.
* `Percent.escape_faithful` : what becomes of a password, and of the address around it.
-/

namespace ChainWatch

namespace Hex

/-- Whether a character is a hexadecimal digit in upper case. -/
def isUpperDigit (c : Char) : Bool := c.isDigit || ('A' ≤ c && c ≤ 'F')

theorem isUpperDigit_upperDigit {n : Nat} (h : n < 16) : isUpperDigit (upperDigit n) = true := by
  revert h
  revert n
  decide

theorem value?_upperDigit {n : Nat} (h : n < 16) : value? (upperDigit n).toNat = some n := by
  revert h
  revert n
  decide

theorem upperDigit_lt {n : Nat} (h : n < 16) : (upperDigit n).toNat < 128 := by
  revert h
  revert n
  decide

end Hex

namespace Percent

/-! ### The form of an encoded text -/

/-- A text of unreserved characters and groups. -/
inductive Escaped : List Char → Prop
  | nil : Escaped []
  /-- A letter, a digit, or one of four marks stands for itself. -/
  | plain {c : Char} {rest : List Char} (hc : c.isAlphanum = true ∨ c ∈ ['-', '_', '.', '~'])
    (hrest : Escaped rest) : Escaped (c :: rest)
  /-- A percent sign stands before two digits. -/
  | group {high low : Char} {rest : List Char} (hhigh : Hex.isUpperDigit high = true)
    (hlow : Hex.isUpperDigit low = true) (hrest : Escaped rest) :
    Escaped ('%' :: high :: low :: rest)

theorem isUnreserved_iff {c : Char} :
    isUnreserved c = true ↔ c.isAlphanum = true ∨ c ∈ ['-', '_', '.', '~'] := by
  have hupper : c.isUpper = ('A' ≤ c && c ≤ 'Z') := Bool.decide_and _ _
  have hlower : c.isLower = ('a' ≤ c && c ≤ 'z') := rfl
  have hdigit : c.isDigit = ('0' ≤ c && c ≤ '9') := rfl
  have halphanum : c.isAlphanum = (c.isUpper || c.isLower || c.isDigit) := rfl
  simp [isUnreserved, halphanum, hupper, hlower, hdigit, or_assoc]

theorem Escaped.append {front back : List Char} (hfront : Escaped front) (hback : Escaped back) :
    Escaped (front ++ back) := by
  induction hfront with
  | nil => exact hback
  | plain hc _ ih => exact .plain hc ih
  | group hhigh hlow _ ih => exact .group hhigh hlow ih

theorem escaped_flatMap {α : Type} {items : List α} {write : α → List Char}
    (h : ∀ a ∈ items, Escaped (write a)) : Escaped (items.flatMap write) := by
  induction items with
  | nil => exact .nil
  | cons a items ih =>
    obtain ⟨ha, hitems⟩ := List.forall_mem_cons.1 h
    exact ha.append (ih hitems)

theorem escaped_group (b : UInt8) : Escaped (group b) := by
  have hb := b.toNat_lt
  exact .group (Hex.isUpperDigit_upperDigit (by omega)) (Hex.isUpperDigit_upperDigit (by omega))
    .nil

theorem escaped_escape (secret : String) : Escaped (escape secret).toList := by
  rw [escape, encode, String.toList_ofList]
  refine escaped_flatMap fun c _ => ?_
  split
  · exact escaped_flatMap fun b _ => escaped_group b
  next hc => exact .plain (isUnreserved_iff.1 (by simpa using hc)) .nil

/-- Of the characters that are not unreserved, only the percent sign is found in an encoding. -/
theorem not_mem_escape {c : Char} (hc : isUnreserved c = false) (hpercent : c ≠ '%')
    (secret : String) : c ∉ (escape secret).toList := by
  intro hmem
  rcases isUnreserved_of_mem_escape hmem with h | h
  · rw [hc] at h
    cases h
  · exact hpercent h

/-! ### Decoding -/

theorem decode_cons {b : UInt8} (h : b ≠ 0x25) (rest : Bytes) :
    decode (b :: rest) = b :: decode rest := by
  rw [decode.eq_def]
  split
  next heq => exact absurd (List.cons.inj heq).1 h
  next heq =>
    obtain ⟨rfl, rfl⟩ := List.cons.inj heq
    rfl
  next heq => cases heq

/-- Bytes without a percent sign are left as they are. -/
theorem decode_append {bytes : Bytes} (h : 0x25 ∉ bytes) (rest : Bytes) :
    decode (bytes ++ rest) = bytes ++ decode rest := by
  induction bytes with
  | nil => rfl
  | cons b bytes ih =>
    rw [List.mem_cons, not_or] at h
    rw [List.cons_append, decode_cons (Ne.symm h.1), ih h.2, List.cons_append]

/-- A group is read back as its byte, whatever follows it. -/
theorem decode_group (b : UInt8) (rest : Bytes) :
    decode (Utf8.encodeChars (group b) ++ rest) = b :: decode rest := by
  have hb := b.toNat_lt
  have hhigh : b.toNat / 16 < 16 := by omega
  have hlow : b.toNat % 16 < 16 := by omega
  have hascii : ∀ c ∈ group b, c.toNat < 128 :=
    List.forall_mem_cons.2 ⟨by decide, List.forall_mem_cons.2 ⟨Hex.upperDigit_lt hhigh,
      List.forall_mem_singleton.2 (Hex.upperDigit_lt hlow)⟩⟩
  have hvalue (n : Nat) (hn : n < 16) :
      Hex.value? (UInt8.ofNat (Hex.upperDigit n).toNat).toNat = some n := by
    have hsmall := Hex.upperDigit_lt hn
    rw [Utf8.toNat_ofNat (by omega), Hex.value?_upperDigit hn]
  have hbyte : UInt8.ofNat (16 * (b.toNat / 16) + b.toNat % 16) = b := by
    rw [Nat.div_add_mod, UInt8.ofNat_toNat]
  have hpercent : UInt8.ofNat '%'.toNat = 0x25 := rfl
  rw [Utf8.encodeChars_of_ascii hascii]
  simp only [group, List.map_cons, List.map_nil, List.cons_append, List.nil_append, hpercent,
    decode, hvalue _ hhigh, hvalue _ hlow, hbyte]

theorem decode_flatMap_group (bytes rest : Bytes) :
    decode (Utf8.encodeChars (bytes.flatMap group) ++ rest) = bytes ++ decode rest := by
  induction bytes with
  | nil => rfl
  | cons b bytes ih =>
    rw [List.flatMap_cons, Utf8.encodeChars_append, List.append_assoc, decode_group, ih,
      List.cons_append]

/-- No other character than the percent sign has its byte. -/
theorem percent_not_mem_utf8EncodeChar {c : Char} (h : c ≠ '%') :
    0x25 ∉ String.utf8EncodeChar c := by
  intro hmem
  by_cases hascii : c.toNat < 128
  · rw [Utf8.utf8EncodeChar_of_ascii hascii, List.mem_singleton] at hmem
    have hcode := congrArg UInt8.toNat hmem
    rw [Utf8.toNat_ofNat (by omega)] at hcode
    exact h (Char.toNat_inj.1 hcode.symm)
  · exact absurd (Utf8.le_of_mem_utf8EncodeChar (Nat.le_of_not_lt hascii) _ hmem) (by decide)

/-- Decoding undoes encoding, provided that the percent sign does not stand for itself. -/
theorem decode_of_encode {needs : Char → Bool} (h : needs '%' = true) (text : String) :
    decode (Utf8.encode (encode needs text)) = Utf8.encode text := by
  rw [Utf8.encode, encode, String.toList_ofList, Utf8.encode]
  induction text.toList with
  | nil => rfl
  | cons c chars ih =>
    have hcons : Utf8.encodeChars (c :: chars) =
        String.utf8EncodeChar c ++ Utf8.encodeChars chars := List.flatMap_cons
    rw [hcons, encodeChars, List.flatMap_cons, Utf8.encodeChars_append]
    split
    · rw [groups, decode_flatMap_group]
      exact congrArg _ ih
    next hc =>
      have hplain : c ≠ '%' := by
        rintro rfl
        exact hc h
      have hsingle : Utf8.encodeChars [c] = String.utf8EncodeChar c := List.append_nil _
      rw [hsingle, decode_append (percent_not_mem_utf8EncodeChar hplain)]
      exact congrArg _ ih

theorem decode_escape (secret : String) :
    decode (Utf8.encode (escape secret)) = Utf8.encode secret :=
  decode_of_encode rfl secret

theorem escape_injective {secret other : String} (h : escape secret = escape other) :
    secret = other := by
  refine Utf8.encode_injective ?_
  rw [← decode_escape secret, h, decode_escape]

/-! ### Passwords in an address -/

/-- The characters that part the pieces of an address. -/
def separators : List Char := [':', '@', '/', '?', '#']

theorem separator_not_mem_escape {c : Char} (hc : c ∈ separators) (secret : String) :
    c ∉ (escape secret).toList := by
  have hreserved : ∀ d ∈ separators, isUnreserved d = false ∧ d ≠ '%' :=
    List.all_iff_forall_prop.1 (by decide)
  obtain ⟨hunreserved, hpercent⟩ := hreserved c hc
  exact not_mem_escape hunreserved hpercent secret

/-- An address has the separators of its other pieces only. -/
theorem count_databaseUrl {c : Char} (hc : c ∈ separators) (env : Environment)
    (password : String) :
    (databaseUrl (env.withPassword password)).toList.count c =
      (addressChars (env.text "DB_USER" "postgres").toList [] (databaseSuffix env)).count c := by
  have hzero := List.count_eq_zero.2 (separator_not_mem_escape hc password)
  rw [databaseUrl_withPassword, String.toList_ofList]
  simp only [addressChars, List.count_append, List.count_cons, List.count_nil, hzero]

/-- **A password in an address is encoded without loss and without effect on the address.**  Its
encoding consists of unreserved characters and groups, decoding gives the bytes of the password,
no other password has the same encoding, and the address has the same separators whatever the
password is. -/
theorem escape_faithful (password : String) :
    Escaped (escape password).toList ∧
      decode (Utf8.encode (escape password)) = Utf8.encode password ∧
      (∀ other, escape other = escape password ↔ other = password) ∧
      ∀ c ∈ separators, c ∉ (escape password).toList ∧
        ∀ (env : Environment) (other : String),
          (databaseUrl (env.withPassword password)).toList.count c =
            (databaseUrl (env.withPassword other)).toList.count c := by
  refine ⟨escaped_escape password, decode_escape password, fun other => ?_, fun c hc => ?_⟩
  · exact ⟨escape_injective, congrArg escape⟩
  · refine ⟨separator_not_mem_escape hc password, fun env other => ?_⟩
    rw [count_databaseUrl hc, count_databaseUrl hc]

/-- A password that holds a separator, something like a group, and characters of one to four
bytes. -/
theorem escape_faithful_mixed :
    let password := "a:%3Aß€😀"
    escape password = "a%3A%253A%C3%9F%E2%82%AC%F0%9F%98%80" ∧
      Escaped (escape password).toList ∧
      decode (Utf8.encode (escape password)) = Utf8.encode password ∧
      escape "a::ß€😀" ≠ escape password ∧
      ∀ env : Environment, (databaseUrl (env.withPassword password)).toList.count ':' =
        (databaseUrl (env.withPassword "postgres")).toList.count ':' := by
  intro password
  obtain ⟨hform, hbytes, hiff, hseparators⟩ := escape_faithful password
  refine ⟨by decide +kernel, hform, hbytes, fun h => ?_, fun env => ?_⟩
  · exact absurd ((hiff _).1 h) (by decide +kernel)
  · exact (hseparators ':' (by decide)).2 env "postgres"

end Percent

end ChainWatch
