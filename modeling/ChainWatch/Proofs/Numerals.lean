import ChainWatch.Action.Fields
import Mathlib.Order.Basic
import Mathlib.Tactic.Common

/-!
# Numbers in documents

A number may be given as an integer or as decimal text, with a plus sign and leading zeros if one
likes.  The text is read digit by digit, and the reading stops as soon as the number is too large;
still, exactly the texts that write a number within the limit are read, each as its number.

* `IsNumeral` : a text writes a number.
* `Json.Denotes` : a value stands for a number.
* `readDigits_eq_ok_iff`, `readUnsigned_eq_ok_iff` : what is read of a text.
* `Fields.toUnsigned_eq_ok_iff` : what is taken for a number.
-/

namespace ChainWatch

/-- The characters of a text without a plus sign in front. -/
def unsignedChars (s : String) : List Char :=
  match s.toList with
  | '+' :: chars => chars
  | chars => chars

/-- A text writes a number in decimal, with an optional plus sign and any leading zeros. -/
structure IsNumeral (s : String) (n : Nat) : Prop where
  nonempty : unsignedChars s ≠ []
  digits : ∀ c ∈ unsignedChars s, c.isDigit = true
  value : Nat.ofDigitChars 10 (unsignedChars s) 0 = n

/-- A value stands for an unsigned number: it is the integer, or a text that writes it. -/
inductive Json.Denotes : Json → Nat → Prop
  | int {n : Nat} (h : n ≤ maxUnsigned) : Denotes (.int n) n
  | text {s : String} {n : Nat} (hs : IsNumeral s n) (h : n ≤ maxUnsigned) : Denotes (.str s) n

/-! ### Digits -/

theorem digitValue_eq (c : Char) :
    digitValue c = if c.isDigit = true then some (c.toNat - '0'.toNat) else none := by
  have hdigit : ('0' ≤ c ∧ c ≤ '9') ↔ c.isDigit = true := by
    simp [Char.isDigit, Char.le_def]
  simp only [digitValue, hdigit]

theorem le_ofDigitChars (digits : List Char) (value : Nat) :
    value ≤ Nat.ofDigitChars 10 digits value := by
  induction digits generalizing value with
  | nil => exact Nat.le_refl value
  | cons c rest ih =>
    have hrest := ih (10 * value + (c.toNat - '0'.toNat))
    rw [Nat.ofDigitChars_cons]
    omega

/-- Reading on gives a number exactly if all that follows are digits and the whole number keeps to
the limit. -/
theorem readDigits_eq_ok_iff {limit value n : Nat} (h : value ≤ limit) (chars : List Char) :
    readDigits limit value chars = .ok n ↔
      (∀ c ∈ chars, c.isDigit = true) ∧ Nat.ofDigitChars 10 chars value = n ∧ n ≤ limit := by
  induction chars generalizing value with
  | nil =>
    simp only [readDigits, Except.ok.injEq, Nat.ofDigitChars_nil]
    constructor
    · rintro rfl
      exact ⟨nofun, rfl, h⟩
    · rintro ⟨-, rfl, -⟩
      rfl
  | cons c rest ih =>
    rw [readDigits, digitValue_eq, List.forall_mem_cons, Nat.ofDigitChars_cons,
      Nat.mul_comm 10 value]
    by_cases hc : c.isDigit = true
    · simp only [hc, ↓reduceIte, true_and]
      by_cases hlimit : limit < value * 10 + (c.toNat - '0'.toNat)
      · -- the number only grows from here on
        have hgrows := le_ofDigitChars rest (value * 10 + (c.toNat - '0'.toNat))
        simp only [if_pos hlimit]
        refine ⟨nofun, ?_⟩
        rintro ⟨-, rfl, hle⟩
        omega
      · rw [if_neg hlimit, ih (by omega)]
    · simp [hc]

/-- A text is read as a number exactly if it writes it and the number keeps to the limit. -/
theorem readUnsigned_eq_ok_iff {limit n : Nat} {s : String} :
    readUnsigned limit s = .ok n ↔ IsNumeral s n ∧ n ≤ limit := by
  have hread : readUnsigned limit s = .ok n ↔
      unsignedChars s ≠ [] ∧ readDigits limit 0 (unsignedChars s) = .ok n := by
    unfold readUnsigned unsignedChars
    split
    next h => simp [h]
    next h => simp [h]
    next digits hne h =>
      have hnonempty : digits ≠ [] := hne
      simp [h, hnonempty]
    next chars hempty _ hunsigned =>
      have hnonempty : s.toList ≠ [] := hempty
      split
      next digits h => exact absurd h (hunsigned digits)
      next => simp [hnonempty]
  rw [hread, readDigits_eq_ok_iff (Nat.zero_le limit)]
  constructor
  · rintro ⟨hnonempty, hdigits, hvalue, hle⟩
    exact ⟨⟨hnonempty, hdigits, hvalue⟩, hle⟩
  · rintro ⟨⟨hnonempty, hdigits, hvalue⟩, hle⟩
    exact ⟨hnonempty, hdigits, hvalue, hle⟩

/-! ### Values -/

namespace Fields

variable {f : Fields} {field : String} {v : Json}

/-- A value that is no double is taken for the number that it stands for. -/
theorem toUnsigned_eq_ok_iff {n : Nat} (hfloat : ∀ x, v ≠ .float x) (hn : n ≤ maxUnsigned) :
    f.toUnsigned field v = .ok n ↔ v.Denotes n := by
  constructor
  · intro h
    cases v with
    | int m =>
      simp only [toUnsigned] at h
      split at h
      next hm =>
        obtain ⟨k, rfl⟩ := Int.eq_ofNat_of_zero_le hm
        cases h
        exact .int hn
      next => cases h
    | str s =>
      simp only [toUnsigned] at h
      split at h
      next hread =>
        cases h
        exact .text (readUnsigned_eq_ok_iff.1 hread).1 hn
      next => cases h
    | float x => exact absurd rfl (hfloat x)
    | _ => cases h
  · intro h
    cases h with
    | int h => simp [toUnsigned]
    | text hs h => simp [toUnsigned, readUnsigned_eq_ok_iff.2 ⟨hs, h⟩]

/-- A value that is not taken for a number is malformed. -/
theorem toUnsigned_error {e : FieldError} (h : f.toUnsigned field v = .error e) :
    ∃ reason, e = .malformed f.action field reason := by
  cases v with
  | int m | float x | str s =>
    simp only [toUnsigned] at h
    split at h
    next => cases h
    next =>
      cases h
      exact ⟨_, rfl⟩
  | _ =>
    cases h
    exact ⟨_, rfl⟩

end Fields

end ChainWatch
