import ChainWatch.Proofs.Documents
import ChainWatch.Proofs.Printing
import Mathlib.Algebra.Order.Floor.Semifield
import Mathlib.Data.Rat.Floor
import Mathlib.Tactic.Positivity
import Mathlib.Tactic.NormNum

/-!
# Numbers that doubles stand for

A double denotes a rational number, and what is done to doubles is done to these numbers.  A field
takes a double for an unsigned integer if it is whole and lies within the range of these integers.
The largest of them needs 64 bits and a double has 53, so the upper end of the range, as a double,
is `2 ^ 64`.  This one number passes and becomes the largest unsigned integer.  All other numbers
are taken for what they are, whether they come as integers, doubles or texts, and in a field with a
signed limit that one is turned down as well.

* `Double.value` : the number that a double denotes.
* `Double.isWhole_iff`, `Double.le_iff`, `Double.toUnsigned_eq` : tests and conversions by numbers.
* `Json.Represents` : a value stands for a natural number.
* `Fields.ofDouble?_eq_some_iff`, `Fields.toUnsigned_eq_ok_iff_represents` : what is taken for which
  number.
* `Fields.numbers_represented` : the fields by the numbers that they give.
-/

namespace ChainWatch

/-! ### Doubles -/

namespace Double

/-- The number that a double denotes. -/
def value (x : Double) : ℚ := (if x.negative then -1 else 1) * x.mantissa * 2 ^ x.exponent

theorem fraction_snd_pos (x : Double) : 0 < x.fraction.2 := by
  unfold fraction
  split
  · exact Nat.one_pos
  · exact Nat.two_pow_pos _

/-- The fraction is exact. -/
theorem value_eq_div (x : Double) : x.value = x.numerator / x.fraction.2 := by
  obtain ⟨negative, m, e⟩ := x
  by_cases he : 0 ≤ e
  · obtain ⟨k, rfl⟩ := Int.eq_ofNat_of_zero_le he
    cases negative <;> simp [value, numerator, fraction]
  · obtain ⟨k, hk⟩ : ∃ k : ℕ, -e = k := Int.eq_ofNat_of_zero_le (by omega)
    have hpow : (2 : ℚ) ^ e = (2 ^ k)⁻¹ := by rw [← neg_neg e, hk, zpow_neg, zpow_natCast]
    cases negative <;> simp [value, numerator, fraction, he, hk, hpow, div_eq_mul_inv]

theorem natAbs_numerator (x : Double) : x.numerator.natAbs = x.fraction.1 := by
  unfold numerator
  split <;> simp

theorem isWhole_iff {x : Double} : x.isWhole = true ↔ ∃ n : ℤ, x.value = n := by
  have hpos : (x.fraction.2 : ℚ) ≠ 0 := by exact_mod_cast x.fraction_snd_pos.ne'
  have hdvd : x.isWhole = true ↔ (x.fraction.2 : ℤ) ∣ x.numerator := by
    rw [Int.natCast_dvd, natAbs_numerator, Nat.dvd_iff_mod_eq_zero, isWhole, decide_eq_true_eq]
  rw [hdvd, value_eq_div]
  refine exists_congr fun n => ?_
  rw [div_eq_iff hpos, mul_comm]
  exact_mod_cast Iff.rfl

theorem le_iff {x y : Double} : x.le y = true ↔ x.value ≤ y.value := by
  have hx : (0 : ℚ) < x.fraction.2 := by exact_mod_cast x.fraction_snd_pos
  have hy : (0 : ℚ) < y.fraction.2 := by exact_mod_cast y.fraction_snd_pos
  rw [value_eq_div, value_eq_div, div_le_div_iff₀ hx hy, le, decide_eq_true_eq]
  exact_mod_cast Iff.rfl

/-- The way to an unsigned integer cuts off the fraction and stops at both ends of the range. -/
theorem toUnsigned_eq (x : Double) : x.toUnsigned = min ⌊x.value⌋₊ maxUnsigned := by
  rw [value_eq_div, toUnsigned, numerator]
  split
  · have hneg : ((-x.fraction.1 : ℤ) : ℚ) / x.fraction.2 ≤ 0 :=
      div_nonpos_of_nonpos_of_nonneg (by simp) (Nat.cast_nonneg _)
    rw [Nat.floor_of_nonpos hneg, Nat.zero_min]
  · rw [Int.cast_natCast, Nat.floor_div_eq_div]

theorem value_zero : zero.value = 0 := by simp [value, zero]

/-- The largest unsigned integer becomes the next power of two. -/
theorem value_ofNat_maxUnsigned : (ofNat maxUnsigned).value = 2 ^ 64 := by
  have hrounded : ofNat maxUnsigned = ⟨false, 0x10000000000000, 12⟩ := by decide +kernel
  rw [hrounded]
  norm_num [value]

end Double

/-! ### Values -/

/-- A value stands for a natural number: it is the integer, a double that is equal to it, or a text
that writes it. -/
inductive Json.Represents : Json → ℕ → Prop
  | int (n : ℕ) : Represents (.int n) n
  | double {x : Double} {n : ℕ} (h : x.value = n) : Represents (.float x) n
  | text {s : String} {n : ℕ} (h : IsNumeral s n) : Represents (.str s) n

/-- A value is the double to which the largest unsigned integer is rounded. -/
def Json.IsRoundedLimit (v : Json) : Prop := ∃ x, v = .float x ∧ x.value = 2 ^ 64

theorem Json.denotes_iff {v : Json} {n : ℕ} (hfloat : ∀ x, v ≠ .float x) :
    v.Denotes n ↔ v.Represents n ∧ n ≤ maxUnsigned := by
  constructor
  · rintro (hle | ⟨hs, hle⟩)
    · exact ⟨.int n, hle⟩
    · exact ⟨.text hs, hle⟩
  · rintro ⟨_ | _ | hs, hle⟩
    · exact .int hle
    · exact absurd rfl (hfloat _)
    · exact .text hs hle

namespace Fields

variable {f : Fields} {field : String} {v : Json} {n : ℕ}

/-- A double is taken for a number if it is this number, up to the rounded limit. -/
theorem ofDouble?_eq_some_iff {x : Double} :
    ofDouble? x = some n ↔ ∃ k : ℕ, x.value = k ∧ k ≤ 2 ^ 64 ∧ min k maxUnsigned = n := by
  rw [ofDouble?, Option.ite_none_right_eq_some, Bool.and_eq_true, Bool.and_eq_true,
    Double.isWhole_iff, Double.le_iff, Double.le_iff, Double.value_zero,
    Double.value_ofNat_maxUnsigned, Double.toUnsigned_eq, Option.some.injEq]
  constructor
  · rintro ⟨⟨⟨⟨i, hi⟩, hzero⟩, hle⟩, hn⟩
    rw [hi] at hzero hle hn
    obtain ⟨k, rfl⟩ := Int.eq_ofNat_of_zero_le (Int.cast_nonneg_iff.1 hzero)
    rw [Int.cast_natCast] at hi hle hn
    rw [Nat.floor_natCast] at hn
    exact ⟨k, hi, by exact_mod_cast hle, hn⟩
  · rintro ⟨k, hk, hle, hn⟩
    rw [hk, Nat.floor_natCast]
    exact ⟨⟨⟨⟨k, (Int.cast_natCast k).symm⟩, Nat.cast_nonneg k⟩, by exact_mod_cast hle⟩, hn⟩

theorem toUnsigned_float_eq_ok_iff {x : Double} :
    f.toUnsigned field (.float x) = .ok n ↔ ofDouble? x = some n := by
  rw [toUnsigned]
  cases ofDouble? x <;> simp [malformed]

/-- No number is too large. -/
theorem toUnsigned_le (hrange : ∀ k, v = .int k → Json.InRange k)
    (h : f.toUnsigned field v = .ok n) : n ≤ maxUnsigned := by
  cases v with
  | int k =>
    have hk := (hrange k rfl).2
    simp only [toUnsigned] at h
    split at h
    next =>
      cases h
      omega
    next => cases h
  | float x =>
    obtain ⟨k, -, -, rfl⟩ := ofDouble?_eq_some_iff.1 (toUnsigned_float_eq_ok_iff.1 h)
    exact Nat.min_le_right k maxUnsigned
  | str s =>
    simp only [toUnsigned] at h
    split at h
    next hread =>
      cases h
      exact (readUnsigned_eq_ok_iff.1 hread).2
    next => cases h
  | _ => cases h

/-- A value is taken for the number that it stands for, and the rounded limit for the number
below it. -/
theorem toUnsigned_eq_ok_iff_represents (hrange : ∀ k, v = .int k → Json.InRange k) :
    f.toUnsigned field v = .ok n ↔
      v.Represents n ∧ n ≤ maxUnsigned ∨ v.IsRoundedLimit ∧ n = maxUnsigned := by
  by_cases hfloat : ∃ x, v = .float x
  · obtain ⟨x, rfl⟩ := hfloat
    have hmax : maxUnsigned + 1 = 2 ^ 64 := rfl
    rw [toUnsigned_float_eq_ok_iff, ofDouble?_eq_some_iff]
    constructor
    · rintro ⟨k, hk, hle, rfl⟩
      by_cases hmin : k ≤ maxUnsigned
      · rw [Nat.min_eq_left hmin]
        exact .inl ⟨.double hk, hmin⟩
      · -- only one number is left
        obtain rfl : k = 2 ^ 64 := by omega
        exact .inr ⟨⟨x, rfl, by exact_mod_cast hk⟩, by omega⟩
    · rintro (⟨_ | hn | _, hle⟩ | ⟨⟨y, hy, hlimit⟩, rfl⟩)
      · exact ⟨n, hn, by omega, Nat.min_eq_left hle⟩
      · cases hy
        exact ⟨2 ^ 64, by exact_mod_cast hlimit, le_rfl, by omega⟩
  · have hplain : ∀ x, v ≠ .float x := fun x hx => hfloat ⟨x, hx⟩
    have hlimit : ¬ v.IsRoundedLimit := fun ⟨x, hx, _⟩ => hplain x hx
    rw [or_iff_left (fun h => hlimit h.1), ← Json.denotes_iff hplain]
    constructor
    · intro h
      exact (toUnsigned_eq_ok_iff hplain (toUnsigned_le hrange h)).1 h
    · intro h
      exact (toUnsigned_eq_ok_iff hplain ((Json.denotes_iff hplain).1 h).2).2 h

/-! ### Fields -/

/-- A field gives what its value is taken for; nothing is made of null. -/
theorem unsigned_eq_ok_iff_toUnsigned (hget : f.members.get? field = some v) :
    f.unsigned field = .ok n ↔ f.toUnsigned field v = .ok n := by
  by_cases hnull : v = .null
  · subst hnull
    have hnone : f.get? field = none := get?_eq_none_iff.2 (.inr hget)
    simp [unsigned, hnone, missing, toUnsigned, malformed]
  · rw [unsigned, get?_eq_some_iff.2 ⟨hget, hnull⟩]

theorem signed_eq_ok_iff :
    f.signed field = .ok n ↔ f.unsigned field = .ok n ∧ n ≤ maxSigned := by
  have hbind : f.signed field = f.unsigned field >>= f.narrow field maxSigned := rfl
  rw [hbind, bind_eq_ok]
  simp only [narrow_eq_ok_iff]
  constructor
  · rintro ⟨m, hm, hle, rfl⟩
    exact ⟨hm, hle⟩
  · rintro ⟨hn, hle⟩
    exact ⟨n, hn, hle, rfl⟩

theorem optSigned_eq_ok_some_iff : f.optSigned field = .ok (some n) ↔ f.signed field = .ok n := by
  unfold optSigned signed unsigned
  cases f.get? field with
  | none => simp [missing, Except.bind]
  | some v =>
    dsimp only
    cases (f.toUnsigned field v).bind (f.narrow field maxSigned) <;> simp [Except.map]

/-- **No number but one is altered on its way through a field.**  A field gives the unsigned number
that its value stands for, and gives it whenever there is one.  The exception is the double
`2 ^ 64`, which is given as the number below it.  A field with a signed limit has no exception. -/
theorem numbers_represented (hget : f.members.get? field = some v)
    (hrange : ∀ k, v = .int k → Json.InRange k) (n : ℕ) :
    (f.unsigned field = .ok n ↔
        v.Represents n ∧ n ≤ maxUnsigned ∨ v.IsRoundedLimit ∧ n = maxUnsigned) ∧
      (f.signed field = .ok n ↔ v.Represents n ∧ n ≤ maxSigned) ∧
      (f.optSigned field = .ok (some n) ↔ v.Represents n ∧ n ≤ maxSigned) := by
  have hunsigned : f.unsigned field = .ok n ↔
      v.Represents n ∧ n ≤ maxUnsigned ∨ v.IsRoundedLimit ∧ n = maxUnsigned := by
    rw [unsigned_eq_ok_iff_toUnsigned hget]
    exact toUnsigned_eq_ok_iff_represents hrange
  have hlt : maxSigned < maxUnsigned := by decide
  have hsigned : f.signed field = .ok n ↔ v.Represents n ∧ n ≤ maxSigned := by
    rw [signed_eq_ok_iff, hunsigned]
    constructor
    · rintro ⟨⟨hv, -⟩ | ⟨-, rfl⟩, hle⟩
      · exact ⟨hv, hle⟩
      · omega
    · rintro ⟨hv, hle⟩
      exact ⟨.inl ⟨hv, by omega⟩, hle⟩
  exact ⟨hunsigned, hsigned, optSigned_eq_ok_some_iff.trans hsigned⟩

/-- The largest double below the limit is given as it is, though not to a signed column. -/
theorem numbers_represented_largest :
    let x : Double := ⟨false, 0x1FFFFFFFFFFFFF, 11⟩
    let f : Fields := .ofDocument "CreateAsset" (.obj [("asset_type", .float x)])
    f.members.get? "asset_type" = some (.float x) ∧
      f.unsigned "asset_type" = .ok 18446744073709549568 ∧
      ∀ n, f.signed "asset_type" ≠ .ok n := by
  intro x f
  have hget : f.members.get? "asset_type" = some (.float x) := by decide +kernel
  have hvalue : x.value = 18446744073709549568 := by norm_num [x, Double.value]
  have hgiven (n : ℕ) := numbers_represented hget nofun n
  refine ⟨hget, ?_, fun n hn => ?_⟩
  · exact (hgiven _).1.2 (.inl ⟨.double (by exact_mod_cast hvalue), by decide⟩)
  · obtain ⟨_ | hn | _, hle⟩ := (hgiven n).2.1.1 hn
    rw [hvalue] at hn
    have hlarge : 18446744073709549568 = n := by exact_mod_cast hn
    unfold maxSigned at hle
    omega

/-- The number that follows the largest unsigned integer is read as a double, is given as that
integer, and is turned down by this name. -/
theorem unsigned_alters_limit :
    let x : Double := ⟨false, 0x10000000000000, 12⟩
    let ctx : ActionContext :=
      { input := .obj [("asset_type", .float x)]
        output := [("asset_address", .str "0xasset")]
        sponsor := "s"
        txHash := "t"
        timestamp := ⟨0, false⟩ }
    Json.parse (Utf8.encode "18446744073709551616") = .ok (.float x) ∧
      x.value = 18446744073709551616 ∧
      (AssetRow.input ctx).unsigned "asset_type" = .ok 18446744073709551615 ∧
      ¬ (Json.float x).Represents 18446744073709551615 ∧
      AssetRow.ofAction ctx = .error
        (.malformed "CreateAsset" "asset_type" "unknown asset type 18446744073709551615") := by
  intro x ctx
  have hvalue : x.value = 18446744073709551616 := by norm_num [x, Double.value]
  refine ⟨by decide +kernel, hvalue, by decide +kernel, ?_, by decide +kernel⟩
  rintro (_ | h | _)
  rw [hvalue] at h
  norm_num at h

end Fields

end ChainWatch
