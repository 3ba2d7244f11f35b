import JsxRouting.Proofs.RoundedQuotients

namespace JsxRouting

namespace Binary64

/-- The number of digits, told by the powers of ten around the number. -/
theorem length_toDigits_le_iff {number : Nat} (pos : 0 < number) (count : Nat) :
    (Nat.toDigits 10 number).length ≤ count ↔ number < 10 ^ count := by
  cases count with
  | zero =>
    have some := @Nat.length_toDigits_pos 10 number
    simp only [Nat.pow_zero]
    omega
  | succ count => exact Nat.length_toDigits_le_iff (by decide) (Nat.succ_pos count)

/-- Zeros at the end of a number are digits more. -/
theorem length_toDigits_zeros {number : Nat} (pos : 0 < number) (zeros : Nat) :
    (Nat.toDigits 10 (number * 10 ^ zeros)).length = (Nat.toDigits 10 number).length + zeros := by
  have power : 0 < 10 ^ zeros := Nat.pow_pos (by decide)
  have same (count : Nat) : (Nat.toDigits 10 (number * 10 ^ zeros)).length ≤ count + zeros ↔
      (Nat.toDigits 10 number).length ≤ count := by
    rw [length_toDigits_le_iff (Nat.mul_pos pos power), length_toDigits_le_iff pos, Nat.pow_add,
      Nat.mul_lt_mul_right power]
  have some := @Nat.length_toDigits_pos 10 number
  have atMost := same (Nat.toDigits 10 number).length
  have atLeast := same ((Nat.toDigits 10 number).length - 1)
  omega

/-- The place above the first digit of a decimal: its value lies below `10` to this power. -/
def placeAbove (digits : Nat) (exponent : Int) : Int := exponent + (Nat.toDigits 10 digits).length

section Decimals

variable {digits : Nat} {exponent : Int} (pos : 0 < digits)

include pos

theorem placeAbove_zeros (zeros : Nat) (exponent : Int) :
    placeAbove (digits * 10 ^ zeros) (exponent - zeros) = placeAbove digits exponent := by
  rw [placeAbove, placeAbove, length_toDigits_zeros pos]
  omega

/-- A decimal lies between the powers of ten around its first digit. -/
theorem decimal_bounds (exponent : Int) :
    (10 : ℚ) ^ (placeAbove digits exponent - 1) ≤ digits * 10 ^ exponent ∧
      (digits : ℚ) * 10 ^ exponent < 10 ^ placeAbove digits exponent := by
  have ten : (10 : ℚ) ≠ 0 := by norm_num
  obtain ⟨count, isCount⟩ : ∃ count, (Nat.toDigits 10 digits).length = count + 1 :=
    ⟨_, (Nat.succ_pred_eq_of_pos Nat.length_toDigits_pos).symm⟩
  have least : 10 ^ count ≤ digits := by
    rw [← not_lt, ← length_toDigits_le_iff pos]
    omega
  have below : digits < 10 ^ (count + 1) := (length_toDigits_le_iff pos (count + 1)).mp isCount.le
  rw [placeAbove, isCount]
  constructor
  · calc (10 : ℚ) ^ (exponent + (count + 1 : Nat) - 1) = (10 : ℚ) ^ count * 10 ^ exponent := by
          rw [← zpow_natCast, ← zpow_add₀ ten]
          congr 1
          omega
      _ ≤ digits * 10 ^ exponent := by
          have least : (10 : ℚ) ^ count ≤ digits := by exact_mod_cast least
          gcongr
  · calc (digits : ℚ) * 10 ^ exponent < 10 ^ (count + 1) * 10 ^ exponent := by
          have below : (digits : ℚ) < 10 ^ (count + 1) := by exact_mod_cast below
          gcongr
      _ = 10 ^ (exponent + (count + 1 : Nat)) := by
          rw [← zpow_natCast, ← zpow_add₀ ten]
          congr 1
          omega

/-- A decimal that is too large or too small is not computed. -/
theorem ofDecimal_outside (negative : Bool)
    (outside : ¬ (-330 ≤ placeAbove digits exponent ∧ placeAbove digits exponent ≤ 310)) :
    ofDecimal negative digits exponent =
      if 310 < placeAbove digits exponent then .infinite negative else zero negative := by
  unfold ofDecimal
  unfold placeAbove at outside ⊢
  dsimp only
  rw [if_neg pos.ne']
  by_cases large : 310 < exponent + ((Nat.toDigits 10 digits).length : Int)
  · rw [if_pos large, if_pos large]
  · have small : exponent + ((Nat.toDigits 10 digits).length : Int) < -330 := by omega
    rw [if_neg large, if_neg large, if_pos small]

/-- Every other decimal is read as the number nearest to its value. -/
theorem exists_quotient (negative : Bool)
    (inside : -330 ≤ placeAbove digits exponent ∧ placeAbove digits exponent ≤ 310) :
    ∃ numerator denominator : Nat, 0 < numerator ∧ 0 < denominator ∧
      (numerator : ℚ) / denominator = digits * 10 ^ exponent ∧
      ofDecimal negative digits exponent = ofQuotient negative numerator denominator := by
  obtain ⟨atLeast, atMost⟩ := inside
  unfold placeAbove at atLeast atMost
  unfold ofDecimal
  dsimp only
  rw [if_neg pos.ne', if_neg (not_lt.mpr atMost), if_neg (not_lt.mpr atLeast)]
  by_cases nonneg : 0 ≤ exponent
  · obtain ⟨power, rfl⟩ := Int.eq_ofNat_of_zero_le nonneg
    refine ⟨digits * Nat.pow 10 power, 1, Nat.mul_pos pos (Nat.pow_pos (by decide)), Nat.one_pos, ?_, if_pos nonneg⟩
    simp
  · obtain ⟨power, isPower⟩ : ∃ power : Nat, exponent = -(power : Int) := ⟨(-exponent).toNat, by omega⟩
    subst isPower
    refine ⟨digits, Nat.pow 10 power, pos, Nat.pow_pos (by decide), ?_, ?_⟩
    · simp [div_eq_mul_inv]
    · rw [if_neg nonneg, neg_neg, Int.toNat_natCast]

/-- Zeros may be moved from the exponent to the digits. -/
theorem ofDecimal_zeros (negative : Bool) (zeros : Nat) (exponent : Int) :
    ofDecimal negative (digits * 10 ^ zeros) (exponent - zeros) = ofDecimal negative digits exponent := by
  have posZeros : 0 < digits * 10 ^ zeros := Nat.mul_pos pos (Nat.pow_pos (by decide))
  have samePlace := placeAbove_zeros pos zeros exponent
  by_cases inside : -330 ≤ placeAbove digits exponent ∧ placeAbove digits exponent ≤ 310
  · obtain ⟨numerator, denominator, posNumerator, posDenominator, value, read⟩ :=
      exists_quotient pos negative inside
    rw [← samePlace] at inside
    obtain ⟨other, another, posOther, posAnother, otherValue, readZeros⟩ := exists_quotient posZeros negative inside
    have sameValue : (other : ℚ) / another = numerator / denominator := by
      rw [value, otherValue, Nat.cast_mul, Nat.cast_pow, Nat.cast_ofNat, zpow_sub₀ (by norm_num), zpow_natCast]
      field_simp
    rw [read, readZeros, ofQuotient_congr negative posOther posAnother posNumerator posDenominator sameValue]
  · rw [ofDecimal_outside pos negative inside]
    rw [← samePlace] at inside
    rw [ofDecimal_outside posZeros negative inside, samePlace]

/-- A decimal that has the value of a finite number is read as that number. -/
theorem ofDecimal_exact (negative : Bool) {significand : Nat} {power : Int}
    (canonical : IsCanonical significand power)
    (posSignificand : 0 < significand) (value : (digits : ℚ) * 10 ^ exponent = significand * 2 ^ power) :
    ofDecimal negative digits exponent = .finite negative significand power := by
  have bounds := decimal_bounds pos exponent
  rw [value] at bounds
  have bounded : (significand : ℚ) < 2 ^ (53 : Int) := by exact_mod_cast canonical.bounded
  have whole : (1 : ℚ) ≤ significand := by exact_mod_cast posSignificand
  have least := canonical.least
  have greatest := canonical.greatest
  unfold leastExponent at least
  unfold greatestExponent at greatest
  have atMost : placeAbove digits exponent - 1 < 309 := by
    refine (zpow_lt_zpow_iff_right₀ (by norm_num : (1 : ℚ) < 10)).mp ?_
    calc (10 : ℚ) ^ (placeAbove digits exponent - 1) ≤ significand * 2 ^ power := bounds.1
      _ < 2 ^ (53 : Int) * 2 ^ power := by gcongr
      _ ≤ 2 ^ (53 : Int) * 2 ^ (971 : Int) := by
          gcongr
          norm_num
      _ < 10 ^ (309 : Int) := by
          have powers : 2 ^ 53 * 2 ^ 971 < 10 ^ 309 := by decide +kernel
          exact_mod_cast powers
  have atLeast : -324 < placeAbove digits exponent := by
    refine (zpow_lt_zpow_iff_right₀ (by norm_num : (1 : ℚ) < 10)).mp ?_
    calc (10 : ℚ) ^ (-324 : Int) ≤ 2 ^ (-1074 : Int) := by
          have powers : 2 ^ 1074 ≤ 10 ^ 324 := by decide +kernel
          rw [zpow_neg, zpow_neg]
          exact inv_anti₀ (by positivity) (by exact_mod_cast powers)
      _ ≤ 2 ^ power := by
          gcongr
          norm_num
      _ ≤ significand * 2 ^ power := le_mul_of_one_le_left (by positivity) whole
      _ < 10 ^ placeAbove digits exponent := bounds.2
  obtain ⟨numerator, denominator, posNumerator, posDenominator, isValue, read⟩ :=
    exists_quotient pos negative
      (show -330 ≤ placeAbove digits exponent ∧ placeAbove digits exponent ≤ 310 by omega)
  rw [read, ofQuotient_exact negative canonical posSignificand posNumerator posDenominator (isValue.trans value)]

end Decimals

theorem ofDecimal_signed (negative : Bool) (digits : Nat) (exponent : Int) :
    ofDecimal negative digits exponent = (ofDecimal false digits exponent).signed negative := by
  unfold ofDecimal
  dsimp only
  split
  · rfl
  · split
    · rfl
    · split
      · rfl
      · split <;> exact ofQuotient_signed negative _ _

/-- What is read is as numbers are. -/
theorem isProper_ofDecimal (negative : Bool) (digits : Nat) (exponent : Int) :
    (ofDecimal negative digits exponent).IsProper := by
  obtain rfl | pos := Nat.eq_zero_or_pos digits
  · exact isProper_zero negative
  · by_cases inside : -330 ≤ placeAbove digits exponent ∧ placeAbove digits exponent ≤ 310
    · obtain ⟨_, _, posNumerator, posDenominator, _, read⟩ := exists_quotient pos negative inside
      rw [read]
      exact isProper_ofQuotient negative posNumerator posDenominator
    · rw [ofDecimal_outside pos negative inside]
      split
      · trivial
      · exact isProper_zero negative

section Shortest

variable {significand : Nat} {exponent : Int}

/-- All digits of a number read back as the number. -/
theorem ofDecimal_exactDecimal (canonical : IsCanonical significand exponent) (pos : 0 < significand) :
    ofDecimal false (exactDecimal significand exponent).digits (exactDecimal significand exponent).exponent =
      .finite false significand exponent := by
  unfold exactDecimal
  split
  · next nonneg =>
    obtain ⟨power, rfl⟩ := Int.eq_ofNat_of_zero_le nonneg
    refine ofDecimal_exact (Nat.mul_pos pos (Nat.pow_pos Nat.two_pos)) false canonical pos ?_
    simp
  · next negative =>
    obtain ⟨power, isPower⟩ : ∃ power : Nat, exponent = -(power : Int) := ⟨(-exponent).toNat, by omega⟩
    subst isPower
    refine ofDecimal_exact (Nat.mul_pos pos (Nat.pow_pos (by decide))) false canonical pos ?_
    have ten : (10 : ℚ) = 5 * 2 := by norm_num
    simp only [neg_neg, Int.toNat_natCast, Nat.cast_mul, Nat.cast_pow, Nat.cast_ofNat, zpow_neg, zpow_natCast, ten,
      mul_pow]
    field_simp

/-- The shortest decimal of a number reads back as the number. -/
theorem ofDecimal_shortest (canonical : IsCanonical significand exponent) (pos : 0 < significand) :
    ofDecimal false (shortest significand exponent).digits (shortest significand exponent).exponent =
      .finite false significand exponent := by
  unfold shortest
  dsimp only
  cases found : List.findSome? _ (List.range 17) with
  | none => exact ofDecimal_exactDecimal canonical pos
  | some decimal =>
    obtain ⟨count, _, isFirst⟩ := List.exists_of_findSome?_eq_some found
    have member := List.mem_of_head? isFirst
    exact beq_iff_eq.mp (List.mem_filter.mp member).2

end Shortest

end Binary64

end JsxRouting
