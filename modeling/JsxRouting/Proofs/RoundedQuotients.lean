import JsxRouting.Binary64.Shortest
import Mathlib.Algebra.Order.Field.Power
import Mathlib.Data.Int.Log
import Mathlib.Data.Rat.Floor
import Mathlib.Tactic.FieldSimp
import Mathlib.Tactic.Positivity
import Mathlib.Tactic.Ring
import Mathlib.Tactic.NormNum
import Mathlib.Tactic.Linarith

namespace JsxRouting

namespace Binary64

/-- A significand and an exponent as finite numbers have them: 53 bits, or fewer with the least exponent. -/
structure IsCanonical (significand : Nat) (exponent : Int) : Prop where
  bounded : significand < 2 ^ 53
  least : leastExponent ≤ exponent
  greatest : exponent ≤ greatestExponent
  normal : 2 ^ 52 ≤ significand ∨ exponent = leastExponent

/-- A number that is not finite, or is as finite numbers are. -/
def IsProper : Binary64 → Prop
  | .finite _ significand exponent => IsCanonical significand exponent
  | _ => True

/-- The number with this sign. -/
def signed (negative : Bool) : Binary64 → Binary64
  | .nan => .nan
  | .infinite _ => .infinite negative
  | .finite _ significand exponent => .finite negative significand exponent

theorem isProper_zero (negative : Bool) : (zero negative).IsProper := ⟨by decide, le_rfl, by decide, .inr rfl⟩

section Rounding

variable {numerator denominator other another : Nat}

theorem roundQuotient_scale (numerator denominator : Nat) {factor : Nat} (pos : 0 < factor) :
    roundQuotient (numerator * factor) (denominator * factor) = roundQuotient numerator denominator := by
  have quotient : numerator * factor / (denominator * factor) = numerator / denominator :=
    Nat.mul_div_mul_right _ _ pos
  have remainder : numerator * factor % (denominator * factor) = numerator % denominator * factor :=
    Nat.mul_mod_mul_right factor numerator denominator
  have above : denominator * factor < 2 * (numerator % denominator * factor) ↔
    denominator < 2 * (numerator % denominator) := by
    rw [← Nat.mul_assoc, Nat.mul_lt_mul_right pos]
  have half : 2 * (numerator % denominator * factor) = denominator * factor ↔
    2 * (numerator % denominator) = denominator := by
    rw [← Nat.mul_assoc, Nat.mul_left_inj pos.ne']
  unfold roundQuotient
  simp only [quotient, remainder, above, half]

/-- Rounding depends on the value of the quotient alone. -/
theorem roundQuotient_congr (posDenominator : 0 < denominator) (posAnother : 0 < another)
    (same : (numerator : ℚ) / denominator = other / another) :
    roundQuotient numerator denominator = roundQuotient other another := by
  have crossed : numerator * another = other * denominator := by
    rw [div_eq_div_iff (by positivity) (by positivity)] at same
    exact_mod_cast same
  rw [← roundQuotient_scale numerator denominator posAnother, crossed, Nat.mul_comm denominator another,
    roundQuotient_scale other another posDenominator]

theorem roundQuotient_whole (whole : Nat) : roundQuotient whole 1 = whole := by
  unfold roundQuotient
  simp [Nat.mod_one]

theorem roundQuotient_bounds (numerator denominator : Nat) :
    numerator / denominator ≤ roundQuotient numerator denominator ∧
      roundQuotient numerator denominator ≤ numerator / denominator + 1 := by
  unfold roundQuotient
  dsimp only
  split <;> omega

theorem scaleDown_pos (numerator : Nat) (pos : 0 < denominator) (exponent : Int) :
    0 < (scaleDown numerator denominator exponent).2 := by
  unfold scaleDown
  split
  · exact Nat.mul_pos pos (Nat.pow_pos Nat.two_pos)
  · exact pos

/-- Taking out a power of two divides the value by it. -/
theorem scaleDown_value (numerator : Nat) (pos : 0 < denominator) (exponent : Int) :
    ((scaleDown numerator denominator exponent).1 : ℚ) / (scaleDown numerator denominator exponent).2 =
      (numerator : ℚ) / denominator / 2 ^ exponent := by
  unfold scaleDown
  split
  · next nonneg =>
    obtain ⟨power, rfl⟩ := Int.eq_ofNat_of_zero_le nonneg
    simp only [Int.toNat_natCast, Nat.pow_eq, Nat.cast_mul, Nat.cast_pow, Nat.cast_ofNat, zpow_natCast]
    field_simp
  · next negative =>
    obtain ⟨power, isPower⟩ : ∃ power : Nat, exponent = -(power : Int) := ⟨(-exponent).toNat, by omega⟩
    subst isPower
    simp only [neg_neg, Int.toNat_natCast, Nat.pow_eq, Nat.cast_mul, Nat.cast_pow, Nat.cast_ofNat,
      zpow_neg, zpow_natCast]
    field_simp

/-- A positive number lies between the powers of two around its highest bit. -/
theorem log2_bounds (pos : 0 < numerator) :
    (2 : ℚ) ^ (numerator.log2 : Int) ≤ numerator ∧ (numerator : ℚ) < 2 ^ ((numerator.log2 : Int) + 1) := by
  have least := Nat.log2_self_le pos.ne'
  have below := @Nat.lt_log2_self numerator
  constructor
  · exact_mod_cast least
  · exact_mod_cast below

/-- The highest bit of a quotient is told by those of its parts up to one place. -/
theorem log_quotient_bounds (posNumerator : 0 < numerator) (posDenominator : 0 < denominator) :
    let highest : Int := numerator.log2 - denominator.log2
    highest - 1 ≤ Int.log 2 ((numerator : ℚ) / denominator) ∧
      Int.log 2 ((numerator : ℚ) / denominator) ≤ highest := by
  intro highest
  have positive : (0 : ℚ) < (numerator : ℚ) / denominator := by positivity
  have denominatorPos : (0 : ℚ) < denominator := by exact_mod_cast posDenominator
  obtain ⟨numeratorLeast, numeratorBelow⟩ := log2_bounds posNumerator
  obtain ⟨denominatorLeast, denominatorBelow⟩ := log2_bounds posDenominator
  have two : (2 : ℚ) ≠ 0 := two_ne_zero
  constructor
  · refine (Int.zpow_le_iff_le_log Nat.one_lt_two positive).mp ?_
    rw [Nat.cast_ofNat, le_div_iff₀ denominatorPos]
    calc (2 : ℚ) ^ (highest - 1) * denominator
        ≤ 2 ^ (highest - 1) * 2 ^ ((denominator.log2 : Int) + 1) := by gcongr
      _ = 2 ^ (numerator.log2 : Int) := by
        rw [← zpow_add₀ two]
        congr 1
        omega
      _ ≤ numerator := numeratorLeast
  · refine Int.lt_add_one_iff.mp ((Int.lt_zpow_iff_log_lt Nat.one_lt_two positive).mp ?_)
    rw [Nat.cast_ofNat, div_lt_iff₀ denominatorPos]
    calc (numerator : ℚ) < 2 ^ ((numerator.log2 : Int) + 1) := numeratorBelow
      _ = 2 ^ (highest + 1) * 2 ^ (denominator.log2 : Int) := by
        rw [← zpow_add₀ two]
        congr 1
        omega
      _ ≤ 2 ^ (highest + 1) * denominator := by gcongr

/-- Whether the quotient of the parts is below a bound, told by the value. -/
theorem div_lt_iff_value (pos : 0 < denominator) (bound : Nat) :
    numerator / denominator < bound ↔ (numerator : ℚ) / denominator < bound := by
  have positive : (0 : ℚ) < denominator := by exact_mod_cast pos
  rw [Nat.div_lt_iff_lt_mul pos, div_lt_iff₀ positive]
  exact_mod_cast Iff.rfl

/-- The exponent is that of the highest bit, with room for 52 bits under it, unless that is below the least
exponent. -/
theorem quotientExponent_eq (posNumerator : 0 < numerator) (posDenominator : 0 < denominator) :
    quotientExponent numerator denominator =
      max leastExponent (Int.log 2 ((numerator : ℚ) / denominator) - 52) := by
  have positive : (0 : ℚ) < (numerator : ℚ) / denominator := by positivity
  obtain ⟨atLeast, atMost⟩ := log_quotient_bounds posNumerator posDenominator
  unfold quotientExponent
  have few (estimate : Int) :
      (scaleDown numerator denominator estimate).1 / (scaleDown numerator denominator estimate).2 < Nat.pow 2 52 ↔
        Int.log 2 ((numerator : ℚ) / denominator) < estimate + 52 := by
    rw [div_lt_iff_value (scaleDown_pos numerator posDenominator estimate),
      scaleDown_value numerator posDenominator,
      div_lt_iff₀ (by positivity), ← Int.lt_zpow_iff_log_lt Nat.one_lt_two positive, add_comm,
        zpow_add₀ (by norm_num)]
    exact_mod_cast Iff.rfl
  simp only [few]
  split <;> omega

/-- The number nearest to a quotient depends on the value of the quotient alone. -/
theorem ofQuotient_congr (negative : Bool) (posNumerator : 0 < numerator) (posDenominator : 0 < denominator)
    (posOther : 0 < other) (posAnother : 0 < another) (same : (numerator : ℚ) / denominator = other / another) :
    ofQuotient negative numerator denominator = ofQuotient negative other another := by
  have exponent : quotientExponent numerator denominator = quotientExponent other another := by
    rw [quotientExponent_eq posNumerator posDenominator, quotientExponent_eq posOther posAnother, same]
  have significand (exponent : Int) :
      roundQuotient (scaleDown numerator denominator exponent).1 (scaleDown numerator denominator exponent).2 =
        roundQuotient (scaleDown other another exponent).1 (scaleDown other another exponent).2 := by
    refine roundQuotient_congr (scaleDown_pos _ posDenominator _) (scaleDown_pos _ posAnother _) ?_
    rw [scaleDown_value _ posDenominator, scaleDown_value _ posAnother, same]
  unfold ofQuotient
  simp only [exponent, significand]

/-- The exponent of a number that is canonical. -/
theorem quotientExponent_canonical {significand : Nat} {exponent : Int}
    (canonical : IsCanonical significand exponent)
    (pos : 0 < significand) (posNumerator : 0 < numerator) (posDenominator : 0 < denominator)
    (value : (numerator : ℚ) / denominator = significand * 2 ^ exponent) :
    quotientExponent numerator denominator = exponent := by
  have positive : (0 : ℚ) < (significand : ℚ) * 2 ^ exponent := by positivity
  have bounded : (significand : ℚ) < 2 ^ (53 : Int) := by exact_mod_cast canonical.bounded
  have below : Int.log 2 ((significand : ℚ) * 2 ^ exponent) < exponent + 53 := by
    rw [← Int.lt_zpow_iff_log_lt Nat.one_lt_two positive, Nat.cast_ofNat, add_comm, zpow_add₀ two_ne_zero]
    gcongr
  have least := canonical.least
  rw [quotientExponent_eq posNumerator posDenominator, value]
  obtain normal | subnormal := canonical.normal
  · have normal : (2 : ℚ) ^ (52 : Int) ≤ significand := by exact_mod_cast normal
    have above : exponent + 52 ≤ Int.log 2 ((significand : ℚ) * 2 ^ exponent) := by
      rw [← Int.zpow_le_iff_le_log Nat.one_lt_two positive, Nat.cast_ofNat, add_comm, zpow_add₀ two_ne_zero]
      gcongr
    omega
  · omega

/-- A quotient that is a finite number is rounded to it. -/
theorem ofQuotient_exact (negative : Bool) {significand : Nat} {exponent : Int}
    (canonical : IsCanonical significand exponent) (pos : 0 < significand) (posNumerator : 0 < numerator)
    (posDenominator : 0 < denominator) (value : (numerator : ℚ) / denominator = significand * 2 ^ exponent) :
    ofQuotient negative numerator denominator = .finite negative significand exponent := by
  have isExponent := quotientExponent_canonical canonical pos posNumerator posDenominator value
  have isSignificand :
      roundQuotient (scaleDown numerator denominator exponent).1 (scaleDown numerator denominator exponent).2 =
        significand := by
    refine (roundQuotient_congr (scaleDown_pos _ posDenominator _) Nat.one_pos ?_).trans
      (roundQuotient_whole significand)
    rw [scaleDown_value _ posDenominator, value, Nat.cast_one, div_one, mul_div_assoc,
      div_self (by positivity), mul_one]
  have notCarried : (significand == significandBound) = false := beq_false_of_ne canonical.bounded.ne
  have notInfinite : ¬ greatestExponent < exponent := not_lt.mpr canonical.greatest
  unfold ofQuotient
  simp only [isExponent, isSignificand, notCarried, notInfinite, Bool.false_eq_true, if_false]

/-- The sign of the number nearest to a quotient is that of the quotient. -/
theorem ofQuotient_signed (negative : Bool) (numerator denominator : Nat) :
    ofQuotient negative numerator denominator = (ofQuotient false numerator denominator).signed negative := by
  unfold ofQuotient
  dsimp only
  split <;> split <;> rfl

/-- Rounding gives at most 53 bits, after a carry as well, and fewer only with the least exponent. -/
theorem isProper_ofQuotient (negative : Bool) (posNumerator : 0 < numerator) (posDenominator : 0 < denominator) :
    (ofQuotient negative numerator denominator).IsProper := by
  have positive : (0 : ℚ) < (numerator : ℚ) / denominator := by positivity
  have isExponent := quotientExponent_eq posNumerator posDenominator
  unfold ofQuotient
  generalize quotientExponent numerator denominator = exponent at isExponent
  dsimp only
  generalize isScaled : scaleDown numerator denominator exponent = scaled
  have posScaled : 0 < scaled.2 := isScaled ▸ scaleDown_pos numerator posDenominator exponent
  have value : (scaled.1 : ℚ) / scaled.2 = numerator / denominator / 2 ^ exponent :=
    isScaled ▸ scaleDown_value numerator posDenominator exponent
  have least : leastExponent ≤ exponent := isExponent ▸ le_max_left _ _
  have bits (count : Nat) : scaled.1 / scaled.2 < 2 ^ count ↔
      Int.log 2 ((numerator : ℚ) / denominator) < exponent + count := by
    rw [div_lt_iff_value posScaled, value, div_lt_iff₀ (by positivity),
      ← Int.lt_zpow_iff_log_lt Nat.one_lt_two positive,
      add_comm, zpow_add₀ (by norm_num), zpow_natCast]
    exact_mod_cast Iff.rfl
  have bounded : scaled.1 / scaled.2 < 2 ^ 53 := (bits 53).mpr (by omega)
  have normal : 2 ^ 52 ≤ scaled.1 / scaled.2 ∨ exponent = leastExponent := by
    rw [← not_lt, bits 52]
    omega
  obtain ⟨atLeast, atMost⟩ := roundQuotient_bounds scaled.1 scaled.2
  generalize roundQuotient scaled.1 scaled.2 = significand at atLeast atMost
  by_cases carried : significand = significandBound
  · rw [if_pos (beq_iff_eq.mpr carried), if_pos (beq_iff_eq.mpr carried)]
    split
    · trivial
    · next finite => exact ⟨by decide, by omega, not_lt.mp finite, .inl le_rfl⟩
  · rw [if_neg (mt beq_iff_eq.mp carried), if_neg (mt beq_iff_eq.mp carried)]
    have notCarried : significand ≠ 2 ^ 53 := carried
    split
    · trivial
    · next finite => exact ⟨by omega, least, not_lt.mp finite, normal.imp_left fun enough => enough.trans atLeast⟩

end Rounding

end Binary64

end JsxRouting
