namespace JsxRouting

/-- A binary64 number. A finite one has the value `significand * 2 ^ exponent`, with its sign. -/
inductive Binary64
  | nan
  | infinite (negative : Bool)
  | finite (negative : Bool) (significand : Nat) (exponent : Int)
  deriving DecidableEq, Repr

namespace Binary64

/-- One more than the largest significand. -/
def significandBound : Nat := Nat.pow 2 53

/-- The exponent of the subnormal numbers, and of zero. -/
def leastExponent : Int := -1074

/-- The exponent of the largest finite numbers. -/
def greatestExponent : Int := 971

def zero (negative : Bool) : Binary64 := .finite negative 0 leastExponent

/-- Zero of either sign counts as zero. -/
def isZero : Binary64 → Bool
  | .finite _ significand _ => significand == 0
  | _ => false

/-- The quotient rounded to the nearest whole number, a half to the even neighbour. -/
def roundQuotient (numerator denominator : Nat) : Nat :=
  let quotient := numerator / denominator
  let remainder := numerator % denominator
  if denominator < 2 * remainder ∨ (2 * remainder = denominator ∧ quotient % 2 = 1)
  then quotient + 1 else quotient

/-- The fraction that remains of `numerator / denominator` when `2 ^ exponent` is taken out. -/
def scaleDown (numerator denominator : Nat) (exponent : Int) : Nat × Nat :=
  if 0 ≤ exponent then (numerator, denominator * Nat.pow 2 exponent.toNat)
  else (numerator * Nat.pow 2 (-exponent).toNat, denominator)

/-- The exponent with which the quotient has a significand of 53 bits, unless it is subnormal. -/
def quotientExponent (numerator denominator : Nat) : Int :=
  let estimate : Int := (numerator.log2 : Int) - denominator.log2 - 52
  let scaled := scaleDown numerator denominator estimate
  let exact := if scaled.1 / scaled.2 < Nat.pow 2 52 then estimate - 1 else estimate
  max leastExponent exact

/-- The number nearest to a positive quotient. Rounding up may carry into the next exponent. -/
def ofQuotient (negative : Bool) (numerator denominator : Nat) : Binary64 :=
  let exponent := quotientExponent numerator denominator
  let scaled := scaleDown numerator denominator exponent
  let significand := roundQuotient scaled.1 scaled.2
  let carried := significand == significandBound
  let exponent := if carried then exponent + 1 else exponent
  if greatestExponent < exponent then .infinite negative
  else .finite negative (if carried then Nat.pow 2 52 else significand) exponent

/-- The number nearest to `digits * 10 ^ exponent`. What reaches `10 ^ 310` is infinite and what
stays below `10 ^ (-330)` is zero, so that no larger power of ten is ever computed. -/
def ofDecimal (negative : Bool) (digits : Nat) (exponent : Int) : Binary64 :=
  let magnitude : Int := exponent + (Nat.toDigits 10 digits).length
  if digits = 0 then zero negative
  else if 310 < magnitude then .infinite negative
  else if magnitude < -330 then zero negative
  else if 0 ≤ exponent then ofQuotient negative (digits * Nat.pow 10 exponent.toNat) 1
  else ofQuotient negative digits (Nat.pow 10 (-exponent).toNat)

/-- The absolute value of a finite number as a fraction. -/
def magnitude (significand : Nat) (exponent : Int) : Nat × Nat :=
  if 0 ≤ exponent then (significand * Nat.pow 2 exponent.toNat, 1)
  else (significand, Nat.pow 2 (-exponent).toNat)

/-- The value of a finite number as a fraction. -/
def fraction? : Binary64 → Option (Int × Nat)
  | .finite negative significand exponent =>
    let (numerator, denominator) := magnitude significand exponent
    some (if negative then -(numerator : Int) else numerator, denominator)
  | _ => none

/-- The whole number that the number is, if it is one. -/
def toInt? (x : Binary64) : Option Int :=
  match x.fraction? with
  | some (numerator, denominator) =>
    if numerator % denominator = 0 then some (numerator / denominator) else none
  | none => none

end Binary64

end JsxRouting
