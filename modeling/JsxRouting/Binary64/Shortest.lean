import JsxRouting.Binary64

namespace JsxRouting

/-- The decimal `digits * 10 ^ exponent`. -/
structure Decimal where
  digits : Nat
  exponent : Int
  deriving DecidableEq

namespace Binary64

/-- The largest whole multiple of `10 ^ exponent` in a fraction, and the fraction that is left. -/
def decimalFloor (numerator denominator : Nat) (exponent : Int) : Nat × Nat × Nat :=
  let (n, d) :=
    if 0 ≤ exponent then (numerator, denominator * Nat.pow 10 exponent.toNat)
    else (numerator * Nat.pow 10 (-exponent).toNat, denominator)
  (n / d, n % d, d)

/-- The place of the first digit: a fraction lies below `10` to this power. -/
def decimalMagnitude (numerator denominator : Nat) : Int :=
  if denominator ≤ numerator then ((Nat.toDigits 10 (numerator / denominator)).length : Int)
  else 1 - ((Nat.toDigits 10 (denominator / numerator)).length : Int)

/-- Whether the decimal, read again, is the positive finite number. -/
def readsBack (significand : Nat) (exponent : Int) (decimal : Decimal) : Bool :=
  ofDecimal false decimal.digits decimal.exponent == .finite false significand exponent

/-- The neighbours of the number on the grid of multiples of `10 ^ grid` that read back, the nearer
first; of two equally near the even one comes first. -/
def neighboursOnGrid (significand : Nat) (exponent grid : Int) : List Decimal :=
  let (numerator, denominator) := magnitude significand exponent
  let (below, rest, unit) := decimalFloor numerator denominator grid
  let lower : Decimal := ⟨below, grid⟩
  let upper : Decimal := ⟨below + 1, grid⟩
  let nearer := if 2 * rest < unit ∨ (2 * rest = unit ∧ below % 2 = 0)
    then [lower, upper] else [upper, lower]
  nearer.filter (readsBack significand exponent)

/-- All digits of the number. -/
def exactDecimal (significand : Nat) (exponent : Int) : Decimal :=
  if 0 ≤ exponent then ⟨significand * Nat.pow 2 exponent.toNat, 0⟩
  else ⟨significand * Nat.pow 5 (-exponent).toNat, exponent⟩

/-- The shortest decimal that reads back as the positive finite number. Seventeen digits always
suffice; all digits of the number stand behind them so that the search has an answer in any case. -/
def shortest (significand : Nat) (exponent : Int) : Decimal :=
  let (numerator, denominator) := magnitude significand exponent
  let first := decimalMagnitude numerator denominator
  let found := (List.range 17).findSome? fun (count : Nat) =>
    (neighboursOnGrid significand exponent (first - (count + 1))).head?
  found.getD (exactDecimal significand exponent)

end Binary64

end JsxRouting
