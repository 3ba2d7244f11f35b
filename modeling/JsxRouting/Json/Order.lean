import JsxRouting.Json

namespace JsxRouting

namespace Scalar

def isText : Scalar → Bool
  | .text _ => true
  | _ => false

def isNumber : Scalar → Bool
  | .bool _ | .int _ | .real _ => true
  | _ => false

/-- On which side of all finite numbers an infinite number lies. -/
def side : Scalar → Int
  | .real (.infinite negative) => if negative then -1 else 1
  | _ => 0

/-- The value of a finite number as a fraction. -/
def fraction : Scalar → Int × Nat
  | .bool value => (if value then 1 else 0, 1)
  | .int value => (value, 1)
  | .real value => value.fraction?.getD (0, 1)
  | _ => (0, 1)

/-- Whether a scalar does not come behind another of its kind. -/
def atMost : Scalar → Scalar → Bool
  | .text a, .text b => decide (a ≤ b)
  | a, b =>
    if a.side = b.side then decide (a.fraction.1 * b.fraction.2 ≤ b.fraction.1 * a.fraction.2)
    else decide (a.side < b.side)

/-- The scalars in order, if they can be compared. A single one needs no comparison. -/
def sorted? (list : List Scalar) : Option (List Scalar) :=
  if list.length ≤ 1 || list.all isText || list.all isNumber then some (list.mergeSort atMost)
  else none

end Scalar

end JsxRouting
