import JsxRouting.Binary64
import JsxRouting.Entries

namespace JsxRouting

/-- A value without parts. -/
inductive Scalar
  | null
  | bool (value : Bool)
  | int (value : Int)
  | real (value : Binary64)
  | text (value : String)
  deriving DecidableEq

namespace Scalar

/-- Nothing, false, zero and the empty text do not hold; every other scalar does. -/
def holds : Scalar → Bool
  | .null => false
  | .bool value => value
  | .int value => value != 0
  | .real value => !value.isZero
  | .text value => value != ""

/-- The one scalar that stands for all that are equal to it: numbers are equal by value, whatever
their kind, and `true` and `false` count as one and zero. -/
def standard : Scalar → Scalar
  | .bool value => .int (if value then 1 else 0)
  | .real value =>
    match value.toInt? with
    | some n => .int n
    | none => .real value
  | value => value

/-- Equality of what the scalars stand for. -/
def same (a b : Scalar) : Bool := a.standard == b.standard

@[simp] theorem same_self (a : Scalar) : a.same a = true := by simp [same]

theorem same_comm (a b : Scalar) : a.same b = b.same a := Bool.beq_comm

theorem same_trans {a b c : Scalar} (left : a.same b = true) (right : b.same c = true) :
    a.same c = true := by
  simp only [same, beq_iff_eq] at *
  exact left.trans right

end Scalar

/-- A JSON value. Objects keep the order of their keys, whole numbers have any size, and all other numbers are
binary64. -/
inductive Json
  | scalar (value : Scalar)
  | array (items : List Json)
  | object (members : List (String × Json))

namespace Json

abbrev null : Json := .scalar .null
abbrev bool (value : Bool) : Json := .scalar (.bool value)
abbrev int (value : Int) : Json := .scalar (.int value)
abbrev text (value : String) : Json := .scalar (.text value)

instance : Inhabited Json := ⟨null⟩

/-- An object or array holds when it has a part. -/
def holds : Json → Bool
  | .scalar value => value.holds
  | .array items => !items.isEmpty
  | .object members => !members.isEmpty

/-- Why a text is not read. -/
inductive Refusal
  | malformed
  /-- A whole number has more digits than are read. -/
  | tooManyDigits
  deriving DecidableEq

/-- The kinds of value, as messages name them. -/
inductive Shape
  | null | bool | int | real | text | array | object
  deriving DecidableEq

def shape : Json → Shape
  | .scalar .null => .null
  | .scalar (.bool _) => .bool
  | .scalar (.int _) => .int
  | .scalar (.real _) => .real
  | .scalar (.text _) => .text
  | .array _ => .array
  | .object _ => .object

def Shape.name : Shape → String
  | .null => "NoneType"
  | .bool => "bool"
  | .int => "int"
  | .real => "float"
  | .text => "str"
  | .array => "list"
  | .object => "dict"

end Json

end JsxRouting
