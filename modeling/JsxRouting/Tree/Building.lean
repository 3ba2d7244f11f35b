import JsxRouting.Error
import JsxRouting.Tree.Schema

namespace JsxRouting

namespace Kind

/-- The kind that the `type` of an object names. -/
def ofType : Json → Except Error Kind
  | .scalar (.text name) =>
    match ofName? name with
    | some kind => .ok kind
    | none => .error (.unknownKind (.text name))
  | .scalar other => .error (.unknownKind other)
  | _ => .error .wrongShape

/-- Whether all values are given to fields of the kind. -/
def knows (kind : Kind) (given : List (Field × Value)) : Bool := given.all fun entry => kind.fields.contains entry.1

end Kind

namespace Node

/-- A node of the kind with the given values; every other field has its usual value. Values can be given to fields
of the kind only. -/
def make (kind : Kind) (given : List (Field × Value)) (_known : kind.knows given = true := by rfl) : Node :=
  .mk kind (kind.schema.map fun entry => (entry.1, (given.lookup entry.1).getD entry.2))
    (.object []) []

/-- An identifier with a name of any form. -/
def identifierOf (name : Value) : Node := make .identifier [(.name, name)]

/-- An identifier with this name. -/
def identifier (name : String) : Node := identifierOf (.text name)

/-- Builds a node of the kind that the type names from values under field names. Unknown fields are
reported together, in the order of their names. -/
def build (type : Json) (given : List (String × Value)) (extra : Value) : Except Error Node := do
  let kind ← Kind.ofType type
  let unexpected := (given.map (·.1)).filter fun name => !(kind.fields.map (·.toName)).contains name
  if unexpected.isEmpty then
    return .mk kind (kind.schema.map fun entry =>
      (entry.1, (given.lookup entry.1.toName).getD entry.2)) extra []
  else .error (.unexpectedFields kind (unexpected.mergeSort fun a b => decide (a ≤ b)))

end Node

end JsxRouting
