import JsxRouting.Json
import JsxRouting.Tree.Field
import JsxRouting.Tree.Kind

namespace JsxRouting

mutual

/-- A node of a syntax tree: its kind, the values of the fields of the kind in their order, and what was read with
it under keys that the kind does not know (positions, comments). Values can also be attached to a node under names
that are no fields of its kind. Whoever asks the node for them finds them, but they are no part of the syntax: no
walk comes to them, they are not written, and equality does not see them. -/
inductive Node
  | mk (kind : Kind) (fields : List (Field × Value)) (extra : Value) (attached : List (String × Value))

/-- What a field holds. An object is no node: it is plain data, unless nodes are put into it. -/
inductive Value
  | scalar (value : Scalar)
  | list (items : List Value)
  | object (members : List (String × Value))
  | node (node : Node)

end

abbrev Value.null : Value := .scalar .null
abbrev Value.bool (value : Bool) : Value := .scalar (.bool value)
abbrev Value.text (value : String) : Value := .scalar (.text value)

instance : Inhabited Value := ⟨Value.null⟩

namespace Node

def kind : Node → Kind
  | mk kind _ _ _ => kind

def fields : Node → List (Field × Value)
  | mk _ fields _ _ => fields

def extra : Node → Value
  | mk _ _ extra _ => extra

def attached : Node → Entries Value
  | mk _ _ _ attached => attached

/-- The value of a field, or else what is attached under the name of the field. -/
def get? (node : Node) (field : Field) : Option Value :=
  match node.fields.lookup field with
  | some value => some value
  | none => node.attached.lookup field.toName

/-- Attaches a value under a name that is no field of the kind. -/
def attach (node : Node) (name : String) (value : Value) : Node :=
  .mk node.kind node.fields node.extra (Entries.insert node.attached name value)

/-- Replaces the value of a field. To a node without the field the value is attached. -/
def set (node : Node) (field : Field) (value : Value) : Node :=
  if (node.fields.lookup field).isSome then
    .mk node.kind (node.fields.map fun entry => if entry.1 = field then (field, value) else entry)
      node.extra node.attached
  else node.attach field.toName value

def withExtra (node : Node) (extra : Value) : Node := .mk node.kind node.fields extra node.attached

/-- Whether the node is of the kind. -/
def is (node : Node) (kind : Kind) : Bool := node.kind == kind

def isFunction (node : Node) : Bool := node.kind.isFunction

@[simp] theorem kind_set (node : Node) (field : Field) (value : Value) :
    (node.set field value).kind = node.kind := by
  unfold set
  split <;> rfl

end Node

namespace Value

/-- Nothing, false, zero and what is empty do not hold; a node does. -/
def holds : Value → Bool
  | .scalar value => value.holds
  | .list items => !items.isEmpty
  | .object members => !members.isEmpty
  | .node _ => true

def isNull : Value → Bool
  | .scalar .null => true
  | _ => false

def node? : Value → Option Node
  | .node child => some child
  | _ => none

/-- The node, if the value is one of this kind. -/
def nodeOf? (kind : Kind) : Value → Option Node
  | .node child => if child.is kind then some child else none
  | _ => none

end Value

end JsxRouting
