import JsxRouting.Error
import JsxRouting.Tree.Node

namespace JsxRouting

/-- The place before which an item is inserted: a negative index counts from the end, and what lies
outside the list means its nearer end. -/
def insertionPlace (index : Int) (length : Nat) : Nat :=
  let fromStart := if index < 0 then index + length else index
  min fromStart.toNat length

/-- Whether a number can be the index of an item: indices have 64 bits. -/
def isIndex (index : Int) : Bool := -Int.pow 2 63 ≤ index && index < Int.pow 2 63

/-- Inserts an item into a list. -/
def insertAt {α : Type} (items : List α) (index : Int) (item : α) : List α :=
  let place := insertionPlace index items.length
  items.take place ++ item :: items.drop place

/-- The place of an item: a negative index counts from the end. -/
def itemPlace? (index : Int) (length : Nat) : Option Nat :=
  let fromStart := if index < 0 then index + length else index
  if 0 ≤ fromStart ∧ fromStart < length then some fromStart.toNat else none

/-- A step from a value to one of its parts. -/
inductive PathStep
  | name (name : String)
  | index (index : Int)
  deriving DecidableEq

namespace Node

/-- The part of a node under a name: a field or what is attached, its `type`, or what its kind does
not know. -/
def part (node : Node) (name : String) : Except Error Value :=
  if name = "extra" then .ok node.extra
  else if name = "type" then .ok (.text node.kind.name)
  else
    let found := match Field.ofName? name with
      | some field => node.get? field
      | none => node.attached.lookup name
    match found with
    | some value => .ok value
    | none => .error .wrongShape

/-- Replaces the part of a node under a name. The kind of a node cannot be changed. -/
def setPart (node : Node) (name : String) (value : Value) : Except Error Node :=
  if name = "extra" then .ok (node.withExtra value)
  else if name = "type" then .error .wrongShape
  else
    match Field.ofName? name with
    | some field => .ok (node.set field value)
    | none => .ok (node.attach name value)

end Node

namespace Value

/-- The part of a value to which a step leads. -/
def part (value : Value) (step : PathStep) : Except Error Value :=
  match value, step with
  | .node child, .name name => child.part name
  | .object members, .name key =>
    match members.lookup key with
    | some member => .ok member
    | none => .error .wrongShape
  | .list items, .index index =>
    match (itemPlace? index items.length).bind (items[·]?) with
    | some item => .ok item
    | none => .error .wrongShape
  | _, _ => .error .wrongShape

/-- Replaces the part of a value to which a step leads. -/
def setPart (value : Value) (step : PathStep) (new : Value) : Except Error Value :=
  match value, step with
  | .node child, .name name => do return .node (← child.setPart name new)
  | .object members, .name key => .ok (.object (Entries.insert members key new))
  | .list items, .index index =>
    match itemPlace? index items.length with
    | some place => .ok (.list (items.set place new))
    | none => .error .wrongShape
  | _, _ => .error .wrongShape

/-- Inserts an item into a value, which must be a list. -/
def insertItem (value : Value) (index : Int) (item : Value) : Except Error Value :=
  match value with
  | .list items =>
    if isIndex index then .ok (.list (insertAt items index item)) else .error .wrongShape
  | _ => .error .wrongShape

/-- The part to which a path leads. -/
def follow (value : Value) : List PathStep → Except Error Value
  | [] => .ok value
  | step :: rest => do (← value.part step).follow rest

/-- Changes the part to which a path leads. -/
def modify (value : Value) (change : Value → Except Error Value) : List PathStep → Except Error Value
  | [] => change value
  | step :: rest => do value.setPart step (← (← value.part step).modify change rest)

end Value

end JsxRouting
