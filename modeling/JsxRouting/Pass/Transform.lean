import JsxRouting.Tree.Node

namespace JsxRouting

/-- What is known of a node from the nodes around it. -/
inductive Place
  | plain
  /-- The initial value of a variable with this name. -/
  | initOf (name : Value)
  /-- The opening or closing part of a routed element, whose name is not entered. -/
  | routedPart

/-- Whether a node at this place keeps its name out of reach. -/
def Place.hidesName : Place → Bool
  | .routedPart => true
  | _ => false

/-- The name that an identifier gives to what stands beside it. -/
def Value.givenName? (value : Value) : Option Value :=
  match value.nodeOf? .identifier with
  | some identifier => identifier.get? .name
  | none => none

/-- Where the initial value of a variable stands. -/
def Place.ofInit (fields : List (Field × Value)) : Place :=
  match fields.lookup .id with
  | some target =>
    match target.givenName? with
    | some name => .initOf name
    | none => .plain
  | none => .plain

/-- Where a node in a field stands, given the kind and fields around it and whether they are those of
a routed element. Nothing stands in a name that is not entered. -/
def Place.inField (place : Place) (kind : Kind) (fields : List (Field × Value)) (routed : Bool)
    (field : Field) : Option Place :=
  if place.hidesName ∧ field = .name then none
  else if kind = .variableDeclarator ∧ field = .init then some (.ofInit fields)
  else if routed ∧ (field = .openingElement ∨ field = .closingElement) then some .routedPart
  else some .plain

/-- What is done with a node: on the way down, where it may be chosen for routing under a tag, and on
the way up. -/
structure Transformer (m : Type → Type) where
  enter : Place → Node → m (Option Scalar)
  leave : Place → Option Scalar → Node → m Node

mutual

/-- Goes through a node from the top down and back up. The nodes gone through stand directly in a field or in the
list of a field; lists inside lists and plain objects are not entered. -/
def Node.transform {m : Type → Type} [Monad m] (transformer : Transformer m) (place : Place) :
    Node → m Node
  | .mk kind fields extra attached => do
    let tag ← transformer.enter place (.mk kind fields extra attached)
    let fields ← transformFields transformer (place.inField kind fields tag.isSome) fields
    transformer.leave place tag (.mk kind fields extra attached)

/-- Goes through the fields that have a place for nodes. -/
def transformFields {m : Type → Type} [Monad m] (transformer : Transformer m)
    (placeOf : Field → Option Place) : List (Field × Value) → m (List (Field × Value))
  | [] => pure []
  | (field, value) :: rest => do
    let value ← match placeOf field with
      | some place => value.transform transformer place
      | none => pure value
    let rest ← transformFields transformer placeOf rest
    return (field, value) :: rest

/-- Goes through the nodes of a value. The items of a list have no place of their own. -/
def Value.transform {m : Type → Type} [Monad m] (transformer : Transformer m) (place : Place) :
    Value → m Value
  | .node child => do return .node (← child.transform transformer place)
  | .list items => do return .list (← transformItems transformer items)
  | .scalar value => pure (.scalar value)
  | .object members => pure (.object members)

def transformItems {m : Type → Type} [Monad m] (transformer : Transformer m) :
    List Value → m (List Value)
  | [] => pure []
  | .node child :: rest => do
    let child ← child.transform transformer .plain
    let rest ← transformItems transformer rest
    return .node child :: rest
  | item :: rest => do
    let rest ← transformItems transformer rest
    return item :: rest

end

end JsxRouting
