import JsxRouting.Walk

namespace JsxRouting

/-- How an edit changes a field. -/
inductive Change
  | replace
  | insert (index : Int)
  deriving DecidableEq

/-- An edit of the visited node or of the root. The value is built when the edit is made. -/
structure Edit where
  onRoot : Bool := false
  name : String
  change : Change
  data : Json

/-- Makes an edit on the node with a number. -/
def Edit.apply (edit : Edit) (id : Nat) (store : Store) : Except Error Store := do
  let (slot, store) := (← Value.read edit.data).load store
  store.change id fun cell => do
    match edit.change with
    | .replace => cell.setPart edit.name slot
    | .insert index => cell.setPart edit.name (← (← cell.part edit.name).insertItem index slot)

/-- What is done with the nodes of a kind at a moment. -/
structure Rule where
  moment : Moment
  kindName : String
  edit : Edit

/-- Makes the edits of the rules that a visit meets, in order. -/
def applyRules (rules : List Rule) (root : Nat) (call : Visitor.Call) (visit : Visit) (store : Store) :
    Except Error Store :=
  (rules.filter fun rule => rule.moment == visit.moment && rule.kindName == visit.kind.name).foldlM
    (fun store rule => rule.edit.apply (if rule.edit.onRoot then root else call.node) store) store

mutual

/-- How deep arrays and objects stand in one another. -/
def Json.depth : Json → Nat
  | .scalar _ => 0
  | .array items => depthOfItems items + 1
  | .object members => depthOfMembers members + 1
where
  depthOfItems : List Json → Nat
    | [] => 0
    | item :: rest => max item.depth (depthOfItems rest)
  depthOfMembers : List (String × Json) → Nat
    | [] => 0
    | (_, value) :: rest => max value.depth (depthOfMembers rest)

end

namespace Node

/-- Walks a tree under rules. Below any node a rule can add nodes only once, unless it does so for ever, so the
depths of the tree and of all values together bound every walk that ends. -/
def walkUnder (tree : Node) (moments : List Moment) (rules : List Rule) : Except Error Walked :=
  tree.walkNoting moments (applyRules rules)
    (rules.foldl (fun total rule => total + rule.edit.data.depth) tree.depth)

end Node

end JsxRouting
