import JsxRouting.Tree.Reading
import JsxRouting.Tree.Store

namespace JsxRouting

/-- When a visitor is called. -/
inductive Moment
  | enter | leave
  deriving DecidableEq

def Moment.name : Moment → String
  | .enter => "enter"
  | .leave => "leave"

/-- A call of a visitor: with a node, the node around it, and the field in which it stands there. The root stands in
no field. -/
structure Visitor.Call where
  moment : Moment
  node : Nat
  parent : Option Nat := none
  field : Option Field := none
  deriving DecidableEq

/-- A store under a walk, and what the visitor keeps in mind. -/
structure Walking (Memory : Type) where
  store : Store
  memory : Memory

/-- What is done when a node is entered or left. A visitor that is not asked at one of the moments does nothing
then. -/
structure Visitor (Memory : Type) where
  call : Visitor.Call → Walking Memory → Except Error (Walking Memory)

variable {Memory : Type}

/-- Walks a field of a node as it is by now, if this is how the nodes in it are walked. -/
def walkField (walkChild : Field → Nat → Walking Memory → Except Error (Walking Memory)) (id : Nat)
    (state : Walking Memory)
    (field : Field) : Except Error (Walking Memory) := do
  let children ← state.store.nodesIn id field
  children.foldlM (fun state child => walkChild field child state) state

/-- Walks a node that stands in a field of another, or the root. The fields are walked in the order of the kind,
each as it is when the walk comes to it, and a list as it was at that time: what is put into a field ahead of the
walk is visited, what is put into a list under the walk is not. The fuel bounds the depth of the walk. -/
def Visitor.walk (visitor : Visitor Memory) :
    Nat → Option Nat → Option Field → Nat → Walking Memory → Except Error (Walking Memory)
  | 0, _, _, _, _ => .error .endless
  | fuel + 1, parent, field, id, state => do
    let entered ← visitor.call ⟨.enter, id, parent, field⟩ state
    let kind ← entered.store.kindOf id
    let walked ← kind.fields.foldlM (walkField (fun field => visitor.walk fuel (some id) (some field)) id) entered
    visitor.call ⟨.leave, id, parent, field⟩ walked

/-- A call of the visitor as it is noted: the kind of the node, the kind of the node around it, and the field in
which it stands. -/
structure Visit where
  moment : Moment
  kind : Kind
  parent : Option Kind := none
  field : Option Field := none
  deriving DecidableEq

/-- How a call is noted. -/
def Store.visit (store : Store) (call : Visitor.Call) : Except Error Visit := do
  return ⟨call.moment, ← store.kindOf call.node, ← call.parent.mapM store.kindOf, call.field⟩

/-- The visitor that notes its calls at some moments, and then changes the store. -/
def Visitor.noting (moments : List Moment) (act : Call → Visit → Store → Except Error Store) :
    Visitor (List Visit) where
  call call state :=
    if moments.contains call.moment then do
      let visit ← state.store.visit call
      return ⟨← act call visit state.store, state.memory ++ [visit]⟩
    else .ok state

mutual

/-- How deep nodes and lists of nodes stand in one another. -/
def Node.depth : Node → Nat
  | .mk _ fields _ _ => depthOfFields fields + 1

def depthOfFields : List (Field × Value) → Nat
  | [] => 0
  | (_, value) :: rest => max value.depth (depthOfFields rest)

def Value.depth : Value → Nat
  | .node child => child.depth
  | .list items => depthOfItems items
  | _ => 0

def depthOfItems : List Value → Nat
  | [] => 0
  | item :: rest => max item.depth (depthOfItems rest)

end

/-- A walked tree with the visits in order. -/
structure Walked where
  tree : Node
  visits : List Visit

namespace Node

/-- Walks a tree to the given depth, noting the calls at some moments. -/
def walkNoting (tree : Node) (moments : List Moment) (act : Nat → Visitor.Call → Visit → Store → Except Error Store)
    (fuel : Nat) : Except Error Walked := do
  let (root, store) := tree.load {}
  let walked ← (Visitor.noting moments (act root)).walk fuel none none root ⟨store, []⟩
  match walked.store.tree? root with
  | some tree => return ⟨tree, walked.memory⟩
  | none => .error .endless

/-- Walks a tree without changing it. -/
def visits (tree : Node) : Except Error (List Visit) := do
  let (root, store) := tree.load {}
  let walked ← (Visitor.noting [.enter, .leave] fun _ _ store => .ok store).walk tree.depth none none
    root ⟨store, []⟩
  return walked.memory

end Node

end JsxRouting
