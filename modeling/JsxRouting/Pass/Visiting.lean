import JsxRouting.Pass.Run
import JsxRouting.Walk

namespace JsxRouting

mutual

/-- How deep a walk goes that exchanges names ahead of it. An element with exchanged names is at least four nodes
deep. -/
def Node.routedDepth : Node → Nat
  | .mk kind fields _ _ => max (routedDepthOfFields fields) (if kind = .jsxElement then 3 else 0) + 1

def routedDepthOfFields : List (Field × Value) → Nat
  | [] => 0
  | (_, value) :: rest => max value.routedDepth (routedDepthOfFields rest)

def Value.routedDepth : Value → Nat
  | .node child => child.routedDepth
  | .list items => routedDepthOfItems items
  | _ => 0

def routedDepthOfItems : List Value → Nat
  | [] => 0
  | item :: rest => max item.routedDepth (routedDepthOfItems rest)

end

/-- What is known of a stored node from the node around it: whether it initialises a variable, and of which name. -/
def Store.placeOf (store : Store) (id : Nat) : Option Nat → Except Error Place
  | none => .ok .plain
  | some parent =>
    match store.cell? parent with
    | none => .error .wrongShape
    | some cell =>
      if cell.kind = .variableDeclarator ∧ (cell.get? .init).bind Slot.node? = some id then
        match (cell.get? .id).bind (·.read store.tree?) with
        | some target => .ok (.ofInit [(.id, target)])
        | none => .error .wrongShape
      else .ok .plain

namespace Pass

/-- The pass as a visitor that changes the tree in place. A tag has its names exchanged when it is entered, so the
walk goes on into the new names; a function is given its declarations when it is left. -/
def visitor (pass : Pass) : Visitor Progress where
  call call state := do
    let some node := state.store.tree? call.node | .error .endless
    let place ← state.store.placeOf call.node call.parent
    match call.moment with
    | .enter =>
      let (tag, progress) ← pass.enter place node state.memory
      match tag with
      | some tag => return ⟨state.store.replace call.node (← node.route (.scalar tag)), progress⟩
      | none => return ⟨state.store, progress⟩
    | .leave =>
      if node.isFunction then
        let (changed, progress) ← pass.leaveFunction place node state.memory
        return ⟨state.store.replace call.node changed, progress⟩
      else return state

/-- Runs the pass on a tree in place, as a walk of the tree. -/
def runInPlace (pass : Pass) (tree : Node) : Except Error Routed := do
  let (root, store) := tree.load {}
  let walked ← pass.visitor.walk tree.routedDepth none none root ⟨store, {}⟩
  let some tree := walked.store.tree? root | .error .endless
  addProvider pass.options walked.memory (← addHelper walked.memory tree)

end Pass

end JsxRouting
