import JsxRouting.Declarations.Injection
import JsxRouting.Proofs.PropsReading
import JsxRouting.Proofs.RoutingAlone

namespace JsxRouting

theorem Value.nodeOf?_eq_some {value : Value} {kind : Kind} {node : Node} :
    value.nodeOf? kind = some node ↔ value = .node node ∧ node.kind = kind := by
  constructor
  · intro found
    unfold nodeOf? at found
    split at found
    · split at found
      · rename_i isKind
        cases found
        exact ⟨rfl, by simpa [Node.is] using isKind⟩
      · cases found
    · cases found
  · rintro ⟨rfl, rfl⟩
    simp [nodeOf?, Node.is]

theorem Value.nodeOf?_node {node : Node} {kind : Kind} (isKind : node.kind = kind) :
    (Value.node node).nodeOf? kind = some node := Value.nodeOf?_eq_some.mpr ⟨rfl, isKind⟩

namespace Node

/-- The statements in the body of a function. A body that is no block is a value that is returned. -/
def bodyStatements (function : Node) : Option (List Value) :=
  match function.get? .body with
  | some body =>
    match body.nodeOf? .blockStatement with
    | some block =>
      match block.get? .body with
      | some (.list items) => some items
      | _ => none
    | none => some [.node (returnStatement body)]
  | none => none

/-- The statements at the front of the body of a changed function by which it is longer than before. -/
def addedStatements (before after : Node) : List Value :=
  let statements := after.bodyStatements.getD []
  statements.take (statements.length - (before.bodyStatements.getD []).length)

/-- The function with a block in place of a body that is none. -/
def blocked (function : Node) (statements : List Value) : Node :=
  let changed := function.set .body (.node (block statements))
  if function.is .arrowFunctionExpression then changed.set .expression (.bool false) else changed

theorem prependToBody_cases {function after : Node} {front : List Node}
    (prepended : function.prependToBody front = .ok after) :
    (∃ block items, function.get? .body = some (.node block) ∧ block.kind = .blockStatement ∧
        block.get? .body = some (.list items) ∧
        after = function.set .body (.node (block.set .body (.list (front.map .node ++ items))))) ∨
      ∃ body, function.get? .body = some body ∧ body.nodeOf? .blockStatement = none ∧
        after = function.blocked (front.map .node ++ [.node (returnStatement body)]) := by
  unfold prependToBody at prepended
  cases isBody : function.get? .body with
  | none =>
    rw [isBody] at prepended
    cases prepended
  | some body =>
    simp only [isBody] at prepended
    cases isBlock : body.nodeOf? .blockStatement with
    | none =>
      rw [isBlock] at prepended
      cases prepended
      exact .inr ⟨body, rfl, isBlock, rfl⟩
    | some block =>
      simp only [isBlock] at prepended
      obtain ⟨rfl, blockKind⟩ := Value.nodeOf?_eq_some.mp isBlock
      split at prepended
      · rename_i items isItems
        cases prepended
        exact .inl ⟨block, items, rfl, blockKind, isItems, rfl⟩
      · cases prepended

theorem get?_body_blocked (function : Node) (statements : List Value) :
    (function.blocked statements).get? .body = some (.node (block statements)) := by
  unfold blocked
  dsimp only
  split
  · rw [get?_set_of_ne _ _ (by decide), get?_set_self]
  · rw [get?_set_self]

/-- The statements stand in front of those that were there. -/
theorem bodyStatements_prependToBody {function after : Node} {front : List Node}
    (prepended : function.prependToBody front = .ok after) :
    ∃ old, function.bodyStatements = some old ∧ after.bodyStatements = some (front.map .node ++ old) := by
  obtain ⟨block, items, isBody, isBlock, isItems, rfl⟩ | ⟨body, isBody, noBlock, rfl⟩ :=
    prependToBody_cases prepended
  · have changed (value : Value) : (Value.node (block.set .body value)).nodeOf? .blockStatement =
        some (block.set .body value) := Value.nodeOf?_node (by rw [kind_set, isBlock])
    refine ⟨items, ?_, ?_⟩
    · simp only [bodyStatements, isBody, Value.nodeOf?_node isBlock, isItems]
    · simp only [bodyStatements, get?_set_self, changed]
  · refine ⟨[.node (returnStatement body)], ?_, ?_⟩
    · simp only [bodyStatements, isBody, noBlock]
    · simp only [bodyStatements, get?_body_blocked]
      rfl

/-- Only the body changes, and whether an arrow function has an expression for it. -/
theorem get?_prependToBody {function after : Node} {front : List Node}
    (prepended : function.prependToBody front = .ok after) {field : Field} (noBody : field ≠ .body)
    (noExpression : field ≠ .expression) : after.get? field = function.get? field := by
  obtain ⟨_, _, _, _, _, rfl⟩ | ⟨_, _, _, rfl⟩ := prependToBody_cases prepended
  · exact get?_set_of_ne function _ noBody
  · unfold blocked
    dsimp only
    split
    · rw [get?_set_of_ne _ _ noExpression, get?_set_of_ne _ _ noBody]
    · exact get?_set_of_ne function _ noBody

/-- Reading the props leaves the body alone. -/
theorem bodyStatements_reading {function : Node} {reading : PropsReading} (read : reading.From function) :
    reading.function.bodyStatements = function.bodyStatements := by
  simp only [bodyStatements, read.get?_of_ne (show Field.body ≠ .params by decide)]

end Node

theorem Value.nodeOf?_eq_filter (value : Value) (kind : Kind) :
    value.nodeOf? kind = value.node?.filter (·.is kind) := by
  cases value with
  | node child => simp [nodeOf?, node?, Option.filter]
  | scalar | list | object => rfl

theorem Value.RoutesTo.isBlock {value after : Value} (routes : value.RoutesTo after) :
    Option.Rel Node.RoutesTo (value.nodeOf? .blockStatement) (after.nodeOf? .blockStatement) := by
  have nodes := routes.node?
  rw [Value.nodeOf?_eq_filter, Value.nodeOf?_eq_filter]
  generalize value.node? = before at nodes ⊢
  generalize after.node? = other at nodes ⊢
  cases nodes with
  | none => exact .none
  | @some child other routesChild =>
    have sameKind : other.is .blockStatement = child.is .blockStatement := by simp only [Node.is, routesChild.kind]
    rw [Option.filter, Option.filter, sameKind]
    split
    · exact .some routesChild
    · exact .none

/-- A routed function has as many statements in its body as before. -/
theorem Node.length_bodyStatements_routing {function inner : Node} (routes : function.RoutesTo inner)
    (isFunction : function.isFunction = true) :
    inner.bodyStatements.map List.length = function.bodyStatements.map List.length := by
  have bodies := routes.get? (Node.isRouted_of_isFunction isFunction) .body
  unfold bodyStatements
  generalize function.get? .body = before at bodies
  generalize inner.get? .body = after at bodies
  cases bodies with
  | none => rfl
  | @some body other routesBody =>
    have blocks := routesBody.isBlock
    simp only
    generalize isBlock : body.nodeOf? .blockStatement = before at blocks
    generalize other.nodeOf? .blockStatement = after at blocks
    cases blocks with
    | none => rfl
    | @some block otherBlock routesBlock =>
      have noElement : block.isRouted = false := Node.isRouted_of_kind (by
        rw [(Value.nodeOf?_eq_some.mp isBlock).2]
        decide)
      have lists := routesBlock.get? noElement .body
      simp only
      generalize block.get? .body = before at lists
      generalize otherBlock.get? .body = after at lists
      cases lists with
      | none => rfl
      | @some value _ routesValue =>
        cases value with
        | list items =>
          obtain ⟨others, rfl, rfl | run⟩ := routesValue.list
          · rfl
          · simp [length_transformItems_routing run]
        | node child =>
          obtain ⟨_, rfl, _⟩ := routesValue.node
          rfl
        | scalar | object =>
          obtain rfl := routesValue.eq_of_data rfl
          rfl

end JsxRouting
