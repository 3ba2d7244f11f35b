import JsxRouting.Proofs.DeclaredFunctions

namespace JsxRouting

namespace Node

/-- The parts of an object literal or of an object pattern. -/
def parts (object : Node) : List Node :=
  match object.get? .properties with
  | some (.list items) => items.filterMap Value.node?
  | _ => []

/-- The node that stands as the key of a property. What is computed is no key. -/
def keyNode? (part : Node) : Option Node :=
  match part.kind, part.get? .computed, part.get? .key with
  | .property, some (.scalar (.bool false)), some (.node key) => some key
  | _, _, _ => none

/-- The name of the identifier that is the key of a property. -/
def identifierKey? (part : Node) : Option Value :=
  match part.keyNode? with
  | some key => if key.is .identifier then key.get? .name else none
  | none => none

/-- The key of a property: the name of an identifier, or the value of a literal. -/
def key? (part : Node) : Option Value :=
  match part.keyNode? with
  | some key => if key.is .identifier then key.get? .name else if key.is .literal then key.get? .value else none
  | none => none

/-- The name of the identifier that a property of a pattern binds. -/
def boundName? (part : Node) : Option Value :=
  match part.kind, part.get? .value with
  | .property, some (.node target) => if target.is .identifier then target.get? .name else none
  | _, _ => none

/-- Whether a property is written as its key alone. -/
def isShorthand (part : Node) : Bool :=
  match part.get? .shorthand with
  | some shorthand => shorthand.holds
  | none => false

/-- The plain data that an expression is. -/
def literalValue? (expression : Node) : Option Scalar :=
  match expression.kind, expression.get? .value with
  | .literal, some (.scalar value) => some value
  | _, _ => none

/-- The function of this name that an expression calls, with its arguments. -/
def callArguments? (expression : Node) (callee : String) : Option (List Value) :=
  match expression.kind, expression.get? .callee, expression.get? .arguments with
  | .callExpression, some (.node target), some (.list arguments) =>
    match target.kind, target.get? .name with
    | .identifier, some (.scalar (.text name)) => if name = callee then some arguments else none
    | _, _ => none
  | _, _, _ => none

/-- The name for which an expression calls the helper. -/
def standInName? (expression : Node) : Option Scalar :=
  match expression.callArguments? missingComponentHelper with
  | some [.node name] => name.literalValue?
  | _ => none

theorem parts_objectLiteral (parts : List Node) : (objectLiteral (parts.map .node)).parts = parts := by
  show (parts.map Value.node).filterMap Value.node? = parts
  rw [List.filterMap_map]
  exact List.filterMap_some

theorem parts_objectPattern (parts : List Node) : (objectPattern parts).parts = parts := parts_objectLiteral parts

end Node

namespace Findings

variable (findings : Findings) (usesProvider : Bool) (props : Option Node)

/-- The objects that a components object takes in: what is provided, and then what the props give. -/
def takenIn : List Node :=
  (if usesProvider then [Node.call provideComponents []] else []) ++ props.toList.map Node.componentsOf

theorem parts_componentsLiteral :
    (findings.componentsLiteral usesProvider props).parts =
      findings.tags.map Frame.tagFallback ++
        (findings.components.filter (· != .text layoutComponent)).map Frame.componentFallback ++
        (takenIn usesProvider props).map fun source => .make .spreadElement [(.argument, .node source)] := by
  rw [← Node.parts_objectLiteral (_ ++ _), List.map_append, List.map_map]
  rfl

/-- A components object is made of its parts. -/
theorem componentsLiteral_eq :
    findings.componentsLiteral usesProvider props =
      .objectLiteral ((findings.componentsLiteral usesProvider props).parts.map .node) := by
  rw [parts_componentsLiteral, List.map_append, List.map_map]
  rfl

theorem parts_bindingPattern :
    findings.bindingPattern.parts =
      findings.components.map Frame.componentBinding ++ findings.objects.map Frame.objectBinding :=
  Node.parts_objectPattern _

theorem mem_takenIn {source : Node} :
    source ∈ takenIn usesProvider props ↔ usesProvider = true ∧ source = .call provideComponents [] ∨
      ∃ expression ∈ props, source = .componentsOf expression := by
  rw [takenIn, List.mem_append, List.mem_map]
  refine or_congr ?_ (exists_congr fun expression => and_congr Option.mem_toList eq_comm)
  cases usesProvider <;> simp

theorem mem_parts_componentsLiteral {part : Node} :
    part ∈ (findings.componentsLiteral usesProvider props).parts ↔
      (∃ tag ∈ findings.tags, part = Frame.tagFallback tag) ∨
        (∃ component ∈ findings.components, component ≠ .text layoutComponent ∧
          part = Frame.componentFallback component) ∨
        ∃ source ∈ takenIn usesProvider props, part = .make .spreadElement [(.argument, .node source)] := by
  rw [parts_componentsLiteral, List.mem_append, List.mem_append, or_assoc]
  simp only [List.mem_map, List.mem_filter, bne_iff_ne, and_assoc, @eq_comm _ part]

theorem mem_parts_bindingPattern {part : Node} :
    part ∈ findings.bindingPattern.parts ↔
      (∃ component ∈ findings.components, part = Frame.componentBinding component) ∨
        ∃ object ∈ findings.objects, part = Frame.objectBinding object := by
  rw [parts_bindingPattern, List.mem_append, List.mem_map, List.mem_map]
  simp only [eq_comm]

end Findings

end JsxRouting
