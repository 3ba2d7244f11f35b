import JsxRouting.Declarations.Components
import JsxRouting.Declarations.Imports
import JsxRouting.Declarations.Props
import JsxRouting.Element.Routing

namespace JsxRouting

/-- The function that throws for a component that was not given. -/
def missingComponentFunction : Node :=
  let message := Node.make .binaryExpression [(.operator, .text "+"),
    (.left, .node (.make .binaryExpression [(.operator, .text "+"),
      (.left, .node (.textLiteral "Component `")), (.right, .node (.identifier "name"))])),
    (.right, .node (.textLiteral "` was not imported, exported, or given"))]
  let failure := Node.make .newExpression
    [(.callee, .node (.identifier "Error")), (.arguments, .list [.node message])]
  let thrower := Node.make .functionExpression
    [(.body, .node (.block [.node (.make .throwStatement [(.argument, .node failure)])]))]
  .make .functionDeclaration [(.id, .node (.identifier missingComponentHelper)),
    (.params, .list [.node (.identifier "name")]),
    (.body, .node (.block [.node (.returnStatement (.node thrower))]))]

namespace Frame

/-- The objects that make up the components: fallbacks, then what the provider gives, then what the
props give. -/
def sources (frame : Frame) (usesProvider : Bool) (props : Option Node) : List Value :=
  .node (.objectLiteral (frame.fallbacks.map .node)) ::
    ((if usesProvider then [.node (.call provideComponents [])] else []) ++
      match props with
      | some props => [.node (.componentsOf props)]
      | none => [])

/-- The statements that declare the components object and bind names from it. -/
def declarations (frame : Frame) (usesProvider : Bool) (props : Option Node) :
    Except Error (List Node) := do
  let object ← mergeObjects (frame.sources usesProvider props)
  let components := Node.identifier componentsObject
  let bindings := frame.bindings
  return .constDeclaration (.node components) object ::
    (if bindings.isEmpty then []
      else [.constDeclaration (.node (.objectPattern bindings)) (.node components)])

end Frame

namespace Node

/-- Puts statements in front of the body of a function. A body that is no block becomes the value
that a block returns. -/
def prependToBody (function : Node) (statements : List Node) : Except Error Node := do
  let some body := function.get? .body | .error .wrongShape
  let front := statements.map Value.node
  match body.nodeOf? .blockStatement with
  | some block =>
    match block.get? .body with
    | some (.list items) => return function.set .body (.node (block.set .body (.list (front ++ items))))
    | _ => .error .wrongShape
  | none =>
    let blocked := function.set .body (.node (.block (front ++ [.node (returnStatement body)])))
    return if function.is .arrowFunctionExpression then blocked.set .expression (.bool false) else blocked

/-- Declares what was found in a function at the front of its body. A function in which nothing was
found is left as it is. -/
def injectDeclarations (function : Node) (frame : Frame) (usesProvider : Bool) :
    Except Error (Option Node) := do
  if frame.isEmpty then return none
  if frame.isEntryPoint then
    let reading ← function.readProps
    let declarations ← frame.declarations usesProvider (some reading.props)
    return some (← reading.function.prependToBody (reading.prelude ++ declarations))
  else
    return some (← function.prependToBody (← frame.declarations usesProvider none))

end Node

end JsxRouting
