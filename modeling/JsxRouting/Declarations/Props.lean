import JsxRouting.Declarations.Parts

namespace JsxRouting

/-- The parameter that takes the place of a pattern. -/
def propsParameter : String := "_props"

/-- An expression for the props, the statements that it needs in front of the body, and the function with its
parameters changed. A parameter with a name is read by it; a pattern that cannot be read back as a whole is replaced
by a parameter of a fixed name and destructured in the body. -/
structure PropsReading where
  props : Node
  prelude : List Node
  function : Node

/-- The first parameter: null if there is none. -/
def firstParameter (params : Value) : Except Error Value :=
  match params with
  | .list (first :: _) => .ok first
  | .scalar (.text text) =>
    match text.toList with
    | first :: _ => .ok (.text (String.singleton first))
    | [] => .ok .null
  | params => if params.holds then .error .wrongShape else .ok .null

namespace Node

/-- The function with another first parameter. -/
def setFirstParameter (function : Node) (params : Value) (first : Node) : Except Error Node :=
  match params with
  | .list (_ :: rest) => .ok (function.set .params (.list (.node first :: rest)))
  | _ => .error .wrongShape

/-- `const pattern = _props` -/
def propsPrelude (pattern : Value) : Node := constDeclaration pattern (.node (identifier propsParameter))

/-- How a function reads a first parameter that is a rest parameter: as the first of the rest. -/
def readRestParameter (function : Node) (params : Value) (rest : Node) : Except Error PropsReading := do
  let argument := (rest.get? .argument).getD .null
  match argument.nodeOf? .identifier with
  | some name => return ⟨firstElement (identifierOf ((name.get? .name).getD .null)), [], function⟩
  | none =>
    let first := rest.set .argument (.node (identifier propsParameter))
    return ⟨firstElement (identifier propsParameter), [propsPrelude argument],
      ← function.setFirstParameter params first⟩

/-- How a function reads a first parameter with a default value, which stays at the parameter. -/
def readDefaultParameter (function : Node) (params : Value) (withDefault : Node) :
    Except Error PropsReading := do
  let target := (withDefault.get? .left).getD .null
  match target.nodeOf? .identifier with
  | some name => return ⟨identifierOf ((name.get? .name).getD .null), [], function⟩
  | none =>
    let first := withDefault.set .left (.node (identifier propsParameter))
    return ⟨identifier propsParameter, [propsPrelude target], ← function.setFirstParameter params first⟩

/-- How an arrow function, which has no `arguments`, reads its props when its first parameter is
missing or a pattern. -/
def readArrowParameter (function : Node) (params first : Value) : Except Error PropsReading := do
  let parameter := identifier propsParameter
  if first.isNull then
    match params with
    | .list items => return ⟨parameter, [], function.set .params (.list (items ++ [.node parameter]))⟩
    | _ => .error .wrongShape
  else return ⟨parameter, [propsPrelude first], ← function.setFirstParameter params parameter⟩

/-- How an entry point reads its props. -/
def readProps (function : Node) : Except Error PropsReading := do
  let some params := function.get? .params | .error .wrongShape
  let first ← firstParameter params
  let plain : Except Error PropsReading :=
    if function.is .arrowFunctionExpression then function.readArrowParameter params first
    else .ok ⟨firstElement (identifier "arguments"), [], function⟩
  match first with
  | .node parameter =>
    match parameter.kind with
    | .identifier => return ⟨identifierOf ((parameter.get? .name).getD .null), [], function⟩
    | .restElement => function.readRestParameter params parameter
    | .assignmentPattern => function.readDefaultParameter params parameter
    | _ => plain
  | _ => plain

end Node

end JsxRouting
