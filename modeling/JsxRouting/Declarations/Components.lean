import JsxRouting.Declarations.Parts
import JsxRouting.Scope.Frame
import JsxRouting.Scope.Pattern

namespace JsxRouting

/-- The function that stands in for a component that was not given. -/
def missingComponentHelper : String := "_missingComponent"

/-- The component that wraps a document. -/
def layoutComponent : String := "MDXLayout"

/-- The key of the layout among the components. -/
def layoutKey : String := "wrapper"

namespace Frame

/-- The fallback of a tag: it renders as itself. -/
def tagFallback (name : Scalar) : Node :=
  .property (.identifierOf (.scalar name)) (.dataLiteral (.scalar name)) false

/-- The fallback of a component: it throws when it is rendered. -/
def componentFallback (name : Scalar) : Node :=
  .property (.identifierOf (.scalar name))
    (.call missingComponentHelper [.dataLiteral (.scalar name)]) false

/-- The fallbacks, for tags and then for components. -/
def fallbacks (frame : Frame) : List Node :=
  frame.tags.toList.map tagFallback ++
    (frame.components.toList.filter (· != .text layoutComponent)).map componentFallback

/-- The property that binds a name to what the components hold under it. -/
def objectBinding (name : Scalar) : Node :=
  .property (.identifierOf (.scalar name)) (.identifierOf (.scalar name)) true

/-- The property that binds a component. -/
def componentBinding (name : Scalar) : Node :=
  if name = .text layoutComponent then
    .property (.identifier layoutKey) (.identifierOf (.scalar name)) false
  else objectBinding name

/-- The properties that bind the components and then the objects. -/
def bindings (frame : Frame) : List Node :=
  frame.components.toList.map componentBinding ++ frame.objects.toList.map objectBinding

end Frame

/-- Merges objects from left to right into one literal. A single object stays as it is; otherwise
the first must be a literal, and the others are spread behind its properties. -/
def mergeObjects : List Value → Except Error Value
  | [] => .error .wrongShape
  | [part] => .ok part
  | .node first :: rest =>
    match first.get? .properties with
    | some properties => do
      let spread (part : Value) : Value := .node (.make .spreadElement [(.argument, part)])
      return .node (.objectLiteral ((← properties.elements) ++ rest.map spread))
    | none => .error .wrongShape
  | _ => .error .wrongShape

end JsxRouting
