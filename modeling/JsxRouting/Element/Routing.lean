import JsxRouting.Error
import JsxRouting.Tree.Building

namespace JsxRouting

/-- The object that holds the components of a function. -/
def componentsObject : String := "_components"

/-- An element name that is a member of the components object. -/
def routedName (property : Value) : Node :=
  .make .jsxMemberExpression
    [(.object, .node (.make .jsxIdentifier [(.name, .text componentsObject)])), (.property, property)]

namespace Node

/-- Routes an element: its opening name becomes a member under the old name, and its closing name, if
there is a closing part, the member with the tag's name. -/
def route (element : Node) (tag : Value) : Except Error Node :=
  match element.get? .openingElement, element.get? .closingElement with
  | some (.node opening), some closing =>
    match opening.get? .name with
    | some name =>
      let opened := element.set .openingElement (.node (opening.set .name (.node (routedName name))))
      match closing with
      | .scalar .null => .ok opened
      | .node closing =>
        let tagName := make .jsxIdentifier [(.name, tag)]
        .ok (opened.set .closingElement (.node (closing.set .name (.node (routedName (.node tagName))))))
      | _ => .error .wrongShape
    | none => .error .wrongShape
  | _, _ => .error .wrongShape

end Node

end JsxRouting
