import JsxRouting.Json.Printer
import JsxRouting.Tree.Building
import JsxRouting.Tree.Writing

namespace JsxRouting

namespace Node

/-- Plain data as a literal, with its source text. -/
def dataLiteral (value : Value) : Node :=
  make .literal [(.value, value), (.raw, .text (value.write.print none))]

/-- A text as a literal. -/
def textLiteral (text : String) : Node := dataLiteral (.text text)

/-- The number zero as a literal. -/
def zeroLiteral : Node := make .literal [(.value, .scalar (.int 0)), (.raw, .text "0")]

/-- `const target = init` -/
def constDeclaration (target init : Value) : Node :=
  make .variableDeclaration [(.kind, .text "const"),
    (.declarations, .list [.node (make .variableDeclarator [(.id, target), (.init, init)])])]

/-- `callee(arguments)` -/
def call (callee : String) (arguments : List Node) : Node :=
  make .callExpression [(.callee, .node (identifier callee)), (.arguments, .list (arguments.map .node))]

/-- A property `key: value`, or only the key if it is a shorthand. -/
def property (key value : Node) (shorthand : Bool) : Node :=
  make .property [(.key, .node key), (.value, .node value), (.kind, .text "init"),
    (.shorthand, .bool shorthand)]

def objectLiteral (properties : List Value) : Node := make .objectExpression [(.properties, .list properties)]

def objectPattern (properties : List Node) : Node :=
  make .objectPattern [(.properties, .list (properties.map .node))]

def block (statements : List Value) : Node := make .blockStatement [(.body, .list statements)]

def returnStatement (argument : Value) : Node := make .returnStatement [(.argument, argument)]

/-- `object[0]` -/
def firstElement (object : Node) : Node :=
  make .memberExpression
    [(.object, .node object), (.property, .node zeroLiteral), (.computed, .bool true)]

/-- `props.components` -/
def componentsOf (props : Node) : Node :=
  make .memberExpression [(.object, .node props), (.property, .node (identifier "components"))]

end Node

end JsxRouting
