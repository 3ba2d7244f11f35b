import JsxRouting.Json.Parser
import JsxRouting.Json.Printer
import JsxRouting.Tree.Writing

namespace JsxRouting

/-- The error for a text that is not read. -/
def Error.ofRefusal : Json.Refusal → Error
  | .malformed => .notJson
  | .tooManyDigits => .tooManyDigits

/-- Whether an indentation can be written out. It is a number of 64 bits, of which one that is not
positive writes no blanks; one of `2 ^ 31` blanks or more is too wide for any text. -/
def fitsText (indent : Option Int) : Bool :=
  match indent with
  | none => true
  | some width => -Int.pow 2 63 ≤ width && width < Int.pow 2 31

namespace Node

/-- Reads a node from JSON text. -/
def parse (text : String) : Except Error Node :=
  match Json.parse text with
  | .ok data => read data
  | .error refusal => .error (.ofRefusal refusal)

/-- The node as JSON text, on one line or indented. -/
def print (node : Node) (indent : Option Int) : Except Error String := do
  return (← node.toJson).print indent

/-- The node as JSON text, unless the indentation is too wide for any text. -/
def printFitting (node : Node) (indent : Option Int) : Except Error String :=
  if fitsText indent then node.print indent else .error .wrongShape

end Node

end JsxRouting
