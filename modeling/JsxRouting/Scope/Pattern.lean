import JsxRouting.Error
import JsxRouting.Tree.Node

namespace JsxRouting

/-- The values that a value consists of: the items of a list, the characters of a text, the keys of
an object. Nothing else can be gone through. -/
def Value.elements : Value → Except Error (List Value)
  | .list items => .ok items
  | .scalar (.text value) => .ok (value.toList.map fun c => .text (String.singleton c))
  | .object members => .ok (members.map fun member => .text member.1)
  | _ => .error .wrongShape

/-- What a value inside a pattern stands for. -/
inductive PatternPart
  | pattern | property
  deriving DecidableEq

/-- The name of an identifier. -/
def nameIn (fields : List (Field × Value)) : Except Error Value :=
  match fields.lookup .name with
  | some name => .ok name
  | none => .error .wrongShape

mutual

/-- The names bound by a value that stands for a pattern or for a property of a pattern. -/
def Value.namesAs (part : PatternPart) : Value → Except Error (List Value)
  | .node (.mk kind fields _ _) =>
    match part, kind with
    | .pattern, .identifier => do return [← nameIn fields]
    | .pattern, .objectPattern => namesInList .property .properties fields
    | .pattern, .arrayPattern => namesInList .pattern .elements fields
    | .pattern, .assignmentPattern => namesInField .left fields
    | .property, .property => namesInField .value fields
    | _, .restElement => namesInField .argument fields
    | _, _ => .ok []
  | _ => .ok []

/-- The names bound by the pattern in a field. -/
def namesInField (wanted : Field) : List (Field × Value) → Except Error (List Value)
  | [] => .error .wrongShape
  | (field, value) :: rest => if field = wanted then value.namesAs .pattern else namesInField wanted rest

/-- The names bound by the parts listed in a field. -/
def namesInList (part : PatternPart) (wanted : Field) :
    List (Field × Value) → Except Error (List Value)
  | [] => .error .wrongShape
  | (field, value) :: rest =>
    if field = wanted then namesListed part value else namesInList part wanted rest

/-- The names bound by the parts of a list. Characters and keys bind nothing. -/
def namesListed (part : PatternPart) : Value → Except Error (List Value)
  | .list items => namesOfItems part items
  | .scalar (.text _) | .object _ => .ok []
  | _ => .error .wrongShape

def namesOfItems (part : PatternPart) : List Value → Except Error (List Value)
  | [] => .ok []
  | item :: rest => do
    let names ← item.namesAs part
    let others ← namesOfItems part rest
    return names ++ others

end

/-- The names bound by a pattern. What is no pattern binds nothing. -/
def Value.boundNames (pattern : Value) : Except Error (List Value) := pattern.namesAs .pattern

end JsxRouting
