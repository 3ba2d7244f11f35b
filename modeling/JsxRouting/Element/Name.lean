import JsxRouting.Error
import JsxRouting.Text.IdentifierName
import JsxRouting.Tree.Node

namespace JsxRouting

/-- The five uses of an element name. -/
inductive NameUse
  /-- A dotted name, whose first part is an object. -/
  | object (name : Value)
  /-- A name in a namespace, which refers to nothing. -/
  | namespaced
  /-- An identifier that does not begin with a lower-case letter. -/
  | component (name : String)
  /-- A tag that was written as JSX in the source. -/
  | explicit (name : Value)
  /-- A tag that was generated. -/
  | tag (name : Value)

namespace NameUse

/-- The word for a use. -/
def label : NameUse → String
  | .object _ => "object"
  | .namespaced => "namespace"
  | .component _ => "component"
  | .explicit _ => "explicit"
  | .tag _ => "tag"

def name? : NameUse → Option Value
  | .object name | .explicit name | .tag name => some name
  | .component name => some (.text name)
  | .namespaced => none

end NameUse

mutual

/-- The first part of a dotted name. A name without dots is its own first part. -/
def Value.memberRoot : Value → Value
  | .node (.mk kind fields extra attached) =>
    if kind = .jsxMemberExpression then memberRootIn fields
    else .node (.mk kind fields extra attached)
  | value => value

/-- The first part of the object among the fields. -/
def memberRootIn : List (Field × Value) → Value
  | [] => .null
  | (field, value) :: rest => if field = .object then value.memberRoot else memberRootIn rest

end

/-- The texts that a list consists of, if it holds nothing else. -/
def textsIn : List Value → Option (List String)
  | [] => some []
  | .scalar (.text piece) :: rest => (textsIn rest).map (piece :: ·)
  | _ => none

/-- Whether a name of any form is that of an identifier. A list is read as the pieces of a name; any
other value that is no text must hold nothing. -/
def Value.isIdentifierName : Value → Except Error Bool
  | .scalar (.text name) => .ok (JsxRouting.isIdentifierName name)
  | .list (.scalar (.text first) :: rest) =>
    if first = "\u200c" ∨ first = "\u200d" then .ok false
    else
      match textsIn rest with
      | some rest => .ok (spellIdentifier first rest)
      | none => .error .wrongShape
  | name => if name.holds then .error .wrongShape else .ok false

/-- The name of a component that a name without dots and namespace is. Only a text can name one. -/
def componentName? (name : Value) : Except Error (Option String) := do
  if ← name.isIdentifierName then
    match name with
    | .scalar (.text name) => return if startsLowercase name then none else some name
    | _ => .error .wrongShape
  else return none

/-- The use of a name without dots and namespace. -/
def useOfPlainName (name : Value) (explicit : Bool) : Except Error NameUse := do
  match ← componentName? name with
  | some component => return .component component
  | none => return if explicit then .explicit name else .tag name

/-- The use of an element name. Dotted names and names in namespaces are told by their form; dotted
names must begin with an identifier. -/
def classify (name : Value) (explicit : Bool) : Except Error NameUse :=
  match name with
  | .node node =>
    match node.kind with
    | .jsxMemberExpression =>
      match name.memberRoot with
      | .node root =>
        if root.is .jsxIdentifier then
          match root.get? .name with
          | some name => .ok (.object name)
          | none => .error .wrongShape
        else .error (.memberRoot (some root.kind))
      | .scalar .null => .error (.memberRoot none)
      | _ => .error .wrongShape
    | .jsxNamespacedName => .ok .namespaced
    | .jsxIdentifier =>
      match node.get? .name with
      | some name => useOfPlainName name explicit
      | none => .error .wrongShape
    | kind => .error (.elementName (some kind))
  | .scalar .null => .error (.elementName none)
  | _ => .error .wrongShape

namespace Node

/-- The use of the opening name of an element. -/
def nameUse (element : Node) : Except Error NameUse :=
  match element.get? .openingElement, element.get? .explicit with
  | some (.node opening), some explicit =>
    match opening.get? .name with
    | some name => classify name explicit.holds
    | none => .error .wrongShape
  | _, _ => .error .wrongShape

end Node

end JsxRouting
