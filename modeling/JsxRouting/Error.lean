import JsxRouting.Text.Shown
import JsxRouting.Tree.Kind

namespace JsxRouting

/-- What can go wrong, by cause. -/
inductive Error
  /-- A node was expected and other data was found. -/
  | notANode (found : Json.Shape)
  /-- The `type` of a node is not the name of a kind. -/
  | unknownKind (type : Scalar)
  /-- Fields were given that the kind does not have. -/
  | unexpectedFields (kind : Kind) (names : List String)
  /-- The object at the root of a dotted element name is no identifier. -/
  | memberRoot (found : Option Kind)
  /-- The name of an element is none of the three forms of names. -/
  | elementName (found : Option Kind)
  /-- Components are to be imported and there is no module to import them from. -/
  | missingSource
  /-- A namespace import binds no single export. -/
  | namespaceImport
  /-- An import specifier was expected. -/
  | notASpecifier (found : Option Kind)
  | unknownOption (key : String)
  | unknownFormat (shown : String)
  /-- The module of the provider is not given as text. -/
  | sourceNotText
  | emptySource
  /-- A field holds a value of a form that cannot stand there. -/
  | wrongShape
  /-- A walk edits the tree ahead of itself without end. -/
  | endless
  /-- A text is not JSON. -/
  | notJson
  /-- A whole number in a text has too many digits. -/
  | tooManyDigits
  deriving DecidableEq

namespace Error

/-- Groups of causes. -/
inductive Family
  | malformedTree | unsupportedNode | invalidOption | wrongShape | notJson
  deriving DecidableEq

def family : Error → Family
  | .notANode _ | .unknownKind _ | .unexpectedFields _ _ => .malformedTree
  | .memberRoot _ | .elementName _ | .missingSource | .namespaceImport | .notASpecifier _ =>
    .unsupportedNode
  | .unknownOption _ | .unknownFormat _ | .sourceNotText | .emptySource => .invalidOption
  | .wrongShape | .endless | .tooManyDigits => .wrongShape
  | .notJson => .notJson

/-- The kind of node that the error is about. -/
def nodeKind? : Error → Option Kind
  | .unexpectedFields kind _ => some kind
  | .memberRoot found | .elementName found | .notASpecifier found => found
  | .missingSource => some .importDeclaration
  | .namespaceImport => some .importNamespaceSpecifier
  | _ => none

/-- The message without the kind of node. -/
def summary : Error → String
  | .notANode found => "Expected an ESTree node, got " ++ found.name
  | .unknownKind type => "Unknown node type '" ++ type.shown ++ "'"
  | .unexpectedFields _ names => "Unexpected field(s) " ++ ", ".intercalate names
  | .memberRoot _ => "Member expression in JSX name must start with an identifier"
  | .elementName _ => "Unexpected JSX element name"
  | .missingSource => "A provider import needs a source"
  | .namespaceImport => "Cannot turn a namespace import into an object pattern"
  | .notASpecifier _ => "Expected an import specifier"
  | .unknownOption key => "Unknown option '" ++ key ++ "'"
  | .unknownFormat shown =>
    "Invalid output format '" ++ shown ++ "', expected one of: program, function-body"
  | .sourceNotText => "provider_import_source must be a string"
  | .emptySource => "provider_import_source must not be empty"
  | .wrongShape => "A value of the wrong form was found"
  | .endless => "The walk does not end"
  | .notJson => "Invalid JSON"
  | .tooManyDigits => "A number has too many digits"

/-- The message: what is wrong and, if it is about a node, the kind of node. -/
def message (error : Error) : String :=
  match error.nodeKind? with
  | some kind => error.summary ++ " (node: " ++ kind.name ++ ")"
  | none => error.summary

end Error

end JsxRouting
