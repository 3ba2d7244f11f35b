namespace JsxRouting

/-- The fields of syntax tree nodes. A field has a name, by which walks and paths refer to it, and a key, under
which JSON keeps it. -/
inductive Field
  | body | sourceType | expression | directive | object | argument | label | test | consequent
  | alternate | discriminant | cases | block | handler | finalizer | param | init | update | left
  | right | isAwait | id | params | generator | isAsync | declarations | kind | superClass | key
  | value | computed | static | name | raw | regex | bigint | elements | properties | method
  | shorthand | operator | prefixed | property | optional | callee | arguments | expressions
  | delegate | quasis | tag | quasi | tail | metaName | source | specifiers | imported | localName
  | declaration | exported | openingElement | children | closingElement | explicit | attributes
  | selfClosing | openingFragment | closingFragment | namespaceName
  deriving DecidableEq

namespace Field

/-- The key of the field in JSON. -/
def toKey : Field → String
  | .body => "body"
  | .sourceType => "sourceType"
  | .expression => "expression"
  | .directive => "directive"
  | .object => "object"
  | .argument => "argument"
  | .label => "label"
  | .test => "test"
  | .consequent => "consequent"
  | .alternate => "alternate"
  | .discriminant => "discriminant"
  | .cases => "cases"
  | .block => "block"
  | .handler => "handler"
  | .finalizer => "finalizer"
  | .param => "param"
  | .init => "init"
  | .update => "update"
  | .left => "left"
  | .right => "right"
  | .isAwait => "await"
  | .id => "id"
  | .params => "params"
  | .generator => "generator"
  | .isAsync => "async"
  | .declarations => "declarations"
  | .kind => "kind"
  | .superClass => "superClass"
  | .key => "key"
  | .value => "value"
  | .computed => "computed"
  | .static => "static"
  | .name => "name"
  | .raw => "raw"
  | .regex => "regex"
  | .bigint => "bigint"
  | .elements => "elements"
  | .properties => "properties"
  | .method => "method"
  | .shorthand => "shorthand"
  | .operator => "operator"
  | .prefixed => "prefix"
  | .property => "property"
  | .optional => "optional"
  | .callee => "callee"
  | .arguments => "arguments"
  | .expressions => "expressions"
  | .delegate => "delegate"
  | .quasis => "quasis"
  | .tag => "tag"
  | .quasi => "quasi"
  | .tail => "tail"
  | .metaName => "meta"
  | .source => "source"
  | .specifiers => "specifiers"
  | .imported => "imported"
  | .localName => "local"
  | .declaration => "declaration"
  | .exported => "exported"
  | .openingElement => "openingElement"
  | .children => "children"
  | .closingElement => "closingElement"
  | .explicit => "explicit"
  | .attributes => "attributes"
  | .selfClosing => "selfClosing"
  | .openingFragment => "openingFragment"
  | .closingFragment => "closingFragment"
  | .namespaceName => "namespace"

/-- The name of the field: its key with words joined by low lines, or a phrase of its own. -/
def toName : Field → String
  | .sourceType => "source_type"
  | .isAwait => "is_await"
  | .isAsync => "is_async"
  | .superClass => "super_class"
  | .openingElement => "opening_element"
  | .closingElement => "closing_element"
  | .selfClosing => "self_closing"
  | .openingFragment => "opening_fragment"
  | .closingFragment => "closing_fragment"
  | field => field.toKey

/-- All fields. -/
def all : List Field := [
  .body, .sourceType, .expression, .directive, .object, .argument, .label, .test, .consequent,
  .alternate, .discriminant, .cases, .block, .handler, .finalizer, .param, .init, .update, .left,
  .right, .isAwait, .id, .params, .generator, .isAsync, .declarations, .kind, .superClass, .key,
  .value, .computed, .static, .name, .raw, .regex, .bigint, .elements, .properties, .method,
  .shorthand, .operator, .prefixed, .property, .optional, .callee, .arguments, .expressions,
  .delegate, .quasis, .tag, .quasi, .tail, .metaName, .source, .specifiers, .imported, .localName,
  .declaration, .exported, .openingElement, .children, .closingElement, .explicit, .attributes,
  .selfClosing, .openingFragment, .closingFragment, .namespaceName]

theorem mem_all (field : Field) : field ∈ all := by cases field <;> decide

/-- The field with this name. -/
def ofName? (name : String) : Option Field := all.find? fun field => field.toName == name

/-- JSON leaves these fields out when they hold nothing. -/
def omittedWhenNull : Field → Bool
  | .regex | .bigint | .directive => true
  | _ => false

end Field

end JsxRouting
