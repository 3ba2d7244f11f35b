import JsxRouting.Declarations.Parts
import JsxRouting.Options
import JsxRouting.Scope.Pattern
import JsxRouting.Tree.Equality

namespace JsxRouting

/-- The name in the `local` part of a specifier. -/
def localNameOf (specifier : Node) : Except Error Value :=
  match specifier.get? .localName with
  | some (.node target) =>
    match target.get? .name with
    | some name => .ok name
    | none => .error .wrongShape
  | _ => .error .wrongShape

/-- A value as a literal, which only plain data can be. -/
def literalOf (value : Value) : Except Error Node :=
  if value.isData then .ok (.dataLiteral value) else .error .wrongShape

/-- The property that binds what a named specifier imports. An import under a text has that text as
its key. -/
def importedProperty (imported : Value) (name : Value) : Except Error Node := do
  match imported with
  | .node imported =>
    if imported.is .identifier then
      let key := (imported.get? .name).getD .null
      return .property (.identifierOf key) (.identifierOf name) (key.equals name)
    else
      match imported.get? .value with
      | some value => return .property (← literalOf value) (.identifierOf name) false
      | none => .error .wrongShape
  | _ => .error .wrongShape

/-- The property that binds what a specifier imports. -/
def specifierProperty (specifier : Value) : Except Error Node := do
  match specifier with
  | .node node =>
    match node.kind with
    | .importSpecifier =>
      let name ← localNameOf node
      importedProperty ((node.get? .imported).getD .null) name
    | .importDefaultSpecifier =>
      return .property (.identifier "default") (.identifierOf (← localNameOf node)) false
    | .importNamespaceSpecifier => .error .namespaceImport
    | kind => .error (.notASpecifier (some kind))
  | .scalar .null => .error (.notASpecifier none)
  | _ => .error .wrongShape

/-- The pattern that binds the same names as import specifiers. -/
def specifiersPattern (specifiers : Value) : Except Error Node := do
  return .objectPattern (← (← specifiers.elements).mapM specifierProperty)

/-- The function that the provider exports. -/
def providerExport : String := "useMDXComponents"

/-- The local name of that function. -/
def provideComponents : String := "_provideComponents"

/-- Binds the provider: by an import, or from the first argument of the function whose body is
written. -/
def providerBinding (source : Option String) (format : OutputFormat) : Except Error Node := do
  let specifier := Node.make .importSpecifier
    [(.imported, .node (.identifier providerExport)), (.localName, .node (.identifier provideComponents))]
  match format, source with
  | .functionBody, _ =>
    let pattern ← specifiersPattern (.list [.node specifier])
    return .constDeclaration (.node pattern) (.node (.firstElement (.identifier "arguments")))
  | .program, some source =>
    return .make .importDeclaration
      [(.specifiers, .list [.node specifier]), (.source, .node (.textLiteral source))]
  | .program, none => .error .missingSource

end JsxRouting
