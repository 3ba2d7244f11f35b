import JsxRouting.Scope.NameSet
import JsxRouting.Scope.Pattern

namespace JsxRouting

/-- What a value in a field of a statement stands for. -/
inductive StatementPart
  | statement | statements | handler | cases | switchCase
  deriving DecidableEq

/-- The fields through which a statement holds other statements. -/
def Kind.statementParts : Kind → List (Field × StatementPart)
  | .blockStatement => [(.body, .statements)]
  | .ifStatement => [(.consequent, .statement), (.alternate, .statement)]
  | .forStatement => [(.init, .statement), (.body, .statement)]
  | .forInStatement | .forOfStatement => [(.left, .statement), (.body, .statement)]
  | .whileStatement | .doWhileStatement | .withStatement | .labeledStatement => [(.body, .statement)]
  | .tryStatement => [(.block, .statement), (.handler, .handler), (.finalizer, .statement)]
  | .switchStatement => [(.cases, .cases)]
  | _ => []

/-- The name of a value that is an identifier. Other values name nothing. -/
def Value.identifierName : Value → Except Error (List Value)
  | .node (.mk .identifier fields _ _) => do return [← nameIn fields]
  | _ => .ok []

/-- The local names of the specifiers of an import. -/
def importedNames (fields : List (Field × Value)) : Except Error (List Value) := do
  let specifiers ← ((fields.lookup .specifiers).getD .null).elements
  let names ← specifiers.mapM fun specifier =>
    match specifier with
    | .node node => ((node.get? .localName).getD .null).identifierName
    | _ => .ok []
  return names.flatten

/-- The names bound by the declarators of a variable declaration. -/
def declaratorNames (fields : List (Field × Value)) : Except Error (List Value) := do
  let declarators ← ((fields.lookup .declarations).getD .null).elements
  let names ← declarators.mapM fun declarator =>
    match declarator with
    | .node node =>
      match node.get? .id with
      | some pattern => pattern.boundNames
      | none => .error .wrongShape
    | _ => .error .wrongShape
  return names.flatten

/-- Whether a variable declaration is a `var`, which reaches out of blocks. -/
def declaresVar (fields : List (Field × Value)) : Bool :=
  match fields.lookup .kind with
  | some (.scalar (.text "var")) => true
  | _ => false

mutual

/-- The names that a value declares in the outermost scope. `top` says whether it stands directly
in that scope. -/
def Value.declaredAs (part : StatementPart) (top : Bool) : Value → Except Error (List Value)
  | .node (.mk kind fields _ attached) =>
    match part with
    | .statement =>
      match kind with
      | .importDeclaration => importedNames fields
      | .exportNamedDeclaration | .exportDefaultDeclaration =>
        declaredInParts top [(.declaration, .statement)] fields
      | .functionDeclaration | .classDeclaration =>
        if top then ((fields.lookup .id).getD .null).identifierName else .ok []
      | .variableDeclaration => if top || declaresVar fields then declaratorNames fields else .ok []
      | kind => declaredInParts false kind.statementParts fields
    | .handler =>
      if (fields.lookup .body).isSome then declaredInParts false [(.body, .statement)] fields
      else declaredInAttached .statement .body attached
    | .switchCase =>
      if (fields.lookup .consequent).isSome then
        declaredInParts false [(.consequent, .statements)] fields
      else declaredInAttached .statements .consequent attached
    | .statements | .cases => .error .wrongShape
  | .list items =>
    match part with
    | .statement => .ok []
    | .statements => declaredInItems .statement top items
    | .cases => declaredInItems .switchCase false items
    | .handler | .switchCase => .error .wrongShape
  | .object members =>
    match part with
    | .statement | .statements => .ok []
    | .cases => if members.isEmpty then .ok [] else .error .wrongShape
    | .handler | .switchCase => .error .wrongShape
  | .scalar value =>
    match part, value with
    | .statement, _ | .statements, .text _ | .handler, .null | .cases, .text "" => .ok []
    | _, _ => .error .wrongShape

/-- The names declared in the listed fields, all of which must be there. -/
def declaredInParts (top : Bool) (parts : List (Field × StatementPart)) :
    List (Field × Value) → Except Error (List Value)
  | [] => if parts.isEmpty then .ok [] else .error .wrongShape
  | (field, value) :: rest =>
    match parts.lookup field with
    | some part => do
      let names ← value.declaredAs part top
      let others ← declaredInParts top (parts.filter (·.1 != field)) rest
      return names ++ others
    | none => declaredInParts top parts rest

/-- The names declared in what is attached under the name of a field. -/
def declaredInAttached (part : StatementPart) (wanted : Field) :
    List (String × Value) → Except Error (List Value)
  | [] => .error .wrongShape
  | (name, value) :: rest =>
    if name = wanted.toName then value.declaredAs part false else declaredInAttached part wanted rest

def declaredInItems (part : StatementPart) (top : Bool) : List Value → Except Error (List Value)
  | [] => .ok []
  | item :: rest => do
    let names ← item.declaredAs part top
    let others ← declaredInItems part top rest
    return names ++ others

end

namespace Node

/-- The names declared in the outermost scope of a program, each once: imports, function and class declarations,
variables declared directly in the program or under an export, and `var` declarations reached through the statements
inside statements. Function bodies are never entered. -/
def topScope (program : Node) : Except Error NameSet :=
  match program.get? .body with
  | some body => do NameSet.ofValues (← body.declaredAs .statements true)
  | none => .error .wrongShape

/-- The names declared in the outermost scope of a program, in order. -/
def topScopeNames (program : Node) : Except Error (List Scalar) := do (← program.topScope).sorted

end Node

end JsxRouting
