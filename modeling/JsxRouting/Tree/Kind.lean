namespace JsxRouting

/-- The kinds of syntax tree nodes, by their names in ESTree. -/
inductive Kind
  | program | expressionStatement | blockStatement | staticBlock | emptyStatement
  | debuggerStatement | withStatement | returnStatement | labeledStatement | breakStatement
  | continueStatement | ifStatement | switchStatement | switchCase | throwStatement | tryStatement
  | catchClause | whileStatement | doWhileStatement | forStatement | forInStatement
  | forOfStatement | functionDeclaration | variableDeclaration | variableDeclarator
  | classDeclaration | classBody | methodDefinition | propertyDefinition | identifier
  | privateIdentifier | literal | thisExpression | super | arrayExpression | objectExpression
  | property | functionExpression | arrowFunctionExpression | unaryExpression | updateExpression
  | binaryExpression | logicalExpression | assignmentExpression | memberExpression
  | chainExpression | conditionalExpression | callExpression | newExpression | sequenceExpression
  | yieldExpression | awaitExpression | templateLiteral | taggedTemplateExpression
  | templateElement | classExpression | metaProperty | importExpression | spreadElement
  | objectPattern | arrayPattern | restElement | assignmentPattern | importDeclaration
  | importSpecifier | importDefaultSpecifier | importNamespaceSpecifier | exportNamedDeclaration
  | exportSpecifier | exportDefaultDeclaration | exportAllDeclaration | jsxElement
  | jsxOpeningElement | jsxClosingElement | jsxFragment | jsxOpeningFragment | jsxClosingFragment
  | jsxIdentifier | jsxMemberExpression | jsxNamespacedName | jsxAttribute | jsxSpreadAttribute
  | jsxExpressionContainer | jsxEmptyExpression | jsxSpreadChild | jsxText
  deriving DecidableEq

namespace Kind

/-- The name of the kind: the `type` of its nodes in JSON. -/
def name : Kind → String
  | .program => "Program"
  | .expressionStatement => "ExpressionStatement"
  | .blockStatement => "BlockStatement"
  | .staticBlock => "StaticBlock"
  | .emptyStatement => "EmptyStatement"
  | .debuggerStatement => "DebuggerStatement"
  | .withStatement => "WithStatement"
  | .returnStatement => "ReturnStatement"
  | .labeledStatement => "LabeledStatement"
  | .breakStatement => "BreakStatement"
  | .continueStatement => "ContinueStatement"
  | .ifStatement => "IfStatement"
  | .switchStatement => "SwitchStatement"
  | .switchCase => "SwitchCase"
  | .throwStatement => "ThrowStatement"
  | .tryStatement => "TryStatement"
  | .catchClause => "CatchClause"
  | .whileStatement => "WhileStatement"
  | .doWhileStatement => "DoWhileStatement"
  | .forStatement => "ForStatement"
  | .forInStatement => "ForInStatement"
  | .forOfStatement => "ForOfStatement"
  | .functionDeclaration => "FunctionDeclaration"
  | .variableDeclaration => "VariableDeclaration"
  | .variableDeclarator => "VariableDeclarator"
  | .classDeclaration => "ClassDeclaration"
  | .classBody => "ClassBody"
  | .methodDefinition => "MethodDefinition"
  | .propertyDefinition => "PropertyDefinition"
  | .identifier => "Identifier"
  | .privateIdentifier => "PrivateIdentifier"
  | .literal => "Literal"
  | .thisExpression => "ThisExpression"
  | .super => "Super"
  | .arrayExpression => "ArrayExpression"
  | .objectExpression => "ObjectExpression"
  | .property => "Property"
  | .functionExpression => "FunctionExpression"
  | .arrowFunctionExpression => "ArrowFunctionExpression"
  | .unaryExpression => "UnaryExpression"
  | .updateExpression => "UpdateExpression"
  | .binaryExpression => "BinaryExpression"
  | .logicalExpression => "LogicalExpression"
  | .assignmentExpression => "AssignmentExpression"
  | .memberExpression => "MemberExpression"
  | .chainExpression => "ChainExpression"
  | .conditionalExpression => "ConditionalExpression"
  | .callExpression => "CallExpression"
  | .newExpression => "NewExpression"
  | .sequenceExpression => "SequenceExpression"
  | .yieldExpression => "YieldExpression"
  | .awaitExpression => "AwaitExpression"
  | .templateLiteral => "TemplateLiteral"
  | .taggedTemplateExpression => "TaggedTemplateExpression"
  | .templateElement => "TemplateElement"
  | .classExpression => "ClassExpression"
  | .metaProperty => "MetaProperty"
  | .importExpression => "ImportExpression"
  | .spreadElement => "SpreadElement"
  | .objectPattern => "ObjectPattern"
  | .arrayPattern => "ArrayPattern"
  | .restElement => "RestElement"
  | .assignmentPattern => "AssignmentPattern"
  | .importDeclaration => "ImportDeclaration"
  | .importSpecifier => "ImportSpecifier"
  | .importDefaultSpecifier => "ImportDefaultSpecifier"
  | .importNamespaceSpecifier => "ImportNamespaceSpecifier"
  | .exportNamedDeclaration => "ExportNamedDeclaration"
  | .exportSpecifier => "ExportSpecifier"
  | .exportDefaultDeclaration => "ExportDefaultDeclaration"
  | .exportAllDeclaration => "ExportAllDeclaration"
  | .jsxElement => "JSXElement"
  | .jsxOpeningElement => "JSXOpeningElement"
  | .jsxClosingElement => "JSXClosingElement"
  | .jsxFragment => "JSXFragment"
  | .jsxOpeningFragment => "JSXOpeningFragment"
  | .jsxClosingFragment => "JSXClosingFragment"
  | .jsxIdentifier => "JSXIdentifier"
  | .jsxMemberExpression => "JSXMemberExpression"
  | .jsxNamespacedName => "JSXNamespacedName"
  | .jsxAttribute => "JSXAttribute"
  | .jsxSpreadAttribute => "JSXSpreadAttribute"
  | .jsxExpressionContainer => "JSXExpressionContainer"
  | .jsxEmptyExpression => "JSXEmptyExpression"
  | .jsxSpreadChild => "JSXSpreadChild"
  | .jsxText => "JSXText"

/-- All kinds. -/
def all : List Kind := [
  .program, .expressionStatement, .blockStatement, .staticBlock, .emptyStatement,
  .debuggerStatement, .withStatement, .returnStatement, .labeledStatement, .breakStatement,
  .continueStatement, .ifStatement, .switchStatement, .switchCase, .throwStatement, .tryStatement,
  .catchClause, .whileStatement, .doWhileStatement, .forStatement, .forInStatement,
  .forOfStatement, .functionDeclaration, .variableDeclaration, .variableDeclarator,
  .classDeclaration, .classBody, .methodDefinition, .propertyDefinition, .identifier,
  .privateIdentifier, .literal, .thisExpression, .super, .arrayExpression, .objectExpression,
  .property, .functionExpression, .arrowFunctionExpression, .unaryExpression, .updateExpression,
  .binaryExpression, .logicalExpression, .assignmentExpression, .memberExpression,
  .chainExpression, .conditionalExpression, .callExpression, .newExpression, .sequenceExpression,
  .yieldExpression, .awaitExpression, .templateLiteral, .taggedTemplateExpression,
  .templateElement, .classExpression, .metaProperty, .importExpression, .spreadElement,
  .objectPattern, .arrayPattern, .restElement, .assignmentPattern, .importDeclaration,
  .importSpecifier, .importDefaultSpecifier, .importNamespaceSpecifier, .exportNamedDeclaration,
  .exportSpecifier, .exportDefaultDeclaration, .exportAllDeclaration, .jsxElement,
  .jsxOpeningElement, .jsxClosingElement, .jsxFragment, .jsxOpeningFragment, .jsxClosingFragment,
  .jsxIdentifier, .jsxMemberExpression, .jsxNamespacedName, .jsxAttribute, .jsxSpreadAttribute,
  .jsxExpressionContainer, .jsxEmptyExpression, .jsxSpreadChild, .jsxText]

theorem mem_all (kind : Kind) : kind ∈ all := by cases kind <;> decide

/-- The kind with this name. -/
def ofName? (name : String) : Option Kind := all.find? fun kind => kind.name == name

/-- Whether nodes of the kind are functions with parameters and a body. -/
def isFunction : Kind → Bool
  | .functionDeclaration | .functionExpression | .arrowFunctionExpression => true
  | _ => false

end Kind

end JsxRouting
