import JsxRouting.Tree.Node

namespace JsxRouting

namespace Kind

private def nothing (field : Field) : Field × Value := (field, .scalar .null)

private def items (field : Field) : Field × Value := (field, .list [])

private def flag (field : Field) (value : Bool) : Field × Value := (field, .scalar (.bool value))

private def word (field : Field) (value : String) : Field × Value := (field, .scalar (.text value))

/-- The fields of a kind with their usual values. -/
def schema : Kind → List (Field × Value)
  | .program => [items .body, word .sourceType "module"]
  | .expressionStatement => [nothing .expression, nothing .directive]
  | .blockStatement | .staticBlock | .classBody => [items .body]
  | .withStatement => [nothing .object, nothing .body]
  | .returnStatement | .throwStatement | .awaitExpression | .spreadElement | .restElement
  | .jsxSpreadAttribute =>
    [nothing .argument]
  | .labeledStatement => [nothing .label, nothing .body]
  | .breakStatement | .continueStatement => [nothing .label]
  | .ifStatement | .conditionalExpression =>
    [nothing .test, nothing .consequent, nothing .alternate]
  | .switchStatement => [nothing .discriminant, items .cases]
  | .switchCase => [nothing .test, items .consequent]
  | .tryStatement => [nothing .block, nothing .handler, nothing .finalizer]
  | .catchClause => [nothing .param, nothing .body]
  | .whileStatement => [nothing .test, nothing .body]
  | .doWhileStatement => [nothing .body, nothing .test]
  | .forStatement => [nothing .init, nothing .test, nothing .update, nothing .body]
  | .forInStatement => [nothing .left, nothing .right, nothing .body]
  | .forOfStatement => [nothing .left, nothing .right, nothing .body, flag .isAwait false]
  | .functionDeclaration | .functionExpression =>
    [nothing .id, items .params, nothing .body, flag .generator false, flag .isAsync false]
  | .variableDeclaration => [items .declarations, word .kind "var"]
  | .variableDeclarator => [nothing .id, nothing .init]
  | .classDeclaration | .classExpression => [nothing .id, nothing .superClass, nothing .body]
  | .methodDefinition =>
    [nothing .key, nothing .value, word .kind "method", flag .computed false, flag .static false]
  | .propertyDefinition => [nothing .key, nothing .value, flag .computed false, flag .static false]
  | .identifier | .privateIdentifier | .jsxIdentifier => [word .name ""]
  | .literal => [nothing .value, nothing .raw, nothing .regex, nothing .bigint]
  | .arrayExpression | .arrayPattern => [items .elements]
  | .objectExpression | .objectPattern => [items .properties]
  | .property =>
    [nothing .key, nothing .value, word .kind "init", flag .method false, flag .shorthand false,
    flag .computed false]
  | .arrowFunctionExpression =>
    [nothing .id, items .params, nothing .body, flag .expression false, flag .generator false,
    flag .isAsync false]
  | .unaryExpression => [word .operator "", flag .prefixed true, nothing .argument]
  | .updateExpression => [word .operator "", nothing .argument, flag .prefixed false]
  | .binaryExpression | .logicalExpression => [word .operator "", nothing .left, nothing .right]
  | .assignmentExpression => [word .operator "=", nothing .left, nothing .right]
  | .memberExpression =>
    [nothing .object, nothing .property, flag .computed false, flag .optional false]
  | .chainExpression | .jsxExpressionContainer | .jsxSpreadChild => [nothing .expression]
  | .callExpression => [nothing .callee, items .arguments, flag .optional false]
  | .newExpression => [nothing .callee, items .arguments]
  | .sequenceExpression => [items .expressions]
  | .yieldExpression => [nothing .argument, flag .delegate false]
  | .templateLiteral => [items .quasis, items .expressions]
  | .taggedTemplateExpression => [nothing .tag, nothing .quasi]
  | .templateElement => [flag .tail false, (.value, .object [])]
  | .metaProperty => [nothing .metaName, nothing .property]
  | .importExpression => [nothing .source]
  | .assignmentPattern => [nothing .left, nothing .right]
  | .importDeclaration => [items .specifiers, nothing .source]
  | .importSpecifier => [nothing .imported, nothing .localName]
  | .importDefaultSpecifier | .importNamespaceSpecifier => [nothing .localName]
  | .exportNamedDeclaration => [nothing .declaration, items .specifiers, nothing .source]
  | .exportSpecifier => [nothing .localName, nothing .exported]
  | .exportDefaultDeclaration => [nothing .declaration]
  | .exportAllDeclaration => [nothing .exported, nothing .source]
  | .jsxElement =>
    [nothing .openingElement, items .children, nothing .closingElement, flag .explicit false]
  | .jsxOpeningElement => [nothing .name, items .attributes, flag .selfClosing false]
  | .jsxClosingElement => [nothing .name]
  | .jsxFragment => [nothing .openingFragment, items .children, nothing .closingFragment]
  | .jsxMemberExpression => [nothing .object, nothing .property]
  | .jsxNamespacedName => [nothing .namespaceName, nothing .name]
  | .jsxAttribute => [nothing .name, nothing .value]
  | .jsxText => [word .value "", nothing .raw]
  | .emptyStatement | .debuggerStatement | .thisExpression | .super | .jsxOpeningFragment
  | .jsxClosingFragment | .jsxEmptyExpression => []

/-- The fields of a kind, in order. -/
def fields (kind : Kind) : List Field := kind.schema.map (·.1)

/-- The fields that have a key of their own in JSON. The mark of an element written as JSX has none:
it is kept in the element's `data`. -/
def storedFields (kind : Kind) : List Field := kind.fields.filter (· != .explicit)

/-- The keys of a kind in JSON, in writing order. -/
def keys (kind : Kind) : List String := kind.storedFields.map (·.toKey)

theorem nodup_fields (kind : Kind) : kind.fields.Nodup := by cases kind <;> decide

end Kind

end JsxRouting
