import JsxRouting.Proofs.DeclaredFunctions
import JsxRouting.Proofs.FirstFailure

namespace JsxRouting

namespace Value

def isList : Value → Bool
  | .list _ => true
  | _ => false

def isText : Value → Bool
  | .scalar (.text _) => true
  | _ => false

/-- Whether the value is a node or nothing. -/
def isOptionalNode (value : Value) : Bool := value.isNull || value.node?.isSome

theorem exists_of_isList {value : Value} (isList : value.isList = true) : ∃ items, value = .list items := by
  cases value with
  | list items => exact ⟨items, rfl⟩
  | scalar | object | node => cases isList

theorem exists_of_isText {value : Value} (isText : value.isText = true) : ∃ text, value = .text text := by
  cases value with
  | scalar value =>
    cases value with
    | text text => exact ⟨text, rfl⟩
    | null | bool | int | real => cases isText
  | list | object | node => cases isText

theorem cases_of_isOptionalNode {value : Value} (isOptional : value.isOptionalNode = true) :
    value = .null ∨ ∃ node, value = .node node := by
  rw [isOptionalNode, Bool.or_eq_true] at isOptional
  obtain isNull | isNode := isOptional
  · exact .inl (eq_null_of_isNull isNull)
  · cases value with
    | node node => exact .inr ⟨node, rfl⟩
    | scalar | list | object => cases isNode

end Value

/-- Whether a value has the form that a field is declared to hold, as far as the pass reads the field: bodies and
parameters are lists, names are texts, an element has an opening part, and other parts can be absent. -/
def Kind.admits (kind : Kind) (field : Field) (value : Value) : Bool :=
  match kind, field with
  | .program, .body | .blockStatement, .body | .functionDeclaration, .params | .functionExpression, .params
  | .arrowFunctionExpression, .params => value.isList
  | .jsxElement, .openingElement => (value.nodeOf? .jsxOpeningElement).isSome
  | .jsxElement, .closingElement => value.isNull || (value.nodeOf? .jsxClosingElement).isSome
  | .jsxOpeningElement, .name | .jsxMemberExpression, .object => value.isOptionalNode
  | .jsxIdentifier, .name => value.isText
  | _, _ => true

/-- A function has a body, and its parameters are to be a list. -/
theorem Kind.fields_of_isFunction {kind : Kind} (isFunction : kind.isFunction = true) :
    .body ∈ kind.fields ∧ .params ∈ kind.fields ∧ ∀ value, kind.admits .params value = value.isList := by
  cases kind <;> first | exact ⟨by decide, by decide, fun _ => rfl⟩ | cases isFunction

namespace Node

/-- Whether a node has the fields of its kind with values of the forms that they are declared to hold. -/
def hasDeclaredForms (node : Node) : Bool :=
  node.hasOwnFields && node.fields.all fun entry => node.kind.admits entry.1 entry.2

/-- A field of the kind holds a value of its form. -/
theorem exists_admitted {node : Node} (formed : node.all hasDeclaredForms = true) (field : Field)
    (own : field ∈ node.kind.fields) : ∃ value, node.fields.lookup field = some value ∧
      node.kind.admits field value = true ∧ value.all hasDeclaredForms = true := by
  have here := check_of_all formed
  rw [hasDeclaredForms, Bool.and_eq_true] at here
  obtain ⟨value, isValue⟩ := exists_lookup here.1 field own
  have member := mem_of_lookup isValue
  exact ⟨value, isValue, List.all_eq_true.mp here.2 _ member, all_of_mem_fields (allInFields_of_all formed) member⟩

end Node

/-- The value in which a dotted name begins: its object, the object of its object, and so on. -/
inductive Value.ChainRoot : Value → Value → Prop
  | here {value : Value} : value.nodeOf? .jsxMemberExpression = none → ChainRoot value value
  | member {node : Node} {object root : Value} : node.kind = .jsxMemberExpression →
      node.get? .object = some object → ChainRoot object root → ChainRoot (.node node) root

/-- An element name is an identifier, a name in a namespace, or a dotted name that begins with an identifier. -/
def Value.IsElementName (name : Value) : Prop :=
  ∃ node, name = .node node ∧ (node.kind = .jsxIdentifier ∨ node.kind = .jsxNamespacedName ∨
    node.kind = .jsxMemberExpression ∧ ∃ root, name.ChainRoot (.node root) ∧ root.kind = .jsxIdentifier)

def Value.kind? (value : Value) : Option Kind := value.node?.map Node.kind

/-- What is reported of a name that is no element name, and of which kind of node. -/
inductive Value.NameFault : Value → String → Option Kind → Prop
  | otherKind {name : Value} :
      (∀ kind, name.kind? = some kind → kind ∉ [.jsxIdentifier, .jsxNamespacedName, .jsxMemberExpression]) →
      NameFault name "Unexpected JSX element name" name.kind?
  | otherRoot {node : Node} {root : Value} : node.kind = .jsxMemberExpression → (Value.node node).ChainRoot root →
      root.kind? ≠ some .jsxIdentifier →
      NameFault (.node node) "Member expression in JSX name must start with an identifier" root.kind?

namespace Value

theorem ChainRoot.unique {value root other : Value} (chain : value.ChainRoot root)
    (another : value.ChainRoot other) :
    root = other := by
  induction chain with
  | here noMember =>
    cases another with
    | here => rfl
    | member isMember => simp [nodeOf?, Node.is, isMember] at noMember
  | member isMember isObject _ ih =>
    cases another with
    | here noMember => simp [nodeOf?, Node.is, isMember] at noMember
    | member _ isOther chain =>
      cases isObject.symm.trans isOther
      exact ih chain

/-- What is at fault is no element name. -/
theorem NameFault.not_isElementName {name : Value} {summary : String} {kind : Option Kind}
    (fault : name.NameFault summary kind) : ¬ name.IsElementName := by
  rintro ⟨node, rfl, isName⟩
  cases fault with
  | otherKind noName =>
    have others := noName node.kind rfl
    obtain same | same | ⟨same, _⟩ := isName <;> simp [same] at others
  | otherRoot isMember chain otherRoot =>
    obtain same | same | ⟨_, root, isRoot, isIdentifier⟩ := isName
    · cases same.symm.trans isMember
    · cases same.symm.trans isMember
    · obtain rfl := chain.unique isRoot
      exact otherRoot (congrArg some isIdentifier)

theorem memberRoot_of_object {node : Node} {object : Value} (isMember : node.kind = .jsxMemberExpression)
    (isObject : node.fields.lookup .object = some object) : (Value.node node).memberRoot = object.memberRoot := by
  obtain ⟨kind, fields, extra, attached⟩ := node
  have inFields : memberRootIn fields = object.memberRoot := by
    simp only [Node.fields] at isObject
    induction fields with
    | nil => cases isObject
    | cons entry rest ih =>
      obtain ⟨field, value⟩ := entry
      rw [memberRootIn]
      rw [List.lookup_cons] at isObject
      split
      · rename_i here
        subst here
        cases isObject
        rfl
      · rename_i elsewhere
        have differs : (Field.object == field) = false := beq_eq_false_iff_ne.mpr (Ne.symm elsewhere)
        rw [differs] at isObject
        exact ih isMember isObject
  rw [memberRoot, if_pos (show kind = .jsxMemberExpression from isMember), inFields]

/-- The first part of a well-formed dotted name is found, and is nothing or a well-formed node. -/
theorem chainRoot_memberRoot (node : Node) (formed : node.all Node.hasDeclaredForms = true) :
    (Value.node node).ChainRoot (Value.node node).memberRoot ∧
      (Value.node node).memberRoot.isOptionalNode = true ∧
      (Value.node node).memberRoot.all Node.hasDeclaredForms = true := by
  induction node using Node.induction_children with
  | step node ih =>
    by_cases isMember : node.kind = .jsxMemberExpression
    · obtain ⟨object, isObject, admitted, objectFormed⟩ :=
        Node.exists_admitted formed .object (by rw [isMember]; decide)
      rw [isMember] at admitted
      rw [memberRoot_of_object isMember isObject]
      obtain rfl | ⟨child, rfl⟩ := cases_of_isOptionalNode admitted
      · exact ⟨.member isMember (Node.get?_of_lookup isObject) (.here rfl), rfl, rfl⟩
      · have isChild : node.child? (.direct .object) = some child := Node.child?_eq_some.mpr ⟨_, isObject, rfl⟩
        obtain ⟨chain, isOptional, rootFormed⟩ := ih child (Node.mem_children_of_child? isChild) objectFormed
        exact ⟨.member isMember (Node.get?_of_lookup isObject) chain, isOptional, rootFormed⟩
    · have itself : (Value.node node).memberRoot = .node node := by
        obtain ⟨kind, fields, extra, attached⟩ := node
        rw [memberRoot, if_neg (show ¬ kind = .jsxMemberExpression from isMember)]
      rw [itself]
      exact ⟨.here (by simp [nodeOf?, Node.is, isMember]), rfl, formed⟩

end Value

theorem useOfPlainName_text (text : String) (explicit : Bool) :
    ∃ use, useOfPlainName (.text text) explicit = .ok use ∧ ∀ name, use.name? = some name →
      ∃ text, name = .text text := by
  have component : ∃ component, componentName? (.text text) = .ok component := by
    unfold componentName? Value.isIdentifierName
    simp only [bind, Except.bind, pure, Except.pure]
    split <;> exact ⟨_, rfl⟩
  obtain ⟨component, isComponent⟩ := component
  unfold useOfPlainName
  rw [isComponent]
  cases component with
  | some component => exact ⟨.component component, rfl, fun name same => ⟨component, (Option.some.inj same).symm⟩⟩
  | none =>
    cases explicit with
    | true => exact ⟨.explicit (.text text), rfl, fun name same => ⟨text, (Option.some.inj same).symm⟩⟩
    | false => exact ⟨.tag (.text text), rfl, fun name same => ⟨text, (Option.some.inj same).symm⟩⟩

/-- The name of a well-formed identifier is a text. -/
theorem Node.exists_identifierText {node : Node} (formed : node.all hasDeclaredForms = true)
    (isIdentifier : node.kind = .jsxIdentifier) : ∃ text, node.get? .name = some (.text text) := by
  obtain ⟨name, isName, admitted, _⟩ := exists_admitted formed .name (by rw [isIdentifier]; decide)
  rw [isIdentifier] at admitted
  obtain ⟨text, rfl⟩ := Value.exists_of_isText admitted
  exact ⟨text, get?_of_lookup isName⟩

/-- A well-formed name is an element name with a use, or it is at fault. -/
theorem classify_cases {name : Value} (explicit : Bool) (isOptional : name.isOptionalNode = true)
    (formed : name.all Node.hasDeclaredForms = true) :
    (name.IsElementName ∧ ∃ use, classify name explicit = .ok use ∧
        ∀ other, use.name? = some other → ∃ text, other = .text text) ∨
      ∃ error, classify name explicit = .error error ∧ name.NameFault error.summary error.nodeKind? ∧
        ∃ kind, error = .memberRoot kind ∨ error = .elementName kind := by
  obtain rfl | ⟨node, rfl⟩ := Value.cases_of_isOptionalNode isOptional
  · exact .inr ⟨_, rfl, .otherKind (fun _ same => by cases same), none, .inr rfl⟩
  have nodeFormed : node.all Node.hasDeclaredForms = true := formed
  rw [classify]
  cases isKind : node.kind
  case jsxMemberExpression =>
    obtain ⟨chain, rootOptional, rootFormed⟩ := Value.chainRoot_memberRoot node nodeFormed
    generalize (Value.node node).memberRoot = root at chain rootOptional rootFormed
    obtain rfl | ⟨first, rfl⟩ := Value.cases_of_isOptionalNode rootOptional
    · exact .inr ⟨_, rfl, .otherRoot isKind chain (by simp [Value.kind?, Value.node?]), none, .inl rfl⟩
    · by_cases isIdentifier : first.kind = .jsxIdentifier
      · obtain ⟨text, isText⟩ := Node.exists_identifierText rootFormed isIdentifier
        have isFirst : first.is .jsxIdentifier = true := by simp [Node.is, isIdentifier]
        refine .inl ⟨⟨node, rfl, .inr (.inr ⟨isKind, first, chain, isIdentifier⟩)⟩, .object (.text text), ?_, ?_⟩
        · simp only [isFirst, if_true, isText]
        · exact fun other same => ⟨text, (Option.some.inj same).symm⟩
      · have noFirst : first.is .jsxIdentifier = false := by simpa [Node.is] using isIdentifier
        refine .inr ⟨.memberRoot (some first.kind), ?_, .otherRoot isKind chain ?_, some first.kind, .inl rfl⟩
        · simp only [noFirst, Bool.false_eq_true, if_false]
        · simpa [Value.kind?, Value.node?] using isIdentifier
  case jsxNamespacedName =>
    exact .inl ⟨⟨node, rfl, .inr (.inl isKind)⟩, .namespaced, rfl, fun _ same => by cases same⟩
  case jsxIdentifier =>
    obtain ⟨text, isText⟩ := Node.exists_identifierText nodeFormed isKind
    obtain ⟨use, isUse, texts⟩ := useOfPlainName_text text explicit
    exact .inl ⟨⟨node, rfl, .inl isKind⟩, use, by simp only [isText, isUse], texts⟩
  all_goals
    have otherKind : (Value.node node).NameFault "Unexpected JSX element name" (some node.kind) :=
      .otherKind fun kind same => by
        cases same
        rw [isKind]
        decide
    rw [isKind] at otherKind
    exact .inr ⟨_, rfl, otherKind, _, .inr rfl⟩

namespace Node

/-- A well-formed element has an opening part with a name, and a closing part or none. -/
theorem exists_parts {element : Node} (formed : element.all hasDeclaredForms = true)
    (isElement : element.kind = .jsxElement) :
    ∃ opening name closing explicit, element.get? .openingElement = some (.node opening) ∧
      opening.get? .name = some name ∧ name.isOptionalNode = true ∧ name.all hasDeclaredForms = true ∧
      element.get? .closingElement = some closing ∧ (closing = .null ∨ ∃ part, closing = .node part) ∧
      element.get? .explicit = some explicit := by
  obtain ⟨value, isOpening, admitted, openingFormed⟩ :=
    exists_admitted formed .openingElement (by rw [isElement]; decide)
  obtain ⟨closing, isClosing, closingAdmitted, _⟩ :=
    exists_admitted formed .closingElement (by rw [isElement]; decide)
  obtain ⟨explicit, isExplicit, _, _⟩ := exists_admitted formed .explicit (by rw [isElement]; decide)
  rw [isElement] at admitted closingAdmitted
  obtain ⟨opening, isNode⟩ := Option.isSome_iff_exists.mp admitted
  obtain ⟨rfl, openingKind⟩ := Value.nodeOf?_eq_some.mp isNode
  obtain ⟨name, isName, nameAdmitted, nameFormed⟩ :=
    exists_admitted (show opening.all hasDeclaredForms = true from openingFormed) .name
      (by rw [openingKind]; decide)
  rw [openingKind] at nameAdmitted
  refine ⟨opening, name, closing, explicit, get?_of_lookup isOpening, get?_of_lookup isName,
    nameAdmitted, nameFormed, get?_of_lookup isClosing, ?_, get?_of_lookup isExplicit⟩
  rw [Kind.admits, Bool.or_eq_true] at closingAdmitted
  obtain isNull | isPart := closingAdmitted
  · exact .inl (Value.eq_null_of_isNull isNull)
  · obtain ⟨part, isNode⟩ := Option.isSome_iff_exists.mp isPart
    exact .inr ⟨part, (Value.nodeOf?_eq_some.mp isNode).1⟩

/-- A well-formed element can be routed unless its name is at fault. -/
theorem routingError?_cases {element : Node} (formed : element.all hasDeclaredForms = true)
    (isElement : element.kind = .jsxElement) :
    ∃ name, element.elementName? = some name ∧
      (name.IsElementName ∧ element.routingError? = none ∨
        ∃ error, element.routingError? = some error ∧ name.NameFault error.summary error.nodeKind? ∧
          ∃ kind, error = .memberRoot kind ∨ error = .elementName kind) := by
  obtain ⟨opening, name, closing, explicit, isOpening, isName, isOptional, nameFormed, isClosing,
    isPart, isExplicit⟩ :=
    exists_parts formed isElement
  have named : element.elementName? = some name := by simp only [elementName?, isOpening, isName]
  have used : element.nameUse = classify name explicit.holds := by
    simp only [nameUse, isOpening, isExplicit, isName]
  refine ⟨name, named, ?_⟩
  obtain ⟨isElementName, use, isUse, texts⟩ | ⟨error, isError, fault, cause⟩ :=
    classify_cases explicit.holds isOptional nameFormed
  · refine .inl ⟨isElementName, ?_⟩
    have routes (tag : Scalar) := route_of_parts (.scalar tag) isOpening isName isClosing isPart
    -- The trial that is made of the exchange when the walk comes to a tag succeeds, too.
    have chosen : ∃ tag, element.routingTag = .ok tag := by
      unfold routingTag
      rw [used, isUse]
      cases use with
      | object name =>
        obtain ⟨text, rfl⟩ := texts name rfl
        exact ⟨none, rfl⟩
      | tag name =>
        obtain ⟨text, rfl⟩ := texts name rfl
        obtain ⟨after, routed⟩ := routes (.text text)
        exact ⟨some (.text text), by simp only [bind, Except.bind, Value.asName, routed]; rfl⟩
      | component | namespaced | explicit => exact ⟨none, rfl⟩
    obtain ⟨tag, isTag⟩ := chosen
    simp only [routingError?, isTag]
  · refine .inr ⟨error, ?_, fault, cause⟩
    simp only [routingError?, routingTag, used, isError, bind, Except.bind]

section ReadProps

variable (function parameter : Node) (first : Value) (rest : List Value)

theorem readRestParameter_succeeds :
    ∃ reading, function.readRestParameter (.list (first :: rest)) parameter = .ok reading := by
  dsimp only [readRestParameter]
  split <;> exact ⟨_, rfl⟩

theorem readDefaultParameter_succeeds :
    ∃ reading, function.readDefaultParameter (.list (first :: rest)) parameter = .ok reading := by
  dsimp only [readDefaultParameter]
  split <;> exact ⟨_, rfl⟩

theorem readArrowParameter_succeeds :
    ∃ reading, function.readArrowParameter (.list (first :: rest)) first = .ok reading := by
  dsimp only [readArrowParameter]
  split <;> exact ⟨_, rfl⟩

end ReadProps

theorem readProps_succeeds {function : Node} {items : List Value}
    (isParams : function.get? .params = some (.list items)) : ∃ reading, function.readProps = .ok reading := by
  unfold readProps
  rw [isParams]
  cases items with
  | nil =>
    have noFirst : firstParameter (.list []) = .ok .null := rfl
    simp only [noFirst, bind, Except.bind]
    split <;> exact ⟨_, rfl⟩
  | cons first rest =>
    have isFirst : firstParameter (.list (first :: rest)) = .ok first := rfl
    simp only [isFirst, bind, Except.bind]
    have plain : ∃ reading, (if function.is .arrowFunctionExpression then
        function.readArrowParameter (.list (first :: rest)) first
        else .ok ⟨firstElement (identifier "arguments"), [], function⟩) = .ok reading := by
      split
      · exact readArrowParameter_succeeds function first rest
      · exact ⟨_, rfl⟩
    split
    · split
      · exact ⟨_, rfl⟩
      · exact readRestParameter_succeeds function _ _ rest
      · exact readDefaultParameter_succeeds function _ _ rest
      · exact plain
    · exact plain

/-- A function whose parameters are a list can be prepared. -/
theorem prepare_succeeds {function : Node} {items : List Value}
    (isParams : function.get? .params = some (.list items))
    (isEntryPoint : Bool) : ∃ prepared, function.prepare isEntryPoint = .ok prepared := by
  cases isEntryPoint with
  | false => exact ⟨_, rfl⟩
  | true =>
    obtain ⟨reading, read⟩ := readProps_succeeds isParams
    exact ⟨_, map_eq_ok_iff.mpr ⟨reading, read, rfl⟩⟩

/-- Statements can be put in front of a body that has statements. -/
theorem prependToBody_succeeds {function : Node} {statements : List Value} (front : List Node)
    (isBody : function.bodyStatements = some statements) : ∃ after, function.prependToBody front = .ok after := by
  unfold bodyStatements at isBody
  unfold prependToBody
  cases there : function.get? .body with
  | none =>
    rw [there] at isBody
    cases isBody
  | some body =>
    rw [there] at isBody
    simp only at isBody ⊢
    cases isBlock : body.nodeOf? .blockStatement with
    | none => exact ⟨_, rfl⟩
    | some block =>
      rw [isBlock] at isBody
      obtain ⟨items, isItems⟩ : ∃ items, block.get? .body = some (.list items) := by
        simp only at isBody
        split at isBody
        · rename_i items isItems
          exact ⟨items, isItems⟩
        · cases isBody
      simp only [isItems]
      exact ⟨_, rfl⟩

/-- A well-formed function has statements in its body. -/
theorem exists_bodyStatements {function : Node} (formed : function.all hasDeclaredForms = true)
    (isFunction : function.isFunction = true) : ∃ statements, function.bodyStatements = some statements := by
  obtain ⟨body, isBody, _, bodyFormed⟩ := exists_admitted formed .body (Kind.fields_of_isFunction isFunction).1
  unfold bodyStatements
  rw [get?_of_lookup isBody]
  simp only
  cases isBlock : body.nodeOf? .blockStatement with
  | none => exact ⟨_, rfl⟩
  | some block =>
    obtain ⟨rfl, blockKind⟩ := Value.nodeOf?_eq_some.mp isBlock
    obtain ⟨list, isList, admitted, _⟩ :=
      exists_admitted (show block.all hasDeclaredForms = true from bodyFormed) .body (by rw [blockKind]; decide)
    rw [blockKind] at admitted
    obtain ⟨items, rfl⟩ := Value.exists_of_isList admitted
    exact ⟨items, by simp only [get?_of_lookup isList]⟩

/-- The parameters of a well-formed function are a list. -/
theorem exists_params {function : Node} (formed : function.all hasDeclaredForms = true)
    (isFunction : function.isFunction = true) : ∃ items, function.get? .params = some (.list items) := by
  obtain ⟨_, own, admits⟩ := Kind.fields_of_isFunction isFunction
  obtain ⟨value, isValue, admitted, _⟩ := exists_admitted formed .params own
  rw [admits] at admitted
  obtain ⟨items, rfl⟩ := Value.exists_of_isList admitted
  exact ⟨items, get?_of_lookup isValue⟩

end Node

namespace Pass

/-- Declaring a well-formed function fails at the first element in it that cannot be routed, and nowhere else. -/
theorem declare_fails (pass : Pass) (place : Place) {function : Node}
    (formed : function.all Node.hasDeclaredForms = true) (isFunction : function.isFunction = true) :
    FailsFirst (pass.declare place function)
      ((function.jsxElements Node.isRouted .plain).filterMap Node.routingError?) := by
  refine (function.routing_fails .plain).bind_ok fun inner ran => ?_
  have notRouted := Node.isRouted_of_isFunction isFunction
  have routes : function.RoutesTo inner := .inr ⟨.plain, ran⟩
  obtain ⟨items, isParams⟩ := Node.exists_params formed isFunction
  obtain ⟨others, innerParams⟩ : ∃ others, inner.get? .params = some (.list others) := by
    have parameters := routes.get? notRouted .params
    rw [isParams] at parameters
    generalize inner.get? .params = after at parameters ⊢
    cases parameters with
    | some relate =>
      obtain ⟨others, rfl, _⟩ := relate.list
      exact ⟨others, rfl⟩
  obtain ⟨prepared, ready⟩ := Node.prepare_succeeds innerParams (pass.frameOf place function).isEntryPoint
  obtain ⟨statements, isBody⟩ := Node.exists_bodyStatements formed isFunction
  have sameLength := Node.length_bodyStatements_routing routes isFunction
  rw [isBody, ← bodyStatements_prepared ready] at sameLength
  obtain ⟨old, isOld, _⟩ := Option.map_eq_some_iff.mp sameLength
  rw [Node.injectDeclarations_eq, ready]
  cases (pass.frameOf place function).isEmpty with
  | true => exact ⟨inner, rfl⟩
  | false =>
    obtain ⟨changed, prepended⟩ := Node.prependToBody_succeeds (prepared.prelude ++
      (pass.frameOf place function).findings.declarations pass.options.usesProvider prepared.props) isOld
    refine ⟨changed, ?_⟩
    simp only [bind, Except.bind, Bool.false_eq_true, if_false, prepended]
    rfl

/-- The provider can be bound if there is one. -/
theorem providerBinding_succeeds {options : Options} (uses : options.usesProvider = true) :
    ∃ binding, providerBinding options.source options.format = .ok binding := by
  obtain ⟨source, isSource⟩ := Option.isSome_iff_exists.mp uses
  rw [isSource]
  cases options.format with
  | program => exact ⟨_, rfl⟩
  | functionBody => exact ⟨_, rfl⟩

theorem prependStatement_succeeds {program : Node} {items : List Value}
    (isBody : program.get? .body = some (.list items)) (statement : Node) :
    ∃ after, program.prependStatement statement = .ok after ∧
      after.get? .body = some (.list (.node statement :: items)) := by
  unfold Node.prependStatement
  rw [isBody]
  exact ⟨_, rfl, Node.get?_set_self _ _ _⟩

/-- Putting the helper and the provider in front of a program succeeds. -/
theorem addFront_succeeds {options : Options} {progress : Progress} {walked : Node} {items : List Value}
    (isBody : walked.get? .body = some (.list items))
    (uses : progress.needsProvider = true → options.usesProvider = true) :
    ∃ routed, (addHelper progress walked >>= addProvider options progress) = .ok routed := by
  obtain ⟨helped, addedHelper, others, isBody⟩ : ∃ helped, addHelper progress walked = .ok helped ∧
      ∃ others, helped.tree.get? .body = some (.list others) := by
    unfold addHelper
    split
    · obtain ⟨after, prepended, isBody⟩ := prependStatement_succeeds isBody missingComponentFunction
      rw [prepended]
      exact ⟨_, rfl, _, isBody⟩
    · exact ⟨_, rfl, _, isBody⟩
  rw [addedHelper]
  simp only [bind, Except.bind]
  unfold addProvider
  split
  · rename_i needed
    obtain ⟨binding, bound⟩ := providerBinding_succeeds (uses needed)
    obtain ⟨after, prepended, _⟩ := prependStatement_succeeds isBody binding
    simp only [bound, prepended, bind, Except.bind]
    exact ⟨_, rfl⟩
  · exact ⟨_, rfl⟩

end Pass

end JsxRouting
