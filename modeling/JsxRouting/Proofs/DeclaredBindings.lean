import JsxRouting.Proofs.ElementFaults
import JsxRouting.Proofs.LocalNames
import Mathlib.Logic.Relation

namespace JsxRouting

namespace Node

/-- Whether a node stands in a field. -/
def HasAt (node : Node) (field : Field) (child : Node) : Prop := node.get? field = some (.node child)

/-- Whether a node stands in the list that a field holds. -/
def Lists (node : Node) (field : Field) (child : Node) : Prop :=
  ∃ items, node.get? field = some (.list items) ∧ .node child ∈ items

/-- Whether a node is an identifier with this name. -/
def IsNamed (node : Node) (name : String) : Prop := node.kind = .identifier ∧ node.get? .name = some (.text name)

/-- Whether a pattern binds a name. Patterns stand in each other as values of properties, elements, what is left
over, and what has a default value; keys and default values bind nothing. -/
inductive Binds : Node → String → Prop
  | identifier {pattern : Node} {name : String} : pattern.IsNamed name → Binds pattern name
  | property {pattern property value : Node} {name : String} : pattern.kind = .objectPattern →
      pattern.Lists .properties property → property.kind = .property → property.HasAt .value value →
        Binds value name →
      Binds pattern name
  | leftOver {pattern rest : Node} {name : String} : pattern.kind = .objectPattern →
    pattern.Lists .properties rest →
      rest.kind = .restElement → Binds rest name → Binds pattern name
  | element {pattern element : Node} {name : String} : pattern.kind = .arrayPattern →
    pattern.Lists .elements element →
      Binds element name → Binds pattern name
  | rest {pattern target : Node} {name : String} : pattern.kind = .restElement → pattern.HasAt .argument target →
      Binds target name → Binds pattern name
  | usual {pattern target : Node} {name : String} : pattern.kind = .assignmentPattern → pattern.HasAt .left target →
      Binds target name → Binds pattern name

/-- Whether a part of an object pattern binds a name. -/
def BindsInObject (part : Node) (name : String) : Prop :=
  (part.kind = .property ∧ ∃ value, part.HasAt .value value ∧ value.Binds name) ∨
    (part.kind = .restElement ∧ part.Binds name)

/-- Whether a node is a variable declaration that binds a name. -/
def BindsVariable (declaration : Node) (name : String) : Prop :=
  declaration.kind = .variableDeclaration ∧ ∃ declarator, declaration.Lists .declarations declarator ∧
    ∃ target, declarator.HasAt .id target ∧ target.Binds name

/-- Whether a node is the declaration of a function or of a class with this name. -/
def Names (declaration : Node) (name : String) : Prop :=
  (declaration.kind = .functionDeclaration ∨ declaration.kind = .classDeclaration) ∧
    ∃ id, declaration.HasAt .id id ∧ id.IsNamed name

/-- The fields in which a statement holds one other statement. -/
def statementFields : List (Kind × Field) :=
  [(.ifStatement, .consequent), (.ifStatement, .alternate), (.forStatement, .init), (.forStatement, .body),
    (.forInStatement, .left), (.forInStatement, .body), (.forOfStatement, .left), (.forOfStatement, .body),
    (.whileStatement, .body), (.doWhileStatement, .body), (.withStatement, .body), (.labeledStatement, .body),
    (.tryStatement, .block), (.tryStatement, .finalizer)]

/-- Whether a node stands in another as a statement in a statement. -/
inductive Encloses (outer inner : Node) : Prop
  | inField {field : Field} : (outer.kind, field) ∈ statementFields → outer.HasAt field inner → Encloses outer inner
  | inBlock : outer.kind = .blockStatement → outer.Lists .body inner → Encloses outer inner
  | inHandler {handler : Node} : outer.kind = .tryStatement → outer.HasAt .handler handler →
    handler.HasAt .body inner →
      Encloses outer inner
  | inCase {branch : Node} : outer.kind = .switchStatement → outer.Lists .cases branch →
    branch.Lists .consequent inner →
      Encloses outer inner

/-- Whether a `var` in a statement, or in the statements in it to any depth, binds a name. -/
def Hoists (statement : Node) (name : String) : Prop :=
  ∃ declaration, Relation.ReflTransGen Encloses statement declaration ∧
    declaration.get? .kind = some (.text "var") ∧
    declaration.BindsVariable name

/-- Whether a statement in the body of a program declares a name for the whole program. -/
inductive DeclaresAtTop (statement : Node) (name : String) : Prop
  | imported {specifier localName : Node} : statement.kind = .importDeclaration →
      statement.Lists .specifiers specifier → specifier.HasAt .localName localName → localName.IsNamed name →
      DeclaresAtTop statement name
  | named {declaration : Node} :
      declaration = statement ∨
        (statement.kind = .exportNamedDeclaration ∨ statement.kind = .exportDefaultDeclaration) ∧
        statement.HasAt .declaration declaration →
      declaration.Names name → DeclaresAtTop statement name
  | bound {declaration : Node} :
      declaration = statement ∨ statement.kind = .exportNamedDeclaration ∧
        statement.HasAt .declaration declaration →
      declaration.BindsVariable name → DeclaresAtTop statement name
  | hoisted : statement.Hoists name → DeclaresAtTop statement name

/-- Whether a program declares a name at its top. -/
def DeclaresName (program : Node) (name : String) : Prop :=
  ∃ statement, program.Lists .body statement ∧ statement.DeclaresAtTop name

end Node

/-- Imports and exports, which stand in programs alone. -/
def Kind.isModuleDeclaration (kind : Kind) : Bool :=
  kind ∈ [.importDeclaration, .exportNamedDeclaration, .exportDefaultDeclaration, .exportAllDeclaration]

/-- The specifiers of an import. -/
def Kind.isSpecifier (kind : Kind) : Bool :=
  kind ∈ [.importSpecifier, .importDefaultSpecifier, .importNamespaceSpecifier]

/-- The declarations that can be exported by their names. -/
def Kind.isDeclaration (kind : Kind) : Bool :=
  kind ∈ [.functionDeclaration, .classDeclaration, .variableDeclaration]

/-- Statements other than the declaration of a function or a class. -/
def Kind.isPlainStatement (kind : Kind) : Bool :=
  kind.isModuleDeclaration || kind ∈ [.variableDeclaration, .expressionStatement, .blockStatement, .emptyStatement,
    .debuggerStatement, .withStatement, .returnStatement, .labeledStatement, .breakStatement, .continueStatement,
    .ifStatement, .switchStatement, .throwStatement, .tryStatement, .whileStatement,
    .doWhileStatement, .forStatement, .forInStatement, .forOfStatement]

namespace Value

/-- Whether a value is nothing, or a node whose kind passes the check. -/
def isOptional (check : Kind → Bool) : Value → Bool
  | .node child => check child.kind
  | value => value.isNull

/-- Whether a value is a list of nodes whose kinds pass the check. -/
def isListOf (check : Kind → Bool) : Value → Bool
  | .list items => items.all fun item => item.node?.any fun child => check child.kind
  | _ => false

end Value

/-- Whether a value can stand in a field of a node of a well-formed program, as far as declarations are
concerned. -/
def Kind.takes (kind : Kind) (field : Field) (value : Value) : Bool :=
  match kind, field with
  | .identifier, .name => value.isText
  | .objectPattern, .properties | .arrayPattern, .elements => value.isList
  | .variableDeclaration, .declarations => value.isListOf (· == .variableDeclarator)
  | .importDeclaration, .specifiers => value.isListOf Kind.isSpecifier
  | .program, .body => value.isListOf fun _ => true
  | .exportNamedDeclaration, .declaration => value.isOptional Kind.isDeclaration
  | .exportDefaultDeclaration, .declaration => value.isOptional fun kind => !kind.isPlainStatement
  | .blockStatement, .body | .switchCase, .consequent => value.isListOf fun kind => !kind.isModuleDeclaration
  | .switchStatement, .cases => value.isListOf (· == .switchCase)
  | .tryStatement, .handler => value.isOptional (· == .catchClause)
  | .ifStatement, .consequent | .ifStatement, .alternate | .forStatement, .init | .forStatement, .body
  | .forInStatement, .left | .forInStatement, .body | .forOfStatement, .left | .forOfStatement, .body
  | .whileStatement, .body | .doWhileStatement, .body | .withStatement, .body | .labeledStatement, .body
  | .tryStatement, .block | .tryStatement, .finalizer | .catchClause, .body =>
    value.isOptional fun kind => !kind.isModuleDeclaration
  | _, _ => true

namespace Node

/-- Whether a node has the fields of its kind with values that can stand in them. -/
def isWellFormed (node : Node) : Bool :=
  node.hasOwnFields && node.fields.all fun entry => node.kind.takes entry.1 entry.2

/-- Whether a node is a program that is well-formed throughout. -/
def isWellFormedProgram (program : Node) : Bool := program.is .program && program.all isWellFormed

/-- A field of the kind holds a value that can stand in it. -/
theorem exists_taken {node : Node} (formed : node.all isWellFormed = true) (field : Field)
    (own : field ∈ node.kind.fields) :
    ∃ value, node.fields.lookup field = some value ∧ node.get? field = some value ∧
      node.kind.takes field value = true := by
  have here := check_of_all formed
  rw [isWellFormed, Bool.and_eq_true] at here
  obtain ⟨value, isValue⟩ := exists_lookup here.1 field own
  exact ⟨value, isValue, get?_of_lookup isValue, List.all_eq_true.mp here.2 _ (mem_of_lookup isValue)⟩

theorem mem_children_of_hasAt {node child : Node} {field : Field} (own : field ∈ node.kind.fields)
    (formed : node.all isWellFormed = true) (there : node.HasAt field child) : child ∈ node.children := by
  obtain ⟨value, isValue, same, _⟩ := exists_taken formed field own
  cases same.symm.trans there
  exact List.mem_flatMap.mpr ⟨_, mem_of_lookup isValue, List.mem_singleton_self _⟩

theorem mem_children_of_lists {node child : Node} {field : Field} (own : field ∈ node.kind.fields)
    (formed : node.all isWellFormed = true) (there : node.Lists field child) : child ∈ node.children := by
  obtain ⟨value, isValue, same, _⟩ := exists_taken formed field own
  obtain ⟨items, isList, member⟩ := there
  cases same.symm.trans isList
  exact List.mem_flatMap.mpr ⟨_, mem_of_lookup isValue, List.mem_filterMap.mpr ⟨_, member, rfl⟩⟩

end Node

theorem Value.exists_of_isListOf {check : Kind → Bool} {value : Value} (isListOf : value.isListOf check = true) :
    ∃ items, value = .list items ∧ ∀ item ∈ items, ∃ child, item = .node child ∧ check child.kind = true := by
  cases value with
  | list items =>
    refine ⟨items, rfl, fun item member => ?_⟩
    have checked := List.all_eq_true.mp isListOf item member
    cases item with
    | node child => exact ⟨child, rfl, checked⟩
    | scalar | list | object => cases checked
  | scalar | object | node => cases isListOf

/-- The answer is a list of texts, which are the names for which the predicate holds. -/
def Answers (answer : Except Error (List Value)) (names : String → Prop) : Prop :=
  ∃ found : List String, answer = .ok (found.map Value.text) ∧ ∀ name, name ∈ found ↔ names name

namespace Answers

variable {answer : Except Error (List Value)} {names others : String → Prop}

theorem none : Answers (.ok []) fun _ => False := ⟨[], rfl, by simp⟩

theorem congr (answers : Answers answer names) (same : ∀ name, names name ↔ others name) :
    Answers answer others := by
  obtain ⟨found, isFound, iff⟩ := answers
  exact ⟨found, isFound, fun name => (iff name).trans (same name)⟩

theorem nothing (isNothing : answer = .ok []) (no : ∀ name, ¬ names name) : Answers answer names := by
  subst isNothing
  exact none.congr fun name => iff_of_false id (no name)

theorem append {rest : Except Error (List Value)} (first : Answers answer names) (second : Answers rest others) :
    Answers (do
      let here ← answer
      let behind ← rest
      return here ++ behind) fun name => names name ∨ others name := by
  obtain ⟨found, rfl, iff⟩ := first
  obtain ⟨more, rfl, iffMore⟩ := second
  refine ⟨found ++ more, ?_, fun name => ?_⟩
  · rw [List.map_append]
    rfl
  · rw [List.mem_append, iff, iffMore]

/-- What a list answers is what its items answer. -/
theorem all {ask : Value → Except Error (List Value)} {items : List Value} (names : Value → String → Prop)
    (answers : ∀ item ∈ items, Answers (ask item) (names item)) :
    Answers (namesOfAll ask items) fun name => ∃ item ∈ items, names item name := by
  induction items with
  | nil => exact none.congr (by simp)
  | cons first rest ih =>
    rw [namesOfAll_cons]
    refine ((answers first (by simp)).append (ih fun item member => answers item (by simp [member]))).congr ?_
    simp

variable {node : Node} {field : Field} {of : Node → String → Prop}

/-- What a field answers that holds a node at most. -/
theorem inField {role : NameRole} (own : field ∈ node.kind.fields) (formed : node.all Node.isWellFormed = true)
    (plain : ∀ value : Value, value.node? = .none → value.namesIn role = .ok [])
    (below : ∀ child, node.HasAt field child → Answers ((Value.node child).namesIn role) (of child)) :
    Answers (namesAt role (node.fields.lookup field)) fun name => ∃ child, node.HasAt field child ∧
      of child name := by
  obtain ⟨value, isValue, same, _⟩ := Node.exists_taken formed field own
  rw [isValue]
  cases isNode : value.node? with
  | none =>
    refine nothing (plain value isNode) fun name ⟨child, there, _⟩ => ?_
    cases same.symm.trans there
    cases isNode
  | some child =>
    cases value <;> cases isNode
    refine (below child same).congr fun name => ⟨fun holds => ⟨child, same, holds⟩, ?_⟩
    rintro ⟨other, there, holds⟩
    cases same.symm.trans there
    exact holds

/-- What a list answers in which all that is no node answers nothing. -/
theorem nodes {items : List Value} {ask : Value → Except Error (List Value)}
    (plain : ∀ item ∈ items, item.node? = .none → ask item = .ok [])
    (below : ∀ child, Value.node child ∈ items → Answers (ask (.node child)) (of child)) :
    Answers (namesOfAll ask items) fun name => ∃ child, Value.node child ∈ items ∧ of child name := by
  refine (all (fun item name => ∃ child, item = .node child ∧ of child name) fun item member => ?_).congr ?_
  · cases isNode : item.node? with
    | none =>
      refine nothing (plain item member isNode) fun name ⟨child, same, _⟩ => ?_
      subst same
      cases isNode
    | some child =>
      cases item <;> cases isNode
      exact (below child member).congr (by simp)
  · intro name
    constructor
    · rintro ⟨_, member, child, rfl, holds⟩
      exact ⟨child, member, holds⟩
    · rintro ⟨child, member, holds⟩
      exact ⟨_, member, child, rfl, holds⟩

/-- What the list in a field answers. -/
theorem inList {items : List Value} {ask : Value → Except Error (List Value)}
    (isList : node.get? field = some (.list items))
    (plain : ∀ item ∈ items, item.node? = .none → ask item = .ok [])
    (below : ∀ child, node.Lists field child → Answers (ask (.node child)) (of child)) :
    Answers (namesOfAll ask items) fun name => ∃ child, node.Lists field child ∧ of child name := by
  have lists (child : Node) : Value.node child ∈ items ↔ node.Lists field child := by
    refine ⟨fun member => ⟨items, isList, member⟩, ?_⟩
    rintro ⟨others, isOthers, member⟩
    cases isList.symm.trans isOthers
    exact member
  simp only [← lists] at below ⊢
  exact nodes plain below

end Answers

section Patterns

open Node

theorem namesAs_pattern_eq (node : Node) : (Value.node node).namesAs .pattern =
    match node.kind with
    | .identifier => namesAt .name (node.fields.lookup .name)
    | .objectPattern => namesAt (.bindings .property) (node.fields.lookup .properties)
    | .arrayPattern => namesAt (.bindings .pattern) (node.fields.lookup .elements)
    | .restElement => namesAt (.binding .pattern) (node.fields.lookup .argument)
    | .assignmentPattern => namesAt (.binding .pattern) (node.fields.lookup .left)
    | _ => .ok [] := by
  obtain ⟨kind, fields, extra, attached⟩ := node
  simp only [Node.kind, Node.fields, ← nameIn_eq, ← namesInList_eq, ← namesInField_eq]
  rw [Value.namesAs.eq_def]
  cases kind <;> rfl

theorem namesAs_property_eq (node : Node) : (Value.node node).namesAs .property =
    match node.kind with
    | .property => namesAt (.binding .pattern) (node.fields.lookup .value)
    | .restElement => namesAt (.binding .pattern) (node.fields.lookup .argument)
    | _ => .ok [] := by
  obtain ⟨kind, fields, extra, attached⟩ := node
  simp only [Node.kind, Node.fields, ← namesInField_eq]
  rw [Value.namesAs.eq_def]
  cases kind <;> rfl

theorem Node.binds_iff {pattern : Node} {name : String} : pattern.Binds name ↔
    match pattern.kind with
    | .identifier => pattern.IsNamed name
    | .objectPattern => ∃ part, pattern.Lists .properties part ∧ part.BindsInObject name
    | .arrayPattern => ∃ element, pattern.Lists .elements element ∧ element.Binds name
    | .restElement => ∃ target, pattern.HasAt .argument target ∧ target.Binds name
    | .assignmentPattern => ∃ target, pattern.HasAt .left target ∧ target.Binds name
    | _ => False := by
  constructor
  · rintro (named | ⟨isKind, member, isProperty, isValue, binds⟩ | ⟨isKind, member, isRest, binds⟩ |
      ⟨isKind, member, binds⟩ | ⟨isKind, there, binds⟩ | ⟨isKind, there, binds⟩)
    · simp only [named.1, named]
    · simp only [isKind]
      exact ⟨_, member, .inl ⟨isProperty, _, isValue, binds⟩⟩
    · simp only [isKind]
      exact ⟨_, member, .inr ⟨isRest, binds⟩⟩
    all_goals
      simp only [isKind]
      exact ⟨_, ‹_›, binds⟩
  · split <;> rename_i isKind
    · exact .identifier
    · rintro ⟨part, member, ⟨isProperty, value, isValue, binds⟩ | ⟨isRest, binds⟩⟩
      · exact .property isKind member isProperty isValue binds
      · exact .leftOver isKind member isRest binds
    · exact fun ⟨_, member, binds⟩ => .element isKind member binds
    · exact fun ⟨_, there, binds⟩ => .rest isKind there binds
    · exact fun ⟨_, there, binds⟩ => .usual isKind there binds
    · exact False.elim

theorem namesAs_of_no_node (part : PatternPart) (value : Value) (noNode : value.node? = none) :
    value.namesAs part = .ok [] := by
  cases value with
  | node => cases noNode
  | scalar | list | object => rw [Value.namesAs.eq_def]

/-- What a pattern or a part of an object pattern answers is what it binds. -/
theorem Node.answers_binds (node : Node) (formed : node.all isWellFormed = true) :
    Answers ((Value.node node).namesAs .pattern) node.Binds ∧
      Answers ((Value.node node).namesAs .property) node.BindsInObject := by
  induction node using Node.induction_children with
  | step node ih =>
    have below {child : Node} (member : child ∈ node.children) :=
      ih child member (all_of_mem_children formed member)
    have inField {field : Field} (own : field ∈ node.kind.fields) :
        Answers (namesAt (.binding .pattern) (node.fields.lookup field))
          fun name => ∃ child, node.HasAt field child ∧ child.Binds name :=
      .inField own formed (namesAs_of_no_node .pattern) fun _ there =>
        (below (mem_children_of_hasAt own formed there)).1
    have inList {field : Field} {part : PatternPart} {of : Node → String → Prop} (own : field ∈ node.kind.fields)
        (isList : ∀ value, node.kind.takes field value = true → value.isList = true)
        (answers : ∀ {child}, field ∈ node.kind.fields → node.Lists field child →
          Answers ((Value.node child).namesAs part) (of child)) :
        Answers (namesAt (.bindings part) (node.fields.lookup field))
          fun name => ∃ child, node.Lists field child ∧ of child name := by
      obtain ⟨value, isValue, same, taken⟩ := exists_taken formed field own
      obtain ⟨items, rfl⟩ := Value.exists_of_isList (isList value taken)
      rw [isValue, namesAt, Value.namesIn, namesListed, namesOfItems_eq]
      exact .inList same (fun _ _ => namesAs_of_no_node part _) fun _ => answers own
    constructor
    · rw [namesAs_pattern_eq]
      suffices answers : Answers _ fun name => match node.kind with
          | .identifier => node.IsNamed name
          | .objectPattern => ∃ part, node.Lists .properties part ∧ part.BindsInObject name
          | .arrayPattern => ∃ element, node.Lists .elements element ∧ element.Binds name
          | .restElement => ∃ target, node.HasAt .argument target ∧ target.Binds name
          | .assignmentPattern => ∃ target, node.HasAt .left target ∧ target.Binds name
          | _ => False from answers.congr fun name => binds_iff.symm
      split <;> rename_i isKind
      · obtain ⟨value, isValue, same, taken⟩ := exists_taken formed .name (by rw [isKind]; decide)
        rw [isKind] at taken
        obtain ⟨text, rfl⟩ := Value.exists_of_isText taken
        rw [isValue]
        exact ⟨[text], rfl, fun name => by simp [IsNamed, isKind, same, eq_comm]⟩
      · refine inList (by rw [isKind]; decide) (fun value taken => by rwa [isKind] at taken) fun own there => ?_
        exact (below (mem_children_of_lists own formed there)).2
      · refine inList (by rw [isKind]; decide) (fun value taken => by rwa [isKind] at taken) fun own there => ?_
        exact (below (mem_children_of_lists own formed there)).1
      · exact inField (by rw [isKind]; decide)
      · exact inField (by rw [isKind]; decide)
      · exact .none
    · rw [namesAs_property_eq]
      split <;> rename_i isKind
      · exact (inField (by rw [isKind]; decide)).congr (by simp [BindsInObject, isKind])
      · refine (inField (by rw [isKind]; decide)).congr fun name => ?_
        have rest : node.Binds name ↔ _ := binds_iff
        simp only [isKind] at rest
        simp [BindsInObject, isKind, rest]
      · refine .nothing rfl fun name => ?_
        simp_all [BindsInObject]

end Patterns

end JsxRouting
