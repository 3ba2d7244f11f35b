import JsxRouting.Proofs.AlikeScopes
import JsxRouting.Proofs.DeclaredBindings

namespace JsxRouting

/-- Whether a value that stands in a statement as such a part holds the node as a statement. -/
def Value.HoldsStatement (part : StatementPart) (value : Value) (inner : Node) : Prop :=
  match part with
  | .statement => value = .node inner
  | .statements => ∃ items, value = .list items ∧ .node inner ∈ items
  | .handler => ∃ handler, value = .node handler ∧ handler.HasAt .body inner
  | .switchCase => ∃ branch, value = .node branch ∧ branch.Lists .consequent inner
  | .cases => ∃ items branch, value = .list items ∧ .node branch ∈ items ∧ branch.Lists .consequent inner

namespace Node

/-- The parts of a statement are all the places at which it encloses statements. -/
theorem encloses_iff {outer inner : Node} : outer.Encloses inner ↔
    ∃ entry ∈ outer.kind.statementParts, ∃ value, outer.get? entry.1 = some value ∧
      value.HoldsStatement entry.2 inner := by
  constructor
  · rintro (⟨isField, there⟩ | ⟨isKind, items, isList, member⟩ | ⟨isKind, there, below⟩ |
      ⟨isKind, ⟨items, isList, member⟩, below⟩)
    · refine ⟨(_, .statement), ?_, _, there, rfl⟩
      revert isField
      generalize outer.kind = kind
      intro isField
      simp only [statementFields, List.mem_cons, Prod.mk.injEq, List.not_mem_nil, or_false] at isField
      rcases isField with ⟨rfl, rfl⟩ | ⟨rfl, rfl⟩ | ⟨rfl, rfl⟩ | ⟨rfl, rfl⟩ | ⟨rfl, rfl⟩ | ⟨rfl, rfl⟩ | ⟨rfl, rfl⟩ |
        ⟨rfl, rfl⟩ | ⟨rfl, rfl⟩ | ⟨rfl, rfl⟩ | ⟨rfl, rfl⟩ | ⟨rfl, rfl⟩ | ⟨rfl, rfl⟩ | ⟨rfl, rfl⟩ <;> decide
    · exact ⟨(.body, .statements), by simp [isKind, Kind.statementParts], _, isList, items, rfl, member⟩
    · exact ⟨(.handler, .handler), by simp [isKind, Kind.statementParts], _, there, _, rfl, below⟩
    · exact ⟨(.cases, .cases), by simp [isKind, Kind.statementParts], _, isList, items, _, rfl, member, below⟩
  · rintro ⟨⟨field, part⟩, isPart, value, isValue, holds⟩
    have inField (same : part = .statement) (isField : (outer.kind, field) ∈ statementFields) :
      outer.Encloses inner := by
      subst same
      cases holds
      exact .inField isField isValue
    cases isKind : outer.kind <;> simp only [isKind, Kind.statementParts, List.mem_cons, List.not_mem_nil, or_false,
      Prod.mk.injEq] at isPart
    case blockStatement =>
      obtain ⟨rfl, rfl⟩ := isPart
      obtain ⟨items, rfl, member⟩ := holds
      exact .inBlock isKind ⟨items, isValue, member⟩
    case switchStatement =>
      obtain ⟨rfl, rfl⟩ := isPart
      obtain ⟨items, branch, rfl, member, below⟩ := holds
      exact .inCase isKind ⟨items, isValue, member⟩ below
    case tryStatement =>
      rcases isPart with ⟨rfl, rfl⟩ | ⟨rfl, rfl⟩ | ⟨rfl, rfl⟩
      · exact inField rfl (by rw [isKind]; decide)
      · obtain ⟨handler, rfl, below⟩ := holds
        exact .inHandler isKind isValue below
      · exact inField rfl (by rw [isKind]; decide)
    case ifStatement | forStatement | forInStatement | forOfStatement =>
      rcases isPart with ⟨rfl, rfl⟩ | ⟨rfl, rfl⟩ <;> exact inField rfl (by rw [isKind]; decide)
    all_goals
      obtain ⟨rfl, rfl⟩ := isPart
      exact inField rfl (by rw [isKind]; decide)

/-- A `var` in a statement is the statement itself, or is in a statement that it encloses. -/
theorem hoists_iff (statement : Node) (name : String) : statement.Hoists name ↔
    (statement.get? .kind = some (.text "var") ∧ statement.BindsVariable name) ∨
      ∃ inner, statement.Encloses inner ∧ inner.Hoists name := by
  constructor
  · rintro ⟨declaration, reached, isVar, binds⟩
    obtain rfl | ⟨inner, encloses, further⟩ := reached.cases_head
    · exact .inl ⟨isVar, binds⟩
    · exact .inr ⟨inner, encloses, declaration, further, isVar, binds⟩
  · rintro (⟨isVar, binds⟩ | ⟨inner, encloses, declaration, reached, isVar, binds⟩)
    · exact ⟨statement, .refl, isVar, binds⟩
    · exact ⟨declaration, .head encloses reached, isVar, binds⟩

end Node

/-- What the listed fields answer is what they answer one by one. -/
theorem Answers.parts {top : Bool} {parts : List (Field × StatementPart)} {fields : List (Field × Value)}
    (names : Field × StatementPart → String → Prop) (distinct : (parts.map (·.1)).Nodup)
    (answers : ∀ entry ∈ parts, ∃ value, fields.lookup entry.1 = some value ∧
      Answers (value.declaredAs entry.2 top) (names entry)) :
    Answers (declaredInParts top parts fields) fun name => ∃ entry ∈ parts, names entry name := by
  induction fields generalizing parts with
  | nil =>
    cases parts with
    | nil => exact none.congr (by simp)
    | cons entry rest =>
      obtain ⟨value, isValue, _⟩ := answers entry (by simp)
      cases isValue
  | cons first rest ih =>
    obtain ⟨field, value⟩ := first
    have behind {entry : Field × StatementPart} (member : entry ∈ parts) (ne : entry.1 ≠ field) :
        ∃ value, rest.lookup entry.1 = some value ∧ Answers (value.declaredAs entry.2 top) (names entry) := by
      have := answers entry member
      rwa [List.lookup_cons, beq_eq_false_iff_ne.mpr ne] at this
    rw [declaredInParts]
    cases found : parts.lookup field with
    | none =>
      exact ih distinct fun entry member => behind member fun same =>
        by simpa [same] using List.lookup_eq_none_iff.mp found entry member
    | some part =>
      have isPart := mem_of_lookup found
      obtain ⟨here, isHere, answersHere⟩ := answers _ isPart
      simp only [List.lookup_cons_self, Option.some.injEq] at isHere
      subst isHere
      have others : Answers (declaredInParts top (parts.filter (·.1 != field)) rest) _ :=
        ih (distinct.sublist (List.filter_sublist.map _)) fun entry member =>
          behind (List.mem_filter.mp member).1 (by simpa using (List.mem_filter.mp member).2)
      refine (answersHere.append others).congr fun name => ?_
      constructor
      · rintro (holds | ⟨entry, member, holds⟩)
        · exact ⟨_, isPart, holds⟩
        · exact ⟨entry, (List.mem_filter.mp member).1, holds⟩
      · rintro ⟨entry, member, holds⟩
        by_cases same : entry.1 = field
        · obtain ⟨_, other⟩ := entry
          cases same
          cases found.symm.trans (lookup_of_mem distinct member)
          exact .inl holds
        · exact .inr ⟨entry, List.mem_filter.mpr ⟨member, by simpa using same⟩, holds⟩

section Statements

open Node

theorem declaredAs_of_no_node (top : Bool) (value : Value) (noNode : value.node? = none) :
    value.declaredAs .statement top = .ok [] := by
  cases value with
  | node => cases noNode
  | scalar | list | object => rw [Value.declaredAs.eq_def]

theorem declaredAs_statement_eq (node : Node) (top : Bool) : (Value.node node).declaredAs .statement top =
    match node.kind with
    | .importDeclaration => ((node.fields.lookup .specifiers).getD .null).namesIn .specifiers
    | .exportNamedDeclaration | .exportDefaultDeclaration =>
      namesAt (.declaring .statement top) (node.fields.lookup .declaration)
    | .functionDeclaration | .classDeclaration =>
      if top then ((node.fields.lookup .id).getD .null).namesIn .identifier else .ok []
    | .variableDeclaration =>
      if top || declaresVar node.fields then ((node.fields.lookup .declarations).getD .null).namesIn .declarators
      else .ok []
    | kind => declaredInParts false kind.statementParts node.fields := by
  obtain ⟨kind, fields, extra, attached⟩ := node
  simp only [Node.kind, Node.fields, ← importedNames_eq, ← declaratorNames_eq, ← declaredInParts_single]
  rw [Value.declaredAs.eq_def]
  cases kind <;> rfl

/-- What an identifier answers is its name. -/
theorem Node.answers_isNamed (id : Node) (formed : id.all isWellFormed = true) :
    Answers ((Value.node id).namesIn .identifier) id.IsNamed := by
  by_cases isKind : id.kind = .identifier
  · obtain ⟨value, isValue, same, taken⟩ := exists_taken formed .name (by rw [isKind]; decide)
    rw [isKind] at taken
    obtain ⟨text, rfl⟩ := Value.exists_of_isText taken
    have answer : (Value.node id).identifierName = namesAt .name (id.fields.lookup .name) := by
      obtain ⟨_, fields, extra, attached⟩ := id
      cases isKind
      exact identifierName_identifier fields extra attached
    rw [isValue] at answer
    exact ⟨[text], answer, fun name => by simp [IsNamed, isKind, same, eq_comm]⟩
  · exact .nothing (identifierName_of_ne isKind) fun name named => isKind named.1

theorem identifierName_of_no_node (value : Value) (noNode : value.node? = none) :
    value.namesIn .identifier = .ok [] := by
  cases value with
  | node => cases noNode
  | scalar | list | object => rfl

/-- What a list answers in which nodes of some kinds stand. -/
theorem Answers.ofListOf {value : Value} {of : Node → String → Prop} {ask : Value → Except Error (List Value)}
    {check : Kind → Bool} (isListOf : value.isListOf check = true)
    (below : ∀ child ∈ value.nodes, check child.kind = true → Answers (ask (.node child)) (of child)) :
    ∃ items, value = .list items ∧
      Answers (namesOfAll ask items) fun name => ∃ child, Value.node child ∈ items ∧ of child name := by
  obtain ⟨items, rfl, areNodes⟩ := Value.exists_of_isListOf isListOf
  refine ⟨items, rfl, .nodes (fun item member noNode => ?_) fun child member => ?_⟩
  · obtain ⟨_, rfl, _⟩ := areNodes item member
    cases noNode
  · obtain ⟨_, same, checked⟩ := areNodes _ member
    cases same
    exact below child (List.mem_filterMap.mpr ⟨_, member, rfl⟩) checked

/-- What the list in a field answers in which nodes of some kinds stand. -/
theorem Answers.inListOf {node : Node} {field : Field} {of : Node → String → Prop}
    {ask : Value → Except Error (List Value)}
    (check : Kind → Bool) (formed : node.all isWellFormed = true) (own : field ∈ node.kind.fields)
    (takes : ∀ value, node.kind.takes field value = value.isListOf check)
    (below : ∀ child, child.all isWellFormed = true → check child.kind = true →
      Answers (ask (.node child)) (of child)) :
    Answers (((node.fields.lookup field).getD .null).elements >>= namesOfAll ask)
      fun name => ∃ child, node.Lists field child ∧ of child name := by
  obtain ⟨value, isValue, same, taken⟩ := exists_taken formed field own
  rw [takes] at taken
  obtain ⟨items, rfl, answers⟩ := ofListOf taken fun child inside checked =>
    below child (all_of_mem_children formed (List.mem_flatMap.mpr ⟨_, mem_of_lookup isValue, inside⟩)) checked
  rw [isValue]
  exact answers.congr fun name => by simp [Node.Lists, same]

/-- What a variable declaration answers is what it binds. -/
theorem Node.answers_bindsVariable {declaration : Node} (formed : declaration.all isWellFormed = true)
    (isKind : declaration.kind = .variableDeclaration) :
    Answers (((declaration.fields.lookup .declarations).getD .null).namesIn .declarators)
      declaration.BindsVariable := by
  have answers : Answers (((declaration.fields.lookup .declarations).getD .null).namesIn .declarators)
      fun name => ∃ declarator, declaration.Lists .declarations declarator ∧
        ∃ target, declarator.HasAt .id target ∧ target.Binds name := by
    refine .inListOf (· == .variableDeclarator) formed (by rw [isKind]; decide) (fun value => by rw [isKind]; rfl)
      fun declarator childFormed isDeclarator => ?_
    have own : Field.id ∈ declarator.kind.fields := by rw [beq_iff_eq.mp isDeclarator]; decide
    obtain ⟨id, isId, sameId, _⟩ := exists_taken childFormed _ own
    rw [declaratorNames_node, sameId, ← isId]
    exact .inField own childFormed (namesAs_of_no_node .pattern) fun target there =>
      (target.answers_binds (all_of_mem_children childFormed (mem_children_of_hasAt own childFormed there))).1
  exact answers.congr fun name => by simp [BindsVariable, isKind]

/-- Whether a value can stand in a statement as such a part. -/
def Value.suits (part : StatementPart) (value : Value) : Bool :=
  match part with
  | .statement => value.isOptional fun kind => !kind.isModuleDeclaration
  | .statements => value.isListOf fun kind => !kind.isModuleDeclaration
  | .handler => value.isOptional (· == .catchClause)
  | .cases => value.isListOf (· == .switchCase)
  | .switchCase => false

theorem Kind.takes_of_mem_statementParts {kind : Kind} {entry : Field × StatementPart}
    (member : entry ∈ kind.statementParts) :
    entry.1 ∈ kind.fields ∧ ∀ value, kind.takes entry.1 value = value.suits entry.2 := by
  obtain ⟨field, part⟩ := entry
  cases kind <;> simp only [statementParts, List.mem_cons, List.not_mem_nil, or_false, Prod.mk.injEq] at member
  case tryStatement =>
    rcases member with ⟨rfl, rfl⟩ | ⟨rfl, rfl⟩ | ⟨rfl, rfl⟩ <;> exact ⟨by decide, fun _ => rfl⟩
  case ifStatement | forStatement | forInStatement | forOfStatement =>
    rcases member with ⟨rfl, rfl⟩ | ⟨rfl, rfl⟩ <;> exact ⟨by decide, fun _ => rfl⟩
  all_goals
    obtain ⟨rfl, rfl⟩ := member
    exact ⟨by decide, fun _ => rfl⟩

theorem Kind.nodup_statementParts (kind : Kind) : (kind.statementParts.map (·.1)).Nodup := by cases kind <;> decide

/-- What a node answers that stands in a statement: a statement, the handler of a try statement, or a case of a
switch statement. -/
structure Node.AnswersInside (node : Node) : Prop where
  statement : node.kind.isModuleDeclaration = false →
    Answers ((Value.node node).declaredAs .statement false) node.Hoists
  handler : node.kind = .catchClause → Answers ((Value.node node).declaredAs .handler false)
    fun name => ∃ inner, node.HasAt .body inner ∧ inner.Hoists name
  switchCase : node.kind = .switchCase → Answers ((Value.node node).declaredAs .switchCase false)
    fun name => ∃ inner, node.Lists .consequent inner ∧ inner.Hoists name

/-- What stands in a statement answers what the statements in it answer. -/
theorem Value.answers_hoists (part : StatementPart) {value : Value} (fits : value.suits part = true)
    (below : ∀ child ∈ value.nodes, child.AnswersInside) :
    Answers (value.declaredAs part false) fun name => ∃ inner, value.HoldsStatement part inner ∧
      inner.Hoists name := by
  have single {check : Kind → Bool} (isOptional : value.isOptional check = true) :
      value = .null ∨ ∃ child, value = .node child ∧ check child.kind = true ∧ child.AnswersInside := by
    cases value with
    | node child => exact .inr ⟨child, rfl, isOptional, below child (List.mem_singleton_self _)⟩
    | scalar | list | object => exact .inl (eq_null_of_isNull isOptional)
  cases part <;> rw [suits] at fits
  case statement =>
    obtain rfl | ⟨child, rfl, noModule, answers⟩ := single fits
    · exact .nothing rfl (by simp [HoldsStatement])
    · exact (answers.statement (by simpa using noModule)).congr (by simp [HoldsStatement])
  case handler =>
    obtain rfl | ⟨child, rfl, isHandler, answers⟩ := single fits
    · exact .nothing rfl (by simp [HoldsStatement])
    · exact (answers.handler (beq_iff_eq.mp isHandler)).congr (by simp [HoldsStatement])
  case switchCase => cases fits
  case statements =>
    obtain ⟨items, rfl, answers⟩ := Answers.ofListOf fits fun child inside noModule =>
      (below child inside).statement (by simpa using noModule)
    rw [declaredAs, declaredInItems_eq]
    exact answers.congr (by simp [HoldsStatement])
  case cases =>
    obtain ⟨items, rfl, answers⟩ := Answers.ofListOf fits fun child inside isCase =>
      (below child inside).switchCase (beq_iff_eq.mp isCase)
    rw [declaredAs, declaredInItems_eq]
    refine answers.congr fun name => ?_
    constructor
    · rintro ⟨branch, member, inner, lists, hoists⟩
      exact ⟨inner, ⟨items, branch, rfl, member, lists⟩, hoists⟩
    · rintro ⟨inner, ⟨_, branch, same, member, lists⟩, hoists⟩
      cases same
      exact ⟨branch, member, inner, lists, hoists⟩

/-- A statement without statements in it hoists nothing but what it binds itself. -/
theorem Node.bindsVariable_of_hoists {node : Node} (noParts : node.kind.statementParts = []) {name : String}
    (hoists : node.Hoists name) : node.BindsVariable name := by
  rw [hoists_iff] at hoists
  rcases hoists with ⟨_, binds⟩ | ⟨inner, encloses, _⟩
  · exact binds
  · obtain ⟨_, member, _⟩ := encloses_iff.mp encloses
    rw [noParts] at member
    cases member

theorem Node.not_hoists {node : Node} (noParts : node.kind.statementParts = [])
    (noVariable : node.kind ≠ .variableDeclaration)
    (name : String) : ¬ node.Hoists name := fun hoists => noVariable (bindsVariable_of_hoists noParts hoists).1

/-- What a statement with statements in it answers is what they hoist. -/
theorem Node.answers_parts {node : Node} (formed : node.all isWellFormed = true)
    (noVariable : node.kind ≠ .variableDeclaration) (below : ∀ child ∈ node.children, child.AnswersInside) :
    Answers (declaredInParts false node.kind.statementParts node.fields) node.Hoists := by
  refine (Answers.parts (fun entry name => ∃ value, node.get? entry.1 = some value ∧
    ∃ inner, value.HoldsStatement entry.2 inner ∧ inner.Hoists name) node.kind.nodup_statementParts
      ?_).congr fun name => ?_
  · intro entry member
    obtain ⟨own, takes⟩ := Kind.takes_of_mem_statementParts member
    obtain ⟨value, isValue, same, taken⟩ := exists_taken formed entry.1 own
    refine ⟨value, isValue, (Value.answers_hoists _ (takes value ▸ taken) fun child inValue => ?_).congr
      (by simp [same])⟩
    exact below child (List.mem_flatMap.mpr ⟨_, mem_of_lookup isValue, inValue⟩)
  · simp only [hoists_iff node, encloses_iff, BindsVariable, noVariable, false_and, and_false, false_or]
    constructor
    · rintro ⟨entry, member, value, isValue, inner, holds, hoists⟩
      exact ⟨inner, ⟨entry, member, value, isValue, holds⟩, hoists⟩
    · rintro ⟨inner, ⟨entry, member, value, isValue, holds⟩, hoists⟩
      exact ⟨entry, member, value, isValue, inner, holds, hoists⟩

/-- Every node answers what it hoists when it stands in a statement. -/
theorem Node.answersInside (node : Node) (formed : node.all isWellFormed = true) : node.AnswersInside := by
  induction node using Node.induction_children with
  | step node ih =>
    have below (child : Node) (member : child ∈ node.children) : child.AnswersInside :=
      ih child member (all_of_mem_children formed member)
    refine ⟨fun noModule => ?_, fun isHandler => ?_, fun isCase => ?_⟩
    · rw [declaredAs_statement_eq]
      split <;> rename_i isKind
      · simp [isKind, Kind.isModuleDeclaration] at noModule
      · simp [isKind, Kind.isModuleDeclaration] at noModule
      · simp [isKind, Kind.isModuleDeclaration] at noModule
      · exact .nothing rfl (not_hoists (by rw [isKind]; rfl) (by simp [isKind]))
      · exact .nothing rfl (not_hoists (by rw [isKind]; rfl) (by simp [isKind]))
      · obtain ⟨value, isValue, same, _⟩ := exists_taken formed .kind (by rw [isKind]; decide)
        have hoists (name : String) : node.Hoists name ↔ node.get? .kind = some (.text "var") ∧
          node.BindsVariable name := by
          simp [hoists_iff node, encloses_iff, isKind, Kind.statementParts]
        rw [Bool.false_or]
        split <;> rename_i declares <;> rw [declaresVar_iff, isValue, ← same] at declares
        · exact (answers_bindsVariable formed isKind).congr fun name => by simp [hoists, declares]
        · exact .nothing rfl fun name => by simp [hoists, declares]
      · exact answers_parts formed ‹_› below
    · have own : Field.body ∈ node.kind.fields := by rw [isHandler]; decide
      obtain ⟨value, isValue, same, taken⟩ := exists_taken formed _ own
      rw [isHandler] at taken
      rw [declaredAs_handler, same, ← isValue]
      refine .inField own formed (declaredAs_of_no_node false) fun child there => ?_
      cases same.symm.trans there
      exact (below child (mem_children_of_hasAt own formed there)).statement
        (by simpa [Kind.takes, Value.isOptional] using taken)
    · have own : Field.consequent ∈ node.kind.fields := by rw [isCase]; decide
      obtain ⟨value, isValue, same, taken⟩ := exists_taken formed _ own
      rw [isCase] at taken
      rw [declaredAs_switchCase, same]
      refine (Value.answers_hoists .statements taken fun child inValue => ?_).congr fun name => ?_
      · exact below child (List.mem_flatMap.mpr ⟨_, mem_of_lookup isValue, inValue⟩)
      · simp [Value.HoldsStatement, Lists, same]

/-- What a declaration, or an expression in its place, answers at the top. -/
theorem Node.answers_declaration {node : Node} (formed : node.all isWellFormed = true)
    (noModule : node.kind ∉ [.importDeclaration, .exportNamedDeclaration, .exportDefaultDeclaration])
    (noParts : node.kind.statementParts = []) :
    Answers ((Value.node node).declaredAs .statement true) fun name => node.Names name ∨
      node.BindsVariable name := by
  have ofId (isNamed : node.kind = .functionDeclaration ∨ node.kind = .classDeclaration) :
      Answers (((node.fields.lookup .id).getD .null).namesIn .identifier)
        fun name => node.Names name ∨ node.BindsVariable name := by
    have own : Field.id ∈ node.kind.fields := by rcases isNamed with same | same <;> rw [same] <;> decide
    obtain ⟨value, isValue, _⟩ := exists_taken formed _ own
    have answers : Answers (namesAt .identifier (node.fields.lookup .id)) _ :=
      .inField own formed identifierName_of_no_node fun id there =>
        answers_isNamed id (all_of_mem_children formed (mem_children_of_hasAt own formed there))
    rw [isValue] at answers ⊢
    refine answers.congr fun name => ?_
    rcases isNamed with same | same <;> simp [Names, BindsVariable, same]
  rw [declaredAs_statement_eq]
  split <;> rename_i isKind
  · simp [isKind] at noModule
  · simp [isKind] at noModule
  · simp [isKind] at noModule
  · exact ofId (.inl isKind)
  · exact ofId (.inr isKind)
  · exact (answers_bindsVariable formed isKind).congr fun name => by simp [Names, isKind]
  · rw [noParts, declaredInParts_nil]
    exact .nothing rfl fun name => by simp_all [Names, BindsVariable]

/-- A node that stands in a field is of a kind that can stand there. -/
theorem Node.kind_of_hasAt {node child : Node} {field : Field} (check : Kind → Bool)
    (formed : node.all isWellFormed = true) (own : field ∈ node.kind.fields)
    (takes : ∀ value, node.kind.takes field value = value.isOptional check) (there : node.HasAt field child) :
    check child.kind = true := by
  obtain ⟨value, _, same, taken⟩ := exists_taken formed field own
  cases same.symm.trans there
  rwa [takes] at taken

/-- What an import answers is the local names of its specifiers. -/
theorem Node.answers_imported {node : Node} (formed : node.all isWellFormed = true)
    (isKind : node.kind = .importDeclaration) :
    Answers (((node.fields.lookup .specifiers).getD .null).namesIn .specifiers) fun name => ∃ specifier,
      node.Lists .specifiers specifier ∧ ∃ localName, specifier.HasAt .localName localName ∧
        localName.IsNamed name := by
  refine .inListOf Kind.isSpecifier formed (by rw [isKind]; decide) (fun value => by rw [isKind]; rfl)
    fun specifier specifierFormed isSpecifier => ?_
  have own : Field.localName ∈ specifier.kind.fields := by
    revert isSpecifier
    cases specifier.kind <;> decide
  obtain ⟨localName, isName, sameName, _⟩ := exists_taken specifierFormed _ own
  have answers : Answers (namesAt .identifier (specifier.fields.lookup .localName)) _ :=
    .inField own specifierFormed identifierName_of_no_node fun id there =>
      answers_isNamed id (all_of_mem_children specifierFormed (mem_children_of_hasAt own specifierFormed there))
  rw [isName] at answers
  rw [Value.specifierNames, sameName]
  exact answers

theorem Node.declaresAtTop_iff {statement : Node} {name : String} : statement.DeclaresAtTop name ↔
    (statement.kind = .importDeclaration ∧ ∃ specifier, statement.Lists .specifiers specifier ∧
      ∃ localName, specifier.HasAt .localName localName ∧ localName.IsNamed name) ∨
    statement.Names name ∨ statement.BindsVariable name ∨
    ((statement.kind = .exportNamedDeclaration ∨ statement.kind = .exportDefaultDeclaration) ∧
      ∃ declaration, statement.HasAt .declaration declaration ∧ declaration.Names name) ∨
    (statement.kind = .exportNamedDeclaration ∧
      ∃ declaration, statement.HasAt .declaration declaration ∧ declaration.BindsVariable name) ∨
    statement.Hoists name := by
  constructor
  · rintro (⟨isImport, lists, there, named⟩ | ⟨rfl | ⟨exports, there⟩, names⟩ | ⟨rfl | ⟨exports, there⟩,
      binds⟩ | hoists)
    · exact .inl ⟨isImport, _, lists, _, there, named⟩
    · exact .inr (.inl names)
    · exact .inr (.inr (.inr (.inl ⟨exports, _, there, names⟩)))
    · exact .inr (.inr (.inl binds))
    · exact .inr (.inr (.inr (.inr (.inl ⟨exports, _, there, binds⟩))))
    · exact .inr (.inr (.inr (.inr (.inr hoists))))
  · rintro (⟨isImport, _, lists, _, there, named⟩ | names | binds | ⟨exports, _, there, names⟩ | ⟨exports,
      _, there, binds⟩ |
      hoists)
    · exact .imported isImport lists there named
    · exact .named (.inl rfl) names
    · exact .bound (.inl rfl) binds
    · exact .named (.inr ⟨exports, there⟩) names
    · exact .bound (.inr ⟨exports, there⟩) binds
    · exact .hoisted hoists

/-- What an export answers is the names of its declaration. -/
theorem Node.answers_exported {node : Node} (check : Kind → Bool) (formed : node.all isWellFormed = true)
    (own : Field.declaration ∈ node.kind.fields)
    (takes : ∀ value, node.kind.takes .declaration value = value.isOptional check)
    (declares : ∀ kind : Kind, check kind = true → kind.statementParts = [] ∧
      kind ∉ [.importDeclaration, .exportNamedDeclaration, .exportDefaultDeclaration]) :
    Answers (namesAt (.declaring .statement true) (node.fields.lookup .declaration))
      fun name => ∃ declaration, node.HasAt .declaration declaration ∧
        (declaration.Names name ∨ declaration.BindsVariable name) := by
  refine .inField own formed (declaredAs_of_no_node true) fun declaration there => ?_
  obtain ⟨noParts, noModule⟩ := declares _ (kind_of_hasAt check formed own takes there)
  exact answers_declaration (all_of_mem_children formed (mem_children_of_hasAt own formed there)) noModule noParts

/-- A statement that has statements in it answers the same wherever it stands. -/
theorem declaredAs_of_parts {node : Node} (parts : node.kind.statementParts ≠ []) :
    (Value.node node).declaredAs .statement true = (Value.node node).declaredAs .statement false := by
  rw [declaredAs_statement_eq, declaredAs_statement_eq]
  split <;> first | rfl | simp_all [Kind.statementParts]

/-- What an import or export at the top answers is what it declares there. -/
theorem Node.answers_module {statement : Node} (formed : statement.all isWellFormed = true)
    (isModule : statement.kind ∈ [.importDeclaration, .exportNamedDeclaration, .exportDefaultDeclaration]) :
    Answers ((Value.node statement).declaredAs .statement true) statement.DeclaresAtTop := by
  simp only [List.mem_cons, List.not_mem_nil, or_false] at isModule
  have itself (name : String) : (statement.Names name ↔ False) ∧ (statement.BindsVariable name ↔ False) ∧
      (statement.Hoists name ↔ False) := by
    refine ⟨iff_of_false (fun ⟨isNamed, _⟩ => ?_) id, iff_of_false (fun ⟨isVariable, _⟩ => ?_) id,
      iff_of_false (not_hoists ?_ ?_ name) id⟩
    · rcases isModule with same | same | same <;> simp [same] at isNamed
    · rcases isModule with same | same | same <;> simp [same] at isVariable
    all_goals rcases isModule with same | same | same <;> simp [same, Kind.statementParts]
  rw [declaredAs_statement_eq]
  rcases isModule with isKind | isKind | isKind <;> simp only [isKind]
  · exact (answers_imported formed isKind).congr fun name => by simp [declaresAtTop_iff, isKind, itself]
  · have answers := answers_exported Kind.isDeclaration formed (by rw [isKind]; decide)
      (fun value => by rw [isKind]; rfl) (fun kind => by cases kind <;> decide)
    exact answers.congr fun name => by simp [declaresAtTop_iff, isKind, itself, and_or_left, exists_or]
  · have answers := answers_exported (fun kind => !kind.isPlainStatement) formed (by rw [isKind]; decide)
      (fun value => by rw [isKind]; rfl) (fun kind => by cases kind <;> decide)
    have noVariable (name : String) (child : Node) (there : statement.HasAt .declaration child) :
        ¬ child.BindsVariable name := by
      intro binds
      have plain := kind_of_hasAt (fun kind => !kind.isPlainStatement) formed (by rw [isKind]; decide)
        (fun value => by rw [isKind]; rfl) there
      rw [binds.1] at plain
      cases plain
    refine answers.congr fun name => ?_
    rw [exists_congr fun child => and_congr_right fun there => or_iff_left (noVariable name child there)]
    simp [declaresAtTop_iff, isKind, itself]

/-- What any other statement at the top answers is what it declares there. -/
theorem Node.answers_plain {statement : Node} (formed : statement.all isWellFormed = true)
    (isModule : statement.kind ∉ [.importDeclaration, .exportNamedDeclaration, .exportDefaultDeclaration]) :
    Answers ((Value.node statement).declaredAs .statement true) statement.DeclaresAtTop := by
  have direct (name : String) : statement.DeclaresAtTop name ↔
      statement.Names name ∨ statement.BindsVariable name ∨ statement.Hoists name := by
    simp only [List.mem_cons, List.not_mem_nil, or_false, not_or] at isModule
    simp [declaresAtTop_iff, isModule]
  by_cases noParts : statement.kind.statementParts = []
  · refine (answers_declaration formed isModule noParts).congr fun name => ?_
    rw [direct, or_iff_left_of_imp (bindsVariable_of_hoists noParts)]
  · obtain ⟨noModule, noNames, noVariable⟩ : statement.kind.isModuleDeclaration = false ∧
        (statement.kind ≠ .functionDeclaration ∧ statement.kind ≠ .classDeclaration) ∧
        statement.kind ≠ .variableDeclaration := by
      revert noParts
      cases statement.kind <;> decide
    rw [declaredAs_of_parts noParts]
    refine ((answersInside statement formed).statement noModule).congr fun name => ?_
    simp [direct, Names, BindsVariable, noNames, noVariable]

/-- Every statement of a program answers what it declares at the top. -/
theorem Node.answers_declaresAtTop (statement : Node) (formed : statement.all isWellFormed = true) :
    Answers ((Value.node statement).declaredAs .statement true) statement.DeclaresAtTop := by
  by_cases isModule : statement.kind ∈ [.importDeclaration, .exportNamedDeclaration, .exportDefaultDeclaration]
  · exact answers_module formed isModule
  · exact answers_plain formed isModule

end Statements

namespace Node

/-- The top scope of a well-formed program holds exactly the names that the program declares at its top. -/
theorem exists_topScope {program : Node} (formed : program.isWellFormedProgram = true) :
    ∃ scope, program.topScope = .ok scope ∧
      ∀ name : Scalar, scope.contains name = true ↔ ∃ text, name = .text text ∧ program.DeclaresName text := by
  rw [isWellFormedProgram, Bool.and_eq_true] at formed
  obtain ⟨isProgram, formed⟩ := formed
  have isKind : program.kind = .program := beq_iff_eq.mp isProgram
  have own : Field.body ∈ program.kind.fields := by rw [isKind]; decide
  obtain ⟨value, isValue, same, taken⟩ := exists_taken formed _ own
  rw [isKind] at taken
  obtain ⟨items, rfl, _⟩ := Value.exists_of_isListOf (show value.isListOf (fun _ => true) = true from taken)
  have answers : Answers (((program.fields.lookup .body).getD .null).elements >>=
      namesOfAll (·.namesIn (.declaring .statement true))) program.DeclaresName :=
    .inListOf (fun _ => true) formed own (fun value => by rw [isKind]; rfl)
      fun statement statementFormed _ => answers_declaresAtTop statement statementFormed
  obtain ⟨found, isFound, iff⟩ := answers
  rw [isValue] at isFound
  refine ⟨.ofList (found.map .text), ?_, fun name => ?_⟩
  · have asNames : (found.map Value.text).mapM Value.asName = .ok (found.map .text) :=
      mapM_asName_eq_ok.mpr (by simp)
    rw [topScope, same]
    simp only [Value.declaredAs, declaredInItems_eq]
    refine bind_eq_ok_iff.mpr ⟨_, isFound, bind_eq_ok_iff.mpr ⟨_, asNames, rfl⟩⟩
  · rw [NameSet.contains_ofList, List.any_eq_true]
    simp only [List.mem_map, exists_exists_and_eq_and, Scalar.text_same_iff, iff]
    exact exists_congr fun text => and_comm

end Node

end JsxRouting
