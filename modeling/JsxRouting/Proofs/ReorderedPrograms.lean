import JsxRouting.Proofs.TopLevelBindings

namespace JsxRouting

/-- Values that are the same but for the order of the items of the lists in them, at any depth. -/
inductive Value.Reordered : Value → Value → Prop
  | same (value : Value) : Reordered value value
  | list {items mixed others : List Value} : List.Forall₂ Reordered items mixed → mixed.Perm others →
      Reordered (.list items) (.list others)
  | node {kind : Kind} {fields others : List (Field × Value)} {extra : Value} {attached : List (String × Value)} :
      fields.map (·.1) = others.map (·.1) → List.Forall₂ Reordered (fields.map (·.2)) (others.map (·.2)) →
      Reordered (.node (.mk kind fields extra attached)) (.node (.mk kind others extra attached))

/-- Trees that are the same but for the order of statements, and of the items of other lists. -/
def Node.Reordered (node other : Node) : Prop := (Value.node node).Reordered (.node other)

/-- What the first value is or holds the second is or holds, related. -/
structure Value.Covers (relate : Node → Node → Prop) (value other : Value) : Prop where
  scalar {data : Scalar} : value = .scalar data → other = .scalar data
  node {child : Node} : value = .node child → ∃ found, other = .node found ∧ relate child found
  list {items : List Value} : value = .list items → ∃ others, other = .list others ∧
    ∀ child, .node child ∈ items → ∃ found, .node found ∈ others ∧ relate child found

/-- Related nodes are of one kind, and what the first holds in its fields the second holds in the same fields,
related. -/
structure Simulates (relate : Node → Node → Prop) : Prop where
  kind {node other : Node} : relate node other → other.kind = node.kind
  fields {node other : Node} {field : Field} {value : Value} : relate node other → node.get? field = some value →
    ∃ found, other.get? field = some found ∧ value.Covers relate found

theorem exists_mem_of_forall₂ {α β : Type} {relate : α → β → Prop} {items : List α} {others : List β}
    (related : List.Forall₂ relate items others) {item : α} (member : item ∈ items) :
    ∃ other ∈ others, relate item other := by
  induction related with
  | nil => cases member
  | cons head _ ih =>
    obtain rfl | inRest := List.mem_cons.mp member
    · exact ⟨_, by simp, head⟩
    · obtain ⟨other, inOthers, related⟩ := ih inRest
      exact ⟨other, by simp [inOthers], related⟩

namespace Value.Reordered

theorem node_left {child : Node} {value : Value} (reordered : (Value.node child).Reordered value) :
    ∃ other, value = .node other ∧ child.Reordered other := by
  cases value with
  | node other => exact ⟨other, rfl, reordered⟩
  | scalar | list | object => cases reordered

theorem node_right {child : Node} {value : Value} (reordered : value.Reordered (.node child)) :
    ∃ other, value = .node other ∧ other.Reordered child := by
  cases value with
  | node other => exact ⟨other, rfl, reordered⟩
  | scalar | list | object => cases reordered

theorem covers {value other : Value} (reordered : value.Reordered other) :
    value.Covers Node.Reordered other ∧ other.Covers (flip Node.Reordered) value := by
  cases reordered with
  | same =>
    exact ⟨⟨id, fun same => ⟨_, same, .same _⟩, fun same =>
      ⟨_, same, fun child member => ⟨child, member, .same _⟩⟩⟩,
      ⟨id, fun same => ⟨_, same, .same _⟩, fun same => ⟨_, same, fun child member => ⟨child, member, .same _⟩⟩⟩⟩
  | node names values =>
    refine ⟨⟨nofun, fun same => ?_, nofun⟩, ⟨nofun, fun same => ?_, nofun⟩⟩ <;> cases same
    · exact ⟨_, rfl, .node names values⟩
    · exact ⟨_, rfl, .node names values⟩
  | @list items mixed others related perm =>
    refine ⟨⟨nofun, nofun, fun same => ⟨others, rfl, fun child member => ?_⟩⟩,
      ⟨nofun, nofun, fun same => ⟨items, rfl, fun child member => ?_⟩⟩⟩ <;> cases same
    · obtain ⟨other, inMixed, reordered⟩ := exists_mem_of_forall₂ related member
      obtain ⟨found, rfl, reordered⟩ := reordered.node_left
      exact ⟨found, perm.mem_iff.mp inMixed, reordered⟩
    · obtain ⟨other, inItems, reordered⟩ := exists_mem_of_forall₂ related.flip (perm.mem_iff.mpr member)
      obtain ⟨found, rfl, reordered⟩ := node_right reordered
      exact ⟨found, inItems, reordered⟩

theorem lookup {fields others : List (Field × Value)} (names : fields.map (·.1) = others.map (·.1))
    (values : List.Forall₂ Reordered (fields.map (·.2)) (others.map (·.2))) (field : Field) :
    Option.Rel Reordered (fields.lookup field) (others.lookup field) := by
  induction fields generalizing others with
  | nil =>
    cases others with
    | nil => exact .none
    | cons => cases names
  | cons first rest ih =>
    cases others with
    | nil => cases names
    | cons other changed =>
      obtain ⟨own, value⟩ := first
      obtain ⟨_, changedValue⟩ := other
      simp only [List.map_cons, List.cons.injEq] at names
      obtain ⟨rfl, names⟩ := names
      obtain ⟨head, tail⟩ := List.forall₂_cons.mp values
      rw [List.lookup_cons, List.lookup_cons]
      split
      · exact .some head
      · exact ih names tail

/-- In each field two reordered nodes hold reordered values. -/
theorem get? {node other : Node} (reordered : node.Reordered other) (field : Field) :
    Option.Rel Reordered (node.get? field) (other.get? field) := by
  have refl (value : Option Value) : Option.Rel Reordered value value := by
    cases value
    · exact .none
    · exact .some (.same _)
  cases reordered with
  | same => exact refl _
  | @node kind fields others extra attached names values =>
    have found := lookup names values field
    simp only [Node.get?, Node.fields, Node.attached]
    cases isValue : fields.lookup field <;> cases isOther : others.lookup field <;> rw [isValue, isOther] at found
    · exact refl _
    · cases found
    · cases found
    · exact found

theorem simulates : Simulates Node.Reordered where
  kind reordered := by cases reordered <;> rfl
  fields {_ other field _} reordered there := by
    have related := get? reordered field
    rw [there] at related
    generalize other.get? field = found at related
    cases related with
    | some reordered => exact ⟨_, rfl, reordered.covers.1⟩

theorem simulates_flip : Simulates (flip Node.Reordered) where
  kind reordered := (simulates.kind reordered).symm
  fields {_ other field _} reordered there := by
    have related := get? reordered field
    rw [there] at related
    generalize other.get? field = found at related
    cases related with
    | some reordered => exact ⟨_, rfl, reordered.covers.2⟩

end Value.Reordered

namespace Simulates

variable {relate : Node → Node → Prop} (simulates : Simulates relate) {node other child : Node}
  {field : Field} {name : String}

include simulates

theorem hasAt (related : relate node other) (there : node.HasAt field child) :
    ∃ found, other.HasAt field found ∧ relate child found := by
  obtain ⟨value, isValue, covers⟩ := simulates.fields related there
  obtain ⟨found, rfl, relatedChild⟩ := covers.node rfl
  exact ⟨found, isValue, relatedChild⟩

theorem lists (related : relate node other) (there : node.Lists field child) :
    ∃ found, other.Lists field found ∧ relate child found := by
  obtain ⟨items, isList, member⟩ := there
  obtain ⟨value, isValue, covers⟩ := simulates.fields related isList
  obtain ⟨others, rfl, all⟩ := covers.list rfl
  obtain ⟨found, inOthers, relatedChild⟩ := all child member
  exact ⟨found, ⟨others, isValue, inOthers⟩, relatedChild⟩

theorem text {text : String} (related : relate node other) (there : node.get? field = some (.text text)) :
    other.get? field = some (.text text) := by
  obtain ⟨value, isValue, covers⟩ := simulates.fields related there
  rw [isValue, covers.scalar rfl]

theorem isNamed (related : relate node other) (named : node.IsNamed name) : other.IsNamed name :=
  ⟨(simulates.kind related).trans named.1, simulates.text related named.2⟩

theorem binds (binds : node.Binds name) (related : relate node other) : other.Binds name := by
  induction binds generalizing other with
  | identifier named => exact .identifier (simulates.isNamed related named)
  | property isObject listed isProperty isValue _ ih =>
    obtain ⟨property, isListed, relatedProperty⟩ := simulates.lists related listed
    obtain ⟨value, isValue, relatedValue⟩ := simulates.hasAt relatedProperty isValue
    exact .property ((simulates.kind related).trans isObject) isListed
      ((simulates.kind relatedProperty).trans isProperty)
      isValue (ih relatedValue)
  | leftOver isObject listed isRest _ ih =>
    obtain ⟨rest, isListed, relatedRest⟩ := simulates.lists related listed
    exact .leftOver ((simulates.kind related).trans isObject) isListed ((simulates.kind relatedRest).trans isRest)
      (ih relatedRest)
  | element isArray listed _ ih =>
    obtain ⟨element, isListed, relatedElement⟩ := simulates.lists related listed
    exact .element ((simulates.kind related).trans isArray) isListed (ih relatedElement)
  | rest isRest there _ ih =>
    obtain ⟨target, isTarget, relatedTarget⟩ := simulates.hasAt related there
    exact .rest ((simulates.kind related).trans isRest) isTarget (ih relatedTarget)
  | usual isWrapper there _ ih =>
    obtain ⟨target, isTarget, relatedTarget⟩ := simulates.hasAt related there
    exact .usual ((simulates.kind related).trans isWrapper) isTarget (ih relatedTarget)

theorem bindsVariable (related : relate node other) (binds : node.BindsVariable name) :
    other.BindsVariable name := by
  obtain ⟨isKind, declarator, listed, target, there, binds⟩ := binds
  obtain ⟨declarator, isListed, relatedDeclarator⟩ := simulates.lists related listed
  obtain ⟨target, isTarget, relatedTarget⟩ := simulates.hasAt relatedDeclarator there
  exact ⟨(simulates.kind related).trans isKind, declarator, isListed, target, isTarget,
    simulates.binds binds relatedTarget⟩

theorem names (related : relate node other) (names : node.Names name) : other.Names name := by
  obtain ⟨isKind, id, there, named⟩ := names
  obtain ⟨id, isId, relatedId⟩ := simulates.hasAt related there
  rw [← simulates.kind related] at isKind
  exact ⟨isKind, id, isId, simulates.isNamed relatedId named⟩

theorem encloses (related : relate node other) (encloses : node.Encloses child) :
    ∃ found, other.Encloses found ∧ relate child found := by
  have sameKind := simulates.kind related
  cases encloses with
  | inField isField there =>
    obtain ⟨found, isThere, relatedChild⟩ := simulates.hasAt related there
    exact ⟨found, .inField (by rwa [sameKind]) isThere, relatedChild⟩
  | inBlock isKind listed =>
    obtain ⟨found, isListed, relatedChild⟩ := simulates.lists related listed
    exact ⟨found, .inBlock (sameKind.trans isKind) isListed, relatedChild⟩
  | inHandler isKind there below =>
    obtain ⟨handler, isHandler, relatedHandler⟩ := simulates.hasAt related there
    obtain ⟨found, isThere, relatedChild⟩ := simulates.hasAt relatedHandler below
    exact ⟨found, .inHandler (sameKind.trans isKind) isHandler isThere, relatedChild⟩
  | inCase isKind listed below =>
    obtain ⟨branch, isListed, relatedBranch⟩ := simulates.lists related listed
    obtain ⟨found, isThere, relatedChild⟩ := simulates.lists relatedBranch below
    exact ⟨found, .inCase (sameKind.trans isKind) isListed isThere, relatedChild⟩

theorem hoists (related : relate node other) (hoists : node.Hoists name) : other.Hoists name := by
  obtain ⟨declaration, reached, isVar, binds⟩ := hoists
  obtain ⟨found, reached, related⟩ : ∃ found, Relation.ReflTransGen Node.Encloses other found ∧
    relate declaration found := by
    clear isVar binds
    induction reached with
    | refl => exact ⟨other, .refl, related⟩
    | tail _ encloses ih =>
      obtain ⟨outer, reached, relatedOuter⟩ := ih
      obtain ⟨found, encloses, relatedChild⟩ := simulates.encloses relatedOuter encloses
      exact ⟨found, reached.tail encloses, relatedChild⟩
  exact ⟨found, reached, simulates.text related isVar, simulates.bindsVariable related binds⟩

theorem declaresAtTop (related : relate node other) (declares : node.DeclaresAtTop name) :
    other.DeclaresAtTop name := by
  have sameKind := simulates.kind related
  cases declares with
  | imported isImport listed there named =>
    obtain ⟨specifier, isListed, relatedSpecifier⟩ := simulates.lists related listed
    obtain ⟨localName, isThere, relatedName⟩ := simulates.hasAt relatedSpecifier there
    exact .imported (sameKind.trans isImport) isListed isThere (simulates.isNamed relatedName named)
  | named stands names =>
    obtain rfl | ⟨exports, there⟩ := stands
    · exact .named (.inl rfl) (simulates.names related names)
    · obtain ⟨declaration, isThere, relatedDeclaration⟩ := simulates.hasAt related there
      exact .named (.inr ⟨by rwa [sameKind], isThere⟩) (simulates.names relatedDeclaration names)
  | bound stands binds =>
    obtain rfl | ⟨exports, there⟩ := stands
    · exact .bound (.inl rfl) (simulates.bindsVariable related binds)
    · obtain ⟨declaration, isThere, relatedDeclaration⟩ := simulates.hasAt related there
      exact .bound (.inr ⟨sameKind.trans exports, isThere⟩) (simulates.bindsVariable relatedDeclaration binds)
  | hoisted hoists => exact .hoisted (simulates.hoists related hoists)

theorem declaresName (related : relate node other) (declares : node.DeclaresName name) :
    other.DeclaresName name := by
  obtain ⟨statement, listed, declares⟩ := declares
  obtain ⟨found, isListed, relatedStatement⟩ := simulates.lists related listed
  exact ⟨found, isListed, simulates.declaresAtTop relatedStatement declares⟩

end Simulates

namespace Node

/-- What a program declares does not depend on the order of statements at any depth. -/
theorem Reordered.declaresName_iff {program other : Node} (reordered : program.Reordered other) (name : String) :
    program.DeclaresName name ↔ other.DeclaresName name :=
  ⟨Value.Reordered.simulates.declaresName reordered, Value.Reordered.simulates_flip.declaresName reordered⟩

/-- The top scope of a well-formed program holds exactly the names that the program declares at its top, and is the
same for well-formed programs that differ only in the order of statements. -/
theorem topScope_iff_declaresName {program : Node} (formed : program.isWellFormedProgram = true) :
    ∃ scope, program.topScope = .ok scope ∧
      (∀ name : Scalar, scope.contains name = true ↔ ∃ text, name = .text text ∧ program.DeclaresName text) ∧
      ∀ other, program.Reordered other → other.isWellFormedProgram = true →
        ∃ otherScope, other.topScope = .ok otherScope ∧ otherScope.contains = scope.contains := by
  obtain ⟨scope, isScope, holds⟩ := exists_topScope formed
  refine ⟨scope, isScope, holds, fun other reordered otherFormed => ?_⟩
  obtain ⟨otherScope, isOther, otherHolds⟩ := exists_topScope otherFormed
  refine ⟨otherScope, isOther, funext fun name => Bool.eq_iff_iff.mpr ?_⟩
  rw [holds, otherHolds]
  exact exists_congr fun text => and_congr_right fun _ => (reordered.declaresName_iff text).symm

/-- `if (x) { for (var {k: [v = w]} of y) {} }` -/
def hoistingStatement : Node :=
  let usual := make .assignmentPattern [(.left, .node (identifier "v")), (.right, .node (identifier "w"))]
  let elements := make .arrayPattern [(.elements, .list [.node usual])]
  let declarator :=
    make .variableDeclarator [(.id, .node (objectPattern [property (identifier "k") elements false]))]
  let loop := make .forOfStatement
    [(.left, .node (make .variableDeclaration [(.declarations, .list [.node declarator])])),
      (.right, .node (identifier "y")), (.body, .node (block []))]
  make .ifStatement [(.test, .node (identifier "x")), (.consequent, .node (block [.node loop]))]

/-- `export default function F(a) { var b }` -/
def exportedFunction : Node :=
  let declarator := make .variableDeclarator [(.id, .node (identifier "b"))]
  make .exportDefaultDeclaration [(.declaration, .node (functionNamed "F" [identifier "a"]
    [make .variableDeclaration [(.declarations, .list [.node declarator])]]))]

/-- The pattern of the loop binds `v` for the program and neither the key nor the default value; of the function the
name alone is declared. The other order of the two statements changes nothing. -/
theorem topScope_iff_declaresName_hoisting :
    let program := programOf [hoistingStatement, exportedFunction]
    let other := programOf [exportedFunction, hoistingStatement]
    program.isWellFormedProgram = true ∧ program.DeclaresName "v" ∧ program.DeclaresName "F" ∧
      (∀ name ∈ ["x", "y", "k", "w", "a", "b"], ¬ program.DeclaresName name) ∧
      ∃ scope, other.topScope = .ok scope ∧ scope.contains (.text "v") = true := by
  intro program other
  have formed : program.isWellFormedProgram = true := by rfl
  have reordered : program.Reordered other :=
    .node rfl (.cons (.list (.cons (.same _) (.cons (.same _) .nil)) (.swap _ _ _)) (.cons (.same _) .nil))
  obtain ⟨scope, isScope, holds, inOrder⟩ := topScope_iff_declaresName formed
  obtain ⟨otherScope, isOther, same⟩ := inOrder other reordered rfl
  cases isScope
  have declares (name : String) : NameSet.contains _ (.text name) = true ↔ program.DeclaresName name :=
    (holds (.text name)).trans (by simp)
  refine ⟨formed, (declares "v").mp rfl, (declares "F").mp rfl, fun name member => ?_, otherScope, isOther, ?_⟩
  · rw [← declares]
    revert name
    decide
  · rw [same]
    rfl

end Node

end JsxRouting
