import JsxRouting.Proofs.Positions
import JsxRouting.Scope.TopScope

namespace JsxRouting

/-- Whether every name in a list can be the name of an identifier. -/
def AreNames (values : List Value) : Prop := ∀ value ∈ values, ∃ name, value = .scalar name

theorem AreNames.left {values others : List Value} (names : AreNames (values ++ others)) : AreNames values :=
  fun value member => names value (List.mem_append_left _ member)

theorem AreNames.right {values others : List Value} (names : AreNames (values ++ others)) : AreNames others :=
  fun value member => names value (List.mem_append_right _ member)

/-- What a value is asked for its names as. -/
inductive NameRole
  /-- A part of a statement, asked for what it declares. -/
  | declaring (part : StatementPart) (top : Bool)
  /-- A part of a pattern, and a list of such parts. -/
  | binding (part : PatternPart) | bindings (part : PatternPart)
  | name | identifier
  | specifier | specifiers
  | declarator | declarators

/-- The handler of a try statement, the only node that is asked for its body whatever its kind. -/
def NameRole.isHandler : NameRole → Bool
  | .declaring .handler _ => true
  | _ => false

/-- The names that the values in a list answer with. -/
def namesOfAll (names : Value → Except Error (List Value)) (items : List Value) : Except Error (List Value) :=
  (items.mapM names).map List.flatten

/-- The local name of a specifier of an import. -/
def Value.specifierNames : Value → Except Error (List Value)
  | .node specifier => ((specifier.get? .localName).getD .null).identifierName
  | _ => .ok []

/-- The names bound by a declarator. -/
def Value.declaratorNames : Value → Except Error (List Value)
  | .node declarator =>
    match declarator.get? .id with
    | some pattern => pattern.boundNames
    | none => .error .wrongShape
  | _ => .error .wrongShape

/-- The names that a value answers with. -/
def Value.namesIn (value : Value) : NameRole → Except Error (List Value)
  | .declaring part top => value.declaredAs part top
  | .binding part => value.namesAs part
  | .bindings part => namesListed part value
  | .name => .ok [value]
  | .identifier => value.identifierName
  | .specifier => value.specifierNames
  | .specifiers => value.elements >>= namesOfAll Value.specifierNames
  | .declarator => value.declaratorNames
  | .declarators => value.elements >>= namesOfAll Value.declaratorNames

/-- The names of a value that has to be there. -/
def namesAt (role : NameRole) : Option Value → Except Error (List Value)
  | some value => value.namesIn role
  | none => .error .wrongShape

/-- What a value answers with is what the other answers with. What it is asked for as the handler of a try
statement is left out unless it is said to be kept. -/
def Value.KeepsNames (handled : Prop) (value after : Value) : Prop :=
  ∀ role : NameRole, role.isHandler = false ∨ handled → ∀ names, AreNames names → value.namesIn role = .ok names →
    after.namesIn role = .ok names

/-- Nodes of which one answers with what the other answers with, as a handler too if it is open. -/
abbrev Node.KeepsNames (opens : Node → Prop) (_ : Place) (node after : Node) : Prop :=
  (Value.node node).KeepsNames (opens node) (.node after)

section Equations

theorem namesOfAll_cons (names : Value → Except Error (List Value)) (item : Value) (rest : List Value) :
    namesOfAll names (item :: rest) = do
      let here ← names item
      let others ← namesOfAll names rest
      return here ++ others := by
  simp only [namesOfAll, List.mapM_cons]
  cases names item with
  | error error => rfl
  | ok here => cases rest.mapM names <;> rfl

theorem declaredInItems_eq (part : StatementPart) (top : Bool) (items : List Value) :
    declaredInItems part top items = namesOfAll (·.namesIn (.declaring part top)) items := by
  induction items with
  | nil => rfl
  | cons item rest ih =>
    rw [declaredInItems, namesOfAll_cons, ih]
    rfl

theorem namesOfItems_eq (part : PatternPart) (items : List Value) :
    namesOfItems part items = namesOfAll (·.namesIn (.binding part)) items := by
  induction items with
  | nil => rfl
  | cons item rest ih =>
    rw [namesOfItems, namesOfAll_cons, ih]
    rfl

theorem namesInField_eq (wanted : Field) (fields : List (Field × Value)) :
    namesInField wanted fields = namesAt (.binding .pattern) (fields.lookup wanted) := by
  induction fields with
  | nil => rfl
  | cons entry rest ih =>
    obtain ⟨field, value⟩ := entry
    rw [namesInField, List.lookup_cons]
    by_cases here : field = wanted
    · subst here
      rw [if_pos rfl, beq_self_eq_true]
      rfl
    · rw [if_neg here, beq_eq_false_iff_ne.mpr (Ne.symm here), ih]

theorem namesInList_eq (part : PatternPart) (wanted : Field) (fields : List (Field × Value)) :
    namesInList part wanted fields = namesAt (.bindings part) (fields.lookup wanted) := by
  induction fields with
  | nil => rfl
  | cons entry rest ih =>
    obtain ⟨field, value⟩ := entry
    rw [namesInList, List.lookup_cons]
    by_cases here : field = wanted
    · subst here
      rw [if_pos rfl, beq_self_eq_true]
      rfl
    · rw [if_neg here, beq_eq_false_iff_ne.mpr (Ne.symm here), ih]

theorem nameIn_eq (fields : List (Field × Value)) :
    (do return [← nameIn fields]) = namesAt .name (fields.lookup .name) := by
  unfold nameIn
  cases fields.lookup .name <;> rfl

theorem bind_flatten (names : Value → Except Error (List Value)) (items : List Value) :
    (do return (← items.mapM names).flatten) = namesOfAll names items := by
  unfold namesOfAll
  cases items.mapM names <;> rfl

theorem importedNames_eq (fields : List (Field × Value)) :
    importedNames fields = ((fields.lookup .specifiers).getD .null).namesIn .specifiers := by
  simp only [importedNames, Value.namesIn]
  cases ((fields.lookup .specifiers).getD .null).elements with
  | error error => rfl
  | ok specifiers => exact bind_flatten Value.specifierNames specifiers

theorem declaratorNames_eq (fields : List (Field × Value)) :
    declaratorNames fields = ((fields.lookup .declarations).getD .null).namesIn .declarators := by
  simp only [declaratorNames, Value.namesIn]
  cases ((fields.lookup .declarations).getD .null).elements with
  | error error => rfl
  | ok declarators => exact bind_flatten Value.declaratorNames declarators

theorem declaredInParts_nil (top : Bool) (fields : List (Field × Value)) :
    declaredInParts top [] fields = .ok [] := by
  induction fields with
  | nil => rfl
  | cons entry rest ih => exact ih

theorem declaredInParts_single (top : Bool) (wanted : Field) (part : StatementPart)
    (fields : List (Field × Value)) :
    declaredInParts top [(wanted, part)] fields = namesAt (.declaring part top) (fields.lookup wanted) := by
  induction fields with
  | nil => rfl
  | cons entry rest ih =>
    obtain ⟨field, value⟩ := entry
    by_cases here : field = wanted
    · subst here
      simp only [declaredInParts, List.lookup_cons, beq_self_eq_true, List.filter_cons, bne_self_eq_false,
        List.filter_nil, declaredInParts_nil, Bool.false_eq_true, if_false]
      simp only [namesAt, Value.namesIn]
      cases value.declaredAs part top <;> simp [bind, Except.bind, pure, Except.pure]
    · have differs : (field == wanted) = false := beq_eq_false_iff_ne.mpr here
      have differsBack : (wanted == field) = false := beq_eq_false_iff_ne.mpr (Ne.symm here)
      simp only [declaredInParts, List.lookup_cons, differs, differsBack, List.lookup_nil]
      exact ih

theorem declaredInAttached_eq (part : StatementPart) (wanted : Field) (attached : List (String × Value)) :
    declaredInAttached part wanted attached = namesAt (.declaring part false) (attached.lookup wanted.toName) := by
  induction attached with
  | nil => rfl
  | cons entry rest ih =>
    obtain ⟨name, value⟩ := entry
    rw [declaredInAttached, List.lookup_cons]
    by_cases here : name = wanted.toName
    · subst here
      rw [if_pos rfl, beq_self_eq_true]
      rfl
    · rw [if_neg here, beq_eq_false_iff_ne.mpr (Ne.symm here), ih]

theorem declaredInOwn_eq (node : Node) (wanted : Field) (part : StatementPart) :
    (if (node.fields.lookup wanted).isSome then declaredInParts false [(wanted, part)] node.fields
      else declaredInAttached part wanted node.attached) = namesAt (.declaring part false) (node.get? wanted) := by
  rw [declaredInParts_single, declaredInAttached_eq, Node.get?]
  cases node.fields.lookup wanted <;> rfl

/-- The handler of a try statement declares what its body declares. -/
theorem declaredAs_handler (node : Node) (top : Bool) :
    (Value.node node).declaredAs .handler top = namesAt (.declaring .statement false) (node.get? .body) := by
  obtain ⟨kind, fields, extra, attached⟩ := node
  rw [Value.declaredAs.eq_def]
  exact declaredInOwn_eq (.mk kind fields extra attached) .body .statement

/-- A case of a switch statement declares what its statements declare. -/
theorem declaredAs_switchCase (node : Node) (top : Bool) :
    (Value.node node).declaredAs .switchCase top = namesAt (.declaring .statements false)
      (node.get? .consequent) := by
  obtain ⟨kind, fields, extra, attached⟩ := node
  rw [Value.declaredAs.eq_def]
  exact declaredInOwn_eq (.mk kind fields extra attached) .consequent .statements

theorem declaratorNames_node (node : Node) :
    (Value.node node).declaratorNames = namesAt (.binding .pattern) (node.get? .id) := by
  rw [Value.declaratorNames]
  cases node.get? .id <;> rfl

end Equations

section Keeps

theorem Value.KeepsNames.refl (handled : Prop) (value : Value) : value.KeepsNames handled value :=
  fun _ _ _ _ named => named

theorem Value.KeepsNames.trans {handled : Prop} {value middle after : Value}
    (first : value.KeepsNames handled middle)
    (second : middle.KeepsNames handled after) : value.KeepsNames handled after :=
  fun role isKept names areNames named => second role isKept names areNames (first role isKept names areNames named)

theorem Value.KeepsNames.mono {handled other : Prop} {value after : Value} (keeps : value.KeepsNames handled after)
    (weaker : other → handled) : value.KeepsNames other after :=
  fun role isKept => keeps role (isKept.imp_right weaker)

/-- Lists answer alike if their items do, one by one. -/
theorem namesOfAll_keeps {names : Value → Except Error (List Value)} {items others : List Value}
    (relate : List.Forall₂ (fun item other => ∀ found, AreNames found → names item = .ok found →
      names other = .ok found)
      items others) {found : List Value} (areNames : AreNames found) (named : namesOfAll names items = .ok found) :
    namesOfAll names others = .ok found := by
  induction relate generalizing found with
  | nil => exact named
  | @cons item other rest tail keeps _ ih =>
    rw [namesOfAll_cons] at named ⊢
    obtain ⟨here, isHere, named⟩ := bind_eq_ok_iff.mp named
    obtain ⟨behind, areBehind, named⟩ := bind_eq_ok_iff.mp named
    cases named
    rw [keeps here areNames.left isHere, ih areNames.right areBehind]
    rfl

/-- A value answers as before after the nodes in it were changed so that they do. -/
theorem Value.keepsNames_of_relate {opens : Node → Prop} {place : Place} {value after : Value}
    (relate : ValueRelate (Node.KeepsNames opens) place value after) :
    value.KeepsNames (∀ child, value = .node child → opens child) after := by
  cases relate with
  | node keeps => exact keeps.mono fun opened => opened _ rfl
  | scalar | object => exact .refl _ _
  | @list items others relate =>
    have byItems (role : NameRole) (noHandler : role.isHandler = false) :
        List.Forall₂ (fun item other : Value => ∀ found, AreNames found → item.namesIn role = .ok found →
          other.namesIn role = .ok found) items others := by
      refine relate.imp fun item other step => ?_
      cases step with
      | node keeps => exact keeps role (.inl noHandler)
      | data => exact fun _ _ named => named
    intro role _ names areNames named
    cases role with
    | declaring part top =>
      simp only [Value.namesIn, Value.declaredAs.eq_def] at named ⊢
      cases part with
      | statement => exact named
      | statements =>
        simp only [declaredInItems_eq] at named ⊢
        exact namesOfAll_keeps (byItems (.declaring .statement top) rfl) areNames named
      | cases =>
        simp only [declaredInItems_eq] at named ⊢
        exact namesOfAll_keeps (byItems (.declaring .switchCase false) rfl) areNames named
      | handler | switchCase => cases named
    | binding part =>
      cases named
      rfl
    | bindings part =>
      simp only [Value.namesIn, namesListed, namesOfItems_eq] at named ⊢
      exact namesOfAll_keeps (byItems (.binding part) rfl) areNames named
    | name =>
      cases named
      obtain ⟨name, isName⟩ := areNames _ (List.mem_singleton_self _)
      cases isName
    | identifier | specifier =>
      cases named
      rfl
    | specifiers => exact namesOfAll_keeps (byItems .specifier rfl) areNames named
    | declarator => cases named
    | declarators => exact namesOfAll_keeps (byItems .declarator rfl) areNames named

theorem namesAt_keeps {handled : Prop} {before after : Option Value}
    (role : NameRole) (relate : Option.Rel (Value.KeepsNames handled) before after)
    (isKept : role.isHandler = false ∨ handled) {names : List Value} (areNames : AreNames names)
    (named : namesAt role before = .ok names) : namesAt role after = .ok names := by
  cases relate with
  | none => exact named
  | some keeps => exact keeps role isKept names areNames named

theorem namesIn_getD_keeps {handled : Prop} {before after : Option Value}
    (role : NameRole) (relate : Option.Rel (Value.KeepsNames handled) before after)
    (isKept : role.isHandler = false ∨ handled) {names : List Value} (areNames : AreNames names)
    (named : (before.getD .null).namesIn role = .ok names) : (after.getD .null).namesIn role = .ok names := by
  cases relate with
  | none => exact named
  | some keeps => exact keeps role isKept names areNames named

end Keeps

section Fields

variable {opens : Node → Prop} {placeOf : Field → Option Place}

theorem FieldRelate.keepsNames {placed : Option Place} {value other : Value}
    (relate : FieldRelate (Node.KeepsNames opens) placed value other) :
    value.KeepsNames (∀ child, value = .node child → opens child) other := by
  cases placed with
  | none =>
    cases relate
    exact .refl _ _
  | some place => exact Value.keepsNames_of_relate relate

/-- What stands in a field answers as before. -/
theorem FieldsRelate.lookup_keepsNames {fields others : List (Field × Value)}
    (relate : FieldsRelate (Node.KeepsNames opens) placeOf fields others) (field : Field) :
    Option.Rel (Value.KeepsNames (∀ child, fields.lookup field = some (.node child) → opens child))
      (fields.lookup field) (others.lookup field) := by
  cases there : fields.lookup field with
  | none =>
    rw [relate.lookup_none there]
    exact .none
  | some value =>
    obtain ⟨other, isOther, values⟩ := relate.lookup there
    rw [isOther]
    exact .some (values.keepsNames.mono fun opened child same => opened child (by rw [same]))

theorem FieldsRelate.get?_keepsNames {node : Node} {others : List (Field × Value)}
    (relate : FieldsRelate (Node.KeepsNames opens) placeOf node.fields others) (field : Field) :
    Option.Rel (Value.KeepsNames False) (node.get? field)
      ((Node.mk node.kind others node.extra node.attached).get? field) := by
  obtain same | ⟨value, other, isValue, isOther, values⟩ := relate.get?_cases field
  · rw [same]
    cases node.get? field with
    | none => exact .none
    | some value => exact .some (.refl _ _)
  · rw [isValue, isOther]
    exact .some (values.keepsNames.mono nofun)

/-- The statements in the fields of a statement declare as before, field by field. -/
theorem declaredInParts_keeps {fields others : List (Field × Value)}
    (relate : FieldsRelate (Node.KeepsNames opens) placeOf fields others) {parts : List (Field × StatementPart)}
    (handlers : ∀ entry ∈ parts, entry.2 = .handler →
      ∀ child, fields.lookup entry.1 = some (.node child) → opens child)
    {top : Bool} {names : List Value} (areNames : AreNames names)
    (named : declaredInParts top parts fields = .ok names) :
    declaredInParts top parts others = .ok names := by
  induction relate generalizing parts names with
  | nil => exact named
  | @cons before after rest changed head tail ih =>
    obtain ⟨field, value⟩ := before
    obtain ⟨other, new⟩ := after
    obtain ⟨same, values⟩ := head
    simp only at same values
    subst same
    have inRest {entry : Field × StatementPart} (ne : entry.1 ≠ other) :
        ((other, value) :: rest).lookup entry.1 = rest.lookup entry.1 := by
      rw [List.lookup_cons, beq_eq_false_iff_ne.mpr ne]
    rw [declaredInParts] at named ⊢
    cases found : parts.lookup other with
    | none =>
      simp only [found] at named ⊢
      refine ih (fun entry member isHandler child there => handlers entry member isHandler child ?_) areNames named
      rwa [inRest fun same => by simpa [same] using List.lookup_eq_none_iff.mp found entry member]
    | some part =>
      simp only [found] at named ⊢
      obtain ⟨here, isHere, named⟩ := bind_eq_ok_iff.mp named
      obtain ⟨behind, areBehind, named⟩ := bind_eq_ok_iff.mp named
      cases named
      have isPart : (other, part) ∈ parts := by
        obtain ⟨front, back, split, _⟩ := List.lookup_eq_some_iff.mp found
        simp [split]
      have kept : new.declaredAs part top = .ok here := by
        refine values.keepsNames (.declaring part top) ?_ here areNames.left isHere
        cases part with
        | handler => exact .inr fun child isChild => handlers (other, .handler) isPart rfl child (by simp [isChild])
        | statement | statements | cases | switchCase => exact .inl rfl
      have keptBehind : declaredInParts top (parts.filter (·.1 != other)) changed = .ok behind := by
        refine ih (fun entry member isHandler child there => ?_) areNames.right areBehind
        obtain ⟨member, ne⟩ := List.mem_filter.mp member
        exact handlers entry member isHandler child (by rwa [inRest (by simpa using ne)])
      rw [kept, keptBehind]
      rfl

/-- The handler of a try statement is the only part of a statement that is a handler. -/
theorem Kind.eq_handler_of_mem_statementParts {kind : Kind} {entry : Field × StatementPart}
    (member : entry ∈ kind.statementParts) (isHandler : entry.2 = .handler) : entry.1 = .handler := by
  obtain ⟨field, part⟩ := entry
  subst isHandler
  cases kind <;> simp_all [statementParts]

theorem declaresVar_eq {related : Place → Node → Node → Prop} {fields others : List (Field × Value)}
    (relate : FieldsRelate related placeOf fields others) : declaresVar others = declaresVar fields := by
  unfold declaresVar
  cases there : fields.lookup .kind with
  | none => rw [relate.lookup_none there]
  | some value =>
    obtain ⟨other, isOther, values⟩ := relate.lookup there
    rw [isOther]
    generalize placeOf .kind = placed at values
    cases placed with
    | none =>
      cases values
      rfl
    | some place => cases values <;> rfl

/-- A statement declares as before after the nodes in its fields were changed so that they do. -/
theorem declaredAs_statement_keeps {node : Node} {others : List (Field × Value)}
    (relate : FieldsRelate (Node.KeepsNames opens) placeOf node.fields others)
    (handlers : ∀ child, node.fields.lookup .handler = some (.node child) → opens child)
    {top : Bool} {names : List Value} (areNames : AreNames names)
    (named : (Value.node node).declaredAs .statement top = .ok names) :
    (Value.node (.mk node.kind others node.extra node.attached)).declaredAs .statement top = .ok names := by
  have lookups := relate.lookup_keepsNames
  obtain ⟨kind, fields, extra, attached⟩ := node
  dsimp only [Node.kind, Node.fields, Node.extra, Node.attached] at relate handlers lookups ⊢
  rw [Value.declaredAs.eq_def] at named ⊢
  dsimp only at named ⊢
  split at named
  · rw [importedNames_eq] at named ⊢
    exact namesIn_getD_keeps _ (lookups .specifiers) (.inl rfl) areNames named
  · rw [declaredInParts_single] at named ⊢
    exact namesAt_keeps _ (lookups .declaration) (.inl rfl) areNames named
  · rw [declaredInParts_single] at named ⊢
    exact namesAt_keeps _ (lookups .declaration) (.inl rfl) areNames named
  · cases top with
    | true => exact namesIn_getD_keeps .identifier (lookups .id) (.inl rfl) areNames named
    | false => exact named
  · cases top with
    | true => exact namesIn_getD_keeps .identifier (lookups .id) (.inl rfl) areNames named
    | false => exact named
  · rw [declaresVar_eq relate]
    split at named
    · rename_i declares
      rw [if_pos declares]
      rw [declaratorNames_eq] at named ⊢
      exact namesIn_getD_keeps _ (lookups .declarations) (.inl rfl) areNames named
    · rename_i declares
      rw [if_neg declares]
      exact named
  · exact declaredInParts_keeps relate (fun entry member isHandler child there =>
      handlers child (by rwa [Kind.eq_handler_of_mem_statementParts member isHandler] at there)) areNames named

/-- A pattern binds as before after the nodes in its fields were changed so that they do. -/
theorem namesAs_keeps {node : Node} {others : List (Field × Value)}
    (relate : FieldsRelate (Node.KeepsNames opens) placeOf node.fields others) {part : PatternPart}
    {names : List Value} (areNames : AreNames names)
    (named : (Value.node node).namesAs part = .ok names) :
    (Value.node (.mk node.kind others node.extra node.attached)).namesAs part = .ok names := by
  have lookups := relate.lookup_keepsNames
  obtain ⟨kind, fields, extra, attached⟩ := node
  dsimp only [Node.kind, Node.fields, Node.extra, Node.attached] at lookups ⊢
  rw [Value.namesAs.eq_def] at named ⊢
  dsimp only at named ⊢
  split at named
  · rw [nameIn_eq] at named ⊢
    exact namesAt_keeps _ (lookups .name) (.inl rfl) areNames named
  · rw [namesInList_eq] at named ⊢
    exact namesAt_keeps _ (lookups .properties) (.inl rfl) areNames named
  · rw [namesInList_eq] at named ⊢
    exact namesAt_keeps _ (lookups .elements) (.inl rfl) areNames named
  · rw [namesInField_eq] at named ⊢
    exact namesAt_keeps _ (lookups .left) (.inl rfl) areNames named
  · rw [namesInField_eq] at named ⊢
    exact namesAt_keeps _ (lookups .value) (.inl rfl) areNames named
  · rw [namesInField_eq] at named ⊢
    exact namesAt_keeps _ (lookups .argument) (.inl rfl) areNames named
  · exact named

theorem identifierName_identifier (fields : List (Field × Value)) (extra : Value)
    (attached : List (String × Value)) :
    (Value.node (.mk .identifier fields extra attached)).identifierName = namesAt .name (fields.lookup .name) := by
  rw [← nameIn_eq]
  rfl

theorem identifierName_of_ne {node : Node} (noIdentifier : node.kind ≠ .identifier) :
    (Value.node node).identifierName = .ok [] := by
  rw [Value.identifierName.eq_def]
  split
  · rename_i same
    cases same
    exact absurd rfl noIdentifier
  · rfl

/-- A node answers as before after the nodes in its fields were changed so that they do, if what it may ask for as
a handler is kept as well. -/
theorem Node.keepsNames_of_fields {node : Node} {others : List (Field × Value)}
    (relate : FieldsRelate (Node.KeepsNames opens) placeOf node.fields others)
    (handlers : ∀ child, node.fields.lookup .handler = some (.node child) → opens child) :
    (Value.node node).KeepsNames True (.node (.mk node.kind others node.extra node.attached)) := by
  have gets := relate.get?_keepsNames
  intro role _ names areNames named
  cases role with
  | declaring part top =>
    cases part with
    | statement => exact declaredAs_statement_keeps relate handlers areNames named
    | handler =>
      simp only [Value.namesIn, declaredAs_handler] at named ⊢
      exact namesAt_keeps _ (gets .body) (.inl rfl) areNames named
    | switchCase =>
      simp only [Value.namesIn, declaredAs_switchCase] at named ⊢
      exact namesAt_keeps _ (gets .consequent) (.inl rfl) areNames named
    | statements | cases =>
      obtain ⟨kind, fields, extra, attached⟩ := node
      rw [Value.namesIn, Value.declaredAs.eq_def] at named
      cases named
  | binding part => exact namesAs_keeps relate areNames named
  | name =>
    cases named
    obtain ⟨name, isName⟩ := areNames _ (List.mem_singleton_self _)
    cases isName
  | identifier =>
    obtain ⟨kind, fields, extra, attached⟩ := node
    rw [Value.namesIn] at named ⊢
    by_cases identifier : kind = .identifier
    · subst identifier
      rw [identifierName_identifier] at named
      exact (identifierName_identifier others extra attached).trans
        (namesAt_keeps .name (relate.lookup_keepsNames .name) (.inl rfl) areNames named)
    · have none (fields : List (Field × Value)) :
        (Value.node (.mk kind fields extra attached)).identifierName = .ok [] :=
        identifierName_of_ne identifier
      rw [none] at named
      exact (none others).trans named
  | specifier => exact namesIn_getD_keeps .identifier (gets .localName) (.inl rfl) areNames named
  | declarator =>
    simp only [Value.namesIn, declaratorNames_node] at named ⊢
    exact namesAt_keeps _ (gets .id) (.inl rfl) areNames named
  | bindings | specifiers | declarators => cases named

end Fields

theorem Kind.cases_of_isFunction {kind : Kind} (isFunction : kind.isFunction = true) :
    kind = .functionDeclaration ∨ kind = .functionExpression ∨ kind = .arrowFunctionExpression := by
  cases kind <;> first | exact .inl rfl | exact .inr (.inl rfl) | exact .inr (.inr rfl) | cases isFunction

/-- A function or an element answers as before if its names were left alone, and as a handler if its body declares
what it declared. -/
theorem Node.keepsNames_of_agree {node after : Node} {handled : Prop}
    (closed : node.isFunction = true ∨ node.kind = .jsxElement) (sameKind : after.kind = node.kind)
    (sameId : after.fields.lookup .id = node.fields.lookup .id)
    (gets : ∀ field ∈ [Field.id, .localName, .consequent], after.get? field = node.get? field)
    (body : handled → ∀ names, namesAt (.declaring .statement false) (node.get? .body) = .ok names →
      namesAt (.declaring .statement false) (after.get? .body) = .ok names) :
    (Value.node node).KeepsNames handled (.node after) := by
  obtain ⟨kind, fields, extra, attached⟩ := node
  obtain ⟨_, others, otherExtra, otherAttached⟩ := after
  cases sameKind
  have kinds : kind = .functionDeclaration ∨ kind = .functionExpression ∨ kind = .arrowFunctionExpression ∨
      kind = .jsxElement := by
    obtain isFunction | isElement := closed
    · obtain same | same | same :=
        Kind.cases_of_isFunction (show kind.isFunction = true from isFunction) <;> simp [same]
    · exact .inr (.inr (.inr isElement))
  simp only [Node.fields] at sameId
  intro role isKept names areNames named
  cases role with
  | declaring part top =>
    cases part with
    | statement =>
      rw [Value.namesIn, Value.declaredAs.eq_def] at named ⊢
      obtain rfl | rfl | rfl | rfl := kinds
      · simpa only [sameId] using named
      all_goals simpa only [Kind.statementParts, declaredInParts_nil] using named
    | handler =>
      simp only [Value.namesIn, declaredAs_handler] at named ⊢
      exact body (isKept.resolve_left fun other => by cases other) names named
    | switchCase =>
      simp only [Value.namesIn, declaredAs_switchCase] at named ⊢
      exact (congrArg (namesAt _) (gets .consequent (by simp))).trans named
    | statements | cases =>
      rw [Value.namesIn, Value.declaredAs.eq_def] at named
      cases named
  | binding part =>
    rw [Value.namesIn, Value.namesAs.eq_def] at named ⊢
    obtain rfl | rfl | rfl | rfl := kinds <;> cases part <;> exact named
  | name =>
    cases named
    obtain ⟨name, isName⟩ := areNames _ (List.mem_singleton_self _)
    cases isName
  | identifier =>
    obtain rfl | rfl | rfl | rfl := kinds <;> exact named
  | specifier =>
    rw [Value.namesIn, Value.specifierNames] at named ⊢
    rw [gets .localName (by simp)]
    exact named
  | declarator =>
    simp only [Value.namesIn, declaratorNames_node] at named ⊢
    exact (congrArg (namesAt _) (gets .id (by simp))).trans named
  | bindings | specifiers | declarators => cases named

end JsxRouting
