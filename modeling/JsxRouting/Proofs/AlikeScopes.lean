import JsxRouting.Proofs.AlikeNames
import JsxRouting.Proofs.KeptNames

namespace JsxRouting

variable {likeness : Likeness}

/-- Whatever the values are asked for, both answer with names that are alike, or neither answers. -/
def Value.AnswersAlike (likeness : Likeness) (value other : Value) : Prop :=
  ∀ role, Agree (List.Forall₂ (Value.Alike likeness false)) (value.namesIn role) (other.namesIn role)

/-- Fields answer alike where scopes ask: neither the raw text nor the closing part of an element is asked. -/
def FieldAnswersAlike (likeness : Likeness) (entry other : Field × Value) : Prop :=
  other.1 = entry.1 ∧ (entry.1.isOrdinary = true → entry.2.AnswersAlike likeness other.2)

section Texts

/-- Texts are no specifiers, so they name nothing. -/
theorem namesOfAll_specifierNames_texts (texts : List String) :
    namesOfAll Value.specifierNames (texts.map .text) = .ok [] := by
  induction texts with
  | nil => rfl
  | cons text rest ih =>
    rw [List.map_cons, namesOfAll_cons, ih]
    rfl

/-- Texts are no declarators, which is an error as soon as there is one. -/
theorem namesOfAll_declaratorNames_texts (texts : List String) :
    namesOfAll Value.declaratorNames (texts.map .text) = if texts.isEmpty then .ok [] else .error .wrongShape := by
  cases texts with
  | nil => rfl
  | cons text rest =>
    rw [List.map_cons, namesOfAll_cons]
    rfl

theorem Value.elements_text (text : String) :
    (Value.text text).elements = .ok ((text.toList.map String.singleton).map .text) := by
  rw [List.map_map]
  rfl

theorem Value.elements_object (members : List (String × Value)) :
    (Value.object members).elements = .ok ((members.map (·.1)).map .text) := by
  rw [List.map_map]
  rfl

end Texts

/-- A scalar names nothing, if it is not itself asked for. -/
theorem Value.namesIn_scalar {value : Scalar} {role : NameRole} {names : List Value} (isName : role ≠ .name)
    (named : (Value.scalar value).namesIn role = .ok names) : names = [] := by
  have empty {names : List Value} (named : (.ok [] : Except Error (List Value)) = .ok names) : names = [] :=
    (Except.ok.inj named).symm
  have elements {asked : Value → Except Error (List Value)}
      (named : (Value.scalar value).elements >>= namesOfAll asked = .ok names) :
      ∃ texts : List String, namesOfAll asked (texts.map .text) = .ok names := by
    cases value with
    | text text => exact ⟨_, by rwa [elements_text] at named⟩
    | null | bool | int | real => cases named
  cases role with
  | name => exact absurd rfl isName
  | declaring part top =>
    rw [namesIn, declaredAs.eq_def] at named
    dsimp only at named
    split at named <;> first | exact empty named | cases named
  | bindings part => cases value <;> first | exact empty named | cases named
  | binding | identifier | specifier => exact empty named
  | declarator => cases named
  | specifiers =>
    obtain ⟨texts, named⟩ := elements named
    exact empty ((namesOfAll_specifierNames_texts texts).symm.trans named)
  | declarators =>
    obtain ⟨texts, named⟩ := elements named
    rw [namesOfAll_declaratorNames_texts] at named
    split at named
    · exact empty named
    · cases named

/-- All scalars but texts and null are asked in vain for the same things. -/
theorem Value.namesIn_plain {value : Scalar} (noText : ∀ text, value ≠ .text text) (noNull : value ≠ .null)
    {role : NameRole}
    (isName : role ≠ .name) : (Value.scalar value).namesIn role = (Value.bool true).namesIn role := by
  cases value with
  | null => exact absurd rfl noNull
  | text text => exact absurd rfl (noText text)
  | bool | int | real =>
    cases role with
    | name => exact absurd rfl isName
    | declaring part top => cases part <;> rfl
    | binding | bindings | identifier | specifier | specifiers | declarator | declarators => rfl

theorem Value.answersAlike_scalar {value other : Scalar} (scalars : likeness.scalars value other) :
    (Value.scalar value).AnswersAlike likeness (.scalar other) := by
  intro role
  by_cases isName : role = .name
  · subst isName
    exact .ok (.cons (.scalar scalars) .nil)
  have sameAnswer : (Value.scalar other).namesIn role = (Value.scalar value).namesIn role := by
    have same := likeness.same_of_scalars scalars
    by_cases isText : ∃ text, value = .text text
    · obtain ⟨text, rfl⟩ := isText
      rw [Scalar.eq_text_of_same same]
    by_cases isNull : value = .null
    · rw [(likeness.null_iff scalars).mpr isNull, isNull]
    · have noText (text : String) : other ≠ .text text := by
        rintro rfl
        rw [Scalar.same_comm] at same
        exact isText ⟨text, Scalar.eq_text_of_same same⟩
      rw [Value.namesIn_plain (fun text isValue => isText ⟨text, isValue⟩) isNull isName,
        Value.namesIn_plain noText (fun isOther => isNull ((likeness.null_iff scalars).mp isOther)) isName]
  rw [sameAnswer]
  refine .refl fun names named => ?_
  rw [Value.namesIn_scalar isName named]
  exact .nil

section Asking

variable {before after : Option Value}

theorem namesAt_alike (relate : Option.Rel (Value.AnswersAlike likeness) before after) (role : NameRole) :
    Agree (List.Forall₂ (Value.Alike likeness false)) (namesAt role before) (namesAt role after) := by
  cases relate with
  | none => exact .error _
  | some alike => exact alike role

theorem getD_answersAlike (relate : Option.Rel (Value.AnswersAlike likeness) before after) :
    (before.getD .null).AnswersAlike likeness (after.getD .null) := by
  cases relate with
  | none => exact Value.answersAlike_scalar (likeness.scalars_refl _)
  | some alike => exact alike

theorem namesOfAll_alike {names : Value → Except Error (List Value)} {items others : List Value}
    (alike : List.Forall₂
      (fun item other => Agree (List.Forall₂ (Value.Alike likeness false)) (names item) (names other))
      items others) :
    Agree (List.Forall₂ (Value.Alike likeness false)) (namesOfAll names items) (namesOfAll names others) := by
  induction alike with
  | nil => exact .ok .nil
  | cons agree _ ih =>
    rw [namesOfAll_cons, namesOfAll_cons]
    exact agree.bind fun _ _ here => ih.bind fun _ _ behind => .ok (List.rel_append here behind)

end Asking

theorem Value.answersAlike_list {items others : List Value}
    (alike : List.Forall₂ (Value.Alike likeness false) items others)
    (answers : List.Forall₂ (Value.AnswersAlike likeness) items others) :
    (Value.list items).AnswersAlike likeness (.list others) := by
  have byItems (role : NameRole) := namesOfAll_alike (answers.imp fun _ _ answer => answer role)
  intro role
  cases role with
  | declaring part top =>
    simp only [Value.namesIn, Value.declaredAs.eq_def]
    cases part with
    | statement => exact .ok .nil
    | statements =>
      simp only [declaredInItems_eq]
      exact byItems (.declaring .statement top)
    | cases =>
      simp only [declaredInItems_eq]
      exact byItems (.declaring .switchCase false)
    | handler | switchCase => exact .error _
  | binding part => exact .ok .nil
  | bindings part =>
    simp only [Value.namesIn, namesListed, namesOfItems_eq]
    exact byItems (.binding part)
  | name => exact .ok (.cons (.list alike) .nil)
  | identifier | specifier => exact .ok .nil
  | specifiers => exact byItems .specifier
  | declarator => exact .error _
  | declarators => exact byItems .declarator

/-- Objects are asked for no more than whether they hold anything. -/
theorem Value.answersAlike_object {members others : List (String × Value)}
    (alike : likeness.objects members others) :
    (Value.object members).AnswersAlike likeness (.object others) := by
  have sameHolds := Value.holds_of_same (likeness.same_of_objects alike)
  have sameEmpty : others.isEmpty = members.isEmpty := by
    rw [Value.holds, Value.holds] at sameHolds
    exact Bool.not_inj sameHolds
  intro role
  cases role with
  | declaring part top =>
    cases part with
    | statement | statements => exact .ok .nil
    | cases =>
      simp only [Value.namesIn, Value.declaredAs.eq_def, sameEmpty]
      cases members.isEmpty with
      | true => exact .ok .nil
      | false => exact .error _
    | handler | switchCase => exact .error _
  | name => exact .ok (.cons (.object alike) .nil)
  | binding | bindings | identifier | specifier => exact .ok .nil
  | specifiers =>
    simp only [Value.namesIn, Value.elements_object]
    have none (texts : List String) :
      (Except.ok (texts.map Value.text) >>= namesOfAll Value.specifierNames) = .ok [] :=
      namesOfAll_specifierNames_texts texts
    rw [none, none]
    exact .ok .nil
  | declarator => exact .error _
  | declarators =>
    simp only [Value.namesIn, Value.elements_object]
    have outcome (texts : List String) : (Except.ok (texts.map Value.text) >>= namesOfAll Value.declaratorNames) =
        if texts.isEmpty then .ok [] else .error .wrongShape := namesOfAll_declaratorNames_texts texts
    rw [outcome, outcome]
    simp only [List.isEmpty_map, sameEmpty]
    cases members.isEmpty with
    | true => exact .ok .nil
    | false => exact .error _

section Nodes

theorem lookup_answersAlike {fields others : List (Field × Value)}
    (answers : List.Forall₂ (FieldAnswersAlike likeness) fields others) {field : Field}
    (ordinary : field.isOrdinary = true) :
    Option.Rel (Value.AnswersAlike likeness) (fields.lookup field) (others.lookup field) := by
  induction answers with
  | nil => exact .none
  | @cons entry other _ _ answer _ ih =>
    obtain ⟨first, value⟩ := entry
    obtain ⟨second, changed⟩ := other
    obtain ⟨sameName, answer⟩ := answer
    obtain rfl : second = first := sameName
    rw [List.lookup_cons, List.lookup_cons]
    cases here : field == second with
    | true =>
      obtain rfl := beq_iff_eq.mp here
      exact .some (answer ordinary)
    | false => exact ih

/-- The statements in the fields of a statement declare names that are alike. -/
theorem declaredInParts_alike {fields others : List (Field × Value)}
    (answers : List.Forall₂ (FieldAnswersAlike likeness) fields others) {parts : List (Field × StatementPart)}
    (ordinary : ∀ entry ∈ parts, entry.1.isOrdinary = true) (top : Bool) :
    Agree (List.Forall₂ (Value.Alike likeness false)) (declaredInParts top parts fields)
      (declaredInParts top parts others) := by
  induction answers generalizing parts with
  | nil =>
    rw [declaredInParts]
    split
    · exact .ok .nil
    · exact .error _
  | @cons entry other _ _ answer _ ih =>
    obtain ⟨first, value⟩ := entry
    obtain ⟨second, changed⟩ := other
    obtain ⟨sameName, answer⟩ := answer
    obtain rfl : second = first := sameName
    rw [declaredInParts, declaredInParts]
    cases found : parts.lookup second with
    | none => exact ih ordinary
    | some part =>
      refine (answer (ordinary (second, part) (mem_of_lookup found)) (.declaring part top)).bind fun _ _ here => ?_
      refine (ih fun entry member => ordinary entry (List.mem_of_mem_filter member)).bind fun _ _ behind => ?_
      exact .ok (List.rel_append here behind)

theorem Kind.isOrdinary_of_mem_statementParts {kind : Kind} {entry : Field × StatementPart}
    (member : entry ∈ kind.statementParts) : entry.1.isOrdinary = true := by
  have all : kind.statementParts.all (·.1.isOrdinary) = true := by cases kind <;> rfl
  exact List.all_eq_true.mp all entry member

theorem declaresVar_iff {fields : List (Field × Value)} :
    declaresVar fields = true ↔ fields.lookup .kind = some (.text "var") := by
  unfold declaresVar
  split
  · rename_i found
    exact iff_of_true rfl found
  · rename_i other
    exact iff_of_false Bool.false_ne_true other

variable {node other : Node} (alike : node.Alike likeness false other)
  (answers : List.Forall₂ (FieldAnswersAlike likeness) node.fields other.fields)

include alike in
theorem declaresVar_alike : declaresVar other.fields = declaresVar node.fields := by
  rw [Bool.eq_iff_iff, declaresVar_iff, declaresVar_iff]
  obtain ⟨absent, otherAbsent⟩ | ⟨value, changed, found, otherFound, values⟩ :=
    rel_cases (lookup_alike alike.fields .kind)
  · rw [absent, otherAbsent]
  · rw [found, otherFound, Option.some.injEq, Option.some.injEq]
    exact Value.eq_text_iff_of_same (values.ordinary rfl).same "var"

include alike answers

theorem declaredAs_statement_alike (top : Bool) : Agree (List.Forall₂ (Value.Alike likeness false))
    ((Value.node node).declaredAs .statement top) ((Value.node other).declaredAs .statement top) := by
  have lookups {field : Field} := @lookup_answersAlike likeness node.fields other.fields answers field
  have sameVar := declaresVar_alike alike
  obtain ⟨kind, fields, extra, attached⟩ := node
  obtain ⟨_, others, otherExtra, otherAttached⟩ := other
  obtain rfl := alike.kind
  dsimp only [Node.fields] at lookups answers sameVar
  rw [Value.declaredAs.eq_def, Value.declaredAs.eq_def]
  dsimp only [Node.kind]
  split
  · rw [importedNames_eq, importedNames_eq]
    exact getD_answersAlike (lookups rfl) _
  · rw [declaredInParts_single, declaredInParts_single]
    exact namesAt_alike (lookups rfl) _
  · rw [declaredInParts_single, declaredInParts_single]
    exact namesAt_alike (lookups rfl) _
  · cases top with
    | true => exact getD_answersAlike (lookups rfl) .identifier
    | false => exact .ok .nil
  · cases top with
    | true => exact getD_answersAlike (lookups rfl) .identifier
    | false => exact .ok .nil
  · rw [sameVar]
    split
    · rw [declaratorNames_eq, declaratorNames_eq]
      exact getD_answersAlike (lookups rfl) _
    · exact .ok .nil
  · exact declaredInParts_alike answers (fun _ member => Kind.isOrdinary_of_mem_statementParts member) false

theorem namesAs_alike (part : PatternPart) : Agree (List.Forall₂ (Value.Alike likeness false))
    ((Value.node node).namesAs part) ((Value.node other).namesAs part) := by
  have lookups {field : Field} := @lookup_answersAlike likeness node.fields other.fields answers field
  obtain ⟨kind, fields, extra, attached⟩ := node
  obtain ⟨_, others, otherExtra, otherAttached⟩ := other
  obtain rfl := alike.kind
  dsimp only [Node.fields] at lookups
  rw [Value.namesAs.eq_def, Value.namesAs.eq_def]
  dsimp only [Node.kind]
  split
  · rw [nameIn_eq, nameIn_eq]
    exact namesAt_alike (lookups rfl) _
  · rw [namesInList_eq, namesInList_eq]
    exact namesAt_alike (lookups rfl) _
  · rw [namesInList_eq, namesInList_eq]
    exact namesAt_alike (lookups rfl) _
  · rw [namesInField_eq, namesInField_eq]
    exact namesAt_alike (lookups rfl) _
  · rw [namesInField_eq, namesInField_eq]
    exact namesAt_alike (lookups rfl) _
  · rw [namesInField_eq, namesInField_eq]
    exact namesAt_alike (lookups rfl) _
  · exact .ok .nil

theorem identifierName_alike : Agree (List.Forall₂ (Value.Alike likeness false))
    (Value.node node).identifierName (Value.node other).identifierName := by
  by_cases isIdentifier : node.kind = .identifier
  · have names := namesAt_alike (lookup_answersAlike answers (show Field.name.isOrdinary = true from rfl)) .name
    cases alike with
    | mk =>
      obtain rfl : _ = Kind.identifier := isIdentifier
      rw [identifierName_identifier, identifierName_identifier]
      exact names
  · rw [identifierName_of_ne isIdentifier, identifierName_of_ne (by rwa [alike.kind])]
    exact .ok .nil

theorem Node.get?_answersAlike {field : Field} (ordinary : field.isOrdinary = true) :
    Option.Rel (Value.AnswersAlike likeness) (node.get? field) (other.get? field) := by
  have lookups := lookup_answersAlike answers ordinary
  cases alike with
  | mk _ _ _ bare =>
    obtain ⟨rfl, rfl⟩ := bare rfl
    dsimp only [fields] at lookups
    obtain ⟨absent, otherAbsent⟩ | ⟨_, _, found, otherFound, answer⟩ := rel_cases lookups
    · simp only [get?, fields, attached, absent, otherAbsent, List.lookup_nil]
      exact .none
    · simp only [get?, fields, found, otherFound]
      exact .some answer

theorem Node.answersAlike : (Value.node node).AnswersAlike likeness (.node other) := by
  have gets {field : Field} := @Node.get?_answersAlike likeness node other alike answers field
  intro role
  cases role with
  | declaring part top =>
    cases part with
    | statement => exact declaredAs_statement_alike alike answers top
    | handler =>
      simp only [Value.namesIn, declaredAs_handler]
      exact namesAt_alike (gets rfl) _
    | switchCase =>
      simp only [Value.namesIn, declaredAs_switchCase]
      exact namesAt_alike (gets rfl) _
    | statements | cases =>
      obtain ⟨kind, fields, extra, attached⟩ := node
      obtain ⟨_, others, otherExtra, otherAttached⟩ := other
      exact .error _
  | binding part => exact namesAs_alike alike answers part
  | name => exact .ok (.cons (.node alike) .nil)
  | identifier => exact identifierName_alike alike answers
  | specifier => exact getD_answersAlike (gets rfl) .identifier
  | declarator =>
    simp only [Value.namesIn, declaratorNames_node]
    exact namesAt_alike (gets rfl) _
  | bindings | specifiers | declarators => exact .error _

end Nodes

mutual

theorem Value.Alike.answersAlike : ∀ {value other : Value}, value.Alike likeness false other →
    value.AnswersAlike likeness other
  | .scalar _, _, .scalar scalars => Value.answersAlike_scalar scalars
  | .list _, _, .list items => Value.answersAlike_list items (answersAlike_of_items items)
  | .object _, _, .object objects => Value.answersAlike_object objects
  | .node (.mk _ _ _ _), _, .node (.mk own alike extras bare) =>
    Node.answersAlike (.mk own alike extras bare) (answersAlike_of_fields alike)

theorem answersAlike_of_items :
    ∀ {items others : List Value}, List.Forall₂ (Value.Alike likeness false) items others →
    List.Forall₂ (Value.AnswersAlike likeness) items others
  | [], _, .nil => .nil
  | _ :: _, _, .cons item rest => .cons (Value.Alike.answersAlike item) (answersAlike_of_items rest)

theorem answersAlike_of_fields : ∀ {fields others : List (Field × Value)},
    List.Forall₂ (FieldAlike likeness) fields others → List.Forall₂ (FieldAnswersAlike likeness) fields others
  | [], _, .nil => .nil
  | (_, _) :: _, _, .cons (.value alike) rest =>
    .cons ⟨rfl, fun ordinary => Value.Alike.answersAlike (FieldAlike.ordinary ordinary (.value alike))⟩
      (answersAlike_of_fields rest)
  | (_, _) :: _, _, .cons (.raw _ _ _) rest => .cons ⟨rfl, nofun⟩ (answersAlike_of_fields rest)

end

/-- The names declared at the top of programs that are alike are alike. -/
theorem Node.Alike.topScope {node other : Node} (alike : node.Alike likeness false other) :
    Agree (NameSet.Alike likeness) node.topScope other.topScope := by
  obtain ⟨absent, otherAbsent⟩ | ⟨body, otherBody, isBody, isOther, bodies⟩ :=
    rel_cases (alike.get? (show Field.body.isOrdinary = true from rfl))
  · simp only [Node.topScope, absent, otherAbsent]
    exact .error _
  · simp only [Node.topScope, isBody, isOther]
    exact (bodies.answersAlike (.declaring .statements true)).bind fun _ _ names => NameSet.Alike.ofValues names

end JsxRouting
