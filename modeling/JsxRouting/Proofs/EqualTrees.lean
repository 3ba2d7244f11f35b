import JsxRouting.Proofs.ReachedElements
import JsxRouting.Proofs.RoutingEdits
import JsxRouting.Tree.Equality

namespace JsxRouting

theorem Binary64.magnitude_eq_zero {significand : Nat} {exponent : Int} :
    (magnitude significand exponent).1 = 0 ↔ significand = 0 := by
  unfold magnitude
  split
  · have power : Nat.pow 2 exponent.toNat ≠ 0 := Nat.ne_of_gt (Nat.pow_pos (by decide))
    exact Nat.mul_eq_zero.trans (or_iff_left power)
  · exact Iff.rfl

/-- A number is zero exactly if it is the whole number zero. -/
theorem Binary64.isZero_eq (number : Binary64) : number.isZero = (number.toInt? == some 0) := by
  cases number with
  | nan | infinite => rfl
  | finite negative significand exponent =>
    have zero := @magnitude_eq_zero significand exponent
    simp only [isZero, toInt?, fraction?]
    generalize magnitude significand exponent = fraction at zero
    obtain ⟨numerator, denominator⟩ := fraction
    have signed : (if negative then -(numerator : Int) else numerator) = 0 ↔ significand = 0 := by
      rw [← zero]
      cases negative <;> simp
    simp only
    generalize (if negative then -(numerator : Int) else numerator) = whole at signed
    -- The division leaves no rest here, so its result is zero only if what is divided is.
    have quotient (divides : whole % (denominator : Int) = 0) : whole / (denominator : Int) = 0 ↔
      significand = 0 := by
      rw [← signed]
      constructor
      · intro none
        rw [← Int.mul_ediv_add_emod whole denominator, divides, none]
        simp
      · intro none
        simp [none]
    split
    · rename_i divides
      rw [Bool.eq_iff_iff, beq_iff_eq, beq_iff_eq, Option.some.injEq, quotient divides]
    · rename_i noWhole
      have nonzero : significand ≠ 0 := fun isZero => noWhole (by simp [signed.mpr isZero])
      simp [nonzero]

namespace Scalar

theorem holds_standard (value : Scalar) : value.standard.holds = value.holds := by
  cases value with
  | null | int | text => rfl
  | bool value => cases value <;> rfl
  | real value =>
    have zero := value.isZero_eq
    unfold standard
    dsimp only
    cases isWhole : value.toInt? with
    | none => rfl
    | some whole =>
      rw [isWhole] at zero
      simp [holds, zero, bne]

theorem holds_of_same {value other : Scalar} (same : value.same other = true) : other.holds = value.holds := by
  rw [← holds_standard value, beq_iff_eq.mp same, holds_standard]

end Scalar

namespace Value

theorem same_cases {value other : Value} (same : value.same other = true) :
    (∃ a b, value = .scalar a ∧ other = .scalar b ∧ a.same b = true) ∨
      (∃ items others, value = .list items ∧ other = .list others ∧ sameValues items others = true) ∨
      (∃ members others, value = .object members ∧ other = .object others ∧ members.length = others.length) ∨
      ∃ node found, value = .node node ∧ other = .node found ∧ node.same found = true := by
  rw [Value.same.eq_def] at same
  split at same
  · exact .inl ⟨_, _, rfl, rfl, same⟩
  · exact .inr (.inl ⟨_, _, rfl, rfl, same⟩)
  · rw [Bool.and_eq_true, beq_iff_eq] at same
    exact .inr (.inr (.inl ⟨_, _, rfl, rfl, same.1⟩))
  · exact .inr (.inr (.inr ⟨_, _, rfl, rfl, same⟩))
  · cases same

theorem sameValues_cases {items others : List Value} (same : sameValues items others = true) :
    items = [] ∧ others = [] ∨ ∃ item other rest tail, items = item :: rest ∧ others = other :: tail ∧
      item.same other = true ∧ sameValues rest tail = true := by
  rw [sameValues.eq_def] at same
  split at same
  · exact .inl ⟨rfl, rfl⟩
  · rw [Bool.and_eq_true] at same
    exact .inr ⟨_, _, _, _, rfl, rfl, same.1, same.2⟩
  · cases same

theorem holds_of_same {value other : Value} (same : value.same other = true) : other.holds = value.holds := by
  obtain ⟨a, b, rfl, rfl, alike⟩ | ⟨items, others, rfl, rfl, alike⟩ | ⟨members, others, rfl, rfl, sameLength⟩ |
    ⟨node, found, rfl, rfl, _⟩ := same_cases same
  · exact Scalar.holds_of_same alike
  · obtain ⟨rfl, rfl⟩ | ⟨_, _, _, _, rfl, rfl, _⟩ := sameValues_cases alike <;> rfl
  · cases members <;> cases others <;> first | rfl | cases sameLength
  · rfl

/-- A value is the same text as one that is equal to it. -/
theorem eq_text_iff_of_same {value other : Value} (same : value.same other = true) (text : String) :
    other = .text text ↔ value = .text text := by
  obtain ⟨a, b, rfl, rfl, alike⟩ | ⟨_, _, rfl, rfl, _⟩ | ⟨_, _, rfl, rfl, _⟩ | ⟨_, _, rfl, rfl, _⟩ :=
    same_cases same
  · constructor
    · intro isText
      cases isText
      rw [Scalar.same_comm] at alike
      rw [Scalar.eq_text_of_same alike]
    · intro isText
      cases isText
      rw [Scalar.eq_text_of_same alike]
  all_goals exact ⟨nofun, nofun⟩

end Value

theorem textsIn_of_same {items others : List Value} (same : sameValues items others = true) :
    textsIn others = textsIn items := by
  induction items generalizing others with
  | nil =>
    obtain ⟨_, rfl⟩ | ⟨_, _, _, _, empty, _⟩ := Value.sameValues_cases same
    · rfl
    · cases empty
  | cons item rest ih =>
    obtain ⟨empty, _⟩ | ⟨_, other, _, tail, parts, rfl, sameItem, sameRest⟩ := Value.sameValues_cases same
    · cases empty
    · cases parts
      have texts := Value.eq_text_iff_of_same sameItem
      by_cases isText : ∃ text, item = .text text
      · obtain ⟨text, rfl⟩ := isText
        rw [(texts text).mpr rfl, textsIn, textsIn, ih sameRest]
      · have none {item : Value} (noText : ¬ ∃ text, item = .text text) (rest : List Value) :
            textsIn (item :: rest) = none := by
          unfold textsIn
          split
          · rename_i same
            cases same
          · rename_i same
            cases same
            exact absurd ⟨_, rfl⟩ noText
          · rfl
        rw [none isText, none fun ⟨text, isOther⟩ => isText ⟨text, (texts text).mp isOther⟩]

/-- A name that is neither a text nor begins with one must hold nothing. -/
theorem isIdentifierName_of_no_text {name : Value} (noText : ∀ text, name ≠ .text text)
    (noPieces : ∀ text rest, name ≠ .list (.text text :: rest)) :
    name.isIdentifierName = if name.holds then .error .wrongShape else .ok false := by
  unfold Value.isIdentifierName
  split
  · exact absurd rfl (noText _)
  · exact absurd rfl (noPieces _ _)
  · rfl

theorem isIdentifierName_of_same {name other : Value} (same : name.same other = true) :
    other.isIdentifierName = name.isIdentifierName := by
  have texts := Value.eq_text_iff_of_same same
  by_cases isText : ∃ text, name = .text text
  · obtain ⟨text, rfl⟩ := isText
    rw [(texts text).mpr rfl]
  -- A name is read as a text or as a list that begins with one, or it is none; equality tells these three apart.
  by_cases inPieces : ∃ text rest, name = .list (.text text :: rest)
  · obtain ⟨text, rest, rfl⟩ := inPieces
    obtain ⟨_, _, isScalar, _⟩ | ⟨items, others, areItems, rfl, alike⟩ | ⟨_, _, isObject, _⟩ | ⟨_, _, isNode, _⟩ :=
      Value.same_cases same
    · cases isScalar
    · cases areItems
      obtain ⟨empty, _⟩ | ⟨_, piece, _, tail, parts, rfl, sameFirst, sameRest⟩ := Value.sameValues_cases alike
      · cases empty
      · cases parts
        rw [(Value.eq_text_iff_of_same sameFirst text).mpr rfl]
        unfold Value.isIdentifierName
        simp only [textsIn_of_same sameRest]
    · cases isObject
    · cases isNode
  · have otherPieces (text : String) (rest : List Value) : other ≠ .list (.text text :: rest) := by
      rintro rfl
      obtain ⟨_, _, _, isScalar, _⟩ | ⟨items, others, rfl, areOthers, alike⟩ | ⟨_, _, _, isObject, _⟩ |
        ⟨_, _, _, isNode, _⟩ := Value.same_cases same
      · cases isScalar
      · cases areOthers
        obtain ⟨_, empty⟩ | ⟨first, _, rest, _, rfl, parts, sameFirst, _⟩ := Value.sameValues_cases alike
        · cases empty
        · cases parts
          exact inPieces ⟨text, rest, by rw [(Value.eq_text_iff_of_same sameFirst text).mp rfl]⟩
      · cases isObject
      · cases isNode
    rw [isIdentifierName_of_no_text (fun text isOther => isText ⟨text, (texts text).mp isOther⟩) otherPieces,
      isIdentifierName_of_no_text (fun text isName => isText ⟨text, isName⟩)
        (fun text rest isName => inPieces ⟨text, rest, isName⟩),
      Value.holds_of_same same]

theorem componentName?_of_same {name other : Value} (same : name.same other = true) :
    componentName? other = componentName? name := by
  have texts := Value.eq_text_iff_of_same same
  by_cases isText : ∃ text, name = .text text
  · obtain ⟨text, rfl⟩ := isText
    rw [(texts text).mpr rfl]
  · have noText {name : Value} (isText : ¬ ∃ text, name = .text text) : componentName? name =
        name.isIdentifierName >>= fun named => if named then .error .wrongShape else .ok none := by
      unfold componentName?
      cases name.isIdentifierName with
      | error => rfl
      | ok named =>
        cases named with
        | false => rfl
        | true =>
          cases name with
          | scalar value =>
            cases value with
            | text text => exact absurd ⟨text, rfl⟩ isText
            | null | bool | int | real => rfl
          | list | object | node => rfl
    rw [noText isText, noText fun ⟨text, isOther⟩ => isText ⟨text, (texts text).mp isOther⟩,
      isIdentifierName_of_same same]

/-- Fields of one name that hold equal values, but for the raw text of literals. -/
def SameField (entry other : Field × Value) : Prop :=
  other.1 = entry.1 ∧ (entry.1 = .raw ∨ entry.2.same other.2 = true)

theorem forall₂_of_sameFields {fields others : List (Field × Value)} (names : others.map (·.1) = fields.map (·.1))
    (same : sameFields fields others = true) : List.Forall₂ SameField fields others := by
  induction fields generalizing others with
  | nil =>
    obtain rfl := List.map_eq_nil_iff.mp names
    exact .nil
  | cons entry rest ih =>
    cases others with
    | nil => cases names
    | cons other tail =>
      rw [List.map_cons, List.map_cons, List.cons.injEq] at names
      rw [sameFields, Bool.and_eq_true, Bool.or_eq_true, beq_iff_eq] at same
      exact .cons ⟨names.1, same.1⟩ (ih names.2 same.2)

theorem sameFields_of_forall₂ {fields others : List (Field × Value)} (same : List.Forall₂ SameField fields others) :
    sameFields fields others = true := by
  induction same with
  | nil => rw [sameFields]
  | cons alike _ ih =>
    rw [sameFields, ih, Bool.and_true, Bool.or_eq_true, beq_iff_eq]
    exact alike.2

theorem lookup_of_forall₂ {fields others : List (Field × Value)} (same : List.Forall₂ SameField fields others)
    {field : Field} (counts : field ≠ .raw) :
    Option.Rel (fun value other => value.same other = true) (fields.lookup field) (others.lookup field) := by
  induction same with
  | nil => exact .none
  | @cons entry other _ _ alike _ ih =>
    obtain ⟨first, value⟩ := entry
    obtain ⟨second, changed⟩ := other
    obtain ⟨sameName, alike⟩ := alike
    obtain rfl : second = first := sameName
    rw [List.lookup_cons, List.lookup_cons]
    cases here : field == second with
    | true =>
      obtain rfl := beq_iff_eq.mp here
      exact .some (alike.resolve_left counts)
    | false => exact ih

namespace Node

theorem same_iff {node other : Node} :
    node.same other = true ↔ node.kind = other.kind ∧ sameFields node.fields other.fields = true := by
  obtain ⟨kind, fields, extra, attached⟩ := node
  obtain ⟨otherKind, others, otherExtra, otherAttached⟩ := other
  rw [Node.same, Bool.and_eq_true, beq_iff_eq]
  exact Iff.rfl

/-- Nodes of one kind that have the fields of the kind have fields of the same names. -/
theorem names_of_same {node other : Node} (ownFields : node.hasOwnFields = true)
    (otherFields : other.hasOwnFields = true)
    (same : node.same other = true) : other.fields.map (·.1) = node.fields.map (·.1) := by
  rw [beq_iff_eq.mp ownFields, beq_iff_eq.mp otherFields, (same_iff.mp same).1]

theorem get?_eq_lookup {node : Node} (own : node.hasOnlyOwnFields = true) (field : Field) :
    node.get? field = node.fields.lookup field := by
  rw [hasOnlyOwnFields, Bool.and_eq_true] at own
  have bare : node.attached = [] := List.isEmpty_iff.mp own.2
  unfold get?
  rw [bare]
  cases node.fields.lookup field <;> rfl

/-- The fields of equal nodes hold equal values, but for the raw text of literals. -/
theorem get?_of_same {node other : Node} (own : node.hasOnlyOwnFields = true)
    (otherOwn : other.hasOnlyOwnFields = true)
    (same : node.same other = true) {field : Field} (counts : field ≠ .raw) :
    Option.Rel (fun value other => value.same other = true) (node.get? field) (other.get? field) := by
  rw [get?_eq_lookup own, get?_eq_lookup otherOwn]
  refine lookup_of_forall₂ (forall₂_of_sameFields (names_of_same ?_ ?_ same) (same_iff.mp same).2) counts
  · exact (Bool.and_eq_true_iff.mp own).1
  · exact (Bool.and_eq_true_iff.mp otherOwn).1

end Node

/-- The tag that a use of a name is, if it is one. -/
def tagOf : Except Error NameUse → Option Scalar
  | .ok (.tag (.scalar tag)) => some tag
  | _ => none

theorem Node.tag?_eq (element : Node) : element.tag? = tagOf element.nameUse := rfl

theorem tagOf_useOfPlainName {name other : Value} (same : name.same other = true) (explicit : Bool) :
    Option.Rel (fun tag other => Scalar.same tag other = true) (tagOf (useOfPlainName name explicit))
      (tagOf (useOfPlainName other explicit)) := by
  unfold useOfPlainName
  rw [componentName?_of_same same]
  cases componentName? name with
  | error => exact .none
  | ok component =>
    cases component with
    | some => exact .none
    | none =>
      cases explicit with
      | true => exact .none
      | false =>
        obtain ⟨a, b, rfl, rfl, alike⟩ | ⟨_, _, rfl, rfl, _⟩ | ⟨_, _, rfl, rfl, _⟩ | ⟨_, _, rfl, rfl, _⟩ :=
          Value.same_cases same
        · exact .some alike
        all_goals exact .none

theorem tagOf_classifyNode {name other : Node} (own : name.hasOnlyOwnFields = true)
    (otherOwn : other.hasOnlyOwnFields = true) (same : name.same other = true) (explicit : Bool) :
    Option.Rel (fun tag other => Scalar.same tag other = true) (tagOf (classify (.node name) explicit))
      (tagOf (classify (.node other) explicit)) := by
  by_cases isIdentifier : name.kind = .jsxIdentifier
  · have otherIdentifier := (Node.same_iff.mp same).1.symm.trans isIdentifier
    have names := Node.get?_of_same own otherOwn same (show Field.name ≠ .raw by decide)
    simp only [classify, isIdentifier, otherIdentifier]
    generalize name.get? .name = found at names ⊢
    generalize other.get? .name = otherFound at names ⊢
    cases names with
    | none => exact .none
    | some same => exact tagOf_useOfPlainName same explicit
  · have none {name : Node} (noIdentifier : name.kind ≠ .jsxIdentifier) :
      tagOf (classify (.node name) explicit) = none := by
      cases isTag : tagOf (classify (.node name) explicit) with
      | none => rfl
      | some tag =>
        unfold tagOf at isTag
        split at isTag
        · rename_i used
          obtain ⟨_, same, isIdentifier, _⟩ := Node.identifier_of_classify used
          cases same
          exact absurd isIdentifier noIdentifier
        · cases isTag
    rw [none isIdentifier, none (by rwa [← (Node.same_iff.mp same).1])]
    exact .none

theorem rel_cases {α β : Type} {related : α → β → Prop} {first : Option α} {second : Option β}
    (rel : Option.Rel related first second) :
    first = none ∧ second = none ∨ ∃ a b, first = some a ∧ second = some b ∧ related a b := by
  cases rel with
  | none => exact .inl ⟨rfl, rfl⟩
  | some proof => exact .inr ⟨_, _, rfl, rfl, proof⟩

/-- What a field of a tree holds is as it is read, too. -/
theorem Node.asRead_of_get? {node : Node} {field : Field} {value : Value} (asRead : node.isAsRead = true)
    (isValue : node.get? field = some value) : value.all hasOnlyOwnFields = true := by
  rw [get?_eq_lookup (check_of_all asRead)] at isValue
  exact all_of_mem_fields (allInFields_of_all asRead) (mem_of_lookup isValue)

theorem tagOf_classify {name other : Value} (asRead : name.all Node.hasOnlyOwnFields = true)
    (otherAsRead : other.all Node.hasOnlyOwnFields = true) (same : name.same other = true) (explicit : Bool) :
    Option.Rel (fun tag other => Scalar.same tag other = true) (tagOf (classify name explicit))
      (tagOf (classify other explicit)) := by
  obtain ⟨a, b, rfl, rfl, _⟩ | ⟨_, _, rfl, rfl, _⟩ | ⟨_, _, rfl, rfl, _⟩ | ⟨node, found, rfl, rfl, alike⟩ :=
    Value.same_cases same
  · have none (value : Scalar) : tagOf (classify (.scalar value) explicit) = none := by cases value <;> rfl
    rw [none, none]
    exact .none
  · exact .none
  · exact .none
  · exact tagOf_classifyNode (Node.check_of_all asRead) (Node.check_of_all otherAsRead) alike explicit

namespace Node

theorem tag?_of_same {node other : Node} (asRead : node.isAsRead = true) (otherAsRead : other.isAsRead = true)
    (same : node.same other = true) :
    Option.Rel (fun tag other => Scalar.same tag other = true) node.tag? other.tag? := by
  have fields {field : Field} (counts : field ≠ .raw) :=
    get?_of_same (check_of_all asRead) (check_of_all otherAsRead) same counts
  rw [tag?_eq, tag?_eq]
  unfold nameUse
  obtain ⟨isOpening, isOther⟩ | ⟨opening, otherOpening, isOpening, isOther, sameOpening⟩ :=
    rel_cases (fields (show Field.openingElement ≠ .raw by decide))
  · rw [isOpening, isOther]
    exact .none
  rw [isOpening, isOther]
  obtain ⟨_, _, rfl, rfl, _⟩ | ⟨_, _, rfl, rfl, _⟩ | ⟨_, _, rfl, rfl, _⟩ | ⟨part, otherPart, rfl, rfl, samePart⟩ :=
    Value.same_cases sameOpening
  · exact .none
  · exact .none
  · exact .none
  obtain ⟨isFlag, isOtherFlag⟩ | ⟨flag, otherFlag, isFlag, isOtherFlag, sameFlag⟩ :=
    rel_cases (fields (show Field.explicit ≠ .raw by decide))
  · rw [isFlag, isOtherFlag]
    exact .none
  rw [isFlag, isOtherFlag]
  have partAsRead : part.isAsRead = true := asRead_of_get? asRead isOpening
  have otherPartAsRead : otherPart.isAsRead = true := asRead_of_get? otherAsRead isOther
  obtain ⟨isName, isOtherName⟩ | ⟨name, otherName, isName, isOtherName, sameName⟩ :=
    rel_cases (get?_of_same (check_of_all partAsRead) (check_of_all otherPartAsRead) samePart
      (show Field.name ≠ .raw by decide))
  · simp only [isName, isOtherName]
    exact .none
  · simp only [isName, isOtherName, Value.holds_of_same sameFlag]
    exact tagOf_classify (asRead_of_get? partAsRead isName) (asRead_of_get? otherPartAsRead isOtherName) sameName _

end Node

/-- Equal nodes keep the same names out of reach in their fields. -/
theorem Place.hidesName_inField {place other : Place} (sameHides : other.hidesName = place.hidesName) (kind : Kind)
    (fields others : List (Field × Value)) (routed : Bool) (field : Field) :
    (other.inField kind others routed field).map hidesName =
      (place.inField kind fields routed field).map hidesName := by
  unfold inField
  rw [sameHides]
  split
  · rfl
  · split
    · simp only [Option.map_some, hidesName_ofInit]
    · split <;> rfl

theorem Value.same_node (node other : Node) : (Value.node node).same (.node other) = node.same other := by
  rw [Value.same]

namespace Node

/-- Equal nodes stay equal when a field takes equal values. -/
theorem same_set {node other : Node} (names : other.fields.map (·.1) = node.fields.map (·.1))
    (same : node.same other = true) {field : Field} (counts : field ≠ .raw) {value changed : Value}
    (sameValue : value.same changed = true) : (node.set field value).same (other.set field changed) = true := by
  obtain ⟨sameKind, sameFields⟩ := same_iff.mp same
  have alike := forall₂_of_sameFields names sameFields
  obtain ⟨foreign, otherForeign⟩ | ⟨_, _, own, otherOwn, _⟩ := rel_cases (lookup_of_forall₂ alike counts)
  · rw [set_foreign value foreign, set_foreign changed otherForeign]
    exact same_iff.mpr ⟨sameKind, sameFields⟩
  · rw [set_own value own, set_own changed otherOwn]
    refine same_iff.mpr ⟨sameKind, sameFields_of_forall₂ (List.forall₂_map_left_iff.mpr
      (List.forall₂_map_right_iff.mpr (alike.imp fun entry other sameEntry => ?_)))⟩
    rw [sameEntry.1]
    split
    · exact ⟨rfl, .inr sameValue⟩
    · exact sameEntry

theorem same_jsxIdentifier {name other : Value} (same : name.same other = true) :
    (make .jsxIdentifier [(.name, name)]).same (make .jsxIdentifier [(.name, other)]) = true := by
  refine same_iff.mpr ⟨rfl, ?_⟩
  show sameFields [(.name, name)] [(.name, other)] = true
  rw [sameFields, sameFields, same]
  rfl

theorem same_routedName {name other : Value} (same : name.same other = true) :
    (routedName name).same (routedName other) = true := by
  have object : (make .jsxIdentifier [(.name, .text componentsObject)]).same
      (make .jsxIdentifier [(.name, .text componentsObject)]) = true :=
    same_jsxIdentifier (by rw [Value.same]; exact Scalar.same_self _)
  refine same_iff.mpr ⟨rfl, ?_⟩
  show sameFields [(.object, .node (make .jsxIdentifier [(.name, .text componentsObject)])), (.property, name)]
    [(.object, .node (make .jsxIdentifier [(.name, .text componentsObject)])), (.property, other)] = true
  rw [sameFields, sameFields, sameFields, Value.same_node, object, same]
  rfl

theorem isRouted_of_same {node other : Node} (asRead : node.isAsRead = true) (otherAsRead : other.isAsRead = true)
    (same : node.same other = true) : other.isRouted = node.isRouted := by
  unfold isRouted is
  rw [(same_iff.mp same).1]
  obtain ⟨untagged, otherUntagged⟩ | ⟨_, _, tagged, otherTagged, _⟩ :=
    rel_cases (tag?_of_same asRead otherAsRead same)
  · rw [untagged, otherUntagged]
  · rw [tagged, otherTagged]
    rfl

/-- The walked fields of a node are those of its kind, and nothing else is attached to it. -/
theorem hasOnlyOwnFields_walked {node : Node} {placeOf : Field → Option Place} {fields : List (Field × Value)}
    (own : node.hasOnlyOwnFields = true) (ran : transformFields routing placeOf node.fields = .ok fields) :
    (mk node.kind fields node.extra node.attached).hasOnlyOwnFields = true := by
  rw [hasOnlyOwnFields, Bool.and_eq_true] at own ⊢
  rw [transformFields_eq] at ran
  exact ⟨(congrArg (· == node.kind.fields) (visitFields_relate ran).names).trans own.1, own.2⟩

/-- An element that is routed, with its fields walked, just before its names are exchanged. -/
structure WalksTo (element walked : Node) : Prop where
  asRead : element.isAsRead = true
  isRouted : element.isRouted = true
  ran : ∃ place fields, walked = .mk element.kind fields element.extra element.attached ∧
    transformFields routing (Place.inField place element.kind element.fields element.isRouted)
      element.fields = .ok fields

theorem WalksTo.own {element walked : Node} (walk : element.WalksTo walked) : walked.hasOnlyOwnFields = true := by
  obtain ⟨_, _, rfl, ran⟩ := walk.ran
  exact hasOnlyOwnFields_walked (check_of_all walk.asRead) ran

/-- A part of the element has the name and the fields that it had. -/
theorem WalksTo.exists_part {element walked part : Node} {field : Field} (walk : element.WalksTo walked)
    (inElement : field = .openingElement ∨ field = .closingElement)
    (isPart : walked.get? field = some (.node part)) :
    ∃ old, element.get? field = some (.node old) ∧ old.isAsRead = true ∧ part.get? .name = old.get? .name ∧
      part.hasOwnFields = true := by
  obtain ⟨_, _, rfl, ran⟩ := walk.ran
  obtain ⟨old, isOld, sameName, routes⟩ := part_routing walk.isRouted ran inElement isPart
  have oldAsRead : old.isAsRead = true := asRead_of_get? walk.asRead isOld
  have oldFields := check_of_all (isRegular_of_isAsRead oldAsRead)
  refine ⟨old, isOld, oldAsRead, sameName, ?_⟩
  obtain rfl | ranPart := routes
  · exact oldFields
  · exact (hasOwnFields_routing ranPart).trans oldFields

section SameElements

variable {element other walked otherWalked : Node} (walk : element.WalksTo walked)
  (otherWalk : other.WalksTo otherWalked)
  (same : element.same other = true) (walkedSame : walked.same otherWalked = true)

include walk otherWalk same walkedSame

/-- Parts of equal elements have equal names, and stay equal under other names that are equal. -/
theorem same_parts {field : Field} {part otherPart : Node}
    (inElement : field = .openingElement ∨ field = .closingElement) (isPart : walked.get? field = some (.node part))
    (isOther : otherWalked.get? field = some (.node otherPart)) :
    (∀ {name otherName}, part.get? .name = some name → otherPart.get? .name = some otherName →
        name.same otherName = true) ∧
      ∀ {name otherName : Value}, name.same otherName = true →
        (Value.node (part.set .name name)).same (.node (otherPart.set .name otherName)) = true := by
  have counts : field ≠ .raw := by
    rintro rfl
    cases inElement <;> contradiction
  -- The walk does not enter the names of the parts: they are those of the elements before it.
  obtain ⟨old, isOld, oldAsRead, partName, partFields⟩ := walk.exists_part inElement isPart
  obtain ⟨otherOld, isOtherOld, otherOldAsRead, otherName, otherFields⟩ := otherWalk.exists_part inElement isOther
  have parts := get?_of_same walk.own otherWalk.own walkedSame counts
  have olds := get?_of_same (check_of_all walk.asRead) (check_of_all otherWalk.asRead) same counts
  rw [isPart, isOther] at parts
  rw [isOld, isOtherOld] at olds
  cases parts with
  | some sameParts =>
  cases olds with
  | some sameOlds =>
  rw [Value.same_node] at sameParts sameOlds
  constructor
  · intro name found isName isFound
    have names := get?_of_same (check_of_all oldAsRead) (check_of_all otherOldAsRead) sameOlds
      (show Field.name ≠ .raw by decide)
    rw [← partName, ← otherName, isName, isFound] at names
    cases names with
    | some sameName => exact sameName
  · intro name found sameName
    rw [Value.same_node]
    exact same_set (names_of_same partFields otherFields sameParts) sameParts (by decide) sameName

/-- Equal elements are equal after their names were exchanged. -/
theorem same_route {tag otherTag : Scalar} {after otherAfter : Node} (sameTag : tag.same otherTag = true)
    (routed : walked.route (.scalar tag) = .ok after)
    (otherRouted : otherWalked.route (.scalar otherTag) = .ok otherAfter) :
    after.same otherAfter = true := by
  obtain ⟨opening, name, closing, isOpening, isName, isClosing, outcome⟩ := route_cases routed
  obtain ⟨otherOpening, otherName, otherClosing, isOtherOpening, isOtherName, isOtherClosing, otherOutcome⟩ :=
    route_cases otherRouted
  have names := names_of_same (Bool.and_eq_true_iff.mp walk.own).1
    (Bool.and_eq_true_iff.mp otherWalk.own).1 walkedSame
  obtain ⟨sameName, renames⟩ := same_parts walk otherWalk same walkedSame (.inl rfl) isOpening isOtherOpening
  have routedNames {name other : Value} (same : name.same other = true) :
      (Value.node (routedName name)).same (.node (routedName other)) = true := by
    rw [Value.same_node]
    exact same_routedName same
  have opened := same_set names walkedSame (show Field.openingElement ≠ .raw by decide)
    (renames (routedNames (sameName isName isOtherName)))
  have closings := get?_of_same walk.own otherWalk.own walkedSame (show Field.closingElement ≠ .raw by decide)
  rw [isClosing, isOtherClosing] at closings
  cases closings with
  | some sameClosing =>
  obtain ⟨rfl, rfl⟩ | ⟨part, rfl, rfl⟩ := outcome
  · obtain ⟨_, rfl⟩ | ⟨_, rfl, _⟩ := otherOutcome
    · exact opened
    · cases (show true = false from Value.holds_of_same sameClosing)
  · obtain ⟨rfl, _⟩ | ⟨otherPart, rfl, rfl⟩ := otherOutcome
    · cases (show false = true from Value.holds_of_same sameClosing)
    · obtain ⟨_, renames⟩ := same_parts walk otherWalk same walkedSame (.inr rfl) isClosing isOtherClosing
      have sameTags : (Value.node (make .jsxIdentifier [(.name, .scalar tag)])).same
          (.node (make .jsxIdentifier [(.name, .scalar otherTag)])) = true := by
        rw [Value.same_node]
        exact same_jsxIdentifier (by rwa [Value.same])
      exact same_set (by rw [names_set, names_set, names]) opened (by decide) (renames (routedNames sameTags))

end SameElements

end Node

open Node

mutual

/-- Equal trees are equal after routing. -/
theorem Node.same_routing : ∀ (node other : Node) {place otherPlace : Place} {after otherAfter : Node},
    node.isAsRead = true → other.isAsRead = true → otherPlace.hidesName = place.hidesName → node.same other = true →
    node.transform routing place = .ok after → other.transform routing otherPlace = .ok otherAfter →
    after.same otherAfter = true
  | .mk kind fields extra attached, other, place, otherPlace, after, otherAfter, asRead, otherAsRead,
    sameHides, same,
      run, otherRun => by
    obtain ⟨sameKind, alike⟩ := same_iff.mp same
    -- The places may differ in the name that an initial value is known by. They hide the same names, so the walk
    -- enters the same fields of both trees.
    have sameRouted := isRouted_of_same asRead otherAsRead same
    obtain ⟨walkedFields, ran, outcome⟩ := routing_cases run
    obtain ⟨otherFields, otherRan, otherOutcome⟩ := routing_cases otherRun
    have fieldsAlike : sameFields walkedFields otherFields = true :=
      sameFields_routing fields other.fields (allInFields_of_all asRead) (allInFields_of_all otherAsRead)
        (names_of_same (check_of_all (isRegular_of_isAsRead asRead))
          (check_of_all (isRegular_of_isAsRead otherAsRead)) same)
        (fun field => by rw [sameRouted, ← sameKind]; exact Place.hidesName_inField sameHides _ _ _ _ _)
          alike ran otherRan
    have walkedSame : (Node.mk kind walkedFields extra attached).same
        (.mk other.kind otherFields other.extra other.attached) = true := same_iff.mpr ⟨sameKind, fieldsAlike⟩
    obtain ⟨notRouted, rfl⟩ | ⟨tag, isRouted, tagged, routed⟩ := outcome
    · obtain ⟨_, rfl⟩ | ⟨_, isRouted, _⟩ := otherOutcome
      · exact walkedSame
      · cases (sameRouted.trans notRouted).symm.trans isRouted
    · obtain ⟨notRouted, _⟩ | ⟨otherTag, isOtherRouted, otherTagged, otherRouted⟩ := otherOutcome
      · cases (sameRouted.trans isRouted).symm.trans notRouted
      · have sameTag := tag?_of_same asRead otherAsRead same
        rw [tagged, otherTagged] at sameTag
        cases sameTag with
        | some sameTag =>
        exact same_route ⟨asRead, isRouted, place, walkedFields, rfl, ran⟩
          ⟨otherAsRead, isOtherRouted, otherPlace, otherFields, rfl, otherRan⟩ same walkedSame sameTag
            routed otherRouted

theorem sameFields_routing : ∀ (fields others : List (Field × Value)) {placeOf otherPlaceOf : Field → Option Place}
    {walked otherWalked : List (Field × Value)}, allInFields Node.hasOnlyOwnFields fields = true →
    allInFields Node.hasOnlyOwnFields others = true → others.map (·.1) = fields.map (·.1) →
    (∀ field, (otherPlaceOf field).map Place.hidesName = (placeOf field).map Place.hidesName) →
    sameFields fields others = true → transformFields routing placeOf fields = .ok walked →
    transformFields routing otherPlaceOf others = .ok otherWalked → sameFields walked otherWalked = true
  | [], _, _, _, _, _, _, _, names, _, same, ran, otherRan => by
    obtain rfl := List.map_eq_nil_iff.mp names
    cases ran
    cases otherRan
    exact same
  | _ :: _, [], _, _, _, _, _, _, names, _, _, _, _ => by cases names
  | (field, value) :: rest, (otherField, other) :: others, placeOf, otherPlaceOf, _, _, asRead, otherAsRead, names,
      sameHides, same, ran, otherRan => by
    rw [List.map_cons, List.map_cons, List.cons.injEq] at names
    obtain ⟨sameField, names⟩ := names
    obtain rfl : otherField = field := sameField
    rw [allInFields, Bool.and_eq_true] at asRead otherAsRead
    rw [sameFields, Bool.and_eq_true, Bool.or_eq_true] at same
    obtain ⟨walked, tail, rfl, ranRest, ranValue⟩ := transformFields_cons_eq_ok ran
    obtain ⟨otherWalked, otherTail, rfl, otherRanRest, otherRanValue⟩ := transformFields_cons_eq_ok otherRan
    rw [sameFields, Bool.and_eq_true, Bool.or_eq_true]
    refine ⟨same.1.imp_right fun alike => ?_,
      sameFields_routing rest others asRead.2 otherAsRead.2 names sameHides same.2 ranRest otherRanRest⟩
    have places := sameHides otherField
    cases placed : placeOf otherField with
    | none =>
      rw [placed] at ranValue places
      rw [Option.map_eq_none_iff.mp places] at otherRanValue
      rw [ranValue, otherRanValue]
      exact alike
    | some place =>
      rw [placed] at ranValue places
      obtain ⟨otherPlace, otherPlaced, hides⟩ := Option.map_eq_some_iff.mp places
      rw [otherPlaced] at otherRanValue
      exact Value.same_routing value other asRead.1 otherAsRead.1 hides alike ranValue otherRanValue

theorem Value.same_routing : ∀ (value other : Value) {place otherPlace : Place} {after otherAfter : Value},
    value.all Node.hasOnlyOwnFields = true → other.all Node.hasOnlyOwnFields = true →
    otherPlace.hidesName = place.hidesName → value.same other = true → value.transform routing place = .ok after →
    other.transform routing otherPlace = .ok otherAfter → after.same otherAfter = true
  | .node child, other, _, _, _, _, asRead, otherAsRead, sameHides, same, ran, otherRan => by
    obtain ⟨_, _, isScalar, _⟩ | ⟨_, _, isList, _⟩ | ⟨_, _, isObject, _⟩ | ⟨_, otherChild, isNode, rfl, alike⟩ :=
      Value.same_cases same
    · cases isScalar
    · cases isList
    · cases isObject
    · cases isNode
      obtain ⟨after, ranChild, ran⟩ := bind_eq_ok_iff.mp ran
      obtain ⟨otherAfter, otherRanChild, otherRan⟩ := bind_eq_ok_iff.mp otherRan
      cases ran
      cases otherRan
      rw [Value.same_node]
      exact Node.same_routing child otherChild asRead otherAsRead sameHides alike ranChild otherRanChild
  | .list items, other, _, _, _, _, asRead, otherAsRead, _, same, ran, otherRan => by
    obtain ⟨_, _, isScalar, _⟩ | ⟨_, others, isList, rfl, alike⟩ | ⟨_, _, isObject, _⟩ | ⟨_, _, isNode, _⟩ :=
      Value.same_cases same
    · cases isScalar
    · cases isList
      obtain ⟨walked, ranItems, ran⟩ := bind_eq_ok_iff.mp ran
      obtain ⟨otherWalked, otherRanItems, otherRan⟩ := bind_eq_ok_iff.mp otherRan
      cases ran
      cases otherRan
      rw [Value.same]
      exact sameValues_routing items others asRead otherAsRead alike ranItems otherRanItems
    · cases isObject
    · cases isNode
  | .scalar value, other, _, _, _, _, _, _, _, same, ran, otherRan => by
    obtain ⟨_, _, _, rfl, _⟩ | ⟨_, _, isList, _⟩ | ⟨_, _, isObject, _⟩ | ⟨_, _, isNode, _⟩ := Value.same_cases same
    · cases ran
      cases otherRan
      exact same
    · cases isList
    · cases isObject
    · cases isNode
  | .object members, other, _, _, _, _, _, _, _, same, ran, otherRan => by
    obtain ⟨_, _, isScalar, _⟩ | ⟨_, _, isList, _⟩ | ⟨_, _, _, rfl, _⟩ | ⟨_, _, isNode, _⟩ := Value.same_cases same
    · cases isScalar
    · cases isList
    · cases ran
      cases otherRan
      exact same
    · cases isNode

theorem sameValues_routing : ∀ (items others : List Value) {walked otherWalked : List Value},
    allInItems Node.hasOnlyOwnFields items = true → allInItems Node.hasOnlyOwnFields others = true →
    sameValues items others = true → transformItems routing items = .ok walked →
    transformItems routing others = .ok otherWalked → sameValues walked otherWalked = true
  | [], others, _, _, _, _, same, ran, otherRan => by
    obtain ⟨_, rfl⟩ | ⟨_, _, _, _, empty, _⟩ := Value.sameValues_cases same
    · cases ran
      cases otherRan
      exact same
    · cases empty
  | item :: rest, others, _, _, asRead, otherAsRead, same, ran, otherRan => by
    obtain ⟨empty, _⟩ | ⟨_, other, _, tail, parts, rfl, sameItem, sameRest⟩ := Value.sameValues_cases same
    · cases empty
    · cases parts
      rw [allInItems, Bool.and_eq_true] at asRead otherAsRead
      obtain ⟨walked, noNode, rfl, ranRest⟩ | ⟨child, after, walked, rfl, rfl, ranChild, ranRest⟩ :=
        transformItems_cons_cases ran
      · obtain ⟨otherWalked, _, rfl, otherRanRest⟩ | ⟨otherChild, _, _, rfl, _⟩ :=
          transformItems_cons_cases otherRan
        · rw [sameValues, sameItem, sameValues_routing rest tail asRead.2 otherAsRead.2 sameRest
            ranRest otherRanRest]
          rfl
        · obtain ⟨_, _, _, isNode, _⟩ | ⟨_, _, _, isNode, _⟩ | ⟨_, _, _, isNode, _⟩ | ⟨_, _, rfl, _⟩ :=
            Value.same_cases sameItem
          all_goals first | cases isNode | cases noNode
      · obtain ⟨_, noNode, _, _⟩ | ⟨otherChild, otherAfter, otherWalked, rfl, rfl, otherRanChild, otherRanRest⟩ :=
          transformItems_cons_cases otherRan
        · obtain ⟨_, _, isNode, _⟩ | ⟨_, _, isNode, _⟩ | ⟨_, _, isNode, _⟩ | ⟨_, _, _, rfl, _⟩ :=
            Value.same_cases sameItem
          all_goals first | cases isNode | cases noNode
        · rw [Value.same_node] at sameItem
          rw [sameValues, Value.same_node, Node.same_routing child otherChild asRead.1 otherAsRead.1 rfl
            sameItem ranChild
            otherRanChild, sameValues_routing rest tail asRead.2 otherAsRead.2 sameRest ranRest otherRanRest]
          rfl

end

end JsxRouting
