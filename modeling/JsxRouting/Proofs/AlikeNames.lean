import JsxRouting.Proofs.AgreeingRuns
import JsxRouting.Proofs.AlikeTrees

namespace JsxRouting

variable {likeness : Likeness}

/-- Values that are alike are names or not, both of them. -/
theorem Value.Alike.asName {value other : Value} {closing : Bool} (alike : value.Alike likeness closing other) :
    Agree likeness.scalars value.asName other.asName := by
  cases alike with
  | scalar scalars => exact .ok scalars
  | list | object | node => exact .error _

namespace NameSet

/-- Sets of as many names, each of which may be exchanged for the one at its place. -/
def Alike (likeness : Likeness) (names others : NameSet) : Prop :=
  List.Forall₂ likeness.scalars names.toList others.toList

variable {names others : NameSet}

theorem Alike.refl (names : NameSet) : names.Alike likeness names :=
  List.forall₂_same.mpr fun name _ => likeness.scalars_refl name

theorem Alike.isEmpty (alike : names.Alike likeness others) : others.isEmpty = names.isEmpty := by
  unfold NameSet.isEmpty
  unfold Alike at alike
  generalize names.toList = list at alike ⊢
  generalize others.toList = rest at alike ⊢
  cases alike <;> rfl

theorem Alike.contains (alike : names.Alike likeness others) {name other : Scalar}
    (scalars : likeness.scalars name other) :
    others.contains other = names.contains name := by
  have sameName := beq_iff_eq.mp (likeness.same_of_scalars scalars)
  unfold NameSet.contains
  unfold Alike at alike
  generalize names.toList = list at alike ⊢
  generalize others.toList = rest at alike ⊢
  induction alike with
  | nil => rfl
  | cons items _ ih =>
    have sameItem := beq_iff_eq.mp (likeness.same_of_scalars items)
    rw [List.any_cons, List.any_cons, ih, Scalar.same, Scalar.same, sameName, sameItem]

theorem Alike.insert (alike : names.Alike likeness others) {name other : Scalar}
    (scalars : likeness.scalars name other) :
    (names.insert name).Alike likeness (others.insert other) := by
  unfold Alike
  rw [toList_insert, toList_insert, alike.contains scalars]
  split
  · exact alike
  · exact List.rel_append alike (.cons scalars .nil)

theorem Alike.foldl_insert {list rest : List Scalar} (scalars : List.Forall₂ likeness.scalars list rest)
    (alike : names.Alike likeness others) :
    (list.foldl NameSet.insert names).Alike likeness (rest.foldl NameSet.insert others) := by
  induction scalars generalizing names others with
  | nil => exact alike
  | cons scalar _ ih => exact ih (alike.insert scalar)

theorem Alike.ofValues {values changed : List Value}
    (alike : List.Forall₂ (Value.Alike likeness false) values changed) :
    Agree (Alike likeness) (ofValues values) (ofValues changed) :=
  (Agree.mapM alike fun _ _ names => names.asName).bind fun _ _ scalars =>
    .ok (Alike.foldl_insert scalars (.refl empty))

end NameSet

/-- The same use of names that are alike. -/
inductive NameUse.Alike (likeness : Likeness) : NameUse → NameUse → Prop
  | object {name other : Value} : name.Alike likeness false other → Alike likeness (.object name) (.object other)
  | namespaced : Alike likeness .namespaced .namespaced
  | component (name : String) : Alike likeness (.component name) (.component name)
  | explicit {name other : Value} : name.Alike likeness false other →
    Alike likeness (.explicit name) (.explicit other)
  | tag {name other : Value} : name.Alike likeness false other → Alike likeness (.tag name) (.tag other)

mutual

theorem Value.Alike.memberRoot : ∀ {value other : Value}, value.Alike likeness false other →
    value.memberRoot.Alike likeness false other.memberRoot
  | .scalar _, _, .scalar scalars => .scalar scalars
  | .list _, _, .list items => .list items
  | .object _, _, .object objects => .object objects
  | .node (.mk _ fields _ _), _, .node (.mk own alike extras bare) => by
    rw [Value.memberRoot, Value.memberRoot]
    split
    · exact memberRootIn_alike alike
    · exact .node (.mk own alike extras bare)

theorem memberRootIn_alike : ∀ {fields others : List (Field × Value)},
    List.Forall₂ (FieldAlike likeness) fields others →
    (memberRootIn fields).Alike likeness false (memberRootIn others)
  | [], _, .nil => .refl_scalar _
  | (field, value) :: rest, _, .cons (.value alike) tails => by
    rw [memberRootIn, memberRootIn]
    by_cases here : field = .object
    · subst here
      rw [if_pos rfl, if_pos rfl]
      exact Value.Alike.memberRoot alike
    · rw [if_neg here, if_neg here]
      exact memberRootIn_alike tails
  | (_, _) :: rest, _, .cons (.raw _ _ _) tails => by
    rw [memberRootIn, memberRootIn, if_neg nofun, if_neg nofun]
    exact memberRootIn_alike tails

end

theorem useOfPlainName_alike {name other : Value} (alike : name.Alike likeness false other) (explicit : Bool) :
    Agree (NameUse.Alike likeness) (useOfPlainName name explicit) (useOfPlainName other explicit) := by
  unfold useOfPlainName
  rw [componentName?_of_same alike.same]
  cases componentName? name with
  | error error => exact .error error
  | ok component =>
    cases component with
    | some component => exact .ok (.component component)
    | none =>
      cases explicit with
      | true => exact .ok (.explicit alike)
      | false => exact .ok (.tag alike)

theorem Scalar.null_same_iff {other : Scalar} : Scalar.null.same other = true ↔ other = .null := by
  constructor
  · intro same
    have standard := beq_iff_eq.mp same
    cases other with
    | null => rfl
    | real value =>
      unfold Scalar.standard at standard
      dsimp only at standard
      split at standard <;> cases standard
    | bool | int | text => cases standard
  · rintro rfl
    rfl

theorem Likeness.null_iff {scalar other : Scalar} (scalars : likeness.scalars scalar other) :
    other = .null ↔ scalar = .null := by
  have same := likeness.same_of_scalars scalars
  constructor
  · rintro rfl
    exact Scalar.null_same_iff.mp (by rwa [Scalar.same_comm])
  · rintro rfl
    exact Scalar.null_same_iff.mp same

/-- The use of a dotted name, by its first part. -/
theorem classify_member {node : Node} (isMember : node.kind = .jsxMemberExpression) (explicit : Bool) :
    classify (.node node) explicit = match (Value.node node).memberRoot with
      | .node root =>
        if root.is .jsxIdentifier then
          match root.get? .name with
          | some name => .ok (.object name)
          | none => .error .wrongShape
        else .error (.memberRoot (some root.kind))
      | .scalar .null => .error (.memberRoot none)
      | _ => .error .wrongShape := by
  obtain ⟨kind, fields, extra, attached⟩ := node
  obtain rfl : kind = .jsxMemberExpression := isMember
  rfl

/-- No scalar is a name with a use. -/
theorem classify_scalar (value : Scalar) (explicit : Bool) : classify (.scalar value) explicit =
    .error (if value = .null then .elementName none else .wrongShape) := by
  cases value <;> rfl

theorem classifyMember_alike {node other : Node} (isMember : node.kind = .jsxMemberExpression)
    (alike : node.Alike likeness false other) (explicit : Bool) :
    Agree (NameUse.Alike likeness) (classify (.node node) explicit) (classify (.node other) explicit) := by
  rw [classify_member isMember, classify_member (alike.kind.trans isMember)]
  have roots := Value.Alike.memberRoot (.node alike)
  generalize (Value.node node).memberRoot = root at roots ⊢
  generalize (Value.node other).memberRoot = otherRoot at roots ⊢
  cases roots with
  | @scalar _ value other scalars =>
    have null := likeness.null_iff scalars
    cases value with
    | null =>
      rw [null.mpr rfl]
      exact .error _
    | bool | int | real | text =>
      cases other with
      | null => cases null.mp rfl
      | bool | int | real | text => exact .error _
  | list | object => exact .error _
  | @node _ root otherRoot roots =>
    simp only [roots.kind, roots.is]
    split
    · obtain ⟨absent, otherAbsent⟩ | ⟨_, _, isName, isOther, names⟩ :=
        rel_cases (roots.get? (show Field.name.isOrdinary = true from rfl))
      · rw [absent, otherAbsent]
        exact .error _
      · rw [isName, isOther]
        exact .ok (.object names)
    · exact .error _

theorem classifyNode_alike {node other : Node} (alike : node.Alike likeness false other) (explicit : Bool) :
    Agree (NameUse.Alike likeness) (classify (.node node) explicit) (classify (.node other) explicit) := by
  by_cases isMember : node.kind = .jsxMemberExpression
  · exact classifyMember_alike isMember alike explicit
  · have names := alike.get? (show Field.name.isOrdinary = true from rfl)
    simp only [classify, alike.kind]
    split
    · rename_i isMember'
      exact absurd isMember' isMember
    · exact .ok .namespaced
    · obtain ⟨absent, otherAbsent⟩ | ⟨_, _, isName, isOther, names⟩ := rel_cases names
      · rw [absent, otherAbsent]
        exact .error _
      · rw [isName, isOther]
        exact useOfPlainName_alike names explicit
    · exact .error _

theorem classify_alike {name other : Value} (alike : name.Alike likeness false other) (explicit : Bool) :
    Agree (NameUse.Alike likeness) (classify name explicit) (classify other explicit) := by
  cases alike with
  | scalar scalars =>
    rw [classify_scalar, classify_scalar]
    simp only [likeness.null_iff scalars]
    exact .error _
  | list | object => exact .error _
  | node alike => exact classifyNode_alike alike explicit

namespace Node

variable {node other : Node} {closing : Bool}

theorem Alike.exists_get? (alike : node.Alike likeness closing other) {field : Field}
    (own : field ∈ node.kind.fields) :
    ∃ value changed, node.get? field = some value ∧ other.get? field = some changed ∧
      FieldAlike likeness (field, value) (field, changed) := by
  obtain ⟨value, changed, isValue, isChanged, values⟩ := alike.exists_own own
  exact ⟨value, changed, by rw [Node.get?, isValue], by rw [Node.get?, isChanged], values⟩

/-- The names of elements that are alike have the same use. -/
theorem Alike.nameUse (alike : node.Alike likeness closing other) (isElement : node.kind = .jsxElement) :
    Agree (NameUse.Alike likeness) node.nameUse other.nameUse := by
  obtain ⟨opening, otherOpening, isOpening, isOther, openings⟩ :=
    alike.exists_get? (show Field.openingElement ∈ node.kind.fields by rw [isElement]; decide)
  obtain ⟨mark, otherMark, isMark, isOtherMark, marks⟩ :=
    alike.exists_get? (show Field.explicit ∈ node.kind.fields by rw [isElement]; decide)
  have sameMark := (marks.ordinary rfl).holds
  unfold Node.nameUse
  rw [isOpening, isOther, isMark, isOtherMark]
  cases openings.ordinary rfl with
  | scalar | list | object => exact .error _
  | node parts =>
    obtain ⟨absent, otherAbsent⟩ | ⟨_, _, isName, isOther, names⟩ :=
      rel_cases (parts.get? (show Field.name.isOrdinary = true from rfl))
    · simp only [absent, otherAbsent]
      exact .error _
    · simp only [isName, isOther, sameMark]
      exact classify_alike names _

end Node

end JsxRouting
