import JsxRouting.Proofs.EqualTrees

namespace JsxRouting

/-- The scalar that a value is. -/
def Value.scalar? : Value → Option Scalar
  | .scalar value => some value
  | _ => none

/-- The mark of an element among the fields of a node. -/
def markIn (fields : List (Field × Value)) : Option Scalar := (fields.lookup .explicit).bind Value.scalar?

/-- What may be exchanged for what in trees that are alike. Only equal scalars and objects may be, and whatever the
pass makes anew may stay as it is. -/
structure Likeness where
  scalars : Scalar → Scalar → Prop
  objects : List (String × Value) → List (String × Value) → Prop
  /-- What nodes of a kind with this mark do not know. -/
  extras : Kind → Option Scalar → Value → Value → Prop
  /-- Whether raw texts may be anything but nodes. -/
  ignoresRaw : Bool
  scalars_refl (scalar : Scalar) : scalars scalar scalar
  same_of_scalars {scalar other : Scalar} : scalars scalar other → scalar.same other = true
  eq_of_scalars {scalar other : Scalar} : ignoresRaw = false → scalars scalar other → scalar = other
  objects_nil : objects [] []
  same_of_objects {members others : List (String × Value)} :
    objects members others → (Value.object members).same (.object others) = true
  extras_nil {kind : Kind} (mark : Option Scalar) : kind ≠ .jsxElement → extras kind mark (.object []) (.object [])

mutual

/-- Whether nodes are alike. The closing part of an element may have anything attached, because a name is given to
it even if it has no place for one; all other nodes have nothing attached. -/
inductive Node.Alike (likeness : Likeness) : Bool → Node → Node → Prop
  | mk {closing : Bool} {kind : Kind} {fields others : List (Field × Value)} {extra otherExtra : Value}
      {attached otherAttached : List (String × Value)} :
      fields.map (·.1) = kind.fields → List.Forall₂ (FieldAlike likeness) fields others →
      likeness.extras kind (markIn fields) extra otherExtra →
      (closing = false → attached = [] ∧ otherAttached = []) →
      Node.Alike likeness closing (.mk kind fields extra attached) (.mk kind others otherExtra otherAttached)

inductive FieldAlike (likeness : Likeness) : Field × Value → Field × Value → Prop
  | value {field : Field} {value other : Value} :
      Value.Alike likeness (field == .closingElement) value other →
        FieldAlike likeness (field, value) (field, other)
  | raw {value other : Value} : likeness.ignoresRaw = true → value.nodes = [] → other.nodes = [] →
      FieldAlike likeness (.raw, value) (.raw, other)

/-- Whether values are alike. Nodes among them are the closing part of an element if it is said so. -/
inductive Value.Alike (likeness : Likeness) : Bool → Value → Value → Prop
  | scalar {closing : Bool} {value other : Scalar} :
      likeness.scalars value other → Value.Alike likeness closing (.scalar value) (.scalar other)
  | list {closing : Bool} {items others : List Value} :
      List.Forall₂ (Value.Alike likeness false) items others →
      Value.Alike likeness closing (.list items) (.list others)
  | object {closing : Bool} {members others : List (String × Value)} :
      likeness.objects members others → Value.Alike likeness closing (.object members) (.object others)
  | node {closing : Bool} {child other : Node} :
      Node.Alike likeness closing child other → Value.Alike likeness closing (.node child) (.node other)

end

/-- Fields whose values are alike in every likeness: the raw text may not be, and the closing part of an element may
have something attached. -/
def Field.isOrdinary (field : Field) : Bool := field != .raw && field != .closingElement

variable {likeness : Likeness}

theorem Value.Alike.refl_scalar {closing : Bool} (value : Scalar) :
    (Value.scalar value).Alike likeness closing (.scalar value) :=
  .scalar (likeness.scalars_refl value)

theorem FieldAlike.name {entry other : Field × Value} (alike : FieldAlike likeness entry other) :
    other.1 = entry.1 := by
  cases alike <;> rfl

theorem FieldAlike.ordinary {field : Field} {value other : Value} (ordinary : field.isOrdinary = true)
    (alike : FieldAlike likeness (field, value) (field, other)) : value.Alike likeness false other := by
  rw [Field.isOrdinary, Bool.and_eq_true, bne_iff_ne, bne_iff_ne] at ordinary
  cases alike with
  | value alike => rwa [beq_eq_false_iff_ne.mpr ordinary.2] at alike
  | raw => exact absurd rfl ordinary.1

theorem FieldAlike.of_ordinary {field : Field} {value other : Value} (ordinary : field.isOrdinary = true)
    (alike : value.Alike likeness false other) : FieldAlike likeness (field, value) (field, other) := by
  rw [Field.isOrdinary, Bool.and_eq_true, bne_iff_ne, bne_iff_ne] at ordinary
  exact .value (by rwa [beq_eq_false_iff_ne.mpr ordinary.2])

theorem lookup_alike {fields others : List (Field × Value)}
    (alike : List.Forall₂ (FieldAlike likeness) fields others)
    (field : Field) : Option.Rel (fun value other => FieldAlike likeness (field, value) (field, other))
      (fields.lookup field) (others.lookup field) := by
  induction alike with
  | nil => exact .none
  | @cons entry other _ _ alike _ ih =>
    obtain ⟨first, value⟩ := entry
    obtain ⟨second, changed⟩ := other
    obtain rfl : second = first := alike.name
    rw [List.lookup_cons, List.lookup_cons]
    cases here : field == second with
    | true =>
      obtain rfl := beq_iff_eq.mp here
      exact .some alike
    | false => exact ih

mutual

theorem Node.Alike.same : ∀ {node other : Node} {closing : Bool}, node.Alike likeness closing other →
    node.same other = true
  | .mk _ fields _ _, _, _, .mk _ alike _ _ => by
    rw [Node.same, sameFields_of_alike alike, Bool.and_true, beq_self_eq_true]

theorem sameFields_of_alike : ∀ {fields others : List (Field × Value)},
    List.Forall₂ (FieldAlike likeness) fields others → sameFields fields others = true
  | [], _, .nil => by rw [sameFields]
  | (field, value) :: rest, _, .cons (.value alike) tails => by
    rw [sameFields, Value.Alike.same alike, sameFields_of_alike tails, Bool.or_true, Bool.and_true]
  | (_, value) :: rest, _, .cons (.raw _ _ _) tails => by
    rw [sameFields, sameFields_of_alike tails, Bool.and_true, beq_self_eq_true, Bool.true_or]

/-- What is alike is equal. -/
theorem Value.Alike.same : ∀ {value other : Value} {closing : Bool}, value.Alike likeness closing other →
    value.same other = true
  | .scalar _, _, _, .scalar scalars => by
    rw [Value.same]
    exact likeness.same_of_scalars scalars
  | .list _, _, _, .list alike => by
    rw [Value.same]
    exact sameValues_of_alike alike
  | .object _, _, _, .object objects => likeness.same_of_objects objects
  | .node child, _, _, .node alike => by
    rw [Value.same]
    exact Node.Alike.same alike

theorem sameValues_of_alike :
    ∀ {items others : List Value}, List.Forall₂ (Value.Alike likeness false) items others →
    sameValues items others = true
  | [], _, .nil => by rw [sameValues]
  | item :: rest, _, .cons alike tails => by
    rw [sameValues, Value.Alike.same alike, sameValues_of_alike tails, Bool.and_true]

end

theorem Value.Alike.holds {value other : Value} {closing : Bool} (alike : value.Alike likeness closing other) :
    other.holds = value.holds := Value.holds_of_same alike.same

namespace Node

variable {node other : Node} {closing : Bool}

theorem Alike.kind (alike : node.Alike likeness closing other) : other.kind = node.kind := by
  cases alike
  rfl

theorem Alike.is (alike : node.Alike likeness closing other) (kind : Kind) : other.is kind = node.is kind :=
  congrArg (· == kind) alike.kind

theorem Alike.fields (alike : node.Alike likeness closing other) :
    List.Forall₂ (FieldAlike likeness) node.fields other.fields := by
  cases alike with
  | mk _ fields _ _ => exact fields

theorem Alike.hasOwnFields (alike : node.Alike likeness closing other) : node.hasOwnFields = true := by
  cases alike with
  | mk own _ _ _ => exact beq_iff_eq.mpr own

/-- The values of a field of the kind are alike. -/
theorem Alike.exists_own (alike : node.Alike likeness closing other) {field : Field}
    (own : field ∈ node.kind.fields) :
    ∃ value changed, node.fields.lookup field = some value ∧ other.fields.lookup field = some changed ∧
      FieldAlike likeness (field, value) (field, changed) := by
  obtain ⟨value, isValue⟩ := exists_lookup alike.hasOwnFields field own
  obtain ⟨absent, _⟩ | ⟨_, changed, isFound, isChanged, values⟩ := rel_cases (lookup_alike alike.fields field)
  · cases absent.symm.trans isValue
  · cases isFound.symm.trans isValue
    exact ⟨value, changed, isFound, isChanged, values⟩

/-- What nodes are asked for under the name of a field is alike. -/
theorem Alike.get?_rel (alike : node.Alike likeness false other) (field : Field) :
    Option.Rel (fun value changed => FieldAlike likeness (field, value) (field, changed)) (node.get? field)
      (other.get? field) := by
  have lookups := lookup_alike alike.fields field
  cases alike with
  | mk _ _ _ bare =>
    obtain ⟨rfl, rfl⟩ := bare rfl
    obtain ⟨absent, otherAbsent⟩ | ⟨_, _, found, otherFound, values⟩ := rel_cases lookups
    · simp only [get?, absent, otherAbsent, Node.attached, List.lookup_nil]
      exact .none
    · simp only [get?, found, otherFound]
      exact .some values

theorem Alike.get? (alike : node.Alike likeness false other) {field : Field} (ordinary : field.isOrdinary = true) :
    Option.Rel (Value.Alike likeness false) (node.get? field) (other.get? field) := by
  obtain ⟨absent, otherAbsent⟩ | ⟨_, _, found, otherFound, values⟩ := rel_cases (alike.get?_rel field)
  · rw [absent, otherAbsent]
    exact .none
  · rw [found, otherFound]
    exact .some (values.ordinary ordinary)

/-- A node of a kind has the fields of the kind, and nothing else can be asked of it. -/
theorem Alike.mem_fields (alike : node.Alike likeness false other) {field : Field} {value : Value}
    (isValue : node.get? field = some value) : field ∈ node.kind.fields := by
  cases there : node.fields.lookup field with
  | some found =>
    rw [← beq_iff_eq.mp alike.hasOwnFields]
    exact List.mem_map_of_mem (mem_of_lookup there)
  | none =>
    simp only [Node.get?, there] at isValue
    cases alike with
    | mk _ _ _ bare =>
      obtain ⟨rfl, -⟩ := bare rfl
      cases isValue

/-- Nodes are alike after a field took values that are alike. A field that the kind does not have can only be given
to the closing part of an element. -/
theorem Alike.set (alike : node.Alike likeness closing other) {field : Field} (noMark : field ≠ .explicit)
    (own : closing = true ∨ field ∈ node.kind.fields) {value changed : Value}
    (values : FieldAlike likeness (field, value) (field, changed)) :
    (node.set field value).Alike likeness closing (other.set field changed) := by
  obtain ⟨absent, otherAbsent⟩ | ⟨_, _, found, otherFound, -⟩ := rel_cases (lookup_alike alike.fields field)
  · rw [set_foreign value absent, set_foreign changed otherAbsent]
    have isClosing : closing = true := by
      refine own.resolve_right fun member => ?_
      obtain ⟨_, _, found, _⟩ := alike.exists_own member
      cases absent.symm.trans found
    cases alike with
    | mk names fields extras _ =>
      exact .mk names fields extras fun noClosing => by cases isClosing.symm.trans noClosing
  · rw [set_own value found, set_own changed otherFound]
    have sameNames := names_set node field value
    rw [set_own value found] at sameNames
    have replaced {entry changedEntry : Field × Value} (alike : FieldAlike likeness entry changedEntry) :
        FieldAlike likeness (if entry.1 = field then (field, value) else entry)
          (if changedEntry.1 = field then (field, changed) else changedEntry) := by
      rw [alike.name]
      split
      · exact values
      · exact alike
    have sameMark : markIn (node.fields.map fun entry => if entry.1 = field then (field, value) else entry) =
        markIn node.fields := by
      simp only [markIn, lookup_replaced, if_neg (Ne.symm noMark)]
    cases alike with
    | mk names fields extras bare =>
      refine .mk (sameNames.trans names) (List.forall₂_map_left_iff.mpr (List.forall₂_map_right_iff.mpr
        (fields.imp fun _ _ => replaced))) ?_ bare
      exact (congrArg (likeness.extras _ · _ _) sameMark).mpr extras

end Node

/-- Whether a value is one that fields hold if nothing else is given: a scalar or something empty. -/
def Value.isUsual : Value → Bool
  | .scalar _ | .list [] | .object [] => true
  | _ => false

theorem alike_of_mem_schema {kind : Kind} {entry : Field × Value} (member : entry ∈ kind.schema) :
    FieldAlike likeness entry entry := by
  have usual : kind.schema.all (·.2.isUsual) = true := by cases kind <;> rfl
  have isUsual := List.all_eq_true.mp usual entry member
  obtain ⟨field, value⟩ := entry
  cases value with
  | scalar => exact .value (.refl_scalar _)
  | list items =>
    cases items with
    | nil => exact .value (.list .nil)
    | cons => cases isUsual
  | object members =>
    cases members with
    | nil => exact .value (.object likeness.objects_nil)
    | cons => cases isUsual
  | node => cases isUsual

/-- Nodes built from values that are alike are alike. -/
theorem Node.Alike.make {kind : Kind} (noElement : kind ≠ .jsxElement) {given others : List (Field × Value)}
    {known : kind.knows given = true} {othersKnown : kind.knows others = true}
    (alike : List.Forall₂ (FieldAlike likeness) given others) :
    (Node.make kind given known).Alike likeness false (.make kind others othersKnown) := by
  refine .mk ?_ ?_ (likeness.extras_nil _ noElement) fun _ => ⟨rfl, rfl⟩
  · rw [List.map_map]
    rfl
  · refine List.forall₂_map_left_iff.mpr
      (List.forall₂_map_right_iff.mpr (List.forall₂_same.mpr fun entry member => ?_))
    obtain ⟨absent, otherAbsent⟩ | ⟨_, _, found, otherFound, values⟩ := rel_cases (lookup_alike alike entry.1)
    · rw [absent, otherAbsent]
      exact alike_of_mem_schema member
    · rw [found, otherFound]
      exact values

/-- Whether a value holds no plain data but scalars. -/
def Value.isBare : Value → Bool
  | .scalar _ | .node _ => true
  | .list items => items.all fun item => item.node?.isSome
  | .object members => members.isEmpty

/-- Whether a node is as nodes are made that are no elements: with the fields of its kind and nothing beside
them. -/
def Node.isMade : Node → Bool
  | .mk kind fields (.object []) [] =>
    fields.map (·.1) == kind.fields && kind != .jsxElement && fields.all (·.2.isBare)
  | _ => false

mutual

/-- A tree that is made is alike to itself. -/
theorem Node.Alike.of_made : ∀ {node : Node} (closing : Bool), node.all Node.isMade = true →
    node.Alike likeness closing node
  | .mk kind fields extra attached, closing, made => by
    have here := Node.check_of_all made
    unfold Node.isMade at here
    split at here
    · rename_i same
      cases same
      rw [Bool.and_eq_true, Bool.and_eq_true, beq_iff_eq, bne_iff_ne] at here
      exact .mk here.1.1 (fieldsAlike_of_made here.2 (Node.allInFields_of_all made))
        (likeness.extras_nil _ here.1.2)
        fun _ => ⟨rfl, rfl⟩
    · cases here

theorem fieldsAlike_of_made : ∀ {fields : List (Field × Value)}, fields.all (·.2.isBare) = true →
    allInFields Node.isMade fields = true → List.Forall₂ (FieldAlike likeness) fields fields
  | [], _, _ => .nil
  | (field, value) :: rest, bare, made => by
    rw [List.all_cons, Bool.and_eq_true] at bare
    rw [allInFields, Bool.and_eq_true] at made
    exact .cons (.value (Value.Alike.of_made _ bare.1 made.1)) (fieldsAlike_of_made bare.2 made.2)

theorem Value.Alike.of_made : ∀ {value : Value} (closing : Bool), value.isBare = true →
    value.all Node.isMade = true → value.Alike likeness closing value
  | .scalar _, _, _, _ => .refl_scalar _
  | .object [], _, _, _ => .object likeness.objects_nil
  | .list _, _, bare, made => .list (itemsAlike_of_made bare made)
  | .node _, closing, _, made => .node (Node.Alike.of_made closing made)

theorem itemsAlike_of_made : ∀ {items : List Value}, items.all (fun item => item.node?.isSome) = true →
    allInItems Node.isMade items = true → List.Forall₂ (Value.Alike likeness false) items items
  | [], _, _ => .nil
  | .node child :: rest, bare, made => by
    rw [List.all_cons, Bool.and_eq_true] at bare
    rw [allInItems, Bool.and_eq_true] at made
    exact .cons (.node (Node.Alike.of_made false made.1)) (itemsAlike_of_made bare.2 made.2)

end

end JsxRouting
