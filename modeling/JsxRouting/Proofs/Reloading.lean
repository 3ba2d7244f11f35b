import JsxRouting.Proofs.AlikeTrees
import JsxRouting.Proofs.ElementMarks

namespace JsxRouting

mutual

/-- What is left of a tree when it is written and read again: every node of its kind with the same fields, nothing
attached to nodes that their kind has no field for, and all that the kinds do not know but for older marks that do
not hold. -/
def Node.settled : Node → Node
  | .mk kind fields extra _ => .mk kind (settledFields fields) (settledExtra kind (explicitIn fields) extra) []

def settledFields : List (Field × Value) → List (Field × Value)
  | [] => []
  | (field, value) :: rest => (field, value.settled) :: settledFields rest

def Value.settled : Value → Value
  | .scalar value => .scalar value
  | .list items => .list (settledItems items)
  | .object members => .object members
  | .node child => .node child.settled

def settledItems : List Value → List Value
  | [] => []
  | item :: rest => item.settled :: settledItems rest

end

/-- Trees that are the same when they are written and read again. -/
def Likeness.reloading : Likeness where
  scalars := Eq
  objects members others := members = others ∧ ∃ data : Entries Json, members = ofJsonMembers data ∧
    (Json.object data).hasDistinctKeys = true ∧ data.lookup "type" = none
  extras kind mark extra other := ∃ members others : Entries Json, ExtraFits kind mark members ∧
    ExtraFits kind mark others ∧ extra = .object (ofJsonMembers members) ∧ other = .object (ofJsonMembers others) ∧
    settledExtra kind (mark.any Scalar.holds) extra = settledExtra kind (mark.any Scalar.holds) other
  ignoresRaw := false
  scalars_refl _ := rfl
  same_of_scalars same := by rw [same, Scalar.same_self]
  eq_of_scalars _ same := same
  objects_nil := ⟨rfl, [], rfl, rfl, rfl⟩
  same_of_objects := by
    rintro members _ ⟨rfl, data, rfl, distinct, _⟩
    exact same_ofJson (.object data) distinct
  extras_nil mark noElement :=
    have fits : ExtraFits _ mark [] := ⟨rfl, nofun, fun isElement => absurd isElement noElement⟩
    ⟨[], [], fits, fits, rfl, rfl, rfl⟩

section Read

namespace Node

/-- What a field is read as: the mark, the reading of its member, or its usual value. -/
def reading (explicit : Bool) (readings : Entries (Except Error Value)) (usual : Field × Value) :
    Except Error Value :=
  if usual.1 = .explicit then .ok (.bool explicit) else (readings.lookup usual.1.toKey).getD (.ok usual.2)

theorem assembleFields_eq_ok_iff {explicit : Bool} {readings : Entries (Except Error Value)}
    {schema fields : List (Field × Value)} : assembleFields explicit readings schema = .ok fields ↔
      List.Forall₂ (fun usual entry => entry.1 = usual.1 ∧ reading explicit readings usual = .ok entry.2)
        schema fields := by
  induction schema generalizing fields with
  | nil => exact ⟨fun assembled => by cases assembled; exact .nil, fun assembled => by cases assembled; rfl⟩
  | cons usual rest ih =>
    obtain ⟨field, value⟩ := usual
    have step : assembleFields explicit readings ((field, value) :: rest) = (do
        let value ← reading explicit readings (field, value)
        return (field, value) :: (← assembleFields explicit readings rest)) := by
      rw [assembleFields, reading]
      split <;> rfl
    rw [step]
    constructor
    · intro assembled
      obtain ⟨read, isRead, assembled⟩ := bind_eq_ok_iff.mp assembled
      obtain ⟨values, areValues, assembled⟩ := bind_eq_ok_iff.mp assembled
      cases assembled
      exact .cons ⟨rfl, isRead⟩ (ih.mp areValues)
    · rintro (_ | ⟨⟨same, isRead⟩, assembled⟩)
      rename_i entry values
      obtain ⟨_, read⟩ := entry
      obtain rfl : _ = field := same
      rw [isRead, ih.mpr assembled]
      rfl

/-- A field of a node that was read holds what the field is read as. -/
theorem lookup_assembled {explicit : Bool} {readings : Entries (Except Error Value)}
    {schema fields : List (Field × Value)}
    (assembled : assembleFields explicit readings schema = .ok fields) {field : Field} {usual : Value}
    (isUsual : schema.lookup field = some usual) :
    ∃ value, fields.lookup field = some value ∧ reading explicit readings (field, usual) = .ok value := by
  rw [assembleFields_eq_ok_iff] at assembled
  induction assembled with
  | nil => cases isUsual
  | @cons first entry _ _ here _ ih =>
    obtain ⟨same, isRead⟩ := here
    rw [List.lookup_cons] at isUsual ⊢
    rw [same]
    split at isUsual
    · rename_i isHere
      obtain rfl := beq_iff_eq.mp isHere
      cases isUsual
      exact ⟨_, rfl, isRead⟩
    · exact ih isUsual

/-- An element is marked as it was read. -/
theorem lookup_mark {explicit : Bool} {readings : Entries (Except Error Value)} {fields : List (Field × Value)}
    (assembled : assembleFields explicit readings Kind.jsxElement.schema = .ok fields) :
    fields.lookup .explicit = some (.bool explicit) := by
  have isUsual : Kind.jsxElement.schema.lookup .explicit = some (.bool false) := rfl
  obtain ⟨value, isValue, isRead⟩ := lookup_assembled assembled isUsual
  cases isRead
  exact isValue

theorem mem_assembled {explicit : Bool} {readings : Entries (Except Error Value)}
    {schema fields : List (Field × Value)}
    (assembled : assembleFields explicit readings schema = .ok fields) {entry : Field × Value}
    (member : entry ∈ fields) :
    ∃ usual ∈ schema, entry.1 = usual.1 ∧ reading explicit readings usual = .ok entry.2 := by
  rw [assembleFields_eq_ok_iff] at assembled
  induction assembled with
  | nil => cases member
  | cons here _ ih =>
    obtain rfl | member := List.mem_cons.mp member
    · exact ⟨_, List.mem_cons_self, here⟩
    · obtain ⟨usual, isUsual, found⟩ := ih member
      exact ⟨usual, List.mem_cons_of_mem _ isUsual, found⟩

theorem names_assembled {explicit : Bool} {readings : Entries (Except Error Value)}
    {schema fields : List (Field × Value)}
    (assembled : assembleFields explicit readings schema = .ok fields) : fields.map (·.1) = schema.map (·.1) := by
  rw [assembleFields_eq_ok_iff] at assembled
  induction assembled with
  | nil => rfl
  | cons here _ ih => rw [List.map_cons, List.map_cons, here.1, ih]

end Node

theorem lookup_readMembers (members : Entries Json) (key : String) :
    (Value.readMembers members).lookup key = (members.lookup key).map Value.read := by
  induction members with
  | nil => rfl
  | cons entry rest ih =>
    rw [Value.readMembers, List.lookup_cons, List.lookup_cons]
    split
    · rfl
    · exact ih

theorem Node.read_eq_ok_iff {members : Entries Json} {node : Node} : Node.read (.object members) = .ok node ↔
    ∃ type kind fields, members.lookup "type" = some type ∧ Kind.ofType type = .ok kind ∧
      Node.assembleFields (keptMembers kind members).1 (Value.readMembers members) kind.schema = .ok fields ∧
      node = .mk kind fields (.object (ofJsonMembers (keptMembers kind members).2)) [] := by
  constructor
  · intro read
    cases found : members.lookup "type" with
    | none =>
      simp only [Node.read, found] at read
      cases read
    | some type =>
      simp only [Node.read, found, Node.assemble] at read
      obtain ⟨kind, isKind, read⟩ := bind_eq_ok_iff.mp read
      obtain ⟨fields, assembled, read⟩ := bind_eq_ok_iff.mp read
      cases read
      exact ⟨type, kind, fields, rfl, isKind, assembled, rfl⟩
  · rintro ⟨type, kind, fields, found, isKind, assembled, rfl⟩
    simp only [Node.read, found, Node.assemble]
    exact bind_eq_ok_iff.mpr ⟨kind, isKind, bind_eq_ok_iff.mpr ⟨fields, assembled, rfl⟩⟩

/-- An object with a `type` is read as a node wherever it stands. -/
theorem Value.read_object_of_type {members : Entries Json} {type : Json}
    (found : members.lookup "type" = some type) :
    Value.read (.object members) = Except.map Value.node (Node.read (.object members)) := by
  rw [Value.read, Node.read]
  simp only [found]
  cases Node.assemble type members (Value.readMembers members) <;> rfl

/-- What reads as a node reads as that node wherever it stands. -/
theorem Value.read_node {data : Json} {node : Node} (read : Node.read data = .ok node) :
    Value.read data = .ok (.node node) := by
  cases data with
  | scalar => cases read
  | array => cases read
  | object members =>
    obtain ⟨_, _, _, found, _⟩ := Node.read_eq_ok_iff.mp read
    rw [Value.read_object_of_type found, read]
    rfl

/-- What is kept beside the fields of a node fits the mark that is read. -/
theorem Node.extraFits_assembled {members : Entries Json} {kind : Kind} {fields : List (Field × Value)}
    (distinct : (Json.object members).hasDistinctKeys = true)
    (assembled : assembleFields (keptMembers kind members).1 (Value.readMembers members) kind.schema = .ok fields) :
    ExtraFits kind (markIn fields) (keptMembers kind members).2 := by
  refine extraFits_keptMembers distinct fun isElement => ?_
  subst isElement
  rw [markIn, lookup_mark assembled]
  rfl

/-- What reads as a node is alike to itself if the members that become its fields are. -/
theorem Node.alike_read_of_members {members : Entries Json} {node : Node} (closing : Bool)
    (distinct : (Json.object members).hasDistinctKeys = true) (read : Node.read (.object members) = .ok node)
    (alike : ∀ {key : String} {data : Json} {value : Value} (closing : Bool), members.lookup key = some data →
      Value.read data = .ok value → value.Alike .reloading closing value) :
    node.Alike .reloading closing node := by
  obtain ⟨type, kind, fields, found, isKind, assembled, rfl⟩ := Node.read_eq_ok_iff.mp read
  have ofFields (entry : Field × Value) (member : entry ∈ fields) : FieldAlike .reloading entry entry := by
    obtain ⟨field, value⟩ := entry
    obtain ⟨⟨_, usual⟩, isUsual, same, isRead⟩ := Node.mem_assembled assembled member
    obtain rfl : field = _ := same
    rw [Node.reading, lookup_readMembers] at isRead
    split at isRead
    · cases isRead
      exact .value (.refl_scalar _)
    · cases found : members.lookup field.toKey with
      | none =>
        rw [found] at isRead
        cases isRead
        exact alike_of_mem_schema isUsual
      | some data =>
        rw [found] at isRead
        exact .value (alike _ found isRead)
  have extraFits := Node.extraFits_assembled distinct assembled
  exact .mk (Node.names_assembled assembled) (List.forall₂_same.mpr ofFields)
    ⟨_, _, extraFits, extraFits, rfl, rfl, rfl⟩ fun _ => ⟨rfl, rfl⟩

mutual

/-- Trees that are read are alike to themselves. -/
theorem Value.alike_read : ∀ (data : Json) {value : Value} (closing : Bool), data.hasDistinctKeys = true →
    Value.read data = .ok value → value.Alike .reloading closing value
  | .scalar scalar, value, closing, _, read => by
    cases read
    exact .refl_scalar scalar
  | .array items, value, closing, distinct, read => by
    obtain ⟨values, areValues, read⟩ := bind_eq_ok_iff.mp read
    cases read
    exact .list (itemsAlike_read items distinct areValues)
  | .object members, value, closing, distinct, read => by
    cases found : members.lookup "type" with
    | none =>
      simp only [Value.read, found] at read
      cases read
      exact .object ⟨rfl, members, rfl, distinct, found⟩
    | some type =>
      rw [Value.read_object_of_type found] at read
      cases isNode : Node.read (.object members) with
      | error =>
        rw [isNode] at read
        cases read
      | ok node =>
        rw [isNode] at read
        cases read
        refine .node (Node.alike_read_of_members closing distinct isNode fun closing => ?_)
        rw [Json.hasDistinctKeys, Bool.and_eq_true] at distinct
        exact membersAlike_read members closing distinct.2

theorem itemsAlike_read : ∀ (items : List Json) {values : List Value}, itemsHaveDistinctKeys items = true →
    Value.readItems items = .ok values → List.Forall₂ (Value.Alike .reloading false) values values
  | [], _, _, read => by
    cases read
    exact .nil
  | item :: rest, _, distinct, read => by
    rw [itemsHaveDistinctKeys, Bool.and_eq_true] at distinct
    obtain ⟨value, isValue, read⟩ := bind_eq_ok_iff.mp read
    obtain ⟨values, areValues, read⟩ := bind_eq_ok_iff.mp read
    cases read
    exact .cons (Value.alike_read item false distinct.1 isValue) (itemsAlike_read rest distinct.2 areValues)

theorem membersAlike_read : ∀ (members : List (String × Json)) {key : String} {data : Json} {value : Value}
    (closing : Bool), membersHaveDistinctKeys members = true → members.lookup key = some data →
    Value.read data = .ok value → value.Alike .reloading closing value
  | [], _, _, _, _, _, found, _ => by cases found
  | (first, other) :: rest, key, data, value, closing, distinct, found, read => by
    rw [membersHaveDistinctKeys, Bool.and_eq_true] at distinct
    rw [List.lookup_cons] at found
    split at found
    · cases found
      exact Value.alike_read _ closing distinct.1 read
    · exact membersAlike_read rest closing distinct.2 found read

end

theorem Node.alike_read {data : Json} {node : Node} (closing : Bool) (distinct : data.hasDistinctKeys = true)
    (read : Node.read data = .ok node) : node.Alike .reloading closing node := by
  cases Value.alike_read data closing distinct (Value.read_node read) with
  | node alike => exact alike

end Read

section Alike

theorem FieldAlike.reloading {entry other : Field × Value} (alike : FieldAlike .reloading entry other) :
    other.1 = entry.1 ∧ entry.2.Alike .reloading (entry.1 == .closingElement) other.2 := by
  cases alike with
  | value alike => exact ⟨rfl, alike⟩
  | raw ignores _ _ => cases ignores

theorem names_alike {likeness : Likeness} {fields others : List (Field × Value)}
    (alike : List.Forall₂ (FieldAlike likeness) fields others) : others.map (·.1) = fields.map (·.1) := by
  induction alike with
  | nil => rfl
  | cons entry _ ih => rw [List.map_cons, List.map_cons, entry.name, ih]

theorem scalar?_alike {value other : Value} {closing : Bool} (alike : value.Alike .reloading closing other) :
    other.scalar? = value.scalar? := by
  cases alike with
  | scalar same => exact congrArg some (Eq.symm same)
  | list => rfl
  | object => rfl
  | node => rfl

theorem markIn_alike {fields others : List (Field × Value)}
    (alike : List.Forall₂ (FieldAlike .reloading) fields others) :
    markIn others = markIn fields := by
  unfold markIn
  obtain ⟨absent, otherAbsent⟩ | ⟨_, _, found, otherFound, values⟩ := rel_cases (lookup_alike alike .explicit)
  · rw [absent, otherAbsent]
  · rw [found, otherFound]
    exact scalar?_alike values.reloading.2

mutual

theorem Node.Alike.symm : ∀ {node other : Node} {closing : Bool}, node.Alike .reloading closing other →
    other.Alike .reloading closing node
  | .mk kind fields _ _, _, _, .mk own alike extras bare => by
    obtain ⟨members, others, fits, otherFits, isExtra, isOther, same⟩ := extras
    have sameMark := markIn_alike alike
    refine .mk ((names_alike alike).trans own) (fieldsAlike_symm alike) ?_ fun noClosing => (bare noClosing).symm
    rw [sameMark]
    exact ⟨others, members, otherFits, fits, isOther, isExtra, same.symm⟩

theorem fieldsAlike_symm : ∀ {fields others : List (Field × Value)},
    List.Forall₂ (FieldAlike .reloading) fields others → List.Forall₂ (FieldAlike .reloading) others fields
  | [], _, .nil => .nil
  | (_, value) :: _, _, .cons (.value alike) tails =>
    .cons (.value (Value.Alike.symm alike)) (fieldsAlike_symm tails)
  | _ :: _, _, .cons (.raw ignores _ _) _ => by cases ignores

theorem Value.Alike.symm : ∀ {value other : Value} {closing : Bool}, value.Alike .reloading closing other →
    other.Alike .reloading closing value
  | .scalar _, _, _, .scalar same => .scalar (Eq.symm same)
  | .list _, _, _, .list alike => .list (itemsAlike_symm alike)
  | .object _, _, _, .object ⟨same, plain⟩ => .object ⟨same.symm, same ▸ plain⟩
  | .node _, _, _, .node alike => .node (Node.Alike.symm alike)

theorem itemsAlike_symm : ∀ {items others : List Value}, List.Forall₂ (Value.Alike .reloading false) items others →
    List.Forall₂ (Value.Alike .reloading false) others items
  | [], _, .nil => .nil
  | _ :: _, _, .cons alike tails => .cons (Value.Alike.symm alike) (itemsAlike_symm tails)

end

/-- The mark of a node with a place for one is what its fields say. -/
theorem ExtraFits.explicitIn {kind : Kind} {fields : List (Field × Value)} {members : Entries Json}
    (fits : ExtraFits kind (markIn fields) members) (isElement : kind = .jsxElement) :
    fields.lookup .explicit = some (.bool (explicitIn fields)) ∧
      (markIn fields).any Scalar.holds = JsxRouting.explicitIn fields := by
  obtain ⟨explicit, isMark, _⟩ := fits.data isElement
  unfold markIn at isMark ⊢
  unfold JsxRouting.explicitIn
  cases found : fields.lookup .explicit with
  | none =>
    rw [found] at isMark
    cases isMark
  | some value =>
    rw [found] at isMark
    cases value with
    | scalar scalar =>
      cases isMark
      exact ⟨rfl, rfl⟩
    | list => cases isMark
    | object => cases isMark
    | node => cases isMark

theorem ExtraFits.settledExtra_explicitIn {kind : Kind} {fields : List (Field × Value)} {members : Entries Json}
    (fits : ExtraFits kind (markIn fields) members) :
    JsxRouting.settledExtra kind (JsxRouting.explicitIn fields) (.object (ofJsonMembers members)) =
      .object (ofJsonMembers (JsxRouting.settledMembers kind ((markIn fields).any Scalar.holds) members)) := by
  rw [← fits.settledExtra]
  by_cases isElement : kind = .jsxElement
  · rw [(fits.explicitIn isElement).2]
  · unfold JsxRouting.settledExtra
    simp only [isElement, false_and, if_false]

mutual

/-- What is left of a tree is alike to it. -/
theorem Node.Alike.settled_right : ∀ {node other : Node} {closing : Bool}, node.Alike .reloading closing other →
    node.Alike .reloading closing other.settled
  | .mk kind fields _ _, .mk _ others _ _, _, .mk own alike extras bare => by
    obtain ⟨members, kept, fits, otherFits, rfl, rfl, same⟩ := extras
    refine .mk own (fieldsAlike_settled_right alike) ?_ fun noClosing => ⟨(bare noClosing).1, rfl⟩
    rw [← markIn_alike alike] at fits otherFits same ⊢
    refine ⟨members, _, fits, otherFits.settledMembers, rfl, otherFits.settledExtra_explicitIn, ?_⟩
    rw [same, otherFits.settledExtra_explicitIn, otherFits.settledExtra, otherFits.settledMembers.settledExtra,
      otherFits.settledMembers_settledMembers]

theorem fieldsAlike_settled_right : ∀ {fields others : List (Field × Value)},
    List.Forall₂ (FieldAlike .reloading) fields others →
      List.Forall₂ (FieldAlike .reloading) fields (settledFields others)
  | [], _, .nil => .nil
  | _ :: _, _, .cons (.value alike) tails =>
    .cons (.value (Value.Alike.settled_right alike)) (fieldsAlike_settled_right tails)
  | _ :: _, _, .cons (.raw ignores _ _) _ => by cases ignores

theorem Value.Alike.settled_right : ∀ {value other : Value} {closing : Bool}, value.Alike .reloading closing other →
    value.Alike .reloading closing other.settled
  | .scalar _, _, _, .scalar same => .scalar same
  | .list _, _, _, .list alike => .list (itemsAlike_settled_right alike)
  | .object _, _, _, .object same => .object same
  | .node _, _, _, .node alike => .node (Node.Alike.settled_right alike)

theorem itemsAlike_settled_right :
    ∀ {items others : List Value}, List.Forall₂ (Value.Alike .reloading false) items others →
    List.Forall₂ (Value.Alike .reloading false) items (settledItems others)
  | [], _, .nil => .nil
  | _ :: _, _, .cons alike tails => .cons (Value.Alike.settled_right alike) (itemsAlike_settled_right tails)

end

end Alike

end JsxRouting
