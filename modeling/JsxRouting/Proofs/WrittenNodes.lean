import Mathlib.Data.List.Nodup
import JsxRouting.Proofs.AlikeFunctions
import JsxRouting.Proofs.BuiltNodes
import JsxRouting.Proofs.Reloading

namespace JsxRouting

section Keys

theorem Field.toKey_injective : Function.Injective Field.toKey := by
  have distinct : (Field.all.map Field.toKey).Nodup := by decide
  exact fun field other same => List.inj_on_of_nodup_map distinct field.mem_all other.mem_all same

theorem Kind.type_notMem_keys (kind : Kind) : "type" ∉ kind.keys := by cases kind <;> decide

theorem Kind.mem_keys {kind : Kind} {field : Field} (own : field ∈ kind.fields) (noMark : field ≠ .explicit) :
    field.toKey ∈ kind.keys :=
  List.mem_map_of_mem (List.mem_filter.mpr ⟨own, bne_iff_ne.mpr noMark⟩)

/-- Only elements have a mark. -/
theorem Kind.eq_jsxElement {kind : Kind} (own : Field.explicit ∈ kind.fields) : kind = .jsxElement := by
  have found : ∀ kind ∈ Kind.all, Field.explicit ∈ kind.fields → kind = .jsxElement := by decide
  exact found kind kind.mem_all own

/-- What is left out when it holds nothing usually holds nothing. -/
theorem Kind.usual_eq_null {kind : Kind} {field : Field} {usual : Value} (isUsual : (field, usual) ∈ kind.schema)
    (omitted : field.omittedWhenNull = true) : usual = .null := by
  have nothing : kind.schema.all (fun entry => !entry.1.omittedWhenNull || entry.2.isNull) = true := by
    cases kind <;> rfl
  have isNull := List.all_eq_true.mp nothing _ isUsual
  rw [omitted, Bool.not_true, Bool.false_or] at isNull
  exact Value.eq_null_of_isNull isNull

end Keys

section Members

theorem Entries.contains_eq {α : Type} (entries : Entries α) (key : String) :
    Entries.contains entries key = (entries.lookup key).isSome := by
  induction entries with
  | nil => rfl
  | cons entry rest ih =>
    unfold Entries.contains at ih ⊢
    rw [List.any_cons, ih, List.lookup_cons, Bool.beq_comm]
    split
    · rename_i same
      rw [same]
      rfl
    · rename_i differs
      rw [differs, Bool.false_or]

/-- Members with keys of their own are added behind the others. -/
theorem addMissing_of_apart {members others : Entries Json} (apart : (others.map (·.1)).Nodup)
    (free : ∀ entry ∈ others, members.lookup entry.1 = none) : addMissing members others = members ++ others := by
  induction others generalizing members with
  | nil => rw [addMissing, List.append_nil]
  | cons entry rest ih =>
    obtain ⟨key, value⟩ := entry
    obtain ⟨here, apart⟩ := List.nodup_cons.mp apart
    have isFree := free _ List.mem_cons_self
    have noMember : Entries.contains members key = false := by rw [Entries.contains_eq, isFree, Option.isSome_none]
    rw [addMissing, noMember, if_neg Bool.false_ne_true, Entries.insert_of_absent value isFree, ih apart,
      List.append_assoc]
    · rfl
    · intro entry member
      have isOther : entry.1 ∈ rest.map (·.1) := List.mem_map_of_mem member
      have differs : entry.1 ≠ key := fun same => here (same ▸ isOther)
      rw [Entries.lookup_append, free entry (List.mem_cons_of_mem _ member), Option.none_or, List.lookup_cons,
        beq_eq_false_iff_ne.mpr differs, List.lookup_nil]

theorem mem_writeFields {fields : List (Field × Value)} {entry : String × Json}
    (member : entry ∈ writeFields fields) :
    ∃ field value, (field, value) ∈ fields ∧ isWritten field value = true ∧ entry = (field.toKey, value.write) := by
  induction fields with
  | nil => cases member
  | cons first rest ih =>
    obtain ⟨field, value⟩ := first
    rw [writeFields] at member
    split at member
    · rename_i written
      obtain rfl | member := List.mem_cons.mp member
      · exact ⟨field, value, List.mem_cons_self, written, rfl⟩
      · obtain ⟨other, found, inRest, isFound⟩ := ih member
        exact ⟨other, found, List.mem_cons_of_mem _ inRest, isFound⟩
    · obtain ⟨other, found, inRest, isFound⟩ := ih member
      exact ⟨other, found, List.mem_cons_of_mem _ inRest, isFound⟩

theorem keys_writeFields (fields : List (Field × Value)) :
    ((writeFields fields).map (·.1)).Sublist ((fields.map (·.1)).map Field.toKey) := by
  induction fields with
  | nil => exact .slnil
  | cons entry rest ih =>
    obtain ⟨field, value⟩ := entry
    rw [writeFields]
    split
    · exact ih.cons_cons _
    · exact ih.cons _

/-- Under the key of a field stands what is written of it. -/
theorem lookup_writeFields {fields : List (Field × Value)} (apart : (fields.map (·.1)).Nodup)
    {field : Field} {value : Value}
    (member : (field, value) ∈ fields) :
    (writeFields fields).lookup field.toKey = if isWritten field value then some value.write else none := by
  induction fields with
  | nil => cases member
  | cons first rest ih =>
    obtain ⟨other, old⟩ := first
    obtain ⟨here, apart⟩ := List.nodup_cons.mp apart
    rw [writeFields]
    obtain isFirst | member := List.mem_cons.mp member
    · cases isFirst
      by_cases written : isWritten field value = true
      · rw [if_pos written, if_pos written, List.lookup_cons, beq_self_eq_true]
      · rw [if_neg written, if_neg written]
        refine List.lookup_eq_none_iff.mpr fun entry member => ?_
        obtain ⟨other, found, inRest, _, rfl⟩ := mem_writeFields member
        have isOther : other ∈ rest.map (·.1) := List.mem_map_of_mem inRest
        exact bne_iff_ne.mpr fun same => here (Field.toKey_injective same ▸ isOther)
    · have isOther : field ∈ rest.map (·.1) := List.mem_map_of_mem member
      have differs : field ≠ other := fun same => here (same ▸ isOther)
      have otherKey : (field.toKey == other.toKey) = false :=
        beq_eq_false_iff_ne.mpr fun same => differs (Field.toKey_injective same)
      split
      · rw [List.lookup_cons, otherKey]
        exact ih apart member
      · exact ih apart member

end Members

/-- What is written of a node in front of what its kind does not know. -/
def knownMembers (kind : Kind) (fields : List (Field × Value)) : Entries Json :=
  ("type", .text kind.name) :: writeFields fields

theorem settledFields_eq (fields : List (Field × Value)) :
    settledFields fields = fields.map fun entry => (entry.1, entry.2.settled) := by
  induction fields with
  | nil => rfl
  | cons entry rest ih => rw [settledFields, ih, List.map_cons]

/-- Lists of fields with the same names are related entry by entry. -/
theorem forall₂_of_names {related : Field × Value → Field × Value → Prop} {schema fields : List (Field × Value)}
    (names : fields.map (·.1) = schema.map (·.1))
    (each : ∀ usual entry, usual ∈ schema → entry ∈ fields → entry.1 = usual.1 → related usual entry) :
    List.Forall₂ related schema fields := by
  induction schema generalizing fields with
  | nil =>
    rw [List.map_eq_nil_iff.mp names]
    exact .nil
  | cons usual rest ih =>
    obtain ⟨entry, others, rfl, same, names⟩ := List.map_eq_cons_iff.mp names
    exact .cons (each _ _ List.mem_cons_self List.mem_cons_self same)
      (ih names fun usual entry isUsual member =>
        each _ _ (List.mem_cons_of_mem _ isUsual) (List.mem_cons_of_mem _ member))

section Written

variable {kind : Kind} {fields : List (Field × Value)} (own : fields.map (·.1) = kind.fields)

include own

theorem mem_knownMembers {entry : String × Json} (member : entry ∈ knownMembers kind fields) :
    entry.1 = "type" ∨ entry.1 ∈ kind.keys := by
  obtain rfl | member := List.mem_cons.mp member
  · exact .inl rfl
  · obtain ⟨field, value, inFields, written, rfl⟩ := mem_writeFields member
    rw [isWritten, Bool.and_eq_true, bne_iff_ne] at written
    exact .inr (Kind.mem_keys (own ▸ List.mem_map_of_mem inFields) written.1)

theorem lookup_knownMembers_of_unknown {key : String} (noType : key ≠ "type") (unknown : key ∉ kind.keys) :
    (knownMembers kind fields).lookup key = none := by
  refine List.lookup_eq_none_iff.mpr fun entry member => bne_iff_ne.mpr fun same => ?_
  obtain isType | known := mem_knownMembers own member
  · exact noType (same.trans isType)
  · exact unknown (same ▸ known)

theorem lookup_knownMembers {field : Field} {value : Value} (member : (field, value) ∈ fields)
    (noMark : field ≠ .explicit) :
    (knownMembers kind fields).lookup field.toKey =
      if field.omittedWhenNull && value.isNull then none else some value.write := by
  have noType : field.toKey ≠ "type" := fun same =>
    kind.type_notMem_keys (same ▸ Kind.mem_keys (own ▸ List.mem_map_of_mem member) noMark)
  rw [knownMembers, List.lookup_cons, beq_eq_false_iff_ne.mpr noType]
  refine (lookup_writeFields (own ▸ kind.nodup_fields) member).trans ?_
  rw [isWritten, bne_iff_ne.mpr noMark, Bool.true_and]
  cases field.omittedWhenNull && value.isNull <;> rfl

variable {members : Entries Json}

section Unknown

variable (apart : UnknownTo kind members)

include apart

/-- A node is written member by member. -/
theorem Node.write_eq (attached : List (String × Value)) :
    (Node.mk kind fields (.object (ofJsonMembers members)) attached).write =
      .object (knownMembers kind fields ++ writtenMembers kind (explicitIn fields) members) := by
  have isExtra : (Value.object (ofJsonMembers members)).write = .object members := write_ofJson (.object members)
  have added : addMissing (knownMembers kind fields) members = knownMembers kind fields ++ members :=
    addMissing_of_apart (hasDistinctKeys_object.mp apart.distinct).1 fun entry member =>
      lookup_knownMembers_of_unknown own (apart.unknown entry member).1 (apart.unknown entry member).2
  unfold knownMembers at added
  simp only [Node.write, isExtra, added]
  unfold writtenMembers
  by_cases isElement : kind = .jsxElement
  · rw [if_pos isElement, if_pos isElement]
    refine congrArg Json.object (markMembers_append _ _ ?_)
    exact lookup_knownMembers_of_unknown own (by decide) (by subst isElement; decide)
  · rw [if_neg isElement, if_neg isElement]
    rfl

omit own

theorem writtenMembers_unknown {explicit : Bool} {entry : String × Json}
    (member : entry ∈ writtenMembers kind explicit members) : entry.1 ≠ "type" ∧ entry.1 ∉ kind.keys := by
  unfold writtenMembers at member
  split at member
  · rename_i isElement
    obtain isData | member := mem_markMembers member
    · rw [isElement, isData]
      decide
    · exact apart.unknown entry member
  · exact apart.unknown entry member

include own

/-- Every key is written once. -/
theorem nodup_written :
    ((knownMembers kind fields ++ writtenMembers kind (explicitIn fields) members).map (·.1)).Nodup := by
  have ofFields : ((writeFields fields).map (·.1)).Nodup :=
    ((own ▸ kind.nodup_fields).map Field.toKey_injective).sublist (keys_writeFields fields)
  have noType : "type" ∉ (writeFields fields).map (·.1) := fun isKey => by
    obtain ⟨entry, member, isType⟩ := List.mem_map.mp isKey
    obtain ⟨field, value, inFields, written, rfl⟩ := mem_writeFields member
    rw [isWritten, Bool.and_eq_true, bne_iff_ne] at written
    exact kind.type_notMem_keys (isType ▸ Kind.mem_keys (own ▸ List.mem_map_of_mem inFields) written.1)
  have ofExtra : ((writtenMembers kind (explicitIn fields) members).map (·.1)).Nodup := by
    have distinct := (hasDistinctKeys_object.mp apart.distinct).1
    unfold writtenMembers
    split
    · exact nodup_markMembers _ distinct
    · exact distinct
  rw [List.map_append]
  refine List.nodup_append.mpr
    ⟨List.nodup_cons.mpr ⟨noType, ofFields⟩, ofExtra, fun key known other unknown same => ?_⟩
  obtain ⟨entry, member, rfl⟩ := List.mem_map.mp known
  obtain ⟨second, isSecond, rfl⟩ := List.mem_map.mp unknown
  have noneKnown := writtenMembers_unknown apart isSecond
  rw [← same] at noneKnown
  exact (mem_knownMembers own member).elim noneKnown.1 noneKnown.2

/-- The fields are told apart from what the kind does not know. -/
theorem unknownMembers_written (explicit : Bool) :
    unknownMembers kind (knownMembers kind fields ++ writtenMembers kind explicit members) =
      writtenMembers kind explicit members := by
  unfold unknownMembers
  rw [List.filter_append]
  have noneKnown :
    (knownMembers kind fields).filter (fun member => member.1 != "type" && !kind.keys.contains member.1) = [] := by
    refine List.filter_eq_nil_iff.mpr fun entry member => ?_
    obtain isType | known := mem_knownMembers own member
    · simp [isType]
    · simp [known]
  rw [noneKnown, List.nil_append]
  refine List.filter_eq_self.mpr fun entry member => ?_
  obtain ⟨noType, unknown⟩ := writtenMembers_unknown apart member
  simp [noType, unknown]

/-- Under the key of a field nothing but the field is written. -/
theorem lookup_written {field : Field} {value : Value} (member : (field, value) ∈ fields)
    (noMark : field ≠ .explicit) :
    (knownMembers kind fields ++ writtenMembers kind (explicitIn fields) members).lookup field.toKey =
      if field.omittedWhenNull && value.isNull then none else some value.write := by
  have elsewhere : (writtenMembers kind (explicitIn fields) members).lookup field.toKey = none := by
    refine List.lookup_eq_none_iff.mpr fun entry isEntry => bne_iff_ne.mpr fun same => ?_
    exact (writtenMembers_unknown apart isEntry).2 (same ▸ Kind.mem_keys (own ▸ List.mem_map_of_mem member) noMark)
  rw [Entries.lookup_append, elsewhere, Option.or_none, lookup_knownMembers own member noMark]

/-- What is written of a field other than the mark is read as what is left of its value, whatever the mark. -/
theorem reading_written_of_ne (mark : Bool) {field : Field} {usual value : Value} (member : (field, value) ∈ fields)
    (isUsual : (field, usual) ∈ kind.schema) (noMark : field ≠ .explicit)
    (read : Value.read value.write = .ok value.settled) :
    Node.reading mark
      (Value.readMembers (knownMembers kind fields ++ writtenMembers kind (explicitIn fields) members))
        (field, usual) =
      .ok value.settled := by
  rw [Node.reading, if_neg noMark, lookup_readMembers, lookup_written own apart member noMark]
  cases isOmitted : field.omittedWhenNull && value.isNull with
  | true =>
    rw [Bool.and_eq_true] at isOmitted
    rw [Kind.usual_eq_null isUsual isOmitted.1, Value.eq_null_of_isNull isOmitted.2]
    rfl
  | false => exact read

end Unknown

variable (fits : ExtraFits kind (markIn fields) members)

include fits

/-- What a node is written with is kept when it is read, and the mark is found. -/
theorem keptMembers_written :
    keptMembers kind (knownMembers kind fields ++ writtenMembers kind (explicitIn fields) members) =
      (decide (kind = .jsxElement) && explicitIn fields, settledMembers kind (explicitIn fields) members) := by
  unfold keptMembers
  rw [unknownMembers_written own fits.unknownTo]
  by_cases isElement : kind = .jsxElement
  · obtain ⟨explicit, isMark, dataFits⟩ := fits.data isElement
    have isExplicit : explicit = explicitIn fields := by
      rw [← (fits.explicitIn isElement).2, isMark]
      rfl
    subst isElement isExplicit
    exact takeExplicitMark_markMembers dataFits
  · unfold writtenMembers settledMembers
    simp only [isElement, if_false, false_and, decide_false, Bool.false_and]

/-- What is written of a field is read as what is left of its value. -/
theorem reading_written {field : Field} {usual value : Value} (member : (field, value) ∈ fields)
    (isUsual : (field, usual) ∈ kind.schema) (read : Value.read value.write = .ok value.settled) :
    Node.reading (decide (kind = .jsxElement) && explicitIn fields)
      (Value.readMembers (knownMembers kind fields ++ writtenMembers kind (explicitIn fields) members))
        (field, usual) =
      .ok value.settled := by
  have inFields : field ∈ kind.fields := own ▸ List.mem_map_of_mem member
  by_cases isMark : field = .explicit
  · subst isMark
    have isElement := Kind.eq_jsxElement inFields
    have isValue := lookup_of_mem (own ▸ kind.nodup_fields) member
    obtain rfl : value = .bool (explicitIn fields) :=
      Option.some.inj (isValue.symm.trans (fits.explicitIn isElement).1)
    rw [Node.reading, if_pos rfl, decide_eq_true isElement, Bool.true_and, Value.settled]
  · exact reading_written_of_ne own fits.unknownTo _ member isUsual isMark read

/-- A node is read from what it is written as if this can be said of the values of its fields. -/
theorem Node.read_write_of_fields (attached : List (String × Value))
    (read : ∀ entry ∈ fields, Value.read entry.2.write = .ok entry.2.settled) :
    let node := Node.mk kind fields (.object (ofJsonMembers members)) attached
    Node.read node.write = .ok node.settled := by
  intro node
  rw [Node.write_eq own fits.unknownTo, Node.read_eq_ok_iff]
  refine ⟨.text kind.name, kind, settledFields fields, rfl, kind.ofType_name, ?_, ?_⟩
  · rw [keptMembers_written own fits, Node.assembleFields_eq_ok_iff, settledFields_eq, List.forall₂_map_right_iff]
    refine forall₂_of_names own fun usual entry isUsual member same => ⟨same, ?_⟩
    obtain ⟨field, usual⟩ := usual
    obtain ⟨_, value⟩ := entry
    obtain rfl : _ = field := same
    exact reading_written own fits member isUsual (read _ member)
  · rw [keptMembers_written own fits, Node.settled, fits.settledExtra_explicitIn]
    by_cases isElement : kind = .jsxElement
    · rw [(fits.explicitIn isElement).2]
    · unfold settledMembers
      simp only [isElement, false_and, if_false]

end Written

mutual

/-- A tree of its form is read from what it is written as, up to older marks that do not hold. -/
theorem Node.Alike.read_write : ∀ {node other : Node} {closing : Bool}, node.Alike .reloading closing other →
    Node.read node.write = .ok node.settled
  | .mk kind fields _ attached, _, _, .mk own alike extras _ => by
    obtain ⟨members, _, fits, _, rfl, _⟩ := extras
    exact Node.read_write_of_fields own fits attached (read_writeFields alike)

theorem read_writeFields :
    ∀ {fields others : List (Field × Value)}, List.Forall₂ (FieldAlike .reloading) fields others →
    ∀ entry ∈ fields, Value.read entry.2.write = .ok entry.2.settled
  | [], _, .nil => nofun
  | _ :: _, _, .cons (.value alike) tails =>
    List.forall_mem_cons.mpr ⟨Value.Alike.read_write alike, read_writeFields tails⟩
  | _ :: _, _, .cons (.raw ignores _ _) _ => by cases ignores

theorem Value.Alike.read_write : ∀ {value other : Value} {closing : Bool}, value.Alike .reloading closing other →
    Value.read value.write = .ok value.settled
  | .scalar _, _, _, .scalar _ => rfl
  | .list items, _, _, .list alike => by
    rw [Value.write, Value.read, read_writeItems alike]
    rfl
  | .object _, _, _, .object plain => by
    obtain ⟨_, data, rfl, _, noType⟩ := plain
    have isData : (Value.object (ofJsonMembers data)).write = .object data := write_ofJson (.object data)
    rw [isData, Value.read, noType, Value.settled]
  | .node _, _, _, .node alike => Value.read_node (Node.Alike.read_write alike)

theorem read_writeItems : ∀ {items others : List Value}, List.Forall₂ (Value.Alike .reloading false) items others →
    Value.readItems (writeItems items) = .ok (settledItems items)
  | [], _, .nil => rfl
  | item :: rest, _, .cons alike tails => by
    rw [writeItems, Value.readItems, Value.Alike.read_write alike, read_writeItems tails]
    rfl

end

/-- Members of which the same is left are written in the same way. -/
theorem writtenMembers_of_settled {kind : Kind} {explicit : Bool} {members others : Entries Json}
    (same : settledMembers kind explicit members = settledMembers kind explicit others) :
    writtenMembers kind explicit others = writtenMembers kind explicit members := by
  unfold settledMembers at same
  unfold writtenMembers
  by_cases isElement : kind = .jsxElement
  · rw [if_pos isElement, if_pos isElement]
    cases explicit with
    | false =>
      rw [if_pos ⟨isElement, rfl⟩, if_pos ⟨isElement, rfl⟩] at same
      exact same.symm
    | true =>
      rw [if_neg (fun loses => Bool.false_ne_true loses.2.symm),
        if_neg (fun loses => Bool.false_ne_true loses.2.symm)] at same
      rw [same]
  · rw [if_neg (fun loses => isElement loses.1), if_neg (fun loses => isElement loses.1)] at same
    rw [if_neg isElement, if_neg isElement, same]

mutual

/-- Trees that are alike are written alike. -/
theorem Node.Alike.write : ∀ {node other : Node} {closing : Bool}, node.Alike .reloading closing other →
    other.write = node.write
  | .mk kind fields _ attached, .mk _ others _ _, _, .mk own alike extras _ => by
    obtain ⟨members, kept, fits, otherFits, rfl, rfl, same⟩ := extras
    have sameMark := markIn_alike alike
    rw [fits.settledExtra, otherFits.settledExtra, Value.object.injEq] at same
    rw [← sameMark] at otherFits
    have behind : writtenMembers kind (explicitIn others) kept = writtenMembers kind
      (explicitIn fields) members := by
      have written := writtenMembers_of_settled (ofJsonMembers_injective same)
      by_cases isElement : kind = .jsxElement
      · rw [← (fits.explicitIn isElement).2, ← (otherFits.explicitIn isElement).2, sameMark, written]
      · unfold writtenMembers at written ⊢
        rwa [if_neg isElement, if_neg isElement] at written ⊢
    rw [Node.write_eq own fits.unknownTo,
      Node.write_eq ((names_alike alike).trans own) otherFits.unknownTo, knownMembers,
      knownMembers, writeFields_alike alike, behind]

theorem writeFields_alike :
    ∀ {fields others : List (Field × Value)}, List.Forall₂ (FieldAlike .reloading) fields others →
    writeFields others = writeFields fields
  | [], _, .nil => rfl
  | _ :: _, _, .cons (.value alike) tails => by
    rw [writeFields, writeFields, isWritten, isWritten, alike.isNull, Value.Alike.write alike,
      writeFields_alike tails]
  | _ :: _, _, .cons (.raw ignores _ _) _ => by cases ignores

theorem Value.Alike.write : ∀ {value other : Value} {closing : Bool}, value.Alike .reloading closing other →
    other.write = value.write
  | .scalar _, _, _, .scalar same => congrArg Json.scalar (Eq.symm same)
  | .list _, _, _, .list alike => congrArg Json.array (writeItems_alike alike)
  | .object _, _, _, .object plain => by rw [plain.1]
  | .node _, _, _, .node alike => Node.Alike.write alike

theorem writeItems_alike : ∀ {items others : List Value}, List.Forall₂ (Value.Alike .reloading false) items others →
    writeItems others = writeItems items
  | [], _, .nil => rfl
  | _ :: _, _, .cons alike tails => by
    rw [writeItems, writeItems, Value.Alike.write alike, writeItems_alike tails]

end

/-- What a kind does not know has a written form, whatever the mark. -/
theorem isWritableExtra_ofJsonMembers (kind : Kind) (fields : List (Field × Value)) (members : Entries Json) :
    isWritableExtra kind fields (.object (ofJsonMembers members)) = true := by
  have ofData (explicit : Bool) (data : Entries Json) : isWritableData explicit (ofJsonMembers data) = true := by
    have either (older : Bool) :
        holdData (if older then ofJsonMembers data
          else ofJsonMembers (Entries.erase data explicitMark)) = true := by
      split <;> exact holdData_ofJsonMembers _
    unfold isWritableData
    rw [erase_ofJsonMembers, erase_ofJsonMembers]
    split
    · exact either _
    · exact holdData_ofJsonMembers _
  have ofMember (key : String) (value : Json) : isWritableMember kind fields key (.ofJson value) = true := by
    cases value with
    | scalar | array => exact isData_ofJson _
    | object data =>
      rw [Value.ofJson, isWritableMember]
      split
      · exact ofData _ _
      · exact holdData_ofJsonMembers _
  rw [isWritableExtra, List.all_eq_true, ofJsonMembers_eq]
  intro entry member
  obtain ⟨⟨key, value⟩, _, rfl⟩ := List.mem_map.mp member
  exact Bool.or_eq_true_iff.mpr (.inr (ofMember key value))

mutual

/-- Every tree of its form has a written form. -/
theorem Node.Alike.isWritable : ∀ {node other : Node} {closing : Bool}, node.Alike .reloading closing other →
    node.isWritable = true
  | .mk kind fields _ attached, _, _, .mk _ alike extras _ => by
    obtain ⟨members, _, _, _, rfl, _⟩ := extras
    rw [Node.isWritable, writableFields_alike alike, isWritableExtra_ofJsonMembers, Bool.and_true]

theorem writableFields_alike :
    ∀ {fields others : List (Field × Value)}, List.Forall₂ (FieldAlike .reloading) fields others →
    writableFields fields = true
  | [], _, .nil => rfl
  | _ :: _, _, .cons (.value alike) tails => by
    rw [writableFields, Value.Alike.isWritable alike, writableFields_alike tails, Bool.or_true, Bool.and_true]
  | _ :: _, _, .cons (.raw ignores _ _) _ => by cases ignores

theorem Value.Alike.isWritable : ∀ {value other : Value} {closing : Bool}, value.Alike .reloading closing other →
    value.isWritable = true
  | .scalar _, _, _, .scalar _ => rfl
  | .list _, _, _, .list alike => writableItems_alike alike
  | .object _, _, _, .object plain => by
    obtain ⟨_, data, rfl, _⟩ := plain
    exact holdData_ofJsonMembers data
  | .node _, _, _, .node alike => Node.Alike.isWritable alike

theorem writableItems_alike :
    ∀ {items others : List Value}, List.Forall₂ (Value.Alike .reloading false) items others →
    writableItems items = true
  | [], _, .nil => rfl
  | _ :: _, _, .cons alike tails => by
    rw [writableItems, Value.Alike.isWritable alike, writableItems_alike tails, Bool.and_true]

end

end JsxRouting
