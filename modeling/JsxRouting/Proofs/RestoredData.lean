import JsxRouting.Proofs.WrittenNodes

namespace JsxRouting

/-- What becomes of the `data` among the members that elements do not know. The newer mark is taken out and is put
back if it alone marks the element; `data` that holds nothing is left out. Nothing is said of an older mark that
does not hold in an element that is not explicit. -/
inductive DataRestored (members : Entries Json) : Entries Json → Prop
  | noObject : (∀ data, members.lookup "data" ≠ some (.object data)) → DataRestored members members
  | older {data : Entries Json} : members.lookup "data" = some (.object data) →
      Entries.holdsAt data olderExplicitMark = true →
      DataRestored members (Entries.insert members "data" (.object (Entries.erase data explicitMark)))
  | marked {data : Entries Json} : members.lookup "data" = some (.object data) →
      Entries.holdsAt data olderExplicitMark = false → Entries.holdsAt data explicitMark = true →
      Entries.erase data explicitMark ≠ [] →
      DataRestored members
        (Entries.insert members "data" (.object (Entries.erase data explicitMark ++ [(explicitMark, .bool true)])))
  /-- `data` with nothing but the mark comes behind all other members. -/
  | onlyMark {data : Entries Json} : members.lookup "data" = some (.object data) →
      Entries.holdsAt data explicitMark = true → Entries.erase data explicitMark = [] →
      DataRestored members (Entries.erase members "data" ++ [("data", .object [(explicitMark, .bool true)])])
  | unmarked {data written : Entries Json} : members.lookup "data" = some (.object data) →
      Entries.holdsAt data olderExplicitMark = false → Entries.holdsAt data explicitMark = false →
      Entries.erase written olderExplicitMark = Entries.erase (Entries.erase data explicitMark) olderExplicitMark →
      (data.lookup olderExplicitMark = none → written = Entries.erase data explicitMark) →
      DataRestored members (putData written members)

/-- What becomes of the members of a node, whatever becomes of what stands in its fields. -/
structure MembersRestored (kind : Kind) (members others : Entries Json) : Prop where
  distinct : (others.map (·.1)).Nodup
  type : others.lookup "type" = members.lookup "type"
  /-- Fields that were not given appear with their usual values. -/
  missing : ∀ entry ∈ kind.schema, entry.1 ≠ .explicit → members.lookup entry.1.toKey = none →
    others.lookup entry.1.toKey = if entry.1.omittedWhenNull then none else some entry.2.write
  unknown : kind ≠ .jsxElement → unknownMembers kind others = unknownMembers kind members
  data : kind = .jsxElement → DataRestored (unknownMembers kind members) (unknownMembers kind others)

mutual

/-- What becomes of data that is read and written. An object with a `type` is a node, and the members under the keys
of its kind are restored in turn; all else stays as it is. -/
def Json.RestoredAs : Json → Json → Prop
  | .scalar value, other => other = .scalar value
  | .array items, other => ∃ others, other = .array others ∧ ItemsRestoredAs items others
  | .object members, other =>
    match members.lookup "type" with
    | none => other = .object members
    | some type => ∃ kind others, Kind.ofType type = .ok kind ∧ other = .object others ∧
      MembersRestored kind members others ∧ FieldsRestoredAs kind members others

def ItemsRestoredAs : List Json → List Json → Prop
  | [], others => others = []
  | item :: rest, others => ∃ other tail, others = other :: tail ∧ item.RestoredAs other ∧ ItemsRestoredAs rest tail

/-- Whether every given field is restored, or left out because it is nothing. -/
def FieldsRestoredAs (kind : Kind) : List (String × Json) → Entries Json → Prop
  | [], _ => True
  | (key, value) :: rest, others =>
    (∀ field ∈ kind.storedFields, field.toKey = key →
      (field.omittedWhenNull = true ∧ value = .null → others.lookup key = none) ∧
        (¬(field.omittedWhenNull = true ∧ value = .null) → ∃ other, others.lookup key = some other ∧
          value.RestoredAs other)) ∧
      FieldsRestoredAs kind rest others

end

section Data

variable {members data : Entries Json}

theorem markMembers_false_of_noObject (noObject : ∀ data, members.lookup "data" ≠ some (.object data)) :
    markMembers false members = members := by
  obtain ⟨same, _⟩ | ⟨data, found, _⟩ := markMembers_false_cases (dataFits_of_noObject noObject)
  · exact same
  · exact absurd found (noObject data)

/-- What is written of an element that was read, beside its fields. -/
theorem dataRestored_markMembers (members : Entries Json) :
    DataRestored members (markMembers (takeExplicitMark members).1 (takeExplicitMark members).2) := by
  by_cases noObject : ∀ data, members.lookup "data" ≠ some (.object data)
  · rw [takeExplicitMark_of_noObject noObject, markMembers_false_of_noObject noObject]
    exact .noObject noObject
  · obtain ⟨data, found⟩ := not_forall_not.mp noObject
    rw [takeExplicitMark_of_lookup found]
    by_cases older : Entries.holdsAt data olderExplicitMark = true
    · have stillOlder : Entries.holdsAt (Entries.erase data explicitMark) olderExplicitMark = true := by
        rwa [holdsAt_erase_of_ne _ (by decide)]
      have holdsOther : Entries.erase data explicitMark ≠ [] := fun isEmpty => by
        rw [isEmpty] at stillOlder
        cases stillOlder
      have there := Entries.lookup_insert_self members "data" (.object (Entries.erase data explicitMark))
      rw [older, Bool.or_true, putData_of_ne _ holdsOther, markMembers_of_lookup true there, markData, if_pos rfl,
        if_pos stillOlder, putData_of_lookup there holdsOther]
      exact .older found older
    · have noOlder := Bool.eq_false_iff.mpr older
      rw [noOlder, Bool.or_false]
      by_cases isEmpty : Entries.erase data explicitMark = []
      · have gone := Entries.lookup_erase_self members "data"
        rw [isEmpty, putData_nil, markMembers_of_absent _ gone]
        cases mark : Entries.holdsAt data explicitMark with
        | true =>
          have isMarked : markData true [] = [(explicitMark, .bool true)] := rfl
          rw [isMarked, putData_of_ne _ (List.cons_ne_nil _ _), Entries.insert_of_absent _ gone]
          exact .onlyMark found mark isEmpty
        | false =>
          have noMark : markData false [] = [] := rfl
          rw [noMark, putData_nil, Entries.erase_of_absent gone, ← putData_nil]
          exact .unmarked found noOlder mark (by rw [isEmpty]) fun _ => isEmpty.symm
      · have there := Entries.lookup_insert_self members "data" (.object (Entries.erase data explicitMark))
        rw [putData_of_ne _ isEmpty, markMembers_of_lookup _ there]
        cases mark : Entries.holdsAt data explicitMark with
        | true =>
          have unmarked := Entries.lookup_erase_self data explicitMark
          rw [markData, if_pos rfl, holdsAt_erase_of_ne _ (by decide), if_neg older,
            Entries.insert_of_absent _ unmarked,
            putData_of_ne _ (List.append_ne_nil_of_right_ne_nil _ (List.cons_ne_nil _ _)), Entries.insert_insert]
          exact .marked found noOlder mark isEmpty
        | false =>
          rw [markData, if_neg Bool.false_ne_true, putData_insert]
          refine .unmarked found noOlder mark (Entries.erase_of_absent (Entries.lookup_erase_self _ _))
            fun absent => ?_
          exact Entries.erase_of_absent (by rwa [Entries.lookup_erase_of_ne _ (by decide)])

end Data

theorem Kind.eq_text_of_ofType {type : Json} {kind : Kind} (isKind : Kind.ofType type = .ok kind) :
    type = .text kind.name := by
  unfold Kind.ofType at isKind
  split at isKind
  · rename_i name
    split at isKind
    · rename_i found
      cases isKind
      unfold Kind.ofName? at found
      have sameName := List.find?_some found
      rw [beq_iff_eq.mp sameName]
    · cases isKind
  · cases isKind
  · cases isKind

/-- Nothing else reads as nothing. -/
theorem Value.isNull_read {data : Json} {value : Value} (read : Value.read data = .ok value) :
    value.isNull = true ↔ data = .null := by
  cases data with
  | scalar scalar =>
    cases read
    cases scalar <;> simp [Value.isNull]
  | array items =>
    obtain ⟨values, _, read⟩ := bind_eq_ok_iff.mp read
    cases read
    exact ⟨fun isNull => (by cases isNull), fun same => (by cases same)⟩
  | object members =>
    rw [Value.read] at read
    split at read
    · obtain ⟨node, _, read⟩ := bind_eq_ok_iff.mp read
      cases read
      exact ⟨fun isNull => (by cases isNull), fun same => (by cases same)⟩
    · cases read
      exact ⟨fun isNull => (by cases isNull), fun same => (by cases same)⟩

section Node

variable {kind : Kind} {members : Entries Json} {fields : List (Field × Value)}
  (distinct : (Json.object members).hasDistinctKeys = true)
  (assembled : Node.assembleFields (keptMembers kind members).1 (Value.readMembers members)
    kind.schema = .ok fields)

/-- What is written of a node that was read from these members, if these are the fields that it got. -/
def rewrittenMembers (kind : Kind) (members : Entries Json) (fields : List (Field × Value)) : Entries Json :=
  knownMembers kind fields ++ writtenMembers kind (explicitIn fields) (keptMembers kind members).2

include distinct assembled

theorem membersRestored_rewritten (type : members.lookup "type" = some (.text kind.name)) :
    MembersRestored kind members (rewrittenMembers kind members fields) := by
  have own := Node.names_assembled assembled
  have fits := Node.extraFits_assembled distinct assembled
  refine ⟨nodup_written own fits.unknownTo, type.symm, fun entry isUsual noMark absent => ?_, fun noElement => ?_,
    fun isElement => ?_⟩
  · obtain ⟨field, usual⟩ := entry
    obtain ⟨value, isValue, isRead⟩ := Node.lookup_assembled assembled (lookup_of_mem kind.nodup_fields isUsual)
    rw [Node.reading, if_neg noMark, lookup_readMembers, absent] at isRead
    cases isRead
    refine (lookup_written own fits.unknownTo (mem_of_lookup isValue) noMark).trans ?_
    cases omitted : field.omittedWhenNull with
    | false => rfl
    | true =>
      rw [Kind.usual_eq_null isUsual omitted]
      rfl
  · refine (unknownMembers_written own fits.unknownTo _).trans ?_
    rw [writtenMembers, if_neg noElement, keptMembers, if_neg noElement]
  · have isMark : explicitIn fields = (keptMembers kind members).1 := by
      subst isElement
      rw [explicitIn, Node.lookup_mark assembled]
      rfl
    rw [rewrittenMembers, unknownMembers_written own fits.unknownTo, writtenMembers, if_pos isElement,
      isMark, keptMembers, if_pos isElement]
    exact dataRestored_markMembers _

/-- Under the key of a field that was given stands what is written of what it is read as. -/
theorem lookup_rewritten {field : Field} (stored : field ∈ kind.storedFields) {data : Json}
    (given : members.lookup field.toKey = some data) :
    ∃ value, Value.read data = .ok value ∧ (rewrittenMembers kind members fields).lookup field.toKey =
      if field.omittedWhenNull && value.isNull then none else some value.write := by
  have own := Node.names_assembled assembled
  have fits := Node.extraFits_assembled distinct assembled
  obtain ⟨inFields, noMark⟩ := List.mem_filter.mp stored
  rw [bne_iff_ne] at noMark
  obtain ⟨⟨_, usual⟩, isUsual, rfl⟩ := List.mem_map.mp inFields
  obtain ⟨value, isValue, isRead⟩ := Node.lookup_assembled assembled (lookup_of_mem kind.nodup_fields isUsual)
  rw [Node.reading, if_neg noMark, lookup_readMembers, given] at isRead
  exact ⟨value, isRead, lookup_written own fits.unknownTo (mem_of_lookup isValue) noMark⟩

end Node

mutual

/-- Data that is read is restored when it is written. -/
theorem restoredAs_write :
    ∀ (data : Json) {value : Value}, data.hasDistinctKeys = true → Value.read data = .ok value →
    data.RestoredAs value.write
  | .scalar scalar, value, _, read => by
    cases read
    rfl
  | .array items, value, distinct, read => by
    obtain ⟨values, areValues, read⟩ := bind_eq_ok_iff.mp read
    cases read
    exact ⟨_, rfl, itemsRestoredAs_write items distinct areValues⟩
  | .object members, value, distinct, read => by
    rw [Json.RestoredAs]
    cases found : members.lookup "type" with
    | none =>
      simp only [Value.read, found] at read
      cases read
      exact write_ofJson (.object members)
    | some type =>
      rw [Value.read_object_of_type found] at read
      cases isNode : Node.read (.object members) with
      | error =>
        rw [isNode] at read
        cases read
      | ok node =>
        rw [isNode] at read
        cases read
        obtain ⟨_, kind, fields, isType, isKind, assembled, rfl⟩ := Node.read_eq_ok_iff.mp isNode
        obtain rfl := Option.some.inj (found.symm.trans isType)
        obtain rfl := Kind.eq_text_of_ofType isKind
        have fits := Node.extraFits_assembled distinct assembled
        have written := Node.write_eq (Node.names_assembled assembled) fits.unknownTo []
        refine ⟨kind, rewrittenMembers kind members fields, isKind, written,
          membersRestored_rewritten distinct assembled found, ?_⟩
        have apart := (hasDistinctKeys_object.mp distinct).1
        have values : membersHaveDistinctKeys members = true := (Bool.and_eq_true_iff.mp distinct).2
        refine fieldsRestoredAs_write kind members values fun entry member field stored isKey => ?_
        rw [← isKey]
        exact lookup_rewritten distinct assembled stored (isKey ▸ lookup_of_mem apart member)

theorem itemsRestoredAs_write : ∀ (items : List Json) {values : List Value}, itemsHaveDistinctKeys items = true →
    Value.readItems items = .ok values → ItemsRestoredAs items (writeItems values)
  | [], _, _, read => by
    cases read
    rfl
  | item :: rest, _, distinct, read => by
    rw [itemsHaveDistinctKeys, Bool.and_eq_true] at distinct
    obtain ⟨value, isValue, read⟩ := bind_eq_ok_iff.mp read
    obtain ⟨values, areValues, read⟩ := bind_eq_ok_iff.mp read
    cases read
    exact ⟨_, _, rfl, restoredAs_write item distinct.1 isValue, itemsRestoredAs_write rest distinct.2 areValues⟩

/-- Members are restored if what is written under the keys of the kind is what they are read as. -/
theorem fieldsRestoredAs_write (kind : Kind) : ∀ (rest : List (String × Json)) {others : Entries Json},
    membersHaveDistinctKeys rest = true →
    (∀ entry ∈ rest, ∀ field ∈ kind.storedFields, field.toKey = entry.1 → ∃ value, Value.read entry.2 = .ok value ∧
      others.lookup entry.1 = if field.omittedWhenNull && value.isNull then none else some value.write) →
    FieldsRestoredAs kind rest others
  | [], _, _, _ => trivial
  | (key, data) :: rest, others, distinct, written => by
    rw [membersHaveDistinctKeys, Bool.and_eq_true] at distinct
    refine ⟨fun field stored isKey => ?_, fieldsRestoredAs_write kind rest distinct.2 fun entry member =>
      written entry (List.mem_cons_of_mem _ member)⟩
    obtain ⟨value, isRead, found⟩ := written _ List.mem_cons_self field stored isKey
    have isNothing := Value.isNull_read isRead
    rw [found]
    refine ⟨fun leftOut => ?_, fun given => ?_⟩
    · rw [if_pos (Bool.and_eq_true_iff.mpr ⟨leftOut.1, isNothing.mpr leftOut.2⟩)]
    · rw [if_neg fun leftOut => given ((Bool.and_eq_true_iff.mp leftOut).imp_right isNothing.mp)]
      exact ⟨_, rfl, restoredAs_write data distinct.1 isRead⟩

end

/-- What reads as a node has a written form, in which it is restored. -/
theorem Node.toJson_read {data : Json} (distinct : data.hasDistinctKeys = true) {node : Node}
    (read : Node.read data = .ok node) :
    ∃ written, node.toJson = .ok written ∧ data.RestoredAs written :=
  ⟨node.write, if_pos (Node.alike_read false distinct read).isWritable,
    restoredAs_write data distinct (Value.read_node read)⟩

/-- `<b />` with the mark, a position and no `children`. -/
theorem Node.toJson_read_marked :
    let name := Json.object [("type", .text "JSXIdentifier"), ("name", .text "b")]
    let opening := Json.object [("type", .text "JSXOpeningElement"), ("name", name), ("start", .int 0)]
    let element := Json.object [("type", .text "JSXElement"), ("start", .int 0),
      ("data", .object [(explicitMark, .bool true), ("line", .int 7)]), ("openingElement", opening)]
    element.hasDistinctKeys = true ∧ ∃ node written, Node.read element = .ok node ∧ node.toJson = .ok written ∧
      element.RestoredAs written := by
  intro name opening element
  obtain ⟨node, read⟩ : ∃ node, Node.read element = .ok node := ⟨_, rfl⟩
  obtain ⟨written, isWritten, restored⟩ := Node.toJson_read rfl read
  exact ⟨rfl, node, written, read, isWritten, restored⟩

/-- The `data` of an element is lost if it is empty, and it comes behind the position if it held nothing but the
mark. -/
theorem Node.toJson_read_changes_data :
    let element := fun (data : Entries Json) =>
      Json.object [("type", .text "JSXElement"), ("data", .object data), ("start", .int 0)]
    (∃ node written, Node.read (element []) = .ok node ∧ node.toJson = .ok (.object written) ∧
      written.lookup "data" = none) ∧
    ∃ node written, Node.read (element [(explicitMark, .bool true)]) = .ok node ∧
      node.toJson = .ok (.object written) ∧
      (unknownMembers .jsxElement written).map (·.1) = ["start", "data"] :=
  ⟨⟨_, _, rfl, rfl, rfl⟩, _, _, rfl, rfl, rfl⟩

end JsxRouting
