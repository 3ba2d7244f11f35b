import JsxRouting.Proofs.WrittenNodes

namespace JsxRouting

/-- Whether there is a place for the mark of an element: its `data` is an object, or there is none yet. -/
def takesMark (members : Entries Json) : Bool :=
  match members.lookup "data" with
  | none | some (.object _) => true
  | some _ => false

/-- What is in the `data` of an element, if it is an object. -/
def dataOf (members : Entries Json) : Entries Json :=
  match members.lookup "data" with
  | some (.object data) => data
  | _ => []

/-- The entries of `data` that are no mark, in their order. -/
def withoutMarks (data : Entries Json) : Entries Json :=
  Entries.erase (Entries.erase data explicitMark) olderExplicitMark

/-- Whether a mark in the `data` holds. -/
def isMarked (data : Entries Json) : Bool :=
  Entries.holdsAt data explicitMark || Entries.holdsAt data olderExplicitMark

section Data

variable {data members others : Entries Json}

theorem takesMark_congr (same : members.lookup "data" = others.lookup "data") :
    takesMark members = takesMark others := by
  rw [takesMark, same, takesMark]

theorem dataOf_congr (same : members.lookup "data" = others.lookup "data") : dataOf members = dataOf others := by
  rw [dataOf, same, dataOf]

/-- The mark that is put into `data` without a newer mark is found there. -/
theorem isMarked_markData (explicit : Bool) (unmarked : data.lookup explicitMark = none) :
    isMarked (markData explicit data) = explicit := by
  have noMark : Entries.holdsAt data explicitMark = false := by
    unfold Entries.holdsAt
    rw [unmarked]
  cases explicit with
  | true =>
    rw [markData, if_pos rfl]
    split
    · rename_i older
      rw [isMarked, older, Bool.or_true]
    · have marked : Entries.holdsAt (Entries.insert data explicitMark (.bool true)) explicitMark = true := by
        unfold Entries.holdsAt
        rw [Entries.lookup_insert_self]
        rfl
      rw [isMarked, marked, Bool.true_or]
  | false =>
    have noOlder : Entries.holdsAt (Entries.erase data olderExplicitMark) olderExplicitMark = false := by
      unfold Entries.holdsAt
      rw [Entries.lookup_erase_self]
    rw [markData, if_neg Bool.false_ne_true, isMarked, noOlder, holdsAt_erase_of_ne _ (by decide),
      noMark, Bool.or_false]

theorem Entries.erase_comm (data : Entries Json) (key other : String) :
    Entries.erase (Entries.erase data key) other = Entries.erase (Entries.erase data other) key := by
  unfold Entries.erase
  rw [List.filter_filter, List.filter_filter]
  exact List.filter_congr fun entry _ => Bool.and_comm _ _

/-- Marking changes no other entry. -/
theorem withoutMarks_markData (explicit : Bool) (data : Entries Json) :
    withoutMarks (markData explicit data) = withoutMarks data := by
  unfold markData withoutMarks
  split
  · split
    · rfl
    · rw [Entries.erase_insert]
  · rw [Entries.erase_comm data, Entries.erase_of_absent (Entries.lookup_erase_self _ olderExplicitMark)]

theorem withoutMarks_erase (data : Entries Json) :
    withoutMarks (Entries.erase data explicitMark) = withoutMarks data := by
  rw [withoutMarks, Entries.erase_of_absent (Entries.lookup_erase_self data explicitMark), withoutMarks]

theorem lookup_putData (data members : Entries Json) :
    (putData data members).lookup "data" = if data.isEmpty then none else some (.object data) := by
  unfold putData
  split
  · exact Entries.lookup_erase_self _ _
  · exact Entries.lookup_insert_self _ _ _

theorem takesMark_putData (data members : Entries Json) : takesMark (putData data members) = true := by
  rw [takesMark, lookup_putData]
  cases data.isEmpty <;> rfl

theorem dataOf_putData (data members : Entries Json) : dataOf (putData data members) = data := by
  rw [dataOf, lookup_putData]
  cases isEmpty : data.isEmpty with
  | true => exact (List.isEmpty_iff.mp isEmpty).symm
  | false => rfl

/-- The mark is taken out of the `data` that there is. -/
theorem takeExplicitMark_eq (takes : takesMark members = true) :
    takeExplicitMark members =
      (isMarked (dataOf members), putData (Entries.erase (dataOf members) explicitMark) members) := by
  unfold takesMark dataOf at *
  cases found : members.lookup "data" with
  | none =>
    have gone : putData [] members = members := by rw [putData_nil, Entries.erase_of_absent found]
    rw [takeExplicitMark_of_noObject fun data => by rw [found]; nofun]
    exact Prod.ext rfl gone.symm
  | some value =>
    cases value with
    | object data => exact takeExplicitMark_of_lookup found
    | scalar | array =>
      rw [found] at takes
      cases takes

/-- The mark is put into the `data` that there is. -/
theorem markMembers_eq (explicit : Bool) (takes : takesMark members = true) :
    markMembers explicit members = putData (markData explicit (dataOf members)) members := by
  unfold takesMark dataOf at *
  cases found : members.lookup "data" with
  | none => exact markMembers_of_absent explicit found
  | some value =>
    cases value with
    | object data => exact markMembers_of_lookup explicit found
    | scalar | array =>
      rw [found] at takes
      cases takes

/-- Where there is no place for a mark, none is found and none is put in. -/
theorem marks_of_noPlace (explicit : Bool) (noPlace : takesMark members = false) :
    takeExplicitMark members = (false, members) ∧ markMembers explicit members = members := by
  unfold takesMark at noPlace
  cases found : members.lookup "data" with
  | none =>
    rw [found] at noPlace
    cases noPlace
  | some value =>
    cases value with
    | object =>
      rw [found] at noPlace
      cases noPlace
    | scalar | array =>
      refine ⟨takeExplicitMark_of_noObject fun data => by rw [found]; nofun, ?_⟩
      unfold markMembers
      rw [found]

/-- What is written beside the fields of an element that was read, once it is given a mark. -/
def remarked (explicit : Bool) (members : Entries Json) : Entries Json :=
  markMembers explicit (takeExplicitMark members).2

/-- With a place for it, the mark that is given is put into what was left of the `data` when the element was
read. -/
theorem remarked_eq (explicit : Bool) (takes : takesMark members = true) :
    let left := Entries.erase (dataOf members) explicitMark
    remarked explicit members = putData (markData explicit left) (putData left members) := by
  intro left
  rw [remarked, takeExplicitMark_eq takes, markMembers_eq _ (takesMark_putData _ _), dataOf_putData]

/-- The mark that is given is found again if there is a place for it. -/
theorem mark_remarked (explicit : Bool) (members : Entries Json) :
    (takeExplicitMark (remarked explicit members)).1 = (explicit && takesMark members) := by
  cases takes : takesMark members with
  | true =>
    rw [remarked_eq explicit takes, takeExplicitMark_eq (takesMark_putData _ _), dataOf_putData, Bool.and_true]
    exact isMarked_markData explicit (Entries.lookup_erase_self _ _)
  | false =>
    obtain ⟨taken, marked⟩ := marks_of_noPlace explicit takes
    rw [remarked, taken, marked, taken, Bool.and_false]

/-- What else is in the `data` stays as it was. -/
theorem withoutMarks_remarked (explicit : Bool) (members : Entries Json) :
    withoutMarks (dataOf (remarked explicit members)) = withoutMarks (dataOf members) := by
  cases takes : takesMark members with
  | true => rw [remarked_eq explicit takes, dataOf_putData, withoutMarks_markData, withoutMarks_erase]
  | false =>
    obtain ⟨taken, marked⟩ := marks_of_noPlace explicit takes
    rw [remarked, taken, marked]

end Data

/-- What stands under a key that the kind does not know stands among the members that it does not know. -/
theorem lookup_unknownMembers {kind : Kind} {key : String} (noType : key ≠ "type") (unknown : key ∉ kind.keys)
    (members : Entries Json) : (unknownMembers kind members).lookup key = members.lookup key := by
  induction members with
  | nil => rfl
  | cons entry rest ih =>
    obtain ⟨other, value⟩ := entry
    rw [unknownMembers, List.filter_cons]
    split
    · rw [List.lookup_cons, List.lookup_cons]
      split
      · rfl
      · exact ih
    · rename_i known
      have differs : (key == other) = false := by
        refine beq_eq_false_iff_ne.mpr ?_
        rintro rfl
        simp [noType, unknown] at known
      rw [List.lookup_cons, differs]
      exact ih

/-- The fields of an element with this mark. -/
def markedFields (explicit : Bool) (fields : List (Field × Value)) : List (Field × Value) :=
  fields.map fun entry => if entry.1 = .explicit then (.explicit, .bool explicit) else entry

section Fields

variable {fields : List (Field × Value)} {old : Value} (explicit : Bool)

/-- Setting the mark of an element replaces the one that it has. -/
theorem Node.set_explicit (kind : Kind) (extra : Value) (attached : List (String × Value))
    (there : fields.lookup .explicit = some old) :
    (Node.mk kind fields extra attached).set .explicit (.bool explicit) =
      .mk kind (markedFields explicit fields) extra attached := by
  have isSome : ((Node.mk kind fields extra attached).fields.lookup .explicit).isSome = true := by
    show (fields.lookup .explicit).isSome = true
    rw [there]
    rfl
  rw [Node.set, if_pos isSome]
  rfl

theorem names_markedFields (fields : List (Field × Value)) :
    (markedFields explicit fields).map (·.1) = fields.map (·.1) := by
  rw [markedFields, List.map_map]
  refine List.map_congr_left fun entry _ => ?_
  rw [Function.comp_apply]
  split
  · rename_i isExplicit
    exact isExplicit.symm
  · rfl

theorem alike_markedFields (alike : List.Forall₂ (FieldAlike .reloading) fields fields) :
    List.Forall₂ (FieldAlike .reloading) (markedFields explicit fields) (markedFields explicit fields) := by
  refine List.forall₂_same.mpr fun entry member => ?_
  obtain ⟨entry, inFields, rfl⟩ := List.mem_map.mp member
  split
  · exact .refl_scalar _ _
  · exact List.forall₂_same.mp alike entry inFields

theorem explicitIn_markedFields (there : fields.lookup .explicit = some old) :
    explicitIn (markedFields explicit fields) = explicit := by
  have replaced := lookup_replaced fields .explicit .explicit (.bool explicit)
  rw [if_pos rfl, there] at replaced
  rw [explicitIn, markedFields, replaced]
  rfl

end Fields

section Element

variable {fields : List (Field × Value)} {members : Entries Json} (own : fields.map (·.1) = Kind.jsxElement.fields)
  (alike : List.Forall₂ (FieldAlike .reloading) fields fields) (apart : UnknownTo .jsxElement members)

/-- What is written of an element with these fields and these members beside them. -/
def elementMembers (fields : List (Field × Value)) (members : Entries Json) : Entries Json :=
  knownMembers .jsxElement fields ++ markMembers (explicitIn fields) members

include own

/-- The `data` of an element is written beside its fields. -/
theorem lookup_data_elementMembers (members : Entries Json) :
    (elementMembers fields members).lookup "data" = (markMembers (explicitIn fields) members).lookup "data" := by
  rw [elementMembers, Entries.lookup_append,
    lookup_knownMembers_of_unknown own (by decide) (by decide), Option.none_or]

include alike apart

theorem Node.toJson_element :
    (Node.mk .jsxElement fields (.object (ofJsonMembers members)) []).toJson =
      .ok (.object (elementMembers fields members)) := by
  have writable : (Node.mk .jsxElement fields (.object (ofJsonMembers members)) []).isWritable = true := by
    rw [Node.isWritable, writableFields_alike alike, isWritableExtra_ofJsonMembers, Bool.and_true]
  rw [Node.toJson, if_pos writable, Node.write_eq own apart]
  rfl

/-- An element is read from what it is written as, with the mark that is found there. -/
theorem Node.exists_read_elementMembers :
    ∃ again, Node.read (.object (elementMembers fields members)) = .ok again ∧ again.kind = .jsxElement ∧
      again.get? .explicit = some (.bool (takeExplicitMark (markMembers (explicitIn fields) members)).1) := by
  let mark := (takeExplicitMark (markMembers (explicitIn fields) members)).1
  have isMark : (keptMembers .jsxElement (elementMembers fields members)).1 = mark := by
    have unknown := unknownMembers_written own apart (explicitIn fields)
    have behind : writtenMembers .jsxElement (explicitIn fields) members = markMembers
      (explicitIn fields) members := rfl
    rw [behind] at unknown
    rw [keptMembers, if_pos rfl, elementMembers, unknown]
  have assembled : assembleFields (keptMembers .jsxElement (elementMembers fields members)).1
      (Value.readMembers (elementMembers fields members)) Kind.jsxElement.schema =
        .ok (fields.map fun entry => (entry.1, if entry.1 = .explicit then .bool mark else entry.2.settled)) := by
    rw [isMark, assembleFields_eq_ok_iff, List.forall₂_map_right_iff]
    refine forall₂_of_names own fun usual entry isUsual member same => ⟨same, ?_⟩
    obtain ⟨field, usual⟩ := usual
    obtain ⟨_, value⟩ := entry
    obtain rfl : _ = field := same
    split
    · rename_i isExplicit
      rw [reading, if_pos isExplicit]
    · rename_i noMark
      exact reading_written_of_ne own apart mark member isUsual noMark (read_writeFields alike _ member)
  have lookup := Node.lookup_mark assembled
  rw [isMark] at lookup
  exact ⟨_, Node.read_eq_ok_iff.mpr ⟨_, _, _, rfl, Kind.ofType_name .jsxElement, assembled, rfl⟩, rfl,
    Node.get?_of_lookup lookup⟩

end Element

/-- An element that was read is written with the mark that it is given, and read again. The mark is found if its
`data` is an object or was not given, and otherwise the `data` is written as it was. What else is in the `data` is
written as it was, in its order. -/
theorem Node.read_set_explicit {members : Entries Json} {element : Node}
    (distinct : (Json.object members).hasDistinctKeys = true) (read : Node.read (.object members) = .ok element)
    (isElement : element.kind = .jsxElement) (explicit : Bool) :
    ∃ written again, (element.set .explicit (.bool explicit)).toJson = .ok (.object written) ∧
      Node.read (.object written) = .ok again ∧ again.kind = .jsxElement ∧
      again.get? .explicit = some (.bool (explicit && takesMark members)) ∧
      withoutMarks (dataOf written) = withoutMarks (dataOf members) ∧
      (takesMark members = false → written.lookup "data" = members.lookup "data") := by
  have alike := Node.alike_read false distinct read
  obtain ⟨type, kind, fields, found, isKind, assembled, rfl⟩ := Node.read_eq_ok_iff.mp read
  obtain rfl : kind = .jsxElement := isElement
  obtain ⟨own, alike, _⟩ := alike
  have apart := (Node.extraFits_assembled distinct assembled).unknownTo
  have there := Node.lookup_mark assembled
  replace own := (names_markedFields explicit fields).trans own
  replace alike := alike_markedFields explicit alike
  obtain ⟨again, isAgain, kindAgain, markAgain⟩ := Node.exists_read_elementMembers own alike apart
  have isRemarked : markMembers (explicitIn (markedFields explicit fields)) (keptMembers .jsxElement members).2 =
      remarked explicit (unknownMembers .jsxElement members) := by
    rw [explicitIn_markedFields explicit there]
    rfl
  have unknownData : (unknownMembers .jsxElement members).lookup "data" = members.lookup "data" :=
    lookup_unknownMembers (by decide) (by decide) members
  have writtenData := lookup_data_elementMembers own (keptMembers .jsxElement members).2
  rw [isRemarked] at markAgain writtenData
  rw [Node.set_explicit explicit _ _ _ there]
  refine ⟨_, again, Node.toJson_element own alike apart, isAgain, kindAgain, ?_, ?_, fun noPlace => ?_⟩
  · rw [markAgain, mark_remarked, takesMark_congr unknownData]
  · rw [dataOf_congr writtenData, withoutMarks_remarked, dataOf_congr unknownData]
  · obtain ⟨taken, marked⟩ := marks_of_noPlace explicit ((takesMark_congr unknownData).trans noPlace)
    rw [writtenData, remarked, taken, marked, unknownData]

/-- An element with an older mark that does not hold, a newer one that does, and `1` under a key between them is not
explicit any more once it is said so, and has the `1` still. -/
theorem Node.read_set_explicit_mixed :
    let data : Entries Json :=
      [(olderExplicitMark, .bool false), ("other", .scalar (.int 1)), (explicitMark, .bool true)]
    ∃ element written again, Node.read
      (.object [("type", .text "JSXElement"), ("data", .object data)]) = .ok element ∧
      element.get? .explicit = some (.bool true) ∧
        (element.set .explicit (.bool false)).toJson = .ok (.object written) ∧
      Node.read (.object written) = .ok again ∧ again.get? .explicit = some (.bool false) ∧
      withoutMarks (dataOf written) = [("other", .scalar (.int 1))] := by
  intro data
  obtain ⟨element, read, isElement, isExplicit⟩ : ∃ element,
      Node.read (.object [("type", .text "JSXElement"), ("data", .object data)]) = .ok element ∧
        element.kind = .jsxElement ∧ element.get? .explicit = some (.bool true) := ⟨_, rfl, rfl, rfl⟩
  obtain ⟨written, again, isWritten, isAgain, _, isMark, others, _⟩ := read_set_explicit rfl read isElement false
  exact ⟨element, written, again, read, isExplicit, isWritten, isAgain, isMark, others⟩

/-- An element with `null` for its `data` that is made explicit is not explicit when it is written and read
again. -/
theorem Node.read_set_explicit_null :
    ∃ element written again, Node.read (.object [("type", .text "JSXElement"), ("data", .null)]) = .ok element ∧
      (element.set .explicit (.bool true)).toJson = .ok written ∧ Node.read written = .ok again ∧
      again.get? .explicit = some (.bool false) := ⟨_, _, _, rfl, rfl, rfl, rfl⟩

end JsxRouting
