import JsxRouting.Proofs.JsonText
import JsxRouting.Proofs.ReloadedTrees
import JsxRouting.Tree.Text
import Mathlib

namespace JsxRouting

section Members

variable {members : Entries Json}

theorem isReadable_object : (Json.object members).IsReadable ↔
    (members.map (·.1)).Nodup ∧ ∀ entry ∈ members, entry.2.IsReadable := by
  rw [Json.IsReadable, membersReadable_iff]

theorem isReadable_filter (readable : (Json.object members).IsReadable) (keeps : String × Json → Bool) :
    (Json.object (members.filter keeps)).IsReadable := by
  rw [isReadable_object] at readable ⊢
  exact ⟨readable.1.sublist (List.filter_sublist.map _), fun entry member =>
    readable.2 entry (List.mem_filter.mp member).1⟩

theorem isReadable_insert (readable : (Json.object members).IsReadable) (key : String) {value : Json}
    (value_readable : value.IsReadable) : (Json.object (Entries.insert members key value)).IsReadable := by
  rw [isReadable_object] at readable ⊢
  refine ⟨Entries.nodup_insert readable.1 key value, fun entry member => ?_⟩
  obtain rfl | member := Entries.mem_insert member
  · exact value_readable
  · exact readable.2 entry member

theorem isReadable_of_lookup (readable : (Json.object members).IsReadable) {key : String} {value : Json}
    (found : members.lookup key = some value) : value.IsReadable :=
  (isReadable_object.mp readable).2 _ (mem_of_lookup found)

theorem isReadable_putData (readable : (Json.object members).IsReadable) {data : Entries Json}
    (values : (Json.object data).IsReadable) : (Json.object (putData data members)).IsReadable := by
  unfold putData
  split
  · exact isReadable_filter readable _
  · exact isReadable_insert readable "data" values

theorem isReadable_markData (explicit : Bool) {data : Entries Json} (readable : (Json.object data).IsReadable) :
    (Json.object (markData explicit data)).IsReadable := by
  unfold markData
  split
  · split
    · exact readable
    · exact isReadable_insert readable explicitMark trivial
  · exact isReadable_filter readable _

theorem isReadable_takeExplicitMark (readable : (Json.object members).IsReadable) :
    (Json.object (takeExplicitMark members).2).IsReadable := by
  by_cases isObject : ∃ data, members.lookup "data" = some (.object data)
  · obtain ⟨data, found⟩ := isObject
    rw [takeExplicitMark_of_lookup found]
    exact isReadable_putData readable (isReadable_filter (isReadable_of_lookup readable found) _)
  · rw [takeExplicitMark_of_noObject fun data found => isObject ⟨data, found⟩]
    exact readable

theorem isReadable_markMembers (explicit : Bool) (readable : (Json.object members).IsReadable) :
    (Json.object (markMembers explicit members)).IsReadable := by
  cases found : members.lookup "data" with
  | none =>
    rw [markMembers_of_absent explicit found]
    exact isReadable_putData readable (isReadable_markData explicit ⟨.nil, trivial⟩)
  | some value =>
    cases value with
    | object data =>
      rw [markMembers_of_lookup explicit found]
      exact isReadable_putData readable (isReadable_markData explicit (isReadable_of_lookup readable found))
    | scalar | array =>
      simp only [markMembers, found]
      exact readable

/-- What is written behind the fields of a node that is read from members. -/
theorem isReadable_writtenMembers (kind : Kind) (explicit : Bool) (readable : (Json.object members).IsReadable) :
    (Json.object (writtenMembers kind explicit (keptMembers kind members).2)).IsReadable := by
  have unknown : (Json.object (unknownMembers kind members)).IsReadable := isReadable_filter readable _
  unfold writtenMembers keptMembers
  split
  · exact isReadable_markMembers explicit (isReadable_takeExplicitMark unknown)
  · exact unknown

end Members

mutual

/-- In what texts give, every object has each of its keys once. -/
theorem Json.IsReadable.distinct : ∀ {data : Json}, data.IsReadable → data.hasDistinctKeys = true
  | .scalar _, _ => rfl
  | .array _, readable => distinct_items readable
  | .object _, readable => Bool.and_eq_true_iff.mpr ⟨decide_eq_true readable.1, distinct_members readable.2⟩

theorem distinct_items : ∀ {items : List Json}, ItemsReadable items → itemsHaveDistinctKeys items = true
  | [], _ => rfl
  | _ :: _, readable => Bool.and_eq_true_iff.mpr ⟨readable.1.distinct, distinct_items readable.2⟩

theorem distinct_members :
    ∀ {members : List (String × Json)}, MembersReadable members → membersHaveDistinctKeys members = true
  | [], _ => rfl
  | (_, _) :: _, readable => Bool.and_eq_true_iff.mpr ⟨readable.1.distinct, distinct_members readable.2⟩

end

/-- Whether a value is a word, a truth value, nothing, or something empty. -/
def Value.isNumberless : Value → Bool
  | .scalar (.int _) | .scalar (.real _) => false
  | .scalar _ | .list [] | .object [] => true
  | _ => false

/-- The usual values of fields are as texts give them: none is a number. -/
theorem isReadable_usual {kind : Kind} {usual : Field × Value} (isUsual : usual ∈ kind.schema) :
    usual.2.write.IsReadable := by
  have numberless : kind.schema.all (·.2.isNumberless) = true := by cases kind <;> rfl
  have isNumberless := List.all_eq_true.mp numberless usual isUsual
  obtain ⟨_, value⟩ := usual
  cases value with
  | scalar value =>
    cases value with
    | null | bool | text => trivial
    | int | real => cases isNumberless
  | list items =>
    cases items with
    | nil => trivial
    | cons => cases isNumberless
  | object members =>
    cases members with
    | nil => exact ⟨.nil, trivial⟩
    | cons => cases isNumberless
  | node => cases isNumberless

/-- A node is written as texts give it if that holds of what is written of the readings of its members. -/
theorem isReadable_writtenNode {members : Entries Json} {node : Node} (readable : (Json.object members).IsReadable)
    (values : ∀ entry ∈ members, ∀ value, Value.read entry.2 = .ok value → value.write.IsReadable)
    (read : Node.read (.object members) = .ok node) : node.write.IsReadable := by
  obtain ⟨type, kind, fields, _, _, assembled, rfl⟩ := Node.read_eq_ok_iff.mp read
  have distinct := readable.distinct
  have own := Node.names_assembled assembled
  have fits := Node.extraFits_assembled distinct assembled
  rw [Node.write_eq own fits.unknownTo, isReadable_object]
  refine ⟨nodup_written own fits.unknownTo, fun entry member => ?_⟩
  obtain known | unknown := List.mem_append.mp member
  · obtain rfl | isField := List.mem_cons.mp known
    · trivial
    · obtain ⟨field, value, inFields, written, rfl⟩ := mem_writeFields isField
      obtain ⟨usual, isUsual, same, isRead⟩ := Node.mem_assembled assembled inFields
      obtain rfl : field = usual.1 := same
      have noMark : usual.1 ≠ .explicit := by
        intro isMark
        rw [isMark] at written
        cases written
      rw [Node.reading, if_neg noMark, lookup_readMembers] at isRead
      cases found : members.lookup usual.1.toKey with
      | none =>
        rw [found] at isRead
        cases isRead
        exact isReadable_usual isUsual
      | some data =>
        rw [found] at isRead
        exact values _ (mem_of_lookup found) value isRead
  · exact (isReadable_object.mp (isReadable_writtenMembers kind (explicitIn fields) readable)).2 entry unknown

mutual

/-- What is read from a text is written as texts give it. -/
theorem isReadable_write : ∀ (data : Json) {value : Value}, data.IsReadable → Value.read data = .ok value →
    value.write.IsReadable
  | .scalar scalar, value, readable, read => by
    cases read
    exact readable
  | .array items, value, readable, read => by
    obtain ⟨values, areValues, read⟩ := bind_eq_ok_iff.mp read
    cases read
    exact isReadable_writeItems items readable areValues
  | .object members, value, readable, read => by
    cases found : members.lookup "type" with
    | none =>
      simp only [Value.read, found] at read
      cases read
      have same : (Value.object (ofJsonMembers members)).write = .object members := write_ofJson (.object members)
      rw [same]
      exact readable
    | some type =>
      rw [Value.read_object_of_type found] at read
      obtain ⟨node, isNode, rfl⟩ := map_eq_ok_iff.mp read
      exact isReadable_writtenNode readable (isReadable_writeMembers members readable.2) isNode

theorem isReadable_writeItems : ∀ (items : List Json) {values : List Value}, ItemsReadable items →
    Value.readItems items = .ok values → ItemsReadable (writeItems values)
  | [], _, _, read => by
    cases read
    trivial
  | item :: rest, _, readable, read => by
    obtain ⟨value, isValue, read⟩ := bind_eq_ok_iff.mp read
    obtain ⟨values, areValues, read⟩ := bind_eq_ok_iff.mp read
    cases read
    exact ⟨isReadable_write item readable.1 isValue, isReadable_writeItems rest readable.2 areValues⟩

theorem isReadable_writeMembers : ∀ members : List (String × Json), MembersReadable members →
    ∀ entry ∈ members, ∀ value, Value.read entry.2 = .ok value → value.write.IsReadable
  | [], _ => nofun
  | (_, data) :: rest, readable =>
    List.forall_mem_cons.mpr ⟨fun _ isValue => isReadable_write data readable.1 isValue,
      isReadable_writeMembers rest readable.2⟩

end

namespace Node

/-- What is parsed is data with each key once in every object, read as a node. -/
theorem read_of_parse {text : String} {tree : Node} (parsed : parse text = .ok tree) :
    ∃ data : Json, data.IsReadable ∧ read data = .ok tree := by
  unfold parse at parsed
  split at parsed
  · rename_i data isData
    exact ⟨data, Json.isReadable_of_parse isData, parsed⟩
  · cases parsed

/-- A tree that is parsed is written as texts give data. -/
theorem isReadable_of_parse {text : String} {tree : Node} (parsed : parse text = .ok tree) :
    tree.write.IsReadable := by
  obtain ⟨data, readable, isRead⟩ := read_of_parse parsed
  exact isReadable_write data readable (Value.read_node isRead)

theorem fromData_of_parse {text : String} {tree : Node} (parsed : parse text = .ok tree) : tree.FromData := by
  obtain ⟨data, readable, isRead⟩ := read_of_parse parsed
  exact .read readable.distinct isRead

/-- A tree from data is written as what it is read again as. -/
theorem FromData.toJson_settled {tree : Node} (fromData : tree.FromData) :
    tree.toJson = .ok tree.write ∧ tree.settled.toJson = .ok tree.write := by
  have alike : tree.Alike .reloading false tree.settled := fromData.alike.settled_right
  refine ⟨if_pos fromData.alike.isWritable, ?_⟩
  have same : tree.settled.write = tree.write := alike.write
  unfold toJson
  rw [if_pos alike.symm.isWritable, same]

/-- A tree that is parsed is written, with any indentation, as a text that is parsed again, and what is then written
with any indentation is what is written of the tree. -/
theorem print_reparsed {text : String} {tree : Node} (parsed : parse text = .ok tree) (first second : Option Int) :
    ∃ written again, tree.print first = .ok written ∧ parse written = .ok again ∧
      again.print second = tree.print second ∧
      (fitsText first = true → tree.printFitting first = .ok written) ∧
        again.printFitting second = tree.printFitting second := by
  have fromData := fromData_of_parse parsed
  obtain ⟨isWritten, settledWritten⟩ := fromData.toJson_settled
  have readable := isReadable_of_parse parsed
  have printed : tree.print first = .ok (tree.write.print first) := by
    unfold print
    rw [isWritten]
    rfl
  have isRead : Node.read tree.write = .ok tree.settled := fromData.alike.read_write
  have isParsed : parse (tree.write.print first) = .ok tree.settled := by
    unfold parse
    rw [Json.parse_print readable first]
    exact isRead
  have same : tree.settled.print second = tree.print second := by
    unfold print
    rw [settledWritten, isWritten]
  refine ⟨tree.write.print first, tree.settled, printed, isParsed, same, fun fits => ?_, ?_⟩
  · rw [printFitting, if_pos fits]
    exact printed
  · rw [printFitting, printFitting, same]

/-- An identifier as text, with a repeated key, an escaped character, and a member that its kind does not know. -/
def shuffledText : String :=
  "\x7b\"name\": \"b\", \"start\": 1, \"type\": \"Identifier\", \"name\": \"\\u0061\"\x7d"

theorem print_reparsed_shuffled :
    ∃ tree written again, parse shuffledText = .ok tree ∧ tree.print (some 2) = .ok written ∧
      parse written = .ok again ∧ again.print none = tree.print none := by
  have parsed : parse shuffledText =
    .ok (.mk .identifier [(.name, .text "a")] (.object [("start", .scalar (.int 1))]) []) := by
    cbv
  obtain ⟨written, again, printed, reparsed, same, _⟩ := print_reparsed parsed (some 2) none
  exact ⟨_, written, again, parsed, printed, reparsed, same⟩

end Node

end JsxRouting
