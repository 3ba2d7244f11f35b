import JsxRouting.Proofs.TreeEdits
import JsxRouting.Tree.Equality
import JsxRouting.Tree.Writing

namespace JsxRouting

namespace Entries

variable {α β : Type}

theorem lookup_append (front back : Entries α) (key : String) :
    (front ++ back).lookup key = (front.lookup key).or (back.lookup key) := by
  induction front with
  | nil => rfl
  | cons entry rest ih =>
    rw [List.cons_append, List.lookup_cons, List.lookup_cons]
    split
    · rfl
    · exact ih

theorem insert_of_absent {entries : Entries α} {key : String} (value : α) (absent : entries.lookup key = none) :
    insert entries key value = entries ++ [(key, value)] := by
  induction entries with
  | nil => rfl
  | cons entry rest ih =>
    obtain ⟨first, old⟩ := entry
    rw [List.lookup_cons] at absent
    by_cases same : first = key
    · subst same
      rw [beq_self_eq_true] at absent
      cases absent
    · rw [beq_eq_false_iff_ne.mpr (Ne.symm same)] at absent
      rw [insert, if_neg same, ih absent, List.cons_append]

/-- A key that is not in front is written behind. -/
theorem insert_append {front : Entries α} {key : String} (back : Entries α) (value : α)
    (absent : front.lookup key = none) :
    insert (front ++ back) key value = front ++ insert back key value := by
  induction front with
  | nil => rfl
  | cons entry rest ih =>
    obtain ⟨first, old⟩ := entry
    rw [List.lookup_cons] at absent
    by_cases same : first = key
    · subst same
      rw [beq_self_eq_true] at absent
      cases absent
    · rw [beq_eq_false_iff_ne.mpr (Ne.symm same)] at absent
      rw [List.cons_append, insert, if_neg same, ih absent, List.cons_append]

theorem lookup_erase_self (entries : Entries α) (key : String) : (erase entries key).lookup key = none := by
  refine List.lookup_eq_none_iff.mpr fun entry member => ?_
  have differs := bne_iff_ne.mp (List.mem_filter.mp member).2
  exact bne_iff_ne.mpr (Ne.symm differs)

theorem lookup_erase_of_ne (entries : Entries α) {key other : String} (ne : other ≠ key) :
    (erase entries key).lookup other = entries.lookup other := by
  induction entries with
  | nil => rfl
  | cons entry rest ih =>
    obtain ⟨first, old⟩ := entry
    unfold erase at ih ⊢
    rw [List.filter_cons]
    by_cases same : first = key
    · subst same
      rw [bne_self_eq_false, if_neg Bool.false_ne_true, List.lookup_cons, beq_eq_false_iff_ne.mpr ne, ih]
    · rw [bne_iff_ne.mpr same, if_pos rfl, List.lookup_cons, List.lookup_cons, ih]

theorem mem_insert {entries : Entries α} {key : String} {value : α} {entry : String × α}
    (member : entry ∈ insert entries key value) : entry = (key, value) ∨ entry ∈ entries := by
  induction entries with
  | nil => exact .inl (List.mem_singleton.mp member)
  | cons first rest ih =>
    rw [insert] at member
    split at member
    · obtain here | there := List.mem_cons.mp member
      · exact .inl here
      · exact .inr (List.mem_cons_of_mem _ there)
    · obtain here | there := List.mem_cons.mp member
      · exact .inr (here ▸ List.mem_cons_self)
      · exact (ih there).imp_right (List.mem_cons_of_mem _)

theorem nodup_insert {entries : Entries α} (apart : (entries.map (·.1)).Nodup) (key : String) (value : α) :
    ((insert entries key value).map (·.1)).Nodup := by
  induction entries with
  | nil => exact List.nodup_cons.mpr ⟨nofun, .nil⟩
  | cons first rest ih =>
    obtain ⟨here, apart⟩ := List.nodup_cons.mp apart
    rw [insert]
    split
    · rename_i same
      subst same
      exact List.nodup_cons.mpr ⟨here, apart⟩
    · rename_i differs
      refine List.nodup_cons.mpr ⟨fun member => ?_, ih apart⟩
      obtain ⟨entry, isMember, same⟩ := List.mem_map.mp member
      obtain rfl | isMember := mem_insert isMember
      · exact differs same.symm
      · exact here (List.mem_map.mpr ⟨entry, isMember, same⟩)

theorem lookup_map (change : α → β) (entries : Entries α) (key : String) :
    List.lookup key (entries.map fun entry => (entry.1, change entry.2)) = (entries.lookup key).map change := by
  induction entries with
  | nil => rfl
  | cons entry rest ih =>
    rw [List.map_cons, List.lookup_cons, List.lookup_cons]
    split
    · rfl
    · exact ih

theorem erase_map (change : α → β) (entries : Entries α) (key : String) :
    erase (entries.map fun entry => (entry.1, change entry.2)) key =
      (erase entries key).map fun entry => (entry.1, change entry.2) := by
  unfold erase
  rw [List.filter_map]
  rfl

theorem insert_map (change : α → β) (entries : Entries α) (key : String) (value : α) :
    insert (entries.map fun entry => (entry.1, change entry.2)) key (change value) =
      (insert entries key value).map fun entry => (entry.1, change entry.2) := by
  induction entries with
  | nil => rfl
  | cons entry rest ih =>
    obtain ⟨first, old⟩ := entry
    rw [List.map_cons, insert, insert]
    split
    · rfl
    · rw [ih, List.map_cons]

end Entries

mutual

/-- Whether every object in the data has each of its keys once. -/
def Json.hasDistinctKeys : Json → Bool
  | .scalar _ => true
  | .array items => itemsHaveDistinctKeys items
  | .object members => decide (members.map (·.1)).Nodup && membersHaveDistinctKeys members

def itemsHaveDistinctKeys : List Json → Bool
  | [] => true
  | item :: rest => item.hasDistinctKeys && itemsHaveDistinctKeys rest

def membersHaveDistinctKeys : List (String × Json) → Bool
  | [] => true
  | (_, value) :: rest => value.hasDistinctKeys && membersHaveDistinctKeys rest

end

theorem membersHaveDistinctKeys_iff {members : List (String × Json)} :
    membersHaveDistinctKeys members = true ↔ ∀ entry ∈ members, entry.2.hasDistinctKeys = true := by
  induction members with
  | nil => simp [membersHaveDistinctKeys]
  | cons entry rest ih => rw [membersHaveDistinctKeys, Bool.and_eq_true, ih, List.forall_mem_cons]

theorem hasDistinctKeys_object {members : List (String × Json)} : (Json.object members).hasDistinctKeys = true ↔
    (members.map (·.1)).Nodup ∧ ∀ entry ∈ members, entry.2.hasDistinctKeys = true := by
  rw [Json.hasDistinctKeys, Bool.and_eq_true, decide_eq_true_iff, membersHaveDistinctKeys_iff]

theorem hasDistinctKeys_filter {members : Entries Json} (distinct : (Json.object members).hasDistinctKeys = true)
    (keeps : String × Json → Bool) : (Json.object (members.filter keeps)).hasDistinctKeys = true := by
  rw [hasDistinctKeys_object] at distinct ⊢
  exact ⟨distinct.1.sublist (List.filter_sublist.map _), fun entry member =>
    distinct.2 entry (List.mem_filter.mp member).1⟩

theorem hasDistinctKeys_insert {members : Entries Json} (distinct : (Json.object members).hasDistinctKeys = true)
    (key : String) {value : Json} (values : value.hasDistinctKeys = true) :
    (Json.object (Entries.insert members key value)).hasDistinctKeys = true := by
  rw [hasDistinctKeys_object] at distinct ⊢
  refine ⟨Entries.nodup_insert distinct.1 key value, fun entry member => ?_⟩
  obtain rfl | member := Entries.mem_insert member
  · exact values
  · exact distinct.2 entry member

theorem hasDistinctKeys_of_lookup {members : Entries Json} (distinct : (Json.object members).hasDistinctKeys = true)
    {key : String} {value : Json} (found : members.lookup key = some value) : value.hasDistinctKeys = true :=
  (hasDistinctKeys_object.mp distinct).2 _ (mem_of_lookup found)

section Values

theorem ofJsonMembers_eq (members : List (String × Json)) :
    ofJsonMembers members = members.map fun entry => (entry.1, Value.ofJson entry.2) := by
  induction members with
  | nil => rfl
  | cons entry rest ih => rw [ofJsonMembers, ih, List.map_cons]

theorem lookup_ofJsonMembers (members : Entries Json) (key : String) :
    (ofJsonMembers members).lookup key = (members.lookup key).map Value.ofJson := by
  rw [ofJsonMembers_eq, Entries.lookup_map]

theorem erase_ofJsonMembers (members : Entries Json) (key : String) :
    Entries.erase (ofJsonMembers members) key = ofJsonMembers (Entries.erase members key) := by
  rw [ofJsonMembers_eq, ofJsonMembers_eq, Entries.erase_map]

theorem insert_ofJsonMembers (members : Entries Json) (key : String) (value : Json) :
    Entries.insert (ofJsonMembers members) key (.ofJson value) = ofJsonMembers
      (Entries.insert members key value) := by
  rw [ofJsonMembers_eq, ofJsonMembers_eq, Entries.insert_map]

theorem isEmpty_ofJsonMembers (members : Entries Json) : (ofJsonMembers members).isEmpty = members.isEmpty := by
  cases members <;> rfl

theorem holds_ofJson (data : Json) : (Value.ofJson data).holds = data.holds := by
  cases data with
  | scalar => rfl
  | array items => cases items <;> rfl
  | object members => cases members <;> rfl

mutual

/-- Data is written as it was. -/
theorem write_ofJson : ∀ data : Json, (Value.ofJson data).write = data
  | .scalar _ => rfl
  | .array items => by rw [Value.ofJson, Value.write, writeItems_ofJsonItems items]
  | .object members => by rw [Value.ofJson, Value.write, writeMembers_ofJsonMembers members]

theorem writeItems_ofJsonItems : ∀ items : List Json, writeItems (ofJsonItems items) = items
  | [] => rfl
  | item :: rest => by rw [ofJsonItems, writeItems, write_ofJson item, writeItems_ofJsonItems rest]

theorem writeMembers_ofJsonMembers :
    ∀ members : List (String × Json), writeMembers (ofJsonMembers members) = members
  | [] => rfl
  | (_, value) :: rest => by rw [ofJsonMembers, writeMembers, write_ofJson value, writeMembers_ofJsonMembers rest]

end

theorem ofJsonMembers_injective {members others : List (String × Json)}
    (same : ofJsonMembers members = ofJsonMembers others) : members = others := by
  rw [← writeMembers_ofJsonMembers members, same, writeMembers_ofJsonMembers]

mutual

/-- Data equals itself. -/
theorem same_ofJson : ∀ data : Json, data.hasDistinctKeys = true → (Value.ofJson data).same (.ofJson data) = true
  | .scalar value, _ => by
    rw [Value.ofJson, Value.same]
    exact Scalar.same_self value
  | .array items, distinct => by
    rw [Value.ofJson, Value.same]
    exact sameValues_ofJsonItems items distinct
  | .object members, distinct => by
    obtain ⟨apart, _⟩ := hasDistinctKeys_object.mp distinct
    rw [Json.hasDistinctKeys, Bool.and_eq_true] at distinct
    rw [Value.ofJson, Value.same, Bool.and_eq_true, beq_iff_eq]
    refine ⟨rfl, sameMembers_ofJsonMembers members distinct.2 fun entry member => ?_⟩
    rw [lookup_ofJsonMembers, lookup_of_mem apart member, Option.map_some]

theorem sameValues_ofJsonItems : ∀ items : List Json, itemsHaveDistinctKeys items = true →
    sameValues (ofJsonItems items) (ofJsonItems items) = true
  | [], _ => by rw [ofJsonItems, sameValues]
  | item :: rest, distinct => by
    rw [itemsHaveDistinctKeys, Bool.and_eq_true] at distinct
    rw [ofJsonItems, sameValues, same_ofJson item distinct.1, sameValues_ofJsonItems rest distinct.2]
    rfl

theorem sameMembers_ofJsonMembers : ∀ (members : List (String × Json)) {others : List (String × Value)},
    membersHaveDistinctKeys members = true →
    (∀ entry ∈ members, others.lookup entry.1 = some (.ofJson entry.2)) →
    sameMembers (ofJsonMembers members) others = true
  | [], _, _, _ => by rw [ofJsonMembers, sameMembers]
  | (key, value) :: rest, others, distinct, found => by
    rw [membersHaveDistinctKeys, Bool.and_eq_true] at distinct
    rw [ofJsonMembers, sameMembers, found (key, value) List.mem_cons_self,
      sameMembers_ofJsonMembers rest distinct.2 fun entry member => found entry (List.mem_cons_of_mem _ member),
      Bool.and_true]
    exact same_ofJson value distinct.1

end

end Values

end JsxRouting
