import JsxRouting.Tree.Building

namespace JsxRouting

theorem Value.eq_null_of_isNull {value : Value} (isNull : value.isNull = true) : value = .null := by
  cases value with
  | scalar value =>
    cases value with
    | null => rfl
    | bool | int | real | text => cases isNull
  | list | object | node => cases isNull

theorem Field.ofName?_toName (field : Field) : Field.ofName? field.toName = some field := by
  have found : ∀ field ∈ Field.all, Field.ofName? field.toName = some field := by decide +kernel
  exact found field field.mem_all

theorem Field.toName_injective : Function.Injective Field.toName := by
  intro field other same
  have found := Field.ofName?_toName field
  rw [same, Field.ofName?_toName] at found
  exact (Option.some.inj found).symm

theorem lookup_replaced (fields : List (Field × Value)) (field other : Field) (value : Value) :
    (fields.map fun entry => if entry.1 = field then (field, value) else entry).lookup other =
      if other = field then (fields.lookup other).map fun _ => value else fields.lookup other := by
  induction fields with
  | nil => simp
  | cons entry rest ih =>
    obtain ⟨first, old⟩ := entry
    by_cases wanted : other = first
    · subst wanted
      by_cases here : other = field
      · simp [here]
      · simp [here]
    · have differs : (other == first) = false := by simpa using wanted
      by_cases here : first = field
      · subst here
        simpa only [List.map_cons, if_true, List.lookup_cons, differs] using ih
      · simpa only [List.map_cons, if_neg here, List.lookup_cons, differs] using ih

theorem mem_of_lookup {α β : Type} [BEq α] [LawfulBEq α] {entries : List (α × β)} {key : α} {value : β}
    (there : entries.lookup key = some value) : (key, value) ∈ entries := by
  obtain ⟨before, after, split, _⟩ := List.lookup_eq_some_iff.mp there
  simp [split]

namespace Node

theorem lookup_set_of_ne (node : Node) {field other : Field} (value : Value) (ne : other ≠ field) :
    (node.set field value).fields.lookup other = node.fields.lookup other := by
  unfold set
  split
  · exact (lookup_replaced node.fields field other value).trans (if_neg ne)
  · rfl

theorem lookup_set_self {node : Node} {field : Field} {old : Value} (value : Value)
    (there : node.fields.lookup field = some old) :
    (node.set field value).fields.lookup field = some value := by
  unfold set
  rw [if_pos (by simp [there])]
  exact (lookup_replaced node.fields field field value).trans (by simp [there])

@[simp] theorem get?_set_self (node : Node) (field : Field) (value : Value) :
    (node.set field value).get? field = some value := by
  cases there : node.fields.lookup field with
  | some old => simp only [get?, lookup_set_self value there]
  | none =>
    have attaches : node.set field value = node.attach field.toName value := by simp [set, there]
    have absent : (node.attach field.toName value).fields.lookup field = none := there
    rw [attaches, get?, absent]
    exact Entries.lookup_insert_self node.attached field.toName value

theorem get?_set_of_ne (node : Node) {field other : Field} (value : Value) (ne : other ≠ field) :
    (node.set field value).get? other = node.get? other := by
  have names : other.toName ≠ field.toName := fun same => ne (Field.toName_injective same)
  simp only [get?, lookup_set_of_ne node value ne]
  cases node.fields.lookup other with
  | some found => rfl
  | none =>
    by_cases there : (node.fields.lookup field).isSome
    · simp only [set, if_pos there, attached]
    · simp only [set, if_neg there]
      exact Entries.lookup_insert_of_ne node.attached value names

theorem get?_of_lookup {node : Node} {field : Field} {value : Value}
    (there : node.fields.lookup field = some value) : node.get? field = some value := by
  simp only [get?, there]

end Node

end JsxRouting
