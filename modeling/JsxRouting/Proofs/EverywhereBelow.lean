import JsxRouting.Proofs.TreeEdits

namespace JsxRouting

namespace Node

/-- It holds of a node and of every node at a position below it. -/
def Everywhere (holds : Node → Prop) (node : Node) : Prop :=
  ∀ position found, node.at? position = some found → holds found

end Node

/-- It holds everywhere in the nodes of a value. -/
def Value.Everywhere (holds : Node → Prop) (value : Value) : Prop := ∀ child ∈ value.nodes, child.Everywhere holds

namespace Node

section Everywhere

variable {holds : Node → Prop}

theorem everywhere_iff {node : Node} : node.Everywhere holds ↔
    holds node ∧ ∀ branch child, node.child? branch = some child → child.Everywhere holds := by
  constructor
  · intro everywhere
    refine ⟨everywhere [] node rfl, fun branch child isChild position found there => ?_⟩
    exact everywhere (branch :: position) found (at?_cons_eq_some.mpr ⟨child, isChild, there⟩)
  · rintro ⟨here, below⟩ position found there
    cases position with
    | nil =>
      cases there
      exact here
    | cons branch rest =>
      obtain ⟨child, isChild, there⟩ := at?_cons_eq_some.mp there
      exact below branch child isChild rest found there

theorem Everywhere.below {node found : Node} {position : Position} (everywhere : node.Everywhere holds)
    (there : node.at? position = some found) : found.Everywhere holds := by
  induction position generalizing node with
  | nil =>
    cases there
    exact everywhere
  | cons branch rest ih =>
    obtain ⟨child, isChild, there⟩ := at?_cons_eq_some.mp there
    exact ih ((everywhere_iff.mp everywhere).2 branch child isChild) there

theorem Everywhere.here {node : Node} (everywhere : node.Everywhere holds) : holds node :=
  (everywhere_iff.mp everywhere).1

/-- What holds of all nodes in a tree holds everywhere. -/
theorem everywhere_of_all {check : Node → Bool} {node : Node} (all : node.all check = true)
    (implies : ∀ node, check node = true → holds node) : node.Everywhere holds :=
  fun _ found there => implies found (check_of_all (all_of_at? all there))

/-- Behind the branches of a node in which a field was replaced stand the nodes of the new value, if the field is
one of its own, and what stood behind the branches of other fields. -/
theorem child?_set_cases {node child : Node} {field : Field} {value : Value} {branch : Branch}
    (isChild : (node.set field value).child? branch = some child) :
    (branch.field = field ∧ (∃ old, node.fields.lookup field = some old) ∧ child ∈ value.nodes) ∨
      branch.field ≠ field ∧ node.child? branch = some child := by
  obtain ⟨found, isFound, leads⟩ := child?_eq_some.mp isChild
  by_cases here : branch.field = field
  · subst here
    cases there : node.fields.lookup branch.field with
    | some old =>
      cases (lookup_set_self value there).symm.trans isFound
      exact .inl ⟨rfl, ⟨old, rfl⟩, mem_nodes_of_follow leads⟩
    | none =>
      rw [set_foreign value there] at isFound
      cases isFound.symm.trans there
  · rw [lookup_set_of_ne node value here] at isFound
    exact .inr ⟨here, child?_eq_some.mpr ⟨found, isFound, leads⟩⟩

/-- Replacing a field keeps what holds everywhere. -/
theorem Everywhere.set {node : Node} {field : Field} {value : Value} (here : holds (node.set field value))
    (others : ∀ branch child, branch.field ≠ field → node.child? branch = some child → child.Everywhere holds)
    (inValue : (∃ old, node.fields.lookup field = some old) → value.Everywhere holds) :
    (node.set field value).Everywhere holds := by
  refine everywhere_iff.mpr ⟨here, fun branch child isChild => ?_⟩
  obtain ⟨_, own, member⟩ | ⟨elsewhere, isChild⟩ := child?_set_cases isChild
  · exact inValue own child member
  · exact others branch child elsewhere isChild

theorem nodes_schema (kind : Kind) : ∀ entry ∈ kind.schema, entry.2.nodes = [] := by
  have none : (kind.schema.all fun entry => entry.2.nodes.isEmpty) = true := by cases kind <;> rfl
  intro entry member
  exact List.isEmpty_iff.mp (List.all_eq_true.mp none entry member)

/-- In a node that was built stand the nodes of the given values. -/
theorem Everywhere.make {kind : Kind} {given : List (Field × Value)} {known : kind.knows given = true}
    (here : holds (make kind given known)) (inGiven : ∀ entry ∈ given, entry.2.Everywhere holds) :
    (make kind given known).Everywhere holds := by
  refine everywhere_iff.mpr ⟨here, fun branch child isChild => ?_⟩
  obtain ⟨value, isValue, leads⟩ := child?_eq_some.mp isChild
  obtain ⟨entry, inSchema, same⟩ := List.mem_map.mp (mem_of_lookup isValue)
  obtain ⟨_, rfl⟩ := Prod.mk.inj same
  have inValue := mem_nodes_of_follow leads
  cases there : given.lookup entry.1 with
  | some found =>
    rw [there] at inValue
    exact inGiven _ (mem_of_lookup there) child inValue
  | none =>
    rw [there, Option.getD_none, nodes_schema kind entry inSchema] at inValue
    cases inValue

end Everywhere

end Node

namespace Value

variable {holds : Node → Prop}

theorem exists_branch_of_mem_nodes {value : Value} {child : Node} (field : Field) (member : child ∈ value.nodes) :
    ∃ branch : Branch, branch.field = field ∧ branch.follow value = some child := by
  cases value with
  | node other =>
    obtain rfl := List.mem_singleton.mp member
    exact ⟨.direct field, rfl, rfl⟩
  | list items =>
    obtain ⟨item, inItems, isNode⟩ := List.mem_filterMap.mp member
    obtain ⟨index, there⟩ := List.mem_iff_getElem?.mp inItems
    exact ⟨.item field index, rfl, by rw [Branch.follow_item, there]; exact isNode⟩
  | scalar | object => cases member

@[simp] theorem everywhere_scalar (value : Scalar) : (Value.scalar value).Everywhere holds := nofun

@[simp] theorem everywhere_nil : (Value.list []).Everywhere holds := nofun

@[simp] theorem everywhere_node (node : Node) : (Value.node node).Everywhere holds ↔ node.Everywhere holds := by
  simp [Value.Everywhere, nodes]

@[simp] theorem everywhere_append (items others : List Value) :
    (Value.list (items ++ others)).Everywhere holds ↔
      (Value.list items).Everywhere holds ∧ (Value.list others).Everywhere holds := by
  simp only [Value.Everywhere, nodes, List.filterMap_append, List.mem_append, or_imp, forall_and]

@[simp] theorem everywhere_map (nodes : List Node) :
    (Value.list (nodes.map .node)).Everywhere holds ↔ ∀ node ∈ nodes, node.Everywhere holds := by
  have same : (nodes.map Value.node).filterMap Value.node? = nodes := by
    rw [List.filterMap_map]
    exact List.filterMap_some
  rw [Value.Everywhere, Value.nodes, same]

@[simp] theorem everywhere_cons (child : Node) (rest : List Value) :
    (Value.list (.node child :: rest)).Everywhere holds ↔
      child.Everywhere holds ∧ (Value.list rest).Everywhere holds := by
  simp [Value.Everywhere, nodes, node?]

end Value

/-- What holds everywhere in a node holds everywhere in the values of its fields. -/
theorem Node.Everywhere.lookup {holds : Node → Prop} {node : Node} {field : Field} {value : Value}
    (everywhere : node.Everywhere holds) (isValue : node.fields.lookup field = some value) :
    value.Everywhere holds := by
  intro child member
  obtain ⟨branch, rfl, leads⟩ := Value.exists_branch_of_mem_nodes field member
  exact (everywhere_iff.mp everywhere).2 branch child (child?_eq_some.mpr ⟨value, isValue, leads⟩)

end JsxRouting
