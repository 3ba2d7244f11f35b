import JsxRouting.Proofs.Positions
import JsxRouting.Tree.Reading

namespace JsxRouting

mutual

/-- Whether a check holds of a node and of all nodes that stand in its fields. -/
def Node.all (check : Node → Bool) : Node → Bool
  | .mk kind fields extra attached => check (.mk kind fields extra attached) && allInFields check fields

def allInFields (check : Node → Bool) : List (Field × Value) → Bool
  | [] => true
  | (_, value) :: rest => value.all check && allInFields check rest

def Value.all (check : Node → Bool) : Value → Bool
  | .node child => child.all check
  | .list items => allInItems check items
  | .scalar _ | .object _ => true

def allInItems (check : Node → Bool) : List Value → Bool
  | [] => true
  | item :: rest => item.all check && allInItems check rest

end

/-- The nodes that stand in a value, directly or in its list. -/
def Value.nodes : Value → List Node
  | .node child => [child]
  | .list items => items.filterMap Value.node?
  | .scalar _ | .object _ => []

namespace Node

/-- The nodes that stand in the fields of a node. -/
def children (node : Node) : List Node := node.fields.flatMap fun entry => entry.2.nodes

theorem mem_nodes_of_follow {value : Value} {branch : Branch} {child : Node}
    (leads : branch.follow value = some child) : child ∈ value.nodes := by
  cases branch with
  | direct field =>
    cases value with
    | node other =>
      cases leads
      exact List.mem_singleton_self child
    | scalar | list | object => cases leads
  | item field index =>
    cases value with
    | list items =>
      obtain ⟨item, there, isNode⟩ := Option.bind_eq_some_iff.mp leads
      exact List.mem_filterMap.mpr ⟨item, List.mem_of_getElem? there, isNode⟩
    | scalar | object | node => cases leads

theorem mem_children_of_child? {node child : Node} {branch : Branch} (isChild : node.child? branch = some child) :
    child ∈ node.children := by
  obtain ⟨value, isValue, leads⟩ := child?_eq_some.mp isChild
  exact List.mem_flatMap.mpr ⟨(branch.field, value), mem_of_lookup isValue, mem_nodes_of_follow leads⟩

theorem sizeOf_lt_of_mem_nodes {value : Value} {child : Node} (member : child ∈ value.nodes) :
    sizeOf child < sizeOf value := by
  cases value with
  | node other =>
    obtain rfl := List.mem_singleton.mp member
    simp only [Value.node.sizeOf_spec]
    omega
  | list items =>
    obtain ⟨item, inItems, isNode⟩ := List.mem_filterMap.mp member
    have smaller := List.sizeOf_lt_of_mem inItems
    cases item with
    | node other =>
      cases isNode
      simp only [Value.list.sizeOf_spec, Value.node.sizeOf_spec] at smaller ⊢
      omega
    | scalar | list | object => cases isNode
  | scalar | object => cases member

theorem sizeOf_lt_of_mem_children {node child : Node} (member : child ∈ node.children) :
    sizeOf child < sizeOf node := by
  obtain ⟨⟨field, value⟩, inFields, inValue⟩ := List.mem_flatMap.mp member
  obtain ⟨kind, fields, extra, attached⟩ := node
  have smaller := List.sizeOf_lt_of_mem inFields
  have smallerChild : sizeOf child < sizeOf value := sizeOf_lt_of_mem_nodes inValue
  simp only [Prod.mk.sizeOf_spec, Node.fields] at smaller
  simp only [Node.mk.sizeOf_spec]
  omega

/-- Induction over a tree: what holds of a node if it holds of the nodes in its fields holds of every node. -/
theorem induction_children {motive : Node → Prop}
    (step : ∀ node : Node, (∀ child ∈ node.children, motive child) → motive node) (node : Node) : motive node :=
  step node fun child member =>
    have := sizeOf_lt_of_mem_children member
    induction_children step child
termination_by sizeOf node

end Node

section All

variable {check : Node → Bool}

theorem Node.check_of_all {node : Node} (holds : node.all check = true) : check node = true := by
  obtain ⟨kind, fields, extra, attached⟩ := node
  rw [Node.all, Bool.and_eq_true] at holds
  exact holds.1

theorem Node.allInFields_of_all {node : Node} (holds : node.all check = true) :
    allInFields check node.fields = true := by
  obtain ⟨kind, fields, extra, attached⟩ := node
  rw [Node.all, Bool.and_eq_true] at holds
  exact holds.2

theorem all_of_mem_fields {fields : List (Field × Value)} {entry : Field × Value}
    (holds : allInFields check fields = true) (member : entry ∈ fields) : entry.2.all check = true := by
  induction fields with
  | nil => cases member
  | cons first rest ih =>
    rw [allInFields, Bool.and_eq_true] at holds
    obtain rfl | inRest := List.mem_cons.mp member
    · exact holds.1
    · exact ih holds.2 inRest

theorem all_of_mem_items {items : List Value} {item : Value} (holds : allInItems check items = true)
    (member : item ∈ items) : item.all check = true := by
  induction items with
  | nil => cases member
  | cons first rest ih =>
    rw [allInItems, Bool.and_eq_true] at holds
    obtain rfl | inRest := List.mem_cons.mp member
    · exact holds.1
    · exact ih holds.2 inRest

theorem Value.all_of_mem_nodes {value : Value} {child : Node} (holds : value.all check = true)
    (member : child ∈ value.nodes) : child.all check = true := by
  cases value with
  | node other =>
    obtain rfl := List.mem_singleton.mp member
    exact holds
  | list items =>
    obtain ⟨item, inItems, isNode⟩ := List.mem_filterMap.mp member
    have holdsItem := all_of_mem_items (by simpa only [Value.all] using holds) inItems
    cases item with
    | node other =>
      cases isNode
      exact holdsItem
    | scalar | list | object => cases isNode
  | scalar | object => cases member

theorem Node.all_of_mem_children {node child : Node} (holds : node.all check = true)
    (member : child ∈ node.children) : child.all check = true := by
  obtain ⟨entry, inFields, inValue⟩ := List.mem_flatMap.mp member
  exact Value.all_of_mem_nodes (all_of_mem_fields (allInFields_of_all holds) inFields) inValue

theorem Node.all_of_at? {node target : Node} {position : Position} (holds : node.all check = true)
    (there : node.at? position = some target) : target.all check = true := by
  induction position generalizing node with
  | nil =>
    cases there
    exact holds
  | cons branch rest ih =>
    obtain ⟨child, isChild, below⟩ := at?_cons_eq_some.mp there
    exact ih (all_of_mem_children holds (mem_children_of_child? isChild)) below

end All

mutual

theorem Node.all_imp {check other : Node → Bool} (implies : ∀ node, check node = true → other node = true) :
    ∀ node : Node, node.all check = true → node.all other = true
  | .mk kind fields extra attached, holds => by
    rw [Node.all, Bool.and_eq_true] at holds ⊢
    exact ⟨implies _ holds.1, allInFields_imp implies fields holds.2⟩

theorem allInFields_imp {check other : Node → Bool} (implies : ∀ node, check node = true → other node = true) :
    ∀ fields, allInFields check fields = true → allInFields other fields = true
  | [], _ => rfl
  | (_, value) :: rest, holds => by
    rw [allInFields, Bool.and_eq_true] at holds ⊢
    exact ⟨Value.all_imp implies value holds.1, allInFields_imp implies rest holds.2⟩

theorem Value.all_imp {check other : Node → Bool} (implies : ∀ node, check node = true → other node = true) :
    ∀ value : Value, value.all check = true → value.all other = true
  | .node child, holds => Node.all_imp implies child holds
  | .list items, holds => allInItems_imp implies items holds
  | .scalar _, _ | .object _, _ => rfl

theorem allInItems_imp {check other : Node → Bool} (implies : ∀ node, check node = true → other node = true) :
    ∀ items, allInItems check items = true → allInItems other items = true
  | [], _ => rfl
  | item :: rest, holds => by
    rw [allInItems, Bool.and_eq_true] at holds ⊢
    exact ⟨Value.all_imp implies item holds.1, allInItems_imp implies rest holds.2⟩

end

theorem lookup_of_mem {α β : Type} [BEq α] [LawfulBEq α] {entries : List (α × β)}
    (distinct : (entries.map (·.1)).Nodup)
    {key : α} {value : β} (member : (key, value) ∈ entries) : entries.lookup key = some value := by
  induction entries with
  | nil => cases member
  | cons entry rest ih =>
    obtain ⟨first, old⟩ := entry
    rw [List.map_cons, List.nodup_cons] at distinct
    rw [List.lookup_cons]
    obtain same | inRest := List.mem_cons.mp member
    · cases same
      simp
    · have differs : (key == first) = false := by
        refine beq_eq_false_iff_ne.mpr fun same => distinct.1 ?_
        rw [← same]
        exact List.mem_map.mpr ⟨(key, value), inRest, rfl⟩
      rw [differs]
      exact ih distinct.2 inRest

namespace Node

/-- Whether a node has the fields of its kind, in their order. -/
def hasOwnFields (node : Node) : Bool := node.fields.map (·.1) == node.kind.fields

/-- Whether every node in a tree has the fields of its kind. -/
def isRegular (node : Node) : Bool := node.all hasOwnFields

/-- Whether a node has the fields of its kind and nothing is attached to it. -/
def hasOnlyOwnFields (node : Node) : Bool := node.hasOwnFields && node.attached.isEmpty

/-- Whether every node in a tree has nothing but the fields of its kind. -/
def isAsRead (node : Node) : Bool := node.all hasOnlyOwnFields

theorem isRegular_of_isAsRead {node : Node} (asRead : node.isAsRead = true) : node.isRegular = true :=
  all_imp (fun _ holds => (Bool.and_eq_true_iff.mp holds).1) node asRead

theorem nodup_fields {node : Node} (ownFields : node.hasOwnFields = true) : (node.fields.map (·.1)).Nodup := by
  rw [beq_iff_eq.mp ownFields]
  exact node.kind.nodup_fields

/-- A node that has the fields of its kind has a value in each of them. -/
theorem exists_lookup {node : Node} (ownFields : node.hasOwnFields = true) (field : Field)
    (own : field ∈ node.kind.fields) : ∃ value, node.fields.lookup field = some value := by
  rw [← beq_iff_eq.mp ownFields] at own
  obtain ⟨entry, member, rfl⟩ := List.mem_map.mp own
  cases there : node.fields.lookup entry.1 with
  | some found => exact ⟨found, rfl⟩
  | none => simpa using List.lookup_eq_none_iff.mp there entry member

end Node

/-- The values that fields usually have are plain data. -/
theorem allInFields_schema (check : Node → Bool) (kind : Kind) : allInFields check kind.schema = true := by
  cases kind <;> rfl

theorem all_assembleFields {check : Node → Bool} {explicit : Bool} {readings : Entries (Except Error Value)}
    (areChecked : ∀ key value, readings.lookup key = some (.ok value) → value.all check = true)
    {schema fields : List (Field × Value)} (usual : allInFields check schema = true)
    (assembled : Node.assembleFields explicit readings schema = .ok fields) :
    fields.map (·.1) = schema.map (·.1) ∧ allInFields check fields = true := by
  induction schema generalizing fields with
  | nil =>
    cases assembled
    exact ⟨rfl, rfl⟩
  | cons entry rest ih =>
    obtain ⟨field, value⟩ := entry
    rw [allInFields, Bool.and_eq_true] at usual
    rw [Node.assembleFields] at assembled
    obtain ⟨read, isChecked, others, areOthers, rfl⟩ : ∃ read, read.all check = true ∧
        ∃ others, Node.assembleFields explicit readings rest = .ok others ∧ fields = (field, read) :: others := by
      split at assembled
      · obtain ⟨_, isExplicit, assembled⟩ := bind_eq_ok_iff.mp assembled
        obtain ⟨others, areOthers, assembled⟩ := bind_eq_ok_iff.mp assembled
        cases isExplicit
        cases assembled
        exact ⟨.bool explicit, rfl, others, areOthers, rfl⟩
      · obtain ⟨read, isRead, assembled⟩ := bind_eq_ok_iff.mp assembled
        obtain ⟨others, areOthers, assembled⟩ := bind_eq_ok_iff.mp assembled
        cases assembled
        refine ⟨read, ?_, others, areOthers, rfl⟩
        cases found : readings.lookup field.toKey with
        | none =>
          rw [found] at isRead
          cases isRead
          exact usual.1
        | some reading =>
          rw [found] at isRead
          exact areChecked field.toKey read (by rw [found]; exact congrArg some isRead)
    obtain ⟨names, checked⟩ := ih usual.2 areOthers
    exact ⟨by simp [names], by rw [allInFields, checked, isChecked]; rfl⟩

theorem isAsRead_assemble {type : Json} {members : Entries Json}
    {readings : Entries (Except Error Value)} {node : Node}
    (areChecked : ∀ key value, readings.lookup key = some (.ok value) → value.all Node.hasOnlyOwnFields = true)
    (assembled : Node.assemble type members readings = .ok node) : node.isAsRead = true := by
  obtain ⟨kind, _, assembled⟩ := bind_eq_ok_iff.mp assembled
  obtain ⟨fields, areFields, assembled⟩ := bind_eq_ok_iff.mp assembled
  cases assembled
  obtain ⟨names, checked⟩ := all_assembleFields areChecked (allInFields_schema _ kind) areFields
  rw [Node.isAsRead, Node.all, checked, Bool.and_true]
  exact Bool.and_eq_true_iff.mpr ⟨beq_iff_eq.mpr names, rfl⟩

mutual

theorem Value.isAsRead_read : ∀ (data : Json) {value : Value}, Value.read data = .ok value →
    value.all Node.hasOnlyOwnFields = true
  | .scalar _, _, read => by
    cases read
    rfl
  | .array items, _, read => by
    rw [Value.read] at read
    obtain ⟨values, areValues, read⟩ := bind_eq_ok_iff.mp read
    cases read
    exact isAsRead_readItems items areValues
  | .object members, _, read => by
    rw [Value.read] at read
    split at read
    · obtain ⟨node, assembled, read⟩ := bind_eq_ok_iff.mp read
      cases read
      exact isAsRead_assemble (fun _ _ => isAsRead_readMembers members) assembled
    · cases read
      rfl

theorem isAsRead_readItems : ∀ (items : List Json) {values : List Value},
    Value.readItems items = .ok values → allInItems Node.hasOnlyOwnFields values = true
  | [], _, read => by
    cases read
    rfl
  | item :: rest, _, read => by
    rw [Value.readItems] at read
    obtain ⟨value, isValue, read⟩ := bind_eq_ok_iff.mp read
    obtain ⟨values, areValues, read⟩ := bind_eq_ok_iff.mp read
    cases read
    rw [allInItems, Value.isAsRead_read item isValue, isAsRead_readItems rest areValues]
    rfl

theorem isAsRead_readMembers : ∀ (members : List (String × Json)) {key : String}
    {value : Value}, (Value.readMembers members).lookup key = some (.ok value) →
    value.all Node.hasOnlyOwnFields = true
  | [], _, _, there => by cases there
  | (first, data) :: rest, key, value, there => by
    rw [Value.readMembers, List.lookup_cons] at there
    split at there
    · exact Value.isAsRead_read data (Option.some.inj there)
    · exact isAsRead_readMembers rest there

end

/-- Every tree that is read has nothing but the fields of its kinds. -/
theorem Node.isAsRead_read {data : Json} {node : Node} (read : Node.read data = .ok node) :
    node.isAsRead = true := by
  unfold Node.read at read
  split at read
  · rename_i members
    split at read
    · exact isAsRead_assemble (fun _ _ => isAsRead_readMembers members) read
    · cases read
  · cases read

end JsxRouting
