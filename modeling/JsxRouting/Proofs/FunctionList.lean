import JsxRouting.Proofs.Findings
import JsxRouting.Proofs.RegularTrees

namespace JsxRouting

mutual

/-- The functions in a node that stand in no other function. -/
def Node.functions (place : Place) : Node → List (Place × Node)
  | .mk kind fields extra attached =>
    if kind.isFunction then [(place, .mk kind fields extra attached)]
    else functionsInFields (place.inField kind fields false) fields

def functionsInFields (placeOf : Field → Option Place) : List (Field × Value) → List (Place × Node)
  | [] => []
  | (field, value) :: rest =>
    (match placeOf field with
      | some place => value.functions place
      | none => []) ++ functionsInFields placeOf rest

def Value.functions (place : Place) : Value → List (Place × Node)
  | .node child => child.functions place
  | .list items => functionsInItems items
  | _ => []

def functionsInItems : List Value → List (Place × Node)
  | [] => []
  | .node child :: rest => child.functions .plain ++ functionsInItems rest
  | _ :: rest => functionsInItems rest

end

/-- The elements in functions of a tree, in the order of a walk. The names of those that are `replaced`
are exchanged before the walk comes to them. -/
def Node.elementsInFunctions (replaced : Node → Bool) (node : Node) : List Node :=
  (node.functions .plain).flatMap fun entry => entry.2.jsxElements replaced .plain

/-- The nodes in a value, each with its place. -/
def Value.placedNodes (place : Place) : Value → List (Place × Node)
  | .node child => [(place, child)]
  | .list items => (items.filterMap Value.node?).map fun child => (.plain, child)
  | .scalar _ | .object _ => []

/-- The nodes in the fields that have a place for them. -/
def placedNodes (placeOf : Field → Option Place) (fields : List (Field × Value)) : List (Place × Node) :=
  fields.flatMap fun entry =>
    match placeOf entry.1 with
    | some place => entry.2.placedNodes place
    | none => []

theorem placedNodes_cons (placeOf : Field → Option Place) (field : Field) (value : Value)
    (rest : List (Field × Value)) :
    placedNodes placeOf ((field, value) :: rest) =
      (match placeOf field with
        | some place => value.placedNodes place
        | none => []) ++ placedNodes placeOf rest := rfl

theorem Value.mem_nodes_of_mem_placedNodes {value : Value} {place : Place} {entry : Place × Node}
    (member : entry ∈ value.placedNodes place) : entry.2 ∈ value.nodes := by
  cases value with
  | node child =>
    obtain rfl := List.mem_singleton.mp member
    exact List.mem_singleton_self child
  | list items =>
    obtain ⟨child, inItems, rfl⟩ := List.mem_map.mp member
    exact inItems
  | scalar | object => cases member

theorem Node.mem_children_of_mem_placedNodes {node : Node} {placeOf : Field → Option Place} {entry : Place × Node}
    (member : entry ∈ placedNodes placeOf node.fields) : entry.2 ∈ node.children := by
  obtain ⟨field, inFields, inValue⟩ := List.mem_flatMap.mp member
  split at inValue
  · exact List.mem_flatMap.mpr ⟨field, inFields, Value.mem_nodes_of_mem_placedNodes inValue⟩
  · cases inValue

/-- Fields that are related by what a step does to the nodes that have a place in them are related by what is known
of the step. -/
theorem FieldsRelate.imp_placed {related other : Place → Node → Node → Prop} {placeOf : Field → Option Place}
    {fields others : List (Field × Value)} (relate : FieldsRelate related placeOf fields others)
    (step : ∀ place child, (place, child) ∈ placedNodes placeOf fields → ∀ after, related place child after →
      other place child after) : FieldsRelate other placeOf fields others := by
  have items {list changed : List Value} (relate : List.Forall₂ (ItemRelate related) list changed)
      (step : ∀ child ∈ list.filterMap Value.node?, ∀ after, related .plain child after →
        other .plain child after) :
      List.Forall₂ (ItemRelate other) list changed := by
    induction relate with
    | nil => exact .nil
    | @cons item after rest others head tail ih =>
      refine .cons ?_ (ih fun child member => step child ?_)
      · cases head with
        | node proof => exact .node (step _ (by simp [Value.node?]) _ proof)
        | data plain => exact .data plain
      · obtain ⟨item, inRest, isNode⟩ := List.mem_filterMap.mp member
        exact List.mem_filterMap.mpr ⟨item, List.mem_cons_of_mem _ inRest, isNode⟩
  induction relate with
  | nil => exact .nil
  | @cons before after rest others head tail ih =>
    refine .cons ⟨head.1, ?_⟩ (ih fun place child member => step place child (List.mem_append_right _ member))
    obtain ⟨field, value⟩ := before
    obtain ⟨_, changed⟩ := after
    obtain ⟨_, values⟩ := head
    rw [placedNodes_cons] at step
    simp only at values ⊢
    generalize placeOf field = placed at values step ⊢
    cases placed with
    | none => exact values
    | some place =>
      have here (inner : Place) (child : Node) (member : (inner, child) ∈ value.placedNodes place) :=
        step inner child (List.mem_append_left _ member)
      cases values with
      | node proof => exact .node (here _ _ (List.mem_singleton_self _) _ proof)
      | list relate => exact .list (items relate fun child member => here .plain child (List.mem_map_of_mem member))
      | scalar value => exact .scalar value
      | object members => exact .object members

/-- The same, if what is known of the step does not depend on the place. -/
theorem FieldsRelate.imp {related other : Place → Node → Node → Prop} {placeOf : Field → Option Place} {node : Node}
    {others : List (Field × Value)} (relate : FieldsRelate related placeOf node.fields others)
    (step : ∀ child ∈ node.children, ∀ place after, related place child after → other place child after) :
    FieldsRelate other placeOf node.fields others :=
  relate.imp_placed fun place child member => step child (Node.mem_children_of_mem_placedNodes member) place

/-- The nodes in a value are those behind the branches of its field. -/
theorem mem_placedNodes_iff_follow {value : Value} (field : Field) {place inner : Place} {child : Node} :
    (inner, child) ∈ value.placedNodes place ↔
      ∃ branch : Branch, branch.field = field ∧ branch.follow value = some child ∧ branch.place place = inner := by
  constructor
  · intro member
    cases value with
    | node other =>
      cases List.mem_singleton.mp member
      exact ⟨.direct field, rfl, rfl, rfl⟩
    | list items =>
      obtain ⟨other, inItems, same⟩ := List.mem_map.mp member
      cases same
      obtain ⟨item, inList, isNode⟩ := List.mem_filterMap.mp inItems
      obtain ⟨index, there⟩ := List.mem_iff_getElem?.mp inList
      exact ⟨.item field index, rfl, by rw [Branch.follow_item, there]; exact isNode, rfl⟩
    | scalar | object => cases member
  · rintro ⟨branch, rfl, leads, rfl⟩
    cases branch with
    | direct field =>
      cases value with
      | node other =>
        cases leads
        exact List.mem_singleton_self _
      | scalar | list | object => cases leads
    | item field index =>
      cases value with
      | list items =>
        obtain ⟨item, there, isNode⟩ := Option.bind_eq_some_iff.mp leads
        exact List.mem_map.mpr ⟨child, List.mem_filterMap.mpr ⟨item, List.mem_of_getElem? there, isNode⟩, rfl⟩
      | scalar | object | node => cases leads

namespace Node

/-- The nodes in the fields of a node that has each of them once are those behind its branches. -/
theorem mem_placedNodes_iff {node child : Node} {placeOf : Field → Option Place} {inner : Place}
    (ownFields : node.hasOwnFields = true) :
    (inner, child) ∈ placedNodes placeOf node.fields ↔
      ∃ branch place, placeOf branch.field = some place ∧ node.child? branch = some child ∧
        branch.place place = inner := by
  constructor
  · intro member
    obtain ⟨⟨field, value⟩, inFields, inValue⟩ := List.mem_flatMap.mp member
    simp only at inValue
    split at inValue
    · rename_i place isPlace
      obtain ⟨branch, rfl, leads, placed⟩ := (mem_placedNodes_iff_follow field).mp inValue
      exact ⟨branch, place, isPlace,
        child?_eq_some.mpr ⟨value, lookup_of_mem (nodup_fields ownFields) inFields, leads⟩, placed⟩
    · cases inValue
  · rintro ⟨branch, place, isPlace, isChild, placed⟩
    obtain ⟨value, isValue, leads⟩ := child?_eq_some.mp isChild
    refine List.mem_flatMap.mpr ⟨(branch.field, value), mem_of_lookup isValue, ?_⟩
    simp only [isPlace]
    exact (mem_placedNodes_iff_follow branch.field).mpr ⟨branch, rfl, leads, placed⟩

end Node

section Below

variable (replaced : Node → Bool)

theorem jsxElementsInItems_eq (items : List Value) :
    jsxElementsInItems replaced items = (items.filterMap Value.node?).flatMap (·.jsxElements replaced .plain) := by
  induction items with
  | nil => rfl
  | cons item rest ih =>
    cases item with
    | node child => rw [jsxElementsInItems, ih]; rfl
    | scalar | list | object => exact ih

theorem Value.jsxElements_eq (value : Value) (place : Place) :
    value.jsxElements replaced place = (value.placedNodes place).flatMap fun entry =>
      entry.2.jsxElements replaced entry.1 := by
  cases value with
  | node child => rw [Value.jsxElements, placedNodes, List.flatMap_singleton]
  | list items => rw [Value.jsxElements, jsxElementsInItems_eq, placedNodes, List.flatMap_map]
  | scalar | object => rfl

theorem jsxElementsInFields_eq (placeOf : Field → Option Place) (fields : List (Field × Value)) :
    jsxElementsInFields replaced placeOf fields =
      (placedNodes placeOf fields).flatMap fun entry => entry.2.jsxElements replaced entry.1 := by
  induction fields with
  | nil => rfl
  | cons first rest ih =>
    obtain ⟨field, value⟩ := first
    rw [jsxElementsInFields, ih, placedNodes_cons, List.flatMap_append]
    congr 1
    cases placeOf field with
    | none => rfl
    | some place => exact Value.jsxElements_eq replaced value place

theorem Node.jsxElements_eq (node : Node) (place : Place) :
    node.jsxElements replaced place = (if node.kind = .jsxElement then [node] else []) ++
      (placedNodes (place.inField node.kind node.fields (replaced node)) node.fields).flatMap
        fun entry => entry.2.jsxElements replaced entry.1 := by
  obtain ⟨kind, fields, extra, attached⟩ := node
  rw [Node.jsxElements, jsxElementsInFields_eq]
  rfl

theorem functionsInItems_eq (items : List Value) :
    functionsInItems items = (items.filterMap Value.node?).flatMap (·.functions .plain) := by
  induction items with
  | nil => rfl
  | cons item rest ih =>
    cases item with
    | node child => rw [functionsInItems, ih]; rfl
    | scalar | list | object => exact ih

theorem Value.functions_eq (value : Value) (place : Place) :
    value.functions place = (value.placedNodes place).flatMap fun entry => entry.2.functions entry.1 := by
  cases value with
  | node child => rw [Value.functions, placedNodes, List.flatMap_singleton]
  | list items => rw [Value.functions, functionsInItems_eq, placedNodes, List.flatMap_map]
  | scalar | object => rfl

theorem functionsInFields_eq (placeOf : Field → Option Place) (fields : List (Field × Value)) :
    functionsInFields placeOf fields = (placedNodes placeOf fields).flatMap fun entry =>
      entry.2.functions entry.1 := by
  induction fields with
  | nil => rfl
  | cons first rest ih =>
    obtain ⟨field, value⟩ := first
    rw [functionsInFields, ih, placedNodes_cons, List.flatMap_append]
    congr 1
    cases placeOf field with
    | none => rfl
    | some place => exact Value.functions_eq value place

end Below

namespace Node

theorem functions_of_function {node : Node} (place : Place) (isFunction : node.isFunction = true) :
    node.functions place = [(place, node)] := by
  obtain ⟨kind, fields, extra, attached⟩ := node
  rw [functions]
  exact if_pos isFunction

theorem functions_of_not_function {node : Node} (place : Place) (noFunction : ¬ node.isFunction = true) :
    node.functions place = (placedNodes (place.inField node.kind node.fields false) node.fields).flatMap
      fun entry => entry.2.functions entry.1 := by
  obtain ⟨kind, fields, extra, attached⟩ := node
  rw [functions, ← functionsInFields_eq]
  exact if_neg noFunction

/-- The functions of a tree are functions, and what is checked of all nodes of the tree is checked of theirs. -/
theorem of_mem_functions {check : Node → Bool} {node : Node} {place : Place} {entry : Place × Node}
    (member : entry ∈ node.functions place) :
    entry.2.isFunction = true ∧ (node.all check = true → entry.2.all check = true) := by
  induction node using induction_children generalizing place with
  | step node ih =>
    by_cases isFunction : node.isFunction = true
    · rw [functions_of_function place isFunction] at member
      obtain rfl := List.mem_singleton.mp member
      exact ⟨isFunction, id⟩
    · rw [functions_of_not_function place isFunction] at member
      obtain ⟨child, placed, below⟩ := List.mem_flatMap.mp member
      have inChildren := mem_children_of_mem_placedNodes placed
      obtain ⟨isFunction, holds⟩ := ih child.2 inChildren below
      exact ⟨isFunction, fun all => holds (all_of_mem_children all inChildren)⟩

/-- The elements of a tree are elements, and what is checked of all nodes of the tree is checked of theirs. -/
theorem of_mem_jsxElements {check replaced : Node → Bool} {node element : Node} {place : Place}
    (member : element ∈ node.jsxElements replaced place) :
    element.kind = .jsxElement ∧ (node.all check = true → element.all check = true) := by
  induction node using induction_children generalizing place with
  | step node ih =>
    rw [jsxElements_eq] at member
    obtain here | below := List.mem_append.mp member
    · split at here
      · rename_i isElement
        obtain rfl := List.mem_singleton.mp here
        exact ⟨isElement, id⟩
      · cases here
    · obtain ⟨child, placed, below⟩ := List.mem_flatMap.mp below
      have inChildren := mem_children_of_mem_placedNodes placed
      obtain ⟨isElement, holds⟩ := ih child.2 inChildren below
      exact ⟨isElement, fun all => holds (all_of_mem_children all inChildren)⟩

end Node

end JsxRouting
