import JsxRouting.Proofs.RegularTrees

namespace JsxRouting

namespace Entries

variable {α : Type}

theorem insert_insert (entries : Entries α) (key : String) (value other : α) :
    insert (insert entries key value) key other = insert entries key other := by
  induction entries with
  | nil => simp [insert]
  | cons entry rest ih =>
    obtain ⟨first, old⟩ := entry
    by_cases same : first = key
    · simp [insert, same]
    · simp [insert, same, ih]

theorem insert_of_lookup {entries : Entries α} {key : String} {value : α}
    (there : entries.lookup key = some value) :
    insert entries key value = entries := by
  induction entries with
  | nil => cases there
  | cons entry rest ih =>
    obtain ⟨first, old⟩ := entry
    rw [List.lookup_cons] at there
    by_cases same : first = key
    · subst same
      rw [beq_self_eq_true] at there
      cases there
      simp [insert]
    · have differs : (key == first) = false := beq_eq_false_iff_ne.mpr (Ne.symm same)
      rw [differs] at there
      simp [insert, same, ih there]

theorem erase_of_absent {entries : Entries α} {key : String} (absent : entries.lookup key = none) :
    erase entries key = entries := by
  refine List.filter_eq_self.mpr fun entry member => bne_iff_ne.mpr fun same => ?_
  simpa [same] using List.lookup_eq_none_iff.mp absent entry member

theorem erase_insert (entries : Entries α) (key : String) (value : α) :
    erase (insert entries key value) key = erase entries key := by
  induction entries with
  | nil => simp [insert, erase]
  | cons entry rest ih =>
    obtain ⟨first, old⟩ := entry
    unfold erase at ih ⊢
    by_cases same : first = key
    · simp [insert, same]
    · simp [insert, same, ih]

end Entries

namespace Node

/-- The node without what is attached to it under a name. -/
def detach (node : Node) (name : String) : Node :=
  .mk node.kind node.fields node.extra (Entries.erase node.attached name)

/-- The node with another node behind a branch. -/
def put (node : Node) (branch : Branch) (child : Node) : Node :=
  match branch, node.fields.lookup branch.field with
  | .direct field, _ => node.set field (.node child)
  | .item field index, some (.list items) => node.set field (.list (items.set index (.node child)))
  | .item _ _, _ => node

/-- Changes the node at a position, if there is one. -/
def changeAt (node : Node) (change : Node → Node) : Position → Node
  | [] => change node
  | branch :: rest =>
    match node.child? branch with
    | some child => node.put branch (child.changeAt change rest)
    | none => node

@[simp] theorem mk_parts (node : Node) : .mk node.kind node.fields node.extra node.attached = node := by
  cases node
  rfl

/-- A field that the node has is replaced in its fields. -/
theorem set_own {node : Node} {field : Field} {old : Value} (value : Value)
    (own : node.fields.lookup field = some old) :
    node.set field value = .mk node.kind
      (node.fields.map fun entry => if entry.1 = field then (field, value) else entry) node.extra
        node.attached := by
  rw [set, own, Option.isSome_some, if_pos rfl]

theorem set_foreign {node : Node} {field : Field} (value : Value) (foreign : node.fields.lookup field = none) :
    node.set field value = node.attach field.toName value := by
  rw [set, foreign, Option.isSome_none, if_neg Bool.false_ne_true]

/-- A node keeps its fields when one of them is given another value. -/
theorem names_set (node : Node) (field : Field) (value : Value) :
    (node.set field value).fields.map (·.1) = node.fields.map (·.1) := by
  cases there : node.fields.lookup field with
  | some old =>
    rw [set_own value there]
    refine (List.map_map ..).trans (List.map_congr_left fun entry _ => ?_)
    by_cases here : entry.1 = field <;> simp [here]
  | none =>
    rw [set_foreign value there]
    rfl

theorem set_between {kind : Kind} {front rest : List (Field × Value)} {field : Field} {value : Value}
    {extra : Value} {attached : List (String × Value)} (other : Value)
    (distinct : ((front ++ (field, value) :: rest).map (·.1)).Nodup) :
    (Node.mk kind (front ++ (field, value) :: rest) extra attached).set field other =
      .mk kind (front ++ (field, other) :: rest) extra attached := by
  have own : (front ++ (field, value) :: rest).lookup field = some value := lookup_of_mem distinct (by simp)
  refine (set_own other own).trans ?_
  rw [List.map_append, List.map_cons, List.nodup_append, List.nodup_cons] at distinct
  obtain ⟨_, ⟨notBehind, _⟩, apart⟩ := distinct
  have kept (entries : List (Field × Value)) (others : ∀ entry ∈ entries, entry.1 ≠ field) :
      (entries.map fun entry => if entry.1 = field then (field, other) else entry) = entries :=
    (List.map_congr_left fun entry member => if_neg (others entry member)).trans (List.map_id' _)
  have inFront := kept front fun entry member => apart _ (List.mem_map_of_mem member) _ List.mem_cons_self
  have inRest := kept rest fun entry member same => notBehind (List.mem_map.mpr ⟨entry, member, same⟩)
  simp only [fields, List.map_append, List.map_cons, if_pos, inFront, inRest]
  rfl

theorem set_set (node : Node) (field : Field) (value other : Value) :
    (node.set field value).set field other = node.set field other := by
  cases there : node.fields.lookup field with
  | some old =>
    rw [set_own other (lookup_set_self value there), set_own value there, set_own other there]
    simp only [fields, kind, extra, attached, List.map_map]
    congr 1
    refine List.map_congr_left fun entry _ => ?_
    by_cases here : entry.1 = field <;> simp [here]
  | none =>
    have still : (node.set field value).fields.lookup field = none := by rw [set_foreign value there]; exact there
    rw [set_foreign other still, set_foreign value there, set_foreign other there]
    simp only [attach, fields, kind, extra, attached, Entries.insert_insert]

theorem set_of_get? {node : Node} {field : Field} {value : Value} (distinct : (node.fields.map (·.1)).Nodup)
    (there : node.get? field = some value) : node.set field value = node := by
  unfold get? at there
  cases own : node.fields.lookup field with
  | some old =>
    rw [own] at there
    cases there
    rw [set_own value own]
    have unchanged : (node.fields.map fun entry => if entry.1 = field then (field, value) else entry) =
      node.fields := by
      refine (List.map_congr_left fun entry member => ?_).trans (List.map_id _)
      by_cases here : entry.1 = field
      · obtain ⟨first, old⟩ := entry
        obtain rfl : first = field := here
        cases (lookup_of_mem distinct member).symm.trans own
        simp
      · simp [here]
    rw [unchanged, mk_parts]
  | none =>
    rw [own] at there
    rw [set_foreign value own, attach, Entries.insert_of_lookup there, mk_parts]

theorem detach_set {node : Node} {field : Field} (value : Value) (absent : node.get? field = none) :
    (node.set field value).detach field.toName = node := by
  unfold get? at absent
  cases own : node.fields.lookup field with
  | some old =>
    rw [own] at absent
    cases absent
  | none =>
    rw [own] at absent
    have attaches : (node.attach field.toName value).detach field.toName = .mk node.kind node.fields node.extra
        (Entries.erase (Entries.insert node.attached field.toName value) field.toName) := rfl
    rw [set_foreign value own, attaches, Entries.erase_insert, Entries.erase_of_absent absent, mk_parts]

theorem put_item {node : Node} {field : Field} {items : List Value} (index : Nat) (child : Node)
    (isItems : node.fields.lookup field = some (.list items)) :
    node.put (.item field index) child = node.set field (.list (items.set index (.node child))) := by
  unfold put
  rw [show (Branch.item field index).field = field from rfl, isItems]

/-- A branch to a node leads through the node of a field or through an item of its list. -/
theorem child?_cases {node child : Node} {branch : Branch} (isChild : node.child? branch = some child) :
    (∃ field, branch = .direct field ∧ node.fields.lookup field = some (.node child)) ∨
      ∃ field index items, branch = .item field index ∧ node.fields.lookup field = some (.list items) ∧
        items[index]? = some (.node child) := by
  obtain ⟨value, isValue, leads⟩ := child?_eq_some.mp isChild
  cases branch with
  | direct field =>
    cases value with
    | node other =>
      cases leads
      exact .inl ⟨field, rfl, isValue⟩
    | scalar | list | object => cases leads
  | item field index =>
    cases value with
    | list items =>
      obtain ⟨item, there, isNode⟩ := Option.bind_eq_some_iff.mp leads
      cases item with
      | node other =>
        cases isNode
        exact .inr ⟨field, index, items, rfl, isValue, there⟩
      | scalar | list | object => cases isNode
    | scalar | object | node => cases leads

/-- What is put behind a branch stands there. -/
theorem child?_put {node old : Node} {branch : Branch} (isChild : node.child? branch = some old) (child : Node) :
    (node.put branch child).child? branch = some child := by
  obtain ⟨field, rfl, isNode⟩ | ⟨field, index, items, rfl, isItems, there⟩ := child?_cases isChild
  · exact child?_eq_some.mpr ⟨.node child, lookup_set_self _ isNode, rfl⟩
  · obtain ⟨inside, _⟩ := List.getElem?_eq_some_iff.mp there
    rw [put_item index child isItems]
    refine child?_eq_some.mpr ⟨_, lookup_set_self _ isItems, ?_⟩
    rw [Branch.follow_item, List.getElem?_set_self inside]
    rfl

theorem put_put {node old : Node} {branch : Branch} (isChild : node.child? branch = some old) (child other : Node) :
    (node.put branch child).put branch other = node.put branch other := by
  obtain ⟨field, rfl, _⟩ | ⟨field, index, items, rfl, isItems, _⟩ := child?_cases isChild
  · exact set_set node field _ _
  · rw [put_item index child isItems, put_item index other (lookup_set_self _ isItems),
      put_item index other isItems, set_set, List.set_set]

theorem put_self {node child : Node} {branch : Branch} (distinct : (node.fields.map (·.1)).Nodup)
    (isChild : node.child? branch = some child) : node.put branch child = node := by
  obtain ⟨field, rfl, isNode⟩ | ⟨field, index, items, rfl, isItems, there⟩ := child?_cases isChild
  · exact set_of_get? distinct (get?_of_lookup isNode)
  · obtain ⟨inside, isItem⟩ := List.getElem?_eq_some_iff.mp there
    rw [put_item index child isItems, ← isItem, List.set_getElem_self]
    exact set_of_get? distinct (get?_of_lookup isItems)

theorem changeAt_put {node old : Node} {branch : Branch} (isChild : node.child? branch = some old)
    (change : Node → Node) (position : Position) (child : Node) :
    (node.put branch child).changeAt change (branch :: position) =
      node.put branch (child.changeAt change position) := by
  rw [changeAt, child?_put isChild child]
  exact put_put isChild child _

end Node

/-- An edit: what a field of the node at a position holds before and after. A value that was not there before is
attached. -/
structure FieldEdit where
  position : Position
  field : Field
  before : Option Value
  after : Value

namespace FieldEdit

def apply (edit : FieldEdit) (tree : Node) : Node := tree.changeAt (·.set edit.field edit.after) edit.position

/-- Gives the field its old value back, or detaches the new one if there was none. -/
def undo (edit : FieldEdit) (tree : Node) : Node :=
  tree.changeAt (fun node =>
    match edit.before with
    | some value => node.set edit.field value
    | none => node.detach edit.field.toName) edit.position

/-- The edit of a node as an edit of a tree in which the node stands at a position. -/
def below (position : Position) (edit : FieldEdit) : FieldEdit :=
  { edit with position := position ++ edit.position }

theorem below_below (position inner : Position) (edit : FieldEdit) :
    (edit.below inner).below position = edit.below (position ++ inner) := by
  simp [below]

/-- An edit of a child edits what is put in its place. -/
theorem apply_below_put {node old : Node} {branch : Branch} (isChild : node.child? branch = some old)
    (edit : FieldEdit) (child : Node) :
    (edit.below [branch]).apply (node.put branch child) = node.put branch (edit.apply child) :=
  Node.changeAt_put isChild _ edit.position child

theorem undo_below_put {node old : Node} {branch : Branch} (isChild : node.child? branch = some old)
    (edit : FieldEdit) (child : Node) :
    (edit.below [branch]).undo (node.put branch child) = node.put branch (edit.undo child) :=
  Node.changeAt_put isChild _ edit.position child

end FieldEdit

namespace Node

/-- Making the edits one after the other leads from one tree to another, and undoing them, the last one first, leads
back. -/
def EditedBy (before : Node) (edits : List FieldEdit) (after : Node) : Prop :=
  edits.foldl (fun tree edit => edit.apply tree) before = after ∧
    edits.foldr (fun edit tree => edit.undo tree) after = before

namespace EditedBy

theorem refl (node : Node) : node.EditedBy [] node := ⟨rfl, rfl⟩

theorem trans {before middle after : Node} {edits others : List FieldEdit} (first : before.EditedBy edits middle)
    (second : middle.EditedBy others after) : before.EditedBy (edits ++ others) after :=
  ⟨by rw [List.foldl_append, first.1, second.1], by rw [List.foldr_append, second.2, first.2]⟩

/-- Replacing the value of a field is an edit. -/
theorem set {node : Node} (distinct : (node.fields.map (·.1)).Nodup) (field : Field) (value : Value) :
    node.EditedBy [⟨[], field, node.get? field, value⟩] (node.set field value) := by
  refine ⟨rfl, ?_⟩
  cases there : node.get? field with
  | some old => exact (set_set node field value old).trans (set_of_get? distinct there)
  | none => exact detach_set value there

/-- Edits of a child are edits of the node. -/
theorem put {node child after : Node} {branch : Branch} {edits : List FieldEdit}
    (distinct : (node.fields.map (·.1)).Nodup) (isChild : node.child? branch = some child)
    (edited : child.EditedBy edits after) :
    node.EditedBy (edits.map (·.below [branch])) (node.put branch after) := by
  have applies (edits : List FieldEdit) (child : Node) :
      (edits.map (·.below [branch])).foldl (fun tree edit => edit.apply tree) (node.put branch child) =
        node.put branch (edits.foldl (fun tree edit => edit.apply tree) child) := by
    induction edits generalizing child with
    | nil => rfl
    | cons edit rest ih =>
      rw [List.map_cons, List.foldl_cons, List.foldl_cons, FieldEdit.apply_below_put isChild, ih]
  have undoes (edits : List FieldEdit) (child : Node) :
      (edits.map (·.below [branch])).foldr (fun edit tree => edit.undo tree) (node.put branch child) =
        node.put branch (edits.foldr (fun edit tree => edit.undo tree) child) := by
    induction edits with
    | nil => rfl
    | cons edit rest ih =>
      rw [List.map_cons, List.foldr_cons, List.foldr_cons, ih, FieldEdit.undo_below_put isChild]
  have same := put_self distinct isChild
  refine ⟨?_, ?_⟩
  · rw [← edited.1, ← applies, same]
  · rw [undoes, edited.2, same]

end EditedBy

/-- One tree becomes another by just these edits, in some order. -/
def EditedAs (before : Node) (edits : FieldEdit → Prop) (after : Node) : Prop :=
  ∃ log, before.EditedBy log after ∧ ∀ edit, edit ∈ log ↔ edits edit

namespace EditedAs

variable {before middle after node child : Node} {edits others : FieldEdit → Prop}

theorem congr (edited : before.EditedAs edits after) (same : ∀ edit, edits edit ↔ others edit) :
    before.EditedAs others after := by
  obtain ⟨log, leads, just⟩ := edited
  exact ⟨log, leads, fun edit => (just edit).trans (same edit)⟩

theorem refl (node : Node) : node.EditedAs (fun _ => False) node := ⟨[], .refl node, by simp⟩

theorem trans (first : before.EditedAs edits middle) (second : middle.EditedAs others after) :
    before.EditedAs (fun edit => edits edit ∨ others edit) after := by
  obtain ⟨log, leads, just⟩ := first
  obtain ⟨next, leadsOn, justNext⟩ := second
  exact ⟨log ++ next, leads.trans leadsOn, fun edit => by rw [List.mem_append, just, justNext]⟩

theorem set (distinct : (node.fields.map (·.1)).Nodup) (field : Field) (value : Value) :
    node.EditedAs (· = ⟨[], field, node.get? field, value⟩) (node.set field value) :=
  ⟨_, .set distinct field value, fun _ => List.mem_singleton⟩

theorem put {branch : Branch} (distinct : (node.fields.map (·.1)).Nodup) (isChild : node.child? branch = some child)
    (edited : child.EditedAs edits after) :
    node.EditedAs (fun edit => ∃ inner, edits inner ∧ edit = inner.below [branch]) (node.put branch after) := by
  obtain ⟨log, leads, just⟩ := edited
  refine ⟨_, .put distinct isChild leads, fun edit => ?_⟩
  rw [List.mem_map]
  exact exists_congr fun inner => and_congr (just inner) eq_comm

end EditedAs

end Node

section Children

variable {edits : Place → Node → FieldEdit → Prop}

/-- An edit of one of the nodes in a field. -/
def ValueEdit (edits : Place → Node → FieldEdit → Prop) (placed : Option Place) (field : Field) (value : Value)
    (edit : FieldEdit) : Prop :=
  ∃ (branch : Branch) (place : Place) (child : Node) (inner : FieldEdit), branch.field = field ∧
    placed = some place ∧
    branch.follow value = some child ∧ edits (branch.place place) child inner ∧ edit = inner.below [branch]

/-- Edits of the items of a list are edits of the node around it. -/
theorem Node.editedAs_items {node : Node} (distinct : (node.fields.map (·.1)).Nodup) {field : Field}
    {front items others : List Value} (isItems : node.fields.lookup field = some (.list (front ++ items)))
    (relate : List.Forall₂ (ItemRelate fun place before after => before.EditedAs (edits place before) after)
      items others) :
    node.EditedAs (fun edit => ∃ index child inner, items[index]?.bind Value.node? = some child ∧
      edits .plain child inner ∧ edit = inner.below [.item field (front.length + index)])
      (node.set field (.list (front ++ others))) := by
  induction relate generalizing front node with
  | nil =>
    rw [set_of_get? distinct (get?_of_lookup isItems)]
    exact (EditedAs.refl node).congr (by simp)
  | @cons item other rest others head tail ih =>
    -- The items before `front` are done; each step moves one more item there.
    have next {node : Node} (distinct : (node.fields.map (·.1)).Nodup)
        (isItems : node.fields.lookup field = some (.list (front ++ other :: rest))) :=
      @ih node distinct (front ++ [other]) (by simpa using isItems)
    simp only [List.append_assoc, List.singleton_append, List.length_append, List.length_singleton] at next
    cases head with
    | @node before after edited =>
      have isChild : node.child? (.item field front.length) = some before :=
        child?_eq_some.mpr ⟨_, isItems, by simp [Branch.follow, Value.node?]⟩
      have isPut : node.put (.item field front.length) after = node.set field
        (.list (front ++ .node after :: rest)) := by
        rw [put_item _ _ isItems]
        simp
      have first := EditedAs.put distinct isChild edited
      rw [isPut] at first
      have both := first.trans (next (by rwa [names_set]) (lookup_set_self _ isItems))
      rw [set_set] at both
      refine both.congr fun edit => ⟨?_, ?_⟩
      · rintro (⟨inner, isEdit, rfl⟩ | ⟨index, child, inner, there, isEdit, rfl⟩)
        · exact ⟨0, before, inner, rfl, isEdit, rfl⟩
        · exact ⟨index + 1, child, inner, there, isEdit, by rw [Nat.add_comm index 1, Nat.add_assoc]⟩
      · rintro ⟨index, child, inner, there, isEdit, rfl⟩
        cases index with
        | zero =>
          cases there
          exact .inl ⟨inner, isEdit, rfl⟩
        | succ index => exact .inr ⟨index, child, inner, there, isEdit, by rw [Nat.add_comm index 1, Nat.add_assoc]⟩
    | data plain =>
      refine (next distinct isItems).congr fun edit => ⟨?_, ?_⟩
      · rintro ⟨index, child, inner, there, isEdit, rfl⟩
        exact ⟨index + 1, child, inner, there, isEdit, by rw [Nat.add_comm index 1, Nat.add_assoc]⟩
      · rintro ⟨index, child, inner, there, isEdit, rfl⟩
        cases index with
        | zero =>
          rw [List.getElem?_cons_zero, Option.bind_some, plain] at there
          cases there
        | succ index => exact ⟨index, child, inner, there, isEdit, by rw [Nat.add_comm index 1, Nat.add_assoc]⟩

/-- Edits of the nodes in a field are edits of the node around it. -/
theorem Node.editedAs_field {node : Node} (distinct : (node.fields.map (·.1)).Nodup) {field : Field}
    {value other : Value}
    {placed : Option Place} (isValue : node.fields.lookup field = some value)
    (relate : FieldRelate (fun place before after => before.EditedAs (edits place before) after)
      placed value other) :
    node.EditedAs (ValueEdit edits placed field value) (node.set field other) := by
  have unchanged (nothing : ∀ edit, ¬ ValueEdit edits placed field value edit) :
      node.EditedAs (ValueEdit edits placed field value) (node.set field value) := by
    rw [set_of_get? distinct (get?_of_lookup isValue)]
    exact (EditedAs.refl node).congr fun edit => iff_of_false not_false (nothing edit)
  cases placed with
  | none =>
    cases relate
    exact unchanged (by rintro _ ⟨_, _, _, _, _, placed, _⟩; cases placed)
  | some place =>
    cases relate with
    | @node before after edited =>
      have isChild : node.child? (.direct field) = some before := child?_eq_some.mpr ⟨_, isValue, rfl⟩
      refine (EditedAs.put distinct isChild edited).congr fun edit => ⟨?_, ?_⟩
      · rintro ⟨inner, isEdit, rfl⟩
        exact ⟨.direct field, place, before, inner, rfl, rfl, rfl, isEdit, rfl⟩
      · rintro ⟨branch, _, child, inner, rfl, isPlace, leads, isEdit, rfl⟩
        cases branch with
        | direct field =>
          cases isPlace
          cases leads
          exact ⟨inner, isEdit, rfl⟩
        | item field index => cases leads
    | list relate =>
      refine (@editedAs_items edits node distinct field [] _ _ isValue relate).congr fun edit => ⟨?_, ?_⟩
      · rintro ⟨index, child, inner, there, isEdit, rfl⟩
        exact ⟨.item field index, place, child, inner, rfl, rfl, there, isEdit, by simp⟩
      · rintro ⟨branch, _, child, inner, rfl, _, leads, isEdit, rfl⟩
        cases branch with
        | direct field => cases leads
        | item field index => exact ⟨index, child, inner, leads, isEdit, by simp [Branch.field]⟩
    | scalar | object =>
      refine unchanged ?_
      rintro _ ⟨branch, _, _, _, _, _, leads, _⟩
      cases branch <;> cases leads

/-- Edits of the nodes in all fields, those behind the first ones field by field. -/
theorem Node.editedAs_fields {kind : Kind} {extra : Value} {attached : List (String × Value)}
    {placeOf : Field → Option Place} {front fields others : List (Field × Value)}
    (distinct : ((front ++ fields).map (·.1)).Nodup)
    (relate : FieldsRelate (fun place before after => before.EditedAs (edits place before) after) placeOf
      fields others) :
    (Node.mk kind (front ++ fields) extra attached).EditedAs
      (fun edit => ∃ entry ∈ fields, ValueEdit edits (placeOf entry.1) entry.1 entry.2 edit)
      (.mk kind (front ++ others) extra attached) := by
  induction relate generalizing front with
  | nil => exact (EditedAs.refl _).congr (by simp)
  | @cons before after rest others head tail ih =>
    obtain ⟨field, value⟩ := before
    obtain ⟨other, changed⟩ := after
    obtain ⟨rfl, values⟩ : other = field ∧ FieldRelate _ (placeOf field) value changed := head
    have isValue : (front ++ (other, value) :: rest).lookup other = some value := lookup_of_mem distinct (by simp)
    have first := @editedAs_field edits (.mk kind (front ++ (other, value) :: rest) extra attached) distinct _ _ _ _
      isValue values
    rw [set_between changed distinct] at first
    have next := @ih (front ++ [(other, changed)]) (by simpa using distinct)
    simp only [List.append_assoc, List.singleton_append] at next
    exact (first.trans next).congr fun edit => by simp

/-- Edits of the nodes in the fields of a node are edits of the node. -/
theorem Node.editedAs_children {node : Node} {placeOf : Field → Option Place} {others : List (Field × Value)}
    (ownFields : node.hasOwnFields = true)
    (relate : FieldsRelate (fun place before after => before.EditedAs (edits place before) after)
      placeOf node.fields
      others) :
    node.EditedAs (fun edit => ∃ branch place child inner, placeOf branch.field = some place ∧
      node.child? branch = some child ∧ edits (branch.place place) child inner ∧ edit = inner.below [branch])
      (.mk node.kind others node.extra node.attached) := by
  obtain ⟨kind, fields, extra, attached⟩ := node
  have distinct := nodup_fields ownFields
  refine (@editedAs_fields edits kind extra attached placeOf [] fields others distinct relate).congr
    fun edit => ⟨?_, ?_⟩
  · rintro ⟨⟨field, value⟩, member, branch, place, child, inner, rfl, placed, leads, isEdit, rfl⟩
    have isValue := lookup_of_mem distinct member
    exact ⟨branch, place, child, inner, placed, child?_eq_some.mpr ⟨value, isValue, leads⟩, isEdit, rfl⟩
  · rintro ⟨branch, place, child, inner, placed, isChild, isEdit, rfl⟩
    obtain ⟨value, isValue, leads⟩ := child?_eq_some.mp isChild
    exact ⟨(branch.field, value), mem_of_lookup isValue, branch, place, child, inner, rfl, placed,
      leads, isEdit, rfl⟩

end Children

end JsxRouting
