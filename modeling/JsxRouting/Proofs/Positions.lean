import JsxRouting.Pass.Transform
import JsxRouting.Proofs.FieldAccess
import JsxRouting.Proofs.Outcomes
import Mathlib.Data.List.Forall2

namespace JsxRouting

/-- A way from a node to one that stands in it: directly in a field, or in the list of a field. -/
inductive Branch
  | direct (field : Field)
  | item (field : Field) (index : Nat)
  deriving DecidableEq

namespace Branch

def field : Branch → Field
  | direct field => field
  | item field _ => field

def withField : Branch → Field → Branch
  | direct _, field => direct field
  | item _ index, field => item field index

/-- The node to which the branch leads from the value of its field. -/
def follow : Branch → Value → Option Node
  | direct _, .node child => some child
  | item _ index, .list items => items[index]?.bind Value.node?
  | _, _ => none

/-- The place of that node, given the place of the field. -/
def place : Branch → Place → Place
  | direct _, place => place
  | item _ _, _ => .plain

theorem follow_direct (field : Field) (value : Value) : (direct field).follow value = value.node? := by
  cases value <;> rfl

theorem follow_item (field : Field) (index : Nat) (items : List Value) :
    (item field index).follow (.list items) = items[index]?.bind Value.node? := rfl

@[simp] theorem field_withField (branch : Branch) (field : Field) :
    (branch.withField field).field = field := by
  cases branch <;> rfl

@[simp] theorem follow_withField (branch : Branch) (field : Field) :
    (branch.withField field).follow = branch.follow := by
  funext value
  cases branch <;> cases value <;> rfl

end Branch

/-- The branches from a node down to one below it. -/
abbrev Position := List Branch

namespace Node

def child? (node : Node) (branch : Branch) : Option Node :=
  (node.fields.lookup branch.field).bind branch.follow

/-- The node at a position. -/
def at? (node : Node) : Position → Option Node
  | [] => some node
  | branch :: rest => (node.child? branch).bind (·.at? rest)

theorem at?_cons_eq_some {node target : Node} {branch : Branch} {rest : Position} :
    node.at? (branch :: rest) = some target ↔
      ∃ child, node.child? branch = some child ∧ child.at? rest = some target := by
  simp [at?, Option.bind_eq_some_iff]

theorem child?_eq_some {node child : Node} {branch : Branch} :
    node.child? branch = some child ↔
      ∃ value, node.fields.lookup branch.field = some value ∧ branch.follow value = some child := by
  simp [child?, Option.bind_eq_some_iff]

/-- What stands behind a branch depends only on the value of its field. -/
theorem at?_cons_set_of_ne (node : Node) {field : Field} {branch : Branch} (value : Value)
    (rest : Position) (ne : branch.field ≠ field) :
    (node.set field value).at? (branch :: rest) = node.at? (branch :: rest) := by
  simp only [at?, child?, lookup_set_of_ne node value ne]

end Node

/-- Nodes at one place of two values are related, and all else in the values is equal. -/
inductive ItemRelate (related : Place → Node → Node → Prop) : Value → Value → Prop
  | node {before after : Node} : related .plain before after → ItemRelate related (.node before) (.node after)
  | data {item : Value} : item.node? = none → ItemRelate related item item

inductive ValueRelate (related : Place → Node → Node → Prop) (place : Place) : Value → Value → Prop
  | node {before after : Node} :
      related place before after → ValueRelate related place (.node before) (.node after)
  | list {items others : List Value} :
      List.Forall₂ (ItemRelate related) items others → ValueRelate related place (.list items) (.list others)
  | scalar (value : Scalar) : ValueRelate related place (.scalar value) (.scalar value)
  | object (members : List (String × Value)) : ValueRelate related place (.object members) (.object members)

/-- The values of one field are related as its place says: without a place they are equal. -/
def FieldRelate (related : Place → Node → Node → Prop) : Option Place → Value → Value → Prop
  | some place => ValueRelate related place
  | none => Eq

/-- Two lists of fields with the same names, whose values are related field by field. -/
def FieldsRelate (related : Place → Node → Node → Prop) (placeOf : Field → Option Place) :
    List (Field × Value) → List (Field × Value) → Prop :=
  List.Forall₂ fun before after =>
    after.1 = before.1 ∧ FieldRelate related (placeOf before.1) before.2 after.2

section Relate

variable {related : Place → Node → Node → Prop} {placeOf : Field → Option Place}

theorem FieldsRelate.lookup {fields others : List (Field × Value)} {field : Field} {value : Value}
    (relate : FieldsRelate related placeOf fields others) (there : fields.lookup field = some value) :
    ∃ other, others.lookup field = some other ∧ FieldRelate related (placeOf field) value other := by
  induction relate with
  | nil => simp at there
  | @cons before after rest others head tail ih =>
    obtain ⟨first, old⟩ := before
    obtain ⟨other, new⟩ := after
    obtain ⟨same, values⟩ := head
    simp only at same values
    subst same
    by_cases here : field = other
    · subst here
      simp only [List.lookup_cons, beq_self_eq_true, Option.some.injEq] at there
      subst there
      exact ⟨new, by simp, values⟩
    · have differs : (field == other) = false := by simpa using here
      simp only [List.lookup_cons, differs] at there ⊢
      exact ih there

theorem FieldsRelate.lookup_none {fields others : List (Field × Value)} {field : Field}
    (relate : FieldsRelate related placeOf fields others) (absent : fields.lookup field = none) :
    others.lookup field = none := by
  induction relate with
  | nil => rfl
  | @cons before after rest others head tail ih =>
    obtain ⟨first, old⟩ := before
    obtain ⟨other, new⟩ := after
    have same : other = first := head.1
    subst same
    by_cases here : field = other
    · simp [here] at absent
    · have differs : (field == other) = false := by simpa using here
      simp only [List.lookup_cons, differs] at absent ⊢
      exact ih absent

theorem FieldsRelate.names {fields others : List (Field × Value)}
    (relate : FieldsRelate related placeOf fields others) :
    others.map (·.1) = fields.map (·.1) := by
  induction relate with
  | nil => rfl
  | cons head _ ih => rw [List.map_cons, List.map_cons, head.1, ih]

theorem ItemRelate.getElem? {items others : List Value} {index : Nat} {child : Node}
    (relate : List.Forall₂ (ItemRelate related) items others)
    (there : items[index]?.bind Value.node? = some child) :
    ∃ other, others[index]?.bind Value.node? = some other ∧ related .plain child other := by
  induction relate generalizing index with
  | nil => simp at there
  | @cons item other rest others head tail ih =>
    cases index with
    | zero =>
      cases head with
      | node proof =>
        simp only [List.getElem?_cons_zero, Option.bind_some, Value.node?, Option.some.injEq] at there ⊢
        subst there
        exact ⟨_, rfl, proof⟩
      | data plain => simp [plain] at there
    | succ index =>
      simp only [List.getElem?_cons_succ] at there ⊢
      exact ih there

/-- What a branch finds among the fields, it finds a related node of among the others. -/
theorem FieldsRelate.child {fields others : List (Field × Value)} {branch : Branch} {child : Node}
    {place : Place} (relate : FieldsRelate related placeOf fields others)
    (there : (fields.lookup branch.field).bind branch.follow = some child)
    (placed : placeOf branch.field = some place) :
    ∃ other, (others.lookup branch.field).bind branch.follow = some other ∧
      related (branch.place place) child other := by
  obtain ⟨value, found, leads⟩ := Option.bind_eq_some_iff.mp there
  obtain ⟨other, foundOther, values⟩ := relate.lookup found
  rw [placed] at values
  rw [foundOther]
  cases values with
  | node proof =>
    cases branch with
    | direct field =>
      cases Option.some.inj leads
      exact ⟨_, rfl, proof⟩
    | item field index => simp [Branch.follow] at leads
  | list proofs =>
    cases branch with
    | direct field => simp [Branch.follow] at leads
    | item field index => exact ItemRelate.getElem? proofs leads
  | scalar | object => cases branch <;> simp [Branch.follow] at leads

theorem FieldsRelate.symm {fields others : List (Field × Value)}
    (relate : FieldsRelate related placeOf fields others) :
    FieldsRelate (fun place after before => related place before after) placeOf others fields := by
  have items {list changed : List Value} (relate : List.Forall₂ (ItemRelate related) list changed) :
      List.Forall₂ (ItemRelate fun place after before => related place before after) changed list := by
    refine (relate.imp fun item other proof => ?_).flip
    cases proof with
    | node proof => exact .node proof
    | data plain => exact .data plain
  refine (List.Forall₂.imp (fun before after head => ?_) relate).flip
  obtain ⟨same, values⟩ := head
  refine ⟨same.symm, ?_⟩
  rw [same]
  generalize placeOf before.1 = placed at values ⊢
  cases placed with
  | none => exact Eq.symm values
  | some place =>
    generalize before.2 = value at values ⊢
    generalize after.2 = other at values ⊢
    cases values with
    | node proof => exact .node proof
    | list relate => exact .list (items relate)
    | scalar value => exact .scalar value
    | object members => exact .object members

/-- What a branch finds among the other fields, it finds a related node of among the fields, or the same node if the
field has no place. -/
theorem FieldsRelate.child_cases {fields others : List (Field × Value)} {branch : Branch} {other : Node}
    (relate : FieldsRelate related placeOf fields others)
    (there : (others.lookup branch.field).bind branch.follow = some other) :
    ∃ child, (fields.lookup branch.field).bind branch.follow = some child ∧
      (match placeOf branch.field with
        | some place => related (branch.place place) child other
        | none => other = child) := by
  cases placed : placeOf branch.field with
  | some place => exact relate.symm.child there placed
  | none =>
    obtain ⟨value, found, leads⟩ := Option.bind_eq_some_iff.mp there
    obtain ⟨old, foundOld, same⟩ := relate.symm.lookup found
    rw [placed] at same
    cases same
    exact ⟨other, by rw [foundOld]; exact leads, rfl⟩

/-- A field is read as before if neither list has it, and what is read is related if both have it. -/
theorem FieldsRelate.get?_cases {node : Node} {others : List (Field × Value)}
    (relate : FieldsRelate related placeOf node.fields others) (field : Field) :
    (Node.mk node.kind others node.extra node.attached).get? field = node.get? field ∨
      ∃ value other, node.get? field = some value ∧
        (Node.mk node.kind others node.extra node.attached).get? field = some other ∧
        FieldRelate related (placeOf field) value other := by
  cases there : node.fields.lookup field with
  | none =>
    refine .inl ?_
    obtain ⟨kind, fields, extra, attached⟩ := node
    simp only [Node.fields] at relate there
    simp only [Node.get?, Node.fields, relate.lookup_none there, there]
    rfl
  | some value =>
    obtain ⟨other, isOther, values⟩ := relate.lookup there
    exact .inr ⟨value, other, Node.get?_of_lookup there, Node.get?_of_lookup isOther, values⟩

end Relate

section Traverse

variable (visit : Place → Node → Except Error Node)

/-- Visits a node in a list, and leaves anything else in the list as it is. -/
def Value.visitItem : Value → Except Error Value
  | .node child => do return .node (← visit .plain child)
  | item => return item

/-- Visits the nodes that stand in a value of a field, directly or in its list. -/
def Value.visitNodes (place : Place) : Value → Except Error Value
  | .node child => do return .node (← visit place child)
  | .list items => do return .list (← items.mapM (Value.visitItem visit))
  | value => return value

/-- Visits the nodes in a field that has a place for them. -/
def visitField (placeOf : Field → Option Place) (entry : Field × Value) : Except Error (Field × Value) :=
  match placeOf entry.1 with
  | some place => do return (entry.1, ← entry.2.visitNodes visit place)
  | none => return entry

theorem Value.visitItem_relate {visit : Place → Node → Except Error Node} {item other : Value}
    (visited : item.visitItem visit = .ok other) :
    ItemRelate (fun place before after => visit place before = .ok after) item other := by
  cases item with
  | node child =>
    obtain ⟨after, visitedChild, visited⟩ := bind_eq_ok_iff.mp visited
    cases visited
    exact .node visitedChild
  | scalar | list | object =>
    cases visited
    exact .data rfl

theorem forall₂_of_mapM {α β : Type} {step : α → Except Error β} {list : List α} {others : List β}
    (run : list.mapM step = .ok others) :
    List.Forall₂ (fun before after => step before = .ok after) list others := by
  induction list generalizing others with
  | nil =>
    cases run
    exact .nil
  | cons first rest ih =>
    rw [List.mapM_cons] at run
    obtain ⟨after, ranFirst, run⟩ := bind_eq_ok_iff.mp run
    obtain ⟨tail, ranRest, run⟩ := bind_eq_ok_iff.mp run
    cases run
    exact .cons ranFirst (ih ranRest)

theorem Value.visitNodes_relate {visit : Place → Node → Except Error Node} {place : Place} {value other : Value}
    (visited : value.visitNodes visit place = .ok other) :
    ValueRelate (fun place before after => visit place before = .ok after) place value other := by
  cases value with
  | node child =>
    obtain ⟨after, visitedChild, visited⟩ := bind_eq_ok_iff.mp visited
    cases visited
    exact .node visitedChild
  | list items =>
    obtain ⟨others, visitedItems, visited⟩ := bind_eq_ok_iff.mp visited
    cases visited
    exact .list ((forall₂_of_mapM visitedItems).imp fun _ _ => Value.visitItem_relate)
  | scalar value =>
    cases visited
    exact .scalar value
  | object members =>
    cases visited
    exact .object members

/-- Visiting the nodes of all fields relates the fields by the visits. -/
theorem visitFields_relate {visit : Place → Node → Except Error Node} {placeOf : Field → Option Place}
    {fields others : List (Field × Value)} (visited : fields.mapM (visitField visit placeOf) = .ok others) :
    FieldsRelate (fun place before after => visit place before = .ok after) placeOf fields others := by
  refine (forall₂_of_mapM visited).imp fun before after step => ?_
  unfold visitField at step
  cases placed : placeOf before.1 with
  | none =>
    rw [placed] at step
    cases step
    exact ⟨rfl, rfl⟩
  | some place =>
    rw [placed] at step
    obtain ⟨value, visitedValue, step⟩ := bind_eq_ok_iff.mp step
    cases step
    exact ⟨rfl, Value.visitNodes_relate visitedValue⟩

end Traverse

theorem transformItems_eq (transformer : Transformer (Except Error)) (items : List Value) :
    transformItems transformer items =
      items.mapM (Value.visitItem fun place child => child.transform transformer place) := by
  induction items with
  | nil => rfl
  | cons item rest ih =>
    rw [List.mapM_cons, ← ih]
    cases item with
    | node child =>
      rw [transformItems, Value.visitItem]
      cases child.transform transformer .plain <;> rfl
    | scalar | list | object => rfl

theorem transformFields_eq (transformer : Transformer (Except Error)) (placeOf : Field → Option Place)
    (fields : List (Field × Value)) :
    transformFields transformer placeOf fields =
      fields.mapM (visitField (fun place child => child.transform transformer place) placeOf) := by
  induction fields with
  | nil => rfl
  | cons entry rest ih =>
    obtain ⟨field, value⟩ := entry
    rw [transformFields, List.mapM_cons, ← ih, visitField]
    cases placeOf field with
    | none => rfl
    | some place =>
      cases value with
      | node child =>
        simp only [Value.transform, Value.visitNodes]
        cases child.transform transformer place <;> rfl
      | list items =>
        simp only [Value.transform, Value.visitNodes, transformItems_eq]
        cases items.mapM (Value.visitItem fun place child => child.transform transformer place) <;> rfl
      | scalar | object => rfl

end JsxRouting
