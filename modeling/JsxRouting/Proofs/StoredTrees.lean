import JsxRouting.Proofs.Outcomes
import JsxRouting.Proofs.RegularTrees
import JsxRouting.Tree.Store

namespace JsxRouting

namespace Store

theorem size_add (store : Store) (cell : Cell) : (store.add cell).size = store.size + 1 := by simp [size, add]

theorem cell?_add (store : Store) (cell : Cell) : (store.add cell).cell? store.size = some cell := by
  simp [cell?, add, size]

/-- A store with at least as many nodes as another, in which the nodes with some numbers are as they were. -/
structure Keeps (store : Store) (kept : Nat → Prop) (later : Store) : Prop where
  size : store.size ≤ later.size
  cell? {id : Nat} : id < store.size → kept id → later.cell? id = store.cell? id

/-- A store that has all nodes of another under their numbers, and may have more. -/
abbrev Grows (store larger : Store) : Prop := store.Keeps (fun _ => True) larger

/-- A store in which nothing is changed but nodes with numbers from `low` to below `high`, and to which nodes may
have been added. -/
abbrev KeepsOutside (low high : Nat) (store later : Store) : Prop :=
  store.Keeps (fun id => ¬ (low ≤ id ∧ id < high)) later

namespace Keeps

variable {store later last latest : Store} {kept also : Nat → Prop}

theorem refl (store : Store) (kept : Nat → Prop) : store.Keeps kept store := ⟨Nat.le_refl _, fun _ _ => rfl⟩

/-- The later store has to keep only what stood in the first one. -/
theorem trans (first : store.Keeps kept later) (second : later.Keeps also last)
    (le : ∀ id, id < store.size → kept id → also id) : store.Keeps kept last :=
  ⟨Nat.le_trans first.size second.size, fun {id} below isKept =>
    (second.cell? (Nat.lt_of_lt_of_le below first.size) (le id below isKept)).trans (first.cell? below isKept)⟩

theorem mono (keeps : store.Keeps also later) (le : ∀ id, id < store.size → kept id → also id) :
    store.Keeps kept later :=
  ⟨keeps.size, fun {id} below isKept => keeps.cell? below (le id below isKept)⟩

/-- What is kept outside of two ranges, one behind the other, is kept outside of both. -/
theorem outside_trans {low middle high : Nat} (first : store.KeepsOutside low middle later)
    (second : later.KeepsOutside middle high last) (before : low ≤ middle) (behind : middle ≤ high) :
    store.KeepsOutside low high last :=
  (first.mono fun _ _ outside => by omega).trans second fun _ _ outside => by omega

/-- What is kept from a number on, and then outside of a range, is kept behind this range. -/
theorem behind {low middle : Nat} (first : store.Keeps (low ≤ ·) later)
    (second : later.KeepsOutside low middle last) (le : low ≤ middle) :
    store.Keeps (middle ≤ ·) last :=
  (first.mono fun _ _ => Nat.le_trans le).trans second fun _ _ isKept => by omega

/-- What stands in a store is kept by changes behind it, and then by all that keeps a range around it. -/
theorem ahead {low high higher : Nat} (first : store.Keeps (low ≤ ·) later)
    (second : later.KeepsOutside store.size higher last)
    (third : last.Keeps (fun id => low ≤ id ∧ id < high ∨ also id) latest) (le : store.size ≤ high) :
    store.Keeps (low ≤ ·) latest :=
  (first.trans second fun _ below _ inRange => Nat.not_le_of_lt below inRange.1).trans third
    fun _ below isKept => .inl ⟨isKept, Nat.lt_of_lt_of_le below le⟩

end Keeps

namespace Grows

variable {store larger largest : Store}

theorem refl (store : Store) : store.Grows store := Keeps.refl store _

theorem trans (first : store.Grows larger) (second : larger.Grows largest) : store.Grows largest :=
  Keeps.trans first second fun _ _ _ => trivial

theorem add (store : Store) (cell : Cell) : store.Grows (store.add cell) := by
  refine ⟨by rw [size_add]; exact Nat.le_succ _, fun {id} below _ => ?_⟩
  have ne : id ≠ store.cells.size := Nat.ne_of_lt below
  simp [Store.cell?, Store.add, Array.getElem?_push, ne]

/-- What is kept of a store from a number on is kept of the stores out of which it grew. -/
theorem keeps {low lower : Nat} (grows : store.Grows larger) (keeps : larger.Keeps (low ≤ ·) largest)
    (le : low ≤ lower) : store.Keeps (lower ≤ ·) largest :=
  (Keeps.mono grows fun _ _ _ => trivial).trans keeps fun _ _ => Nat.le_trans le

end Grows

end Store

mutual

theorem Node.grows_load : ∀ (node : Node) (store : Store), store.Grows (node.load store).2
  | .mk _ fields extra attached, store =>
    (((grows_loadFields fields store).trans (Value.grows_load extra _)).trans
      (grows_loadMembers attached _)).trans (.add _ _)

theorem grows_loadFields :
    ∀ (fields : List (Field × Value)) (store : Store), store.Grows (loadFields fields store).2
  | [], store => .refl store
  | (_, value) :: rest, store => (Value.grows_load value store).trans (grows_loadFields rest _)

theorem grows_loadMembers : ∀ (members : List (String × Value)) (store : Store),
    store.Grows (loadMembers members store).2
  | [], store => .refl store
  | (_, value) :: rest, store => (Value.grows_load value store).trans (grows_loadMembers rest _)

theorem Value.grows_load : ∀ (value : Value) (store : Store), store.Grows (value.load store).2
  | .scalar _, store => .refl store
  | .list items, store => grows_loadItems items store
  | .object members, store => grows_loadMembers members store
  | .node node, store => Node.grows_load node store

theorem grows_loadItems : ∀ (items : List Value) (store : Store), store.Grows (loadItems items store).2
  | [], store => .refl store
  | item :: rest, store => (Value.grows_load item store).trans (grows_loadItems rest _)

end

/-- The fields of a loaded node are those of the node. -/
theorem names_loadFields (fields : List (Field × Value)) (store : Store) :
    (loadFields fields store).1.map (·.1) = fields.map (·.1) := by
  induction fields generalizing store with
  | nil => rfl
  | cons entry rest ih =>
    obtain ⟨field, value⟩ := entry
    exact congrArg (field :: ·) (ih _)

theorem Node.size_load (node : Node) (store : Store) : (node.load store).2.size = (node.load store).1 + 1 := by
  obtain ⟨kind, fields, extra, attached⟩ := node
  exact Store.size_add _ _

theorem Node.load_eq (node : Node) (store : Store) :
    node.load store = ((node.loadCell store).2.size, (node.loadCell store).2.add (node.loadCell store).1) := by
  cases node
  rfl

theorem Node.kind_loadCell (node : Node) (store : Store) : (node.loadCell store).1.kind = node.kind := by
  cases node
  rfl

theorem Node.grows_loadCell (node : Node) (store : Store) : store.Grows (node.loadCell store).2 := by
  obtain ⟨kind, fields, extra, attached⟩ := node
  exact ((grows_loadFields fields store).trans (Value.grows_load extra _)).trans (grows_loadMembers attached _)

theorem Node.grows_loadCell_load (node : Node) (store : Store) :
    (node.loadCell store).2.Grows (node.load store).2 := by
  rw [node.load_eq]
  exact .add _ _

theorem Node.le_load (node : Node) (store : Store) : store.size ≤ (node.load store).1 := by
  rw [node.load_eq]
  exact (node.grows_loadCell store).size

theorem Slot.mem_nodes_of_node? {slot : Slot} {id : Nat} (isNode : slot.node? = some id) : id ∈ slot.nodes := by
  cases slot with
  | node other =>
    cases isNode
    exact List.mem_singleton_self _
  | scalar | list | object => cases isNode

theorem bounds_loadItems {items : List Value} {store : Store} {id : Nat}
    (member : id ∈ (loadItems items store).1.filterMap Slot.node?) :
    store.size ≤ id ∧ id < (loadItems items store).2.size := by
  induction items generalizing store with
  | nil => cases member
  | cons item rest ih =>
    have before := (Value.grows_load item store).size
    have behind := (grows_loadItems rest (item.load store).2).size
    cases item with
    | node child =>
      obtain rfl | inRest := List.mem_cons.mp member
      · exact ⟨child.le_load store, Nat.lt_of_lt_of_le (by rw [Value.load, child.size_load]; omega) behind⟩
      · exact ⟨Nat.le_trans before (ih inRest).1, (ih inRest).2⟩
    | scalar | list | object => exact ⟨Nat.le_trans before (ih member).1, (ih member).2⟩

/-- The nodes that stand in a loaded value are among those that were added with it. -/
theorem Value.bounds_load {value : Value} {store : Store} {id : Nat} (member : id ∈ (value.load store).1.nodes) :
    store.size ≤ id ∧ id < (value.load store).2.size := by
  cases value with
  | node child =>
    obtain rfl := List.mem_singleton.mp member
    exact ⟨child.le_load store, by rw [Value.load, child.size_load]; omega⟩
  | list items => exact bounds_loadItems member
  | scalar | object => cases member

end JsxRouting
