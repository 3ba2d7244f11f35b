import JsxRouting.Proofs.StoredTrees
import Mathlib.Data.List.Perm.Subperm

namespace JsxRouting

section Reading

variable {node other : Nat → Option Node}

theorem readSlots_cons {slot : Slot} {slots : List Slot} {value : Value} {values : List Value}
    (isValue : slot.read node = some value) (areValues : readSlots node slots = some values) :
    readSlots node (slot :: slots) = some (value :: values) := by
  rw [readSlots, isValue, areValues]
  rfl

theorem readMembers_cons {key : String} {slot : Slot} {slots : List (String × Slot)} {value : Value}
    {values : List (String × Value)} (isValue : slot.read node = some value)
    (areValues : readMembers node slots = some values) :
    readMembers node ((key, slot) :: slots) = some ((key, value) :: values) := by
  rw [readMembers, isValue, areValues]
  rfl

theorem readFields_cons {field : Field} {slot : Slot} {slots : List (Field × Slot)} {value : Value}
    {values : List (Field × Value)} (isValue : slot.read node = some value)
    (areValues : readFields node slots = some values) :
    readFields node ((field, slot) :: slots) = some ((field, value) :: values) := by
  rw [readFields, isValue, areValues]
  rfl

mutual

theorem Slot.read_mono (le : ∀ id tree, node id = some tree → other id = some tree) :
    ∀ (slot : Slot) {value : Value}, slot.read node = some value → slot.read other = some value
  | .scalar _, _, read => read
  | .list items, _, read => by
    obtain ⟨values, areValues, rfl⟩ := Option.map_eq_some_iff.mp read
    exact congrArg (Option.map Value.list) (readSlots_mono le items areValues)
  | .object members, _, read => by
    obtain ⟨values, areValues, rfl⟩ := Option.map_eq_some_iff.mp read
    exact congrArg (Option.map Value.object) (readMembers_mono le members areValues)
  | .node id, _, read => by
    obtain ⟨tree, isTree, rfl⟩ := Option.map_eq_some_iff.mp read
    exact congrArg (Option.map Value.node) (le id tree isTree)

theorem readSlots_mono (le : ∀ id tree, node id = some tree → other id = some tree) :
    ∀ (slots : List Slot) {values : List Value}, readSlots node slots = some values →
      readSlots other slots = some values
  | [], _, read => read
  | slot :: rest, _, read => by
    obtain ⟨value, isValue, read⟩ := Option.bind_eq_some_iff.mp read
    obtain ⟨values, areValues, same⟩ := Option.bind_eq_some_iff.mp read
    cases same
    exact readSlots_cons (Slot.read_mono le slot isValue) (readSlots_mono le rest areValues)

theorem readMembers_mono (le : ∀ id tree, node id = some tree → other id = some tree) :
    ∀ (members : List (String × Slot)) {values : List (String × Value)},
      readMembers node members = some values → readMembers other members = some values
  | [], _, read => read
  | (_, slot) :: rest, _, read => by
    obtain ⟨value, isValue, read⟩ := Option.bind_eq_some_iff.mp read
    obtain ⟨values, areValues, same⟩ := Option.bind_eq_some_iff.mp read
    cases same
    exact readMembers_cons (Slot.read_mono le slot isValue) (readMembers_mono le rest areValues)

end

theorem readFields_mono (le : ∀ id tree, node id = some tree → other id = some tree)
    {slots : List (Field × Slot)} {fields : List (Field × Value)}
    (read : readFields node slots = some fields) : readFields other slots = some fields := by
  induction slots generalizing fields with
  | nil => exact read
  | cons entry rest ih =>
    obtain ⟨field, slot⟩ := entry
    obtain ⟨value, isValue, read⟩ := Option.bind_eq_some_iff.mp read
    obtain ⟨values, areValues, same⟩ := Option.bind_eq_some_iff.mp read
    cases same
    exact readFields_cons (Slot.read_mono le slot isValue) (ih areValues)

end Reading

theorem Cell.read_of_parts {node : Nat → Option Node} {cell : Cell} {fields : List (Field × Value)} {extra : Value}
    {attached : List (String × Value)} (areFields : readFields node cell.fields = some fields)
    (isExtra : cell.extra.read node = some extra) (areAttached : readMembers node cell.attached = some attached) :
    cell.read node = some (.mk cell.kind fields extra attached) := by
  rw [Cell.read, areFields, isExtra, areAttached]
  rfl

theorem Cell.read_mono {node other : Nat → Option Node} (le : ∀ id tree, node id = some tree → other id = some tree)
    {cell : Cell} {tree : Node} (read : cell.read node = some tree) : cell.read other = some tree := by
  obtain ⟨fields, areFields, read⟩ := Option.bind_eq_some_iff.mp read
  obtain ⟨extra, isExtra, read⟩ := Option.bind_eq_some_iff.mp read
  obtain ⟨attached, areAttached, same⟩ := Option.bind_eq_some_iff.mp read
  cases same
  exact Cell.read_of_parts (readFields_mono le areFields) (Slot.read_mono le _ isExtra)
    (readMembers_mono le _ areAttached)

namespace Store

variable {store : Store}

theorem read_mono {fuel more : Nat} (le : fuel ≤ more) (id : Nat) (tree : Node)
    (read : store.read fuel id = some tree) : store.read more id = some tree := by
  induction more generalizing fuel id tree with
  | zero =>
    obtain rfl := Nat.le_zero.mp le
    exact read
  | succ more ih =>
    cases fuel with
    | zero => cases read
    | succ fuel =>
      obtain ⟨cell, isCell, read⟩ := Option.bind_eq_some_iff.mp read
      exact Option.bind_eq_some_iff.mpr ⟨cell, isCell, Cell.read_mono (ih (Nat.le_of_succ_le_succ le)) read⟩

theorem lt_size_of_read {fuel id : Nat} (read : (store.read fuel id).isSome = true) : id < store.size := by
  cases fuel with
  | zero => cases read
  | succ fuel =>
    obtain ⟨tree, read⟩ := Option.isSome_iff_exists.mp read
    obtain ⟨cell, isCell, _⟩ := Option.bind_eq_some_iff.mp read
    exact (Array.getElem?_eq_some_iff.mp isCell).1

/-- A tree that cannot be read with less fuel holds a path of as many different nodes as it takes fuel. -/
theorem exists_path {fuel id : Nat} (unread : store.read fuel id = none)
    (read : (store.read (fuel + 1) id).isSome = true) :
    ∃ ids : List Nat, ids.length = fuel + 1 ∧ ids.Nodup ∧
      ∀ other ∈ ids, (store.read (fuel + 1) other).isSome = true := by
  induction fuel generalizing id with
  | zero => exact ⟨[id], rfl, by simp, by simpa using read⟩
  | succ fuel ih =>
    -- Were all nodes that are read read with less fuel already, this one would be, too.
    obtain ⟨inner, innerUnread, innerRead⟩ : ∃ inner, store.read fuel inner = none ∧
        (store.read (fuel + 1) inner).isSome = true := by
      by_contra none
      push Not at none
      have le (other : Nat) (tree : Node) (isTree : store.read (fuel + 1) other = some tree) :
          store.read fuel other = some tree := by
        cases less : store.read fuel other with
        | none => exact absurd (by rw [isTree]; rfl) (none other less)
        | some found => exact (read_mono fuel.le_succ other found less).symm.trans isTree
      obtain ⟨tree, read⟩ := Option.isSome_iff_exists.mp read
      obtain ⟨cell, isCell, read⟩ := Option.bind_eq_some_iff.mp read
      have again : store.read (fuel + 1) id = some tree :=
        Option.bind_eq_some_iff.mpr ⟨cell, isCell, Cell.read_mono le read⟩
      cases unread.symm.trans again
    obtain ⟨ids, length, distinct, areRead⟩ := ih innerUnread innerRead
    refine ⟨id :: ids, by rw [List.length_cons, length], List.nodup_cons.mpr ⟨fun member => ?_, distinct⟩, ?_⟩
    · have := areRead id member
      rw [unread] at this
      cases this
    · refine List.forall_mem_cons.mpr ⟨read, fun other member => ?_⟩
      obtain ⟨tree, isTree⟩ := Option.isSome_iff_exists.mp (areRead other member)
      rw [read_mono (fuel + 1).le_succ other tree isTree]
      rfl

/-- What is read with any fuel is read with fuel for every node of the store. -/
theorem tree?_of_read {fuel id : Nat} {tree : Node} (read : store.read fuel id = some tree) :
    store.tree? id = some tree := by
  induction fuel with
  | zero => cases read
  | succ fuel ih =>
    cases less : store.read fuel id with
    | some found =>
      cases (read_mono fuel.le_succ id found less).symm.trans read
      exact ih less
    | none =>
      obtain ⟨ids, length, distinct, areRead⟩ := exists_path less (by rw [read]; rfl)
      have within : ids ⊆ List.range store.size := fun other member =>
        List.mem_range.mpr (lt_size_of_read (areRead other member))
      have bound := (distinct.subperm within).length_le
      rw [length, List.length_range] at bound
      exact read_mono bound id tree read

/-- A cell is read if the nodes in its values are. -/
theorem tree?_of_cell {id : Nat} {cell : Cell} {tree : Node} (isCell : store.cell? id = some cell)
    (read : cell.read store.tree? = some tree) : store.tree? id = some tree :=
  @tree?_of_read _ (store.size + 1) _ _ (Option.bind_eq_some_iff.mpr ⟨cell, isCell, read⟩)

end Store

section Loaded

variable {larger : Store}

theorem Node.cell?_load {node : Node} {store : Store} (keeps : (node.load store).2.Keeps (store.size ≤ ·) larger) :
    larger.cell? (node.load store).1 = some (node.loadCell store).1 := by
  refine (keeps.cell? ?_ (node.le_load store)).trans ?_
  · rw [node.size_load]
    exact Nat.lt_succ_self _
  · rw [node.load_eq]
    exact Store.cell?_add _ _

/-- A tree is read if its root is. -/
theorem Node.tree?_load_of_read {node : Node} {store : Store}
    (keeps : (node.load store).2.Keeps (store.size ≤ ·) larger)
    (isRead : (node.loadCell store).1.read larger.tree? = some node) :
    larger.tree? (node.load store).1 = some node := Store.tree?_of_cell (cell?_load keeps) isRead

mutual

/-- What stands for the root of a tree is read as the tree, as long as none of the added nodes is changed. -/
theorem Node.read_loadCell : ∀ (node : Node) (store : Store),
    (node.loadCell store).2.Keeps (store.size ≤ ·) larger → (node.loadCell store).1.read larger.tree? = some node
  | .mk kind fields extra attached, store, keeps => by
    let inFields := loadFields fields store
    let inExtra := extra.load inFields.2
    have beforeFields : store.Grows inFields.2 := grows_loadFields fields store
    have beforeExtra : inFields.2.Grows inExtra.2 := Value.grows_load extra _
    have beforeAttached : inExtra.2.Grows (loadMembers attached inExtra.2).2 := grows_loadMembers attached _
    exact Cell.read_of_parts
      (read_loadFields fields store ((beforeExtra.trans beforeAttached).keeps keeps (Nat.le_refl _)))
      (Value.read_load extra inFields.2 (beforeAttached.keeps keeps beforeFields.size))
      (read_loadMembers attached inExtra.2
        ((Store.Grows.refl _).keeps keeps (Nat.le_trans beforeFields.size beforeExtra.size)))

theorem read_loadFields : ∀ (fields : List (Field × Value)) (store : Store),
    (loadFields fields store).2.Keeps (store.size ≤ ·) larger →
    readFields larger.tree? (loadFields fields store).1 = some fields
  | [], _, _ => rfl
  | (field, value) :: rest, store, keeps => by
    have here := Value.grows_load value store
    exact readFields_cons (Value.read_load value store ((grows_loadFields rest _).keeps keeps (Nat.le_refl _)))
      (read_loadFields rest (value.load store).2 (keeps.mono fun _ _ => Nat.le_trans here.size))

theorem read_loadMembers : ∀ (members : List (String × Value)) (store : Store),
    (loadMembers members store).2.Keeps (store.size ≤ ·) larger →
    readMembers larger.tree? (loadMembers members store).1 = some members
  | [], _, _ => rfl
  | (key, value) :: rest, store, keeps => by
    have here := Value.grows_load value store
    exact readMembers_cons (Value.read_load value store ((grows_loadMembers rest _).keeps keeps (Nat.le_refl _)))
      (read_loadMembers rest (value.load store).2 (keeps.mono fun _ _ => Nat.le_trans here.size))

theorem Value.read_load : ∀ (value : Value) (store : Store), (value.load store).2.Keeps (store.size ≤ ·) larger →
    (value.load store).1.read larger.tree? = some value
  | .scalar _, _, _ => rfl
  | .list items, store, keeps => congrArg (Option.map Value.list) (read_loadItems items store keeps)
  | .object members, store, keeps => congrArg (Option.map Value.object) (read_loadMembers members store keeps)
  | .node node, store, keeps =>
    congrArg (Option.map Value.node) (Node.tree?_load_of_read keeps
      (Node.read_loadCell node store ((node.grows_loadCell_load store).keeps keeps (Nat.le_refl _))))

theorem read_loadItems : ∀ (items : List Value) (store : Store),
    (loadItems items store).2.Keeps (store.size ≤ ·) larger →
    readSlots larger.tree? (loadItems items store).1 = some items
  | [], _, _ => rfl
  | item :: rest, store, keeps => by
    have here := Value.grows_load item store
    exact readSlots_cons (Value.read_load item store ((grows_loadItems rest _).keeps keeps (Nat.le_refl _)))
      (read_loadItems rest (item.load store).2 (keeps.mono fun _ _ => Nat.le_trans here.size))

end

/-- A tree that was loaded is read back as long as none of its nodes is changed. -/
theorem Node.tree?_load (node : Node) (store : Store) (keeps : (node.load store).2.Keeps (store.size ≤ ·) larger) :
    larger.tree? (node.load store).1 = some node :=
  tree?_load_of_read keeps
    (node.read_loadCell store ((node.grows_loadCell_load store).keeps keeps (Nat.le_refl _)))

end Loaded

namespace Store

variable {store later : Store} {id : Nat}

/-- Where a tree is put in the place of a node, all that was added for it stands in the store. -/
theorem keeps_loadCell_replace (node : Node) (isNode : id < store.size) :
    (node.loadCell store).2.Keeps (store.size ≤ ·) (store.replace id node) := by
  refine ⟨by simp [replace, size], fun {other} _ above => ?_⟩
  have ne : id ≠ other := Nat.ne_of_lt (Nat.lt_of_lt_of_le isNode above)
  simp [replace, Store.cell?, ne]

/-- Nothing but the node is changed that another tree is put in the place of. -/
theorem keeps_replace (store : Store) (id : Nat) (node : Node) : store.Keeps (· ≠ id) (store.replace id node) := by
  have changed : (node.loadCell store).2.Keeps (· ≠ id) (store.replace id node) :=
    ⟨by simp [replace, size], fun {other} _ ne => by simp [replace, Store.cell?, Ne.symm ne]⟩
  exact Keeps.trans ((node.grows_loadCell store).mono fun _ _ _ => trivial) changed fun _ _ ne => ne

theorem cell?_replace (node : Node) (isNode : id < store.size) :
    (store.replace id node).cell? id = some (node.loadCell store).1 := by
  have grows := (node.grows_loadCell store).size
  simp only [replace, Store.cell?, size] at *
  rw [Array.getElem?_setIfInBounds_self_of_lt (Nat.lt_of_lt_of_le isNode grows)]

/-- A tree is read where it was put, as long as its nodes are kept. -/
theorem tree?_replace {node : Node} (isNode : id < store.size)
    (keeps : (store.replace id node).Keeps (fun other => other = id ∨ store.size ≤ other) later) :
    later.tree? id = some node := by
  have size := (keeps_replace store id node).size
  refine tree?_of_cell
    ((keeps.cell? (Nat.lt_of_lt_of_le isNode size) (.inl rfl)).trans (cell?_replace node isNode)) ?_
  exact node.read_loadCell store ((keeps_loadCell_replace node isNode).trans keeps fun _ _ => .inr)

end Store

end JsxRouting
