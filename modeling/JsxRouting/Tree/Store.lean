import JsxRouting.Tree.Editing

namespace JsxRouting

/-- A value whose nodes stand in a store. -/
inductive Slot
  | scalar (value : Scalar)
  | list (items : List Slot)
  | object (members : List (String × Slot))
  | node (id : Nat)

namespace Slot

def node? : Slot → Option Nat
  | .node id => some id
  | _ => none

/-- The nodes that stand in a value, directly or directly in its list. -/
def nodes : Slot → List Nat
  | .node id => [id]
  | .list items => items.filterMap node?
  | .scalar _ | .object _ => []

/-- Inserts an item into a value, which must be a list. -/
def insertItem (value : Slot) (index : Int) (item : Slot) : Except Error Slot :=
  match value with
  | .list items => if isIndex index then .ok (.list (insertAt items index item)) else .error .wrongShape
  | _ => .error .wrongShape

end Slot

/-- A node in a store: its own values, not those of the nodes in it. -/
structure Cell where
  kind : Kind
  fields : List (Field × Slot)
  extra : Slot
  attached : Entries Slot

namespace Cell

/-- The value of a field, or else what is attached under the name of the field. -/
def get? (cell : Cell) (field : Field) : Option Slot :=
  match cell.fields.lookup field with
  | some value => some value
  | none => cell.attached.lookup field.toName

/-- Attaches a value under a name that is no field of the kind. -/
def attach (cell : Cell) (name : String) (value : Slot) : Cell :=
  { cell with attached := Entries.insert cell.attached name value }

/-- Replaces the value of a field. To a node without the field the value is attached. -/
def set (cell : Cell) (field : Field) (value : Slot) : Cell :=
  if (cell.fields.lookup field).isSome then
    { cell with fields := cell.fields.map fun entry => if entry.1 = field then (field, value) else entry }
  else cell.attach field.toName value

/-- The part of a node under a name: a field or what is attached, its `type`, or what its kind does not know. -/
def part (cell : Cell) (name : String) : Except Error Slot :=
  if name = "extra" then .ok cell.extra
  else if name = "type" then .ok (.scalar (.text cell.kind.name))
  else
    let found := match Field.ofName? name with
      | some field => cell.get? field
      | none => cell.attached.lookup name
    match found with
    | some value => .ok value
    | none => .error .wrongShape

/-- Replaces the part of a node under a name. The kind of a node cannot be changed. -/
def setPart (cell : Cell) (name : String) (value : Slot) : Except Error Cell :=
  if name = "extra" then .ok { cell with extra := value }
  else if name = "type" then .error .wrongShape
  else
    match Field.ofName? name with
    | some field => .ok (cell.set field value)
    | none => .ok (cell.attach name value)

end Cell

/-- Nodes by their numbers. A node can be changed while others refer to it: whoever has its number sees it as it is
by then. -/
structure Store where
  cells : Array Cell := #[]

namespace Store

def size (store : Store) : Nat := store.cells.size

def cell? (store : Store) (id : Nat) : Option Cell := store.cells[id]?

/-- Adds a node, whose number is the next one. -/
def add (store : Store) (cell : Cell) : Store := ⟨store.cells.push cell⟩

/-- Changes the node with a number. -/
def change (store : Store) (id : Nat) (change : Cell → Except Error Cell) : Except Error Store :=
  match store.cell? id with
  | some cell => do return ⟨store.cells.setIfInBounds id (← change cell)⟩
  | none => .error .wrongShape

/-- The kind of a node. -/
def kindOf (store : Store) (id : Nat) : Except Error Kind :=
  match store.cell? id with
  | some cell => .ok cell.kind
  | none => .error .wrongShape

/-- The nodes that stand in a field of a node, directly or directly in its list. -/
def nodesIn (store : Store) (id : Nat) (field : Field) : Except Error (List Nat) :=
  match store.cell? id with
  | some cell => .ok ((cell.get? field).elim [] Slot.nodes)
  | none => .error .wrongShape

end Store

mutual

/-- Adds the nodes of a tree to a store, the root last, and tells the number of the root. -/
def Node.load : Node → Store → Nat × Store
  | .mk kind fields extra attached, store =>
    let (fields, store) := loadFields fields store
    let (extra, store) := extra.load store
    let (attached, store) := loadMembers attached store
    (store.size, store.add ⟨kind, fields, extra, attached⟩)

def loadFields : List (Field × Value) → Store → List (Field × Slot) × Store
  | [], store => ([], store)
  | (field, value) :: rest, store =>
    let (slot, store) := value.load store
    let (slots, store) := loadFields rest store
    ((field, slot) :: slots, store)

def loadMembers : List (String × Value) → Store → List (String × Slot) × Store
  | [], store => ([], store)
  | (key, value) :: rest, store =>
    let (slot, store) := value.load store
    let (slots, store) := loadMembers rest store
    ((key, slot) :: slots, store)

/-- Adds the nodes in a value to a store. -/
def Value.load : Value → Store → Slot × Store
  | .scalar value, store => (.scalar value, store)
  | .list items, store =>
    let (slots, store) := loadItems items store
    (.list slots, store)
  | .object members, store =>
    let (slots, store) := loadMembers members store
    (.object slots, store)
  | .node node, store =>
    let (id, store) := node.load store
    (.node id, store)

def loadItems : List Value → Store → List Slot × Store
  | [], store => ([], store)
  | item :: rest, store =>
    let (slot, store) := item.load store
    let (slots, store) := loadItems rest store
    (slot :: slots, store)

end

/-- Adds all nodes of a tree but the root to a store, and tells what is to stand for the root. -/
def Node.loadCell : Node → Store → Cell × Store
  | .mk kind fields extra attached, store =>
    let (fields, store) := loadFields fields store
    let (extra, store) := extra.load store
    let (attached, store) := loadMembers attached store
    (⟨kind, fields, extra, attached⟩, store)

/-- Puts a tree where a node stands. Its root takes the number of that node, and all else is added. -/
def Store.replace (store : Store) (id : Nat) (node : Node) : Store :=
  let (cell, store) := node.loadCell store
  ⟨store.cells.setIfInBounds id cell⟩

mutual

/-- The value with its nodes put in by their numbers. -/
def Slot.read (node : Nat → Option Node) : Slot → Option Value
  | .scalar value => some (.scalar value)
  | .list items => (readSlots node items).map .list
  | .object members => (readMembers node members).map .object
  | .node id => (node id).map .node

def readSlots (node : Nat → Option Node) : List Slot → Option (List Value)
  | [] => some []
  | item :: rest => do return (← item.read node) :: (← readSlots node rest)

def readMembers (node : Nat → Option Node) : List (String × Slot) → Option (List (String × Value))
  | [] => some []
  | (key, value) :: rest => do return (key, ← value.read node) :: (← readMembers node rest)

end

def readFields (node : Nat → Option Node) : List (Field × Slot) → Option (List (Field × Value))
  | [] => some []
  | (field, value) :: rest => do return (field, ← value.read node) :: (← readFields node rest)

/-- The node in a cell, with the nodes in its values put in by their numbers. -/
def Cell.read (node : Nat → Option Node) (cell : Cell) : Option Node := do
  return .mk cell.kind (← readFields node cell.fields) (← cell.extra.read node) (← readMembers node cell.attached)

namespace Store

/-- The tree below a node, if it is no deeper than the fuel. -/
def read (store : Store) : Nat → Nat → Option Node
  | 0, _ => none
  | fuel + 1, id => do (← store.cell? id).read (store.read fuel)

/-- The tree below a node. Where no node stands in itself, no path through the store is longer than the store. -/
def tree? (store : Store) (id : Nat) : Option Node := store.read store.size id

end Store

end JsxRouting
