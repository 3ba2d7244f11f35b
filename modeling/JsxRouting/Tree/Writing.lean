import JsxRouting.Tree.Reading

namespace JsxRouting

/-- The `data` of an element with the mark as `explicit` says. A mark under the older key stands for
an explicit element and is taken away from any other. -/
def markData (explicit : Bool) (data : Entries Json) : Entries Json :=
  if explicit then
    if Entries.holdsAt data olderExplicitMark then data
    else Entries.insert data explicitMark (.bool true)
  else Entries.erase data olderExplicitMark

/-- The written members of an element with the mark. Empty `data` is left out, and `data` that is no
object is no place for a mark. -/
def markMembers (explicit : Bool) (members : Entries Json) : Entries Json :=
  let marked (data : Entries Json) :=
    let data := markData explicit data
    if data.isEmpty then Entries.erase members "data"
    else Entries.insert members "data" (.object data)
  match members.lookup "data" with
  | none => marked []
  | some (.object data) => marked data
  | some _ => members

/-- Adds the members whose keys are not taken. -/
def addMissing (members : Entries Json) : Entries Json → Entries Json
  | [] => members
  | (key, value) :: rest =>
    addMissing (if Entries.contains members key then members else Entries.insert members key value) rest

/-- Whether the fields mark an element as explicit. -/
def explicitIn (fields : List (Field × Value)) : Bool :=
  match fields.lookup .explicit with
  | some value => value.holds
  | none => false

/-- Whether a field of a node is written: the mark of an element has its place in the `data`, and some
fields are left out when they hold nothing. -/
def isWritten (field : Field) (value : Value) : Bool :=
  field != .explicit && !(field.omittedWhenNull && value.isNull)

mutual

/-- Writes a node. -/
def Node.write : Node → Json
  | .mk kind fields extra _ =>
    let others := match extra.write with
      | .object members => members
      | _ => []
    let members := addMissing (("type", .text kind.name) :: writeFields fields) others
    if kind = .jsxElement then .object (markMembers (explicitIn fields) members)
    else .object members

/-- The fields under their keys. -/
def writeFields : List (Field × Value) → List (String × Json)
  | [] => []
  | (field, value) :: rest =>
    if isWritten field value then (field.toKey, value.write) :: writeFields rest else writeFields rest

/-- Writes a value: nodes as objects, all else as it is. -/
def Value.write : Value → Json
  | .scalar value => .scalar value
  | .list items => .array (writeItems items)
  | .object members => .object (writeMembers members)
  | .node child => child.write

def writeItems : List Value → List Json
  | [] => []
  | item :: rest => item.write :: writeItems rest

def writeMembers : List (String × Value) → List (String × Json)
  | [] => []
  | (key, value) :: rest => (key, value.write) :: writeMembers rest

end

/-- The keys that the fields take in the written form. -/
def writtenKeys (fields : List (Field × Value)) : List String :=
  (fields.filter fun entry => isWritten entry.1 entry.2).map fun entry => entry.1.toKey

/-- Whether the `data` of an element has a written form. A mark that is taken away or replaced may have
held anything. -/
def isWritableData (explicit : Bool) (data : Entries Value) : Bool :=
  if explicit then
    let older := match data.lookup olderExplicitMark with
      | some value => value.holds
      | none => false
    holdData (if older then data else Entries.erase data explicitMark)
  else holdData (Entries.erase data olderExplicitMark)

/-- Whether a member that the kind does not know has a written form. -/
def isWritableMember (kind : Kind) (fields : List (Field × Value)) (key : String) (value : Value) :
    Bool :=
  match value with
  | .object data =>
    if kind = .jsxElement ∧ key = "data" then isWritableData (explicitIn fields) data
    else holdData data
  | value => value.isData

/-- Whether what the kind of a node does not know has a written form. It must be an object. A member
is left out where its key is taken, and may then be anything. -/
def isWritableExtra (kind : Kind) (fields : List (Field × Value)) (extra : Value) : Bool :=
  match extra with
  | .object members => members.all fun (key, value) =>
    key == "type" || (writtenKeys fields).contains key || isWritableMember kind fields key value
  | _ => false

mutual

/-- Whether a node has a written form: no node may stand in the plain data that is written. -/
def Node.isWritable : Node → Bool
  | .mk kind fields extra _ => writableFields fields && isWritableExtra kind fields extra

def writableFields : List (Field × Value) → Bool
  | [] => true
  | (field, value) :: rest => (field == .explicit || value.isWritable) && writableFields rest

/-- Whether a value has a written form. -/
def Value.isWritable : Value → Bool
  | .scalar _ => true
  | .list items => writableItems items
  | .object members => holdData members
  | .node child => child.isWritable

def writableItems : List Value → Bool
  | [] => true
  | item :: rest => item.isWritable && writableItems rest

end

/-- The written form of a value, if it has one. -/
def Value.toJson (value : Value) : Except Error Json :=
  if value.isWritable then .ok value.write else .error .wrongShape

/-- The written form of a node, if it has one. -/
def Node.toJson (node : Node) : Except Error Json :=
  if node.isWritable then .ok node.write else .error .wrongShape

end JsxRouting
