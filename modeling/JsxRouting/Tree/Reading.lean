import JsxRouting.Tree.Building
import JsxRouting.Tree.Data

namespace JsxRouting

/-- The member of `data` that marks an element as written in JSX. -/
def explicitMark : String := "_mdxExplicitJsx"

/-- The mark under its older key. -/
def olderExplicitMark : String := "_xdmExplicitJsx"

/-- Whether a member with this key is there and holds. -/
def Entries.holdsAt (members : Entries Json) (key : String) : Bool :=
  match members.lookup key with
  | some value => value.holds
  | none => false

/-- Takes the mark of an explicit element out of its `data`. The older mark counts too, but stays;
`data` that holds nothing but the mark is dropped. -/
def takeExplicitMark (extra : Entries Json) : Bool × Entries Json :=
  match extra.lookup "data" with
  | some (.object data) =>
    let explicit := Entries.holdsAt data explicitMark || Entries.holdsAt data olderExplicitMark
    let kept := Entries.erase data explicitMark
    if kept.isEmpty then (explicit, Entries.erase extra "data")
    else (explicit, Entries.insert extra "data" (.object kept))
  | _ => (false, extra)

namespace Node

/-- The fields of a node, each from the reading of its member or else with its usual value. The
readings are consulted in the order of the kind, and the first that failed decides the error. -/
def assembleFields (explicit : Bool) (readings : Entries (Except Error Value)) :
    List (Field × Value) → Except Error (List (Field × Value))
  | [] => .ok []
  | (field, usual) :: rest => do
    let value ←
      if field = .explicit then .ok (.bool explicit)
      else (readings.lookup field.toKey).getD (.ok usual)
    let values ← assembleFields explicit readings rest
    return (field, value) :: values

/-- The node that an object with this `type` describes, given what its members read as. -/
def assemble (type : Json) (members : Entries Json) (readings : Entries (Except Error Value)) :
    Except Error Node := do
  let kind ← Kind.ofType type
  let others := members.filter fun member => member.1 != "type" && !kind.keys.contains member.1
  let (explicit, extra) := if kind = .jsxElement then takeExplicitMark others else (false, others)
  let fields ← assembleFields explicit readings kind.schema
  return .mk kind fields (.object (ofJsonMembers extra)) []

end Node

namespace Value

mutual

/-- Reads a value: an object with a `type` as a node, an array item by item, and all else as it is. -/
def read : Json → Except Error Value
  | .scalar value => .ok (.scalar value)
  | .array items => do return .list (← readItems items)
  | .object members =>
    match members.lookup "type" with
    | some type => do return .node (← Node.assemble type members (readMembers members))
    | none => .ok (.object (ofJsonMembers members))

def readItems : List Json → Except Error (List Value)
  | [] => .ok []
  | item :: rest => do
    let value ← read item
    let values ← readItems rest
    return value :: values

/-- What each member reads as. A failure counts only if the member becomes a field. -/
def readMembers : List (String × Json) → Entries (Except Error Value)
  | [] => []
  | (key, value) :: rest => (key, read value) :: readMembers rest

end

end Value

namespace Node

/-- Reads a node from an object with a `type`. -/
def read : Json → Except Error Node
  | .object members =>
    match members.lookup "type" with
    | some type => assemble type members (Value.readMembers members)
    | none => .error (.notANode .object)
  | other => .error (.notANode other.shape)

end Node

end JsxRouting
