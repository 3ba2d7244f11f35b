import JsxRouting.Tree.Node

namespace JsxRouting

mutual

/-- Plain data as a value. -/
def Value.ofJson : Json → Value
  | .scalar value => .scalar value
  | .array items => .list (ofJsonItems items)
  | .object members => .object (ofJsonMembers members)

def ofJsonItems : List Json → List Value
  | [] => []
  | item :: rest => Value.ofJson item :: ofJsonItems rest

def ofJsonMembers : List (String × Json) → List (String × Value)
  | [] => []
  | (key, value) :: rest => (key, Value.ofJson value) :: ofJsonMembers rest

end

mutual

/-- Whether no node stands in the value. -/
def Value.isData : Value → Bool
  | .scalar _ => true
  | .list items => areData items
  | .object members => holdData members
  | .node _ => false

def areData : List Value → Bool
  | [] => true
  | item :: rest => item.isData && areData rest

def holdData : List (String × Value) → Bool
  | [] => true
  | (_, value) :: rest => value.isData && holdData rest

end

mutual

theorem isData_ofJson : ∀ data : Json, (Value.ofJson data).isData = true
  | .scalar _ => by simp [Value.ofJson, Value.isData]
  | .array items => by simp [Value.ofJson, Value.isData, areData_ofJsonItems items]
  | .object members => by simp [Value.ofJson, Value.isData, holdData_ofJsonMembers members]

theorem areData_ofJsonItems : ∀ items : List Json, areData (ofJsonItems items) = true
  | [] => by simp [ofJsonItems, areData]
  | item :: rest => by simp [ofJsonItems, areData, isData_ofJson item, areData_ofJsonItems rest]

theorem holdData_ofJsonMembers : ∀ members : List (String × Json), holdData (ofJsonMembers members) = true
  | [] => by simp [ofJsonMembers, holdData]
  | (_, value) :: rest => by
    simp [ofJsonMembers, holdData, isData_ofJson value, holdData_ofJsonMembers rest]

end

end JsxRouting
