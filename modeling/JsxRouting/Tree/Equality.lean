import JsxRouting.Tree.Node

namespace JsxRouting

mutual

/-- Whether two nodes are of one kind and have equal values in every field that counts. What a node was written as
does not count: neither the raw text of literals nor what its kind does not know, nor what is attached to it. -/
def Node.same : Node → Node → Bool
  | .mk kind fields _ _, .mk other others _ _ => kind == other && sameFields fields others

def sameFields : List (Field × Value) → List (Field × Value) → Bool
  | [], [] => true
  | (field, value) :: rest, (_, other) :: others =>
    (field == .raw || value.same other) && sameFields rest others
  | _, _ => false

/-- Whether two values are equal. -/
def Value.same : Value → Value → Bool
  | .scalar a, .scalar b => a.same b
  | .list items, .list others => sameValues items others
  | .object members, .object others =>
    members.length == others.length && sameMembers members others
  | .node child, .node other => child.same other
  | _, _ => false

def sameValues : List Value → List Value → Bool
  | [], [] => true
  | item :: rest, other :: others => item.same other && sameValues rest others
  | _, _ => false

/-- Whether every key has an equal value among the other members. -/
def sameMembers : List (String × Value) → List (String × Value) → Bool
  | [], _ => true
  | (key, value) :: rest, others =>
    (match others.lookup key with
      | some other => value.same other
      | none => false) && sameMembers rest others

end

/-- Whether two values are equal when they are compared on their own. What is not a number is the same
as itself where it is a part of values, but on its own it equals nothing. -/
def Value.equals (a b : Value) : Bool :=
  match a with
  | .scalar (.real .nan) => false
  | a => a.same b

end JsxRouting
