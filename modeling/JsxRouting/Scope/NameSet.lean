import JsxRouting.Error
import JsxRouting.Json.Order
import JsxRouting.Text.Shown
import JsxRouting.Tree.Node

namespace JsxRouting

/-- The name that a value is when it is to be looked up in a set or added to one. It is nearly always a text; trees
that were not written by a parser can hold other scalars in its place. Lists, objects and nodes can be members of no
set. -/
def Value.asName : Value → Except Error Scalar
  | .scalar name => .ok name
  | _ => .error .wrongShape

/-- Distinct names, the one added first in front. -/
structure NameSet where
  toList : List Scalar
  distinct : toList.Pairwise fun a b => a.same b = false

namespace NameSet

def empty : NameSet := ⟨[], .nil⟩

instance : Inhabited NameSet := ⟨empty⟩

def contains (names : NameSet) (name : Scalar) : Bool := names.toList.any (·.same name)

def isEmpty (names : NameSet) : Bool := names.toList.isEmpty

def size (names : NameSet) : Nat := names.toList.length

/-- Adds a name behind the others unless it is there. -/
def insert (names : NameSet) (name : Scalar) : NameSet :=
  if absent : names.contains name = false then
    ⟨names.toList ++ [name], by
      refine List.pairwise_append.mpr ⟨names.distinct, by simp, ?_⟩
      intro a member b single
      rw [List.mem_singleton] at single
      subst single
      simpa using List.any_eq_false.mp absent a member⟩
  else names

/-- The set of the names in a list. -/
def ofList (list : List Scalar) : NameSet := list.foldl insert empty

/-- The set of names that stand in values. -/
def ofValues (values : List Value) : Except Error NameSet := do
  return ofList (← values.mapM Value.asName)

/-- The names in order. Texts can be ordered, and so can numbers. -/
def sorted (names : NameSet) : Except Error (List Scalar) :=
  match Scalar.sorted? names.toList with
  | some list => .ok list
  | none => .error .wrongShape

/-- How messages show the set. -/
def shown (names : NameSet) : String := "NameSet(" ++ Shown.names names.toList ++ ")"

@[simp] theorem toList_empty : empty.toList = [] := rfl

theorem toList_insert (names : NameSet) (name : Scalar) :
    (names.insert name).toList =
      if names.contains name then names.toList else names.toList ++ [name] := by
  unfold insert
  split
  · rename_i absent
    simp [absent]
  · rename_i there
    simp [Bool.of_not_eq_false there]

@[simp] theorem contains_insert (names : NameSet) (name other : Scalar) :
    (names.insert name).contains other = (names.contains other || name.same other) := by
  unfold contains
  rw [toList_insert]
  split
  · rename_i there
    by_cases equal : name.same other = true
    · obtain ⟨a, member, same⟩ := List.any_eq_true.mp there
      have found : names.toList.any (·.same other) = true :=
        List.any_eq_true.mpr ⟨a, member, Scalar.same_trans same equal⟩
      simp [found]
    · simp [Bool.of_not_eq_true equal]
  · simp

end NameSet

end JsxRouting
