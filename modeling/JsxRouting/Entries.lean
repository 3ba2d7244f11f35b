namespace JsxRouting

/-- Keys with values, in the order in which the keys first appeared. A key that is written again keeps its place and
takes the new value. -/
abbrev Entries (α : Type) := List (String × α)

namespace Entries

variable {α : Type}

/-- Gives `key` the value: at its place if the key is there, otherwise at the end. -/
def insert (entries : Entries α) (key : String) (value : α) : Entries α :=
  match entries with
  | [] => [(key, value)]
  | (other, old) :: rest =>
    if other = key then (key, value) :: rest else (other, old) :: insert rest key value

/-- The entries under other keys, in their order. -/
def erase (entries : Entries α) (key : String) : Entries α :=
  entries.filter fun entry => entry.1 != key

/-- Whether the key is there. -/
def contains (entries : Entries α) (key : String) : Bool :=
  entries.any fun entry => entry.1 == key

/-- The entries that result from writing the pairs in order. -/
def ofPairs (pairs : List (String × α)) : Entries α :=
  pairs.foldl (fun entries pair => insert entries pair.1 pair.2) []

theorem lookup_insert_self (entries : Entries α) (key : String) (value : α) :
    (insert entries key value).lookup key = some value := by
  induction entries with
  | nil => simp [insert]
  | cons entry rest ih =>
    obtain ⟨other, old⟩ := entry
    by_cases same : other = key
    · simp [insert, same]
    · have differs : (key == other) = false := by simpa using fun h => same h.symm
      simp [insert, same, List.lookup_cons, differs, ih]

theorem lookup_insert_of_ne (entries : Entries α) {key other : String} (value : α) (ne : other ≠ key) :
    (insert entries key value).lookup other = entries.lookup other := by
  induction entries with
  | nil =>
    have differs : (other == key) = false := by simpa using ne
    simp [insert, List.lookup_cons, differs]
  | cons entry rest ih =>
    obtain ⟨first, old⟩ := entry
    by_cases same : first = key
    · subst same
      have differs : (other == first) = false := by simpa using ne
      simp [insert, List.lookup_cons, differs]
    · simp only [insert, if_neg same, List.lookup_cons, ih]

end Entries

end JsxRouting
