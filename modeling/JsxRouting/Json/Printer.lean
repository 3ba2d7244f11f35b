import JsxRouting.Json.Number
import JsxRouting.Json.Quoted

namespace JsxRouting

/-- The text of a value without parts. -/
def Scalar.chars : Scalar → List Char
  | .null => "null".toList
  | .bool true => "true".toList
  | .bool false => "false".toList
  | .int value => Number.intChars value
  | .real value => Number.jsonLayout.chars value
  | .text value => Quoted.write value.toList

namespace Json

/-- The break before an item at this depth. With no indentation there is none, and an indentation
that is not positive breaks the line only. -/
def lineBreak (indent : Option Int) (depth : Nat) : List Char :=
  match indent with
  | none => []
  | some width => '\n' :: List.replicate (width.toNat * depth) ' '

/-- What stands between two items. -/
def separator (indent : Option Int) (depth : Nat) : List Char :=
  match indent with
  | none => [',', ' ']
  | some _ => ',' :: lineBreak indent depth

def keyChars (key : String) : List Char := Quoted.write key.toList ++ [':', ' ']

mutual

/-- The text of a value whose surroundings have this depth. -/
def chars (indent : Option Int) (depth : Nat) : Json → List Char
  | .scalar value => value.chars
  | .array [] => ['[', ']']
  | .array (first :: rest) =>
    '[' :: (lineBreak indent (depth + 1) ++ first.chars indent (depth + 1) ++
      itemChars indent (depth + 1) rest ++ lineBreak indent depth ++ [']'])
  | .object [] => ['\x7b', '\x7d']
  | .object ((key, value) :: rest) =>
    '\x7b' :: (lineBreak indent (depth + 1) ++ keyChars key ++ value.chars indent (depth + 1) ++
      memberChars indent (depth + 1) rest ++ lineBreak indent depth ++ ['\x7d'])

/-- Items that follow another one. -/
def itemChars (indent : Option Int) (depth : Nat) : List Json → List Char
  | [] => []
  | item :: rest => separator indent depth ++ item.chars indent depth ++ itemChars indent depth rest

/-- Members that follow another one. -/
def memberChars (indent : Option Int) (depth : Nat) : List (String × Json) → List Char
  | [] => []
  | (key, value) :: rest =>
    separator indent depth ++ keyChars key ++ value.chars indent depth ++ memberChars indent depth rest

end

mutual

/-- Puts the text of a value in front of what follows it, so that no text is copied twice. -/
def charsOnto (indent : Option Int) (depth : Nat) : Json → List Char → List Char
  | .scalar value, tail => value.chars ++ tail
  | .array [], tail => '[' :: ']' :: tail
  | .array (first :: rest), tail =>
    '[' :: (lineBreak indent (depth + 1) ++ first.charsOnto indent (depth + 1)
      (itemCharsOnto indent (depth + 1) rest (lineBreak indent depth ++ ']' :: tail)))
  | .object [], tail => '\x7b' :: '\x7d' :: tail
  | .object ((key, value) :: rest), tail =>
    '\x7b' :: (lineBreak indent (depth + 1) ++ keyChars key ++ value.charsOnto indent (depth + 1)
      (memberCharsOnto indent (depth + 1) rest (lineBreak indent depth ++ '\x7d' :: tail)))

def itemCharsOnto (indent : Option Int) (depth : Nat) : List Json → List Char → List Char
  | [], tail => tail
  | item :: rest, tail =>
    separator indent depth ++ item.charsOnto indent depth (itemCharsOnto indent depth rest tail)

def memberCharsOnto (indent : Option Int) (depth : Nat) :
    List (String × Json) → List Char → List Char
  | [], tail => tail
  | (key, value) :: rest, tail =>
    separator indent depth ++ keyChars key ++
      value.charsOnto indent depth (memberCharsOnto indent depth rest tail)

end

mutual

theorem charsOnto_eq (indent : Option Int) (depth : Nat) (value : Json) (tail : List Char) :
    value.charsOnto indent depth tail = value.chars indent depth ++ tail := by
  match value with
  | .scalar _ => simp [charsOnto, chars]
  | .array [] => simp [charsOnto, chars]
  | .array (first :: rest) =>
    simp [charsOnto, chars, charsOnto_eq indent (depth + 1) first, itemCharsOnto_eq indent (depth + 1) rest]
  | .object [] => simp [charsOnto, chars]
  | .object ((_, value) :: rest) =>
    simp [charsOnto, chars, charsOnto_eq indent (depth + 1) value,
      memberCharsOnto_eq indent (depth + 1) rest]

theorem itemCharsOnto_eq (indent : Option Int) (depth : Nat) (items : List Json) (tail : List Char) :
    itemCharsOnto indent depth items tail = itemChars indent depth items ++ tail := by
  match items with
  | [] => simp [itemCharsOnto, itemChars]
  | item :: rest =>
    simp [itemCharsOnto, itemChars, charsOnto_eq indent depth item, itemCharsOnto_eq indent depth rest]

theorem memberCharsOnto_eq (indent : Option Int) (depth : Nat) (members : List (String × Json))
    (tail : List Char) :
    memberCharsOnto indent depth members tail = memberChars indent depth members ++ tail := by
  match members with
  | [] => simp [memberCharsOnto, memberChars]
  | (_, value) :: rest =>
    simp [memberCharsOnto, memberChars, charsOnto_eq indent depth value,
      memberCharsOnto_eq indent depth rest]

end

/-- The text of a document. -/
def print (value : Json) (indent : Option Int) : String :=
  String.ofList (value.charsOnto indent 0 [])

theorem print_eq (value : Json) (indent : Option Int) :
    value.print indent = String.ofList (value.chars indent 0) := by
  simp [print, charsOnto_eq]

end Json

end JsxRouting
