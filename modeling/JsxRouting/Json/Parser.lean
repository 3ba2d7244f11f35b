import JsxRouting.Json.Number
import JsxRouting.Json.Quoted

namespace JsxRouting

namespace Json

def isBlank (c : Char) : Bool := c == ' ' || c == '\n' || c == '\r' || c == '\t'

def skipBlanks (text : List Char) : List Char := text.dropWhile isBlank

/-- Nothing readable stands where a part of a value must come. -/
def orMalformed {α : Type} : Option α → Except Refusal α
  | some result => .ok result
  | none => .error .malformed

mutual

/-- Reads the value at the start of the text, which has no blanks before it. The fuel bounds the
number of values and characters read. -/
def readValue : Nat → List Char → Except Refusal (Json × List Char)
  | 0, _ => .error .malformed
  | fuel + 1, text =>
    match text with
    | '"' :: rest => do
      let (chars, rest) ← orMalformed (Quoted.read fuel rest)
      return (.text (String.ofList chars), rest)
    | '[' :: rest =>
      match skipBlanks rest with
      | ']' :: rest => .ok (.array [], rest)
      | rest => do
        let (items, rest) ← readItems fuel rest
        return (.array items, rest)
    | '\x7b' :: rest =>
      match skipBlanks rest with
      | '\x7d' :: rest => .ok (.object [], rest)
      | rest => do
        let (members, rest) ← readMembers fuel rest
        return (.object (Entries.ofPairs members), rest)
    | 'n' :: 'u' :: 'l' :: 'l' :: rest => .ok (.null, rest)
    | 't' :: 'r' :: 'u' :: 'e' :: rest => .ok (.bool true, rest)
    | 'f' :: 'a' :: 'l' :: 's' :: 'e' :: rest => .ok (.bool false, rest)
    | text => do
      let (number, rest) ← Number.read text
      return (.scalar number, rest)

/-- Reads the items of an array, of which at least one must come, and its end. -/
def readItems : Nat → List Char → Except Refusal (List Json × List Char)
  | 0, _ => .error .malformed
  | fuel + 1, text => do
    let (item, rest) ← readValue fuel text
    match skipBlanks rest with
    | ']' :: rest => return ([item], rest)
    | ',' :: rest =>
      let (items, rest) ← readItems fuel (skipBlanks rest)
      return (item :: items, rest)
    | _ => .error .malformed

/-- Reads the members of an object, of which at least one must come, and its end. -/
def readMembers : Nat → List Char → Except Refusal (List (String × Json) × List Char)
  | 0, _ => .error .malformed
  | fuel + 1, text => do
    match text with
    | '"' :: rest =>
      let (key, rest) ← orMalformed (Quoted.read fuel rest)
      match skipBlanks rest with
      | ':' :: rest =>
        let (value, rest) ← readValue fuel (skipBlanks rest)
        match skipBlanks rest with
        | '\x7d' :: rest => return ([(String.ofList key, value)], rest)
        | ',' :: rest =>
          let (members, rest) ← readMembers fuel (skipBlanks rest)
          return ((String.ofList key, value) :: members, rest)
        | _ => .error .malformed
      | _ => .error .malformed
    | _ => .error .malformed

end

/-- Reads a document. Every step of the reader takes a character or goes one level into a value
that takes one, so twice the length of the text, and a little more, is enough fuel. -/
def parse (text : String) : Except Refusal Json := do
  let chars := text.toList
  let (value, rest) ← readValue (2 * chars.length + 2) (skipBlanks chars)
  if (skipBlanks rest).isEmpty then return value else .error .malformed

end Json

end JsxRouting
