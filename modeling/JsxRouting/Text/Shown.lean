import JsxRouting.Json.Number
import JsxRouting.Json.Quoted
import JsxRouting.Text.Unprintable

namespace JsxRouting

namespace Shown

/-- A character in quotes: escaped if it is the quote or a backslash, or has no printed form. -/
def escape (quote : Char) (c : Char) : List Char :=
  if c = quote ∨ c = '\\' then ['\\', c]
  else if c = '\n' then ['\\', 'n']
  else if c = '\r' then ['\\', 'r']
  else if c = '\t' then ['\\', 't']
  else if unprintableRanges.contains c then
    if c.toNat < 0x100 then '\\' :: 'x' :: Quoted.hexChars 2 c.toNat
    else if c.toNat < 0x10000 then '\\' :: 'u' :: Quoted.hexChars 4 c.toNat
    else '\\' :: 'U' :: Quoted.hexChars 8 c.toNat
  else [c]

/-- Single quotes stand around a text, unless it holds single and no double quotes. -/
def quoteFor (text : String) : Char :=
  if text.toList.contains '\'' && !text.toList.contains '"' then '"' else '\''

def quoted (text : String) : String :=
  let quote := quoteFor text
  String.ofList (quote :: (text.toList.flatMap (escape quote) ++ [quote]))

/-- Texts in brackets. -/
def bracketed (items : List String) : String := "[" ++ ", ".intercalate items ++ "]"

end Shown

/-- A value without parts, in a list. -/
def Scalar.quoted : Scalar → String
  | .null => "None"
  | .bool true => "True"
  | .bool false => "False"
  | .int value => String.ofList (Number.intChars value)
  | .real value => String.ofList (Number.messageLayout.chars value)
  | .text value => Shown.quoted value

/-- A value without parts, on its own. -/
def Scalar.shown : Scalar → String
  | .text value => value
  | value => value.quoted

/-- A list of names. -/
def Shown.names (list : List Scalar) : String := bracketed (list.map Scalar.quoted)

namespace Json

mutual

/-- A value in a list. -/
def quoted : Json → String
  | .scalar value => value.quoted
  | .array items => Shown.bracketed (quotedItems items)
  | .object members => "\x7b" ++ ", ".intercalate (quotedMembers members) ++ "\x7d"

def quotedItems : List Json → List String
  | [] => []
  | item :: rest => item.quoted :: quotedItems rest

def quotedMembers : List (String × Json) → List String
  | [] => []
  | (key, value) :: rest => (Shown.quoted key ++ ": " ++ value.quoted) :: quotedMembers rest

end

/-- A value on its own. -/
def shown : Json → String
  | .scalar value => value.shown
  | value => value.quoted

end Json

end JsxRouting
