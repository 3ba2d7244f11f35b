import JsxRouting.Text.NameExtend
import JsxRouting.Text.NameStart

namespace JsxRouting

/-- Whether a character may begin an identifier. -/
def isNameStart (c : Char) : Bool := c == '$' || c == '_' || nameStartRanges.contains c

/-- Whether a character may follow in an identifier. The two joiners may, though they are no letters. -/
def isNamePart (c : Char) : Bool :=
  c == '$' || c == '\u200c' || c == '\u200d' || nameStartRanges.contains c || nameExtendRanges.contains c

/-- Whether a text is the name of an identifier. -/
def isIdentifierName (text : String) : Bool :=
  match text.toList with
  | [] => false
  | first :: rest => isNameStart first && rest.all isNamePart

/-- Whether a text begins with a lower-case letter of the basic alphabet. -/
def startsLowercase (text : String) : Bool :=
  match text.toList with
  | [] => false
  | first :: _ => 'a' ≤ first && first ≤ 'z'

/-- The dollar sign and the two joiners, as the pieces of a name. -/
def markPieces : List String := ["$", "\u200c", "\u200d"]

/-- The characters of a name in pieces, with a low line for every piece that is a mark, and for every
dollar sign of the first piece. -/
def spelledOut (first : String) (rest : List String) : List Char :=
  first.toList.map (fun c => if c = '$' then '_' else c) ++
    rest.flatMap fun piece => if markPieces.contains piece then ['_'] else piece.toList

/-- Whether the pieces of a name together spell an identifier. Marks inside a longer piece do not count
as parts of an identifier. -/
def spellIdentifier (first : String) (rest : List String) : Bool :=
  match spelledOut first rest with
  | [] => false
  | c :: others =>
    (c == '_' || nameStartRanges.contains c) &&
      others.all fun c => c == '_' || nameStartRanges.contains c || nameExtendRanges.contains c

end JsxRouting
