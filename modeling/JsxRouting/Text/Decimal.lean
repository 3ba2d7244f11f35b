import JsxRouting.Json.Number
import JsxRouting.Text.Ranges

namespace JsxRouting

/-- The zeros of the decimal digits in Unicode 14. The other nine digits follow each of them. -/
def decimalZeros : List Nat := [
  0x30, 0x660, 0x6F0, 0x7C0, 0x966, 0x9E6, 0xA66, 0xAE6, 0xB66, 0xBE6, 0xC66, 0xCE6, 0xD66, 0xDE6,
  0xE50, 0xED0, 0xF20, 0x1040, 0x1090, 0x17E0, 0x1810, 0x1946, 0x19D0, 0x1A80, 0x1A90, 0x1B50,
  0x1BB0, 0x1C40, 0x1C50, 0xA620, 0xA8D0, 0xA900, 0xA9D0, 0xA9F0, 0xAA50, 0xABF0, 0xFF10, 0x104A0,
  0x10D30, 0x11066, 0x110F0, 0x11136, 0x111D0, 0x112F0, 0x11450, 0x114D0, 0x11650, 0x116C0,
  0x11730, 0x118E0, 0x11950, 0x11C50, 0x11D50, 0x11DA0, 0x16A60, 0x16AC0, 0x16B50, 0x1D7CE,
  0x1D7D8, 0x1D7E2, 0x1D7EC, 0x1D7F6, 0x1E140, 0x1E2F0, 0x1E950, 0x1FBF0]

/-- The value of a decimal digit of any script. -/
def digitValue? (c : Char) : Option Nat :=
  (decimalZeros.find? fun first => first ≤ c.toNat && c.toNat < first + 10).map (c.toNat - ·)

/-- The characters that may stand around a typed number. -/
def blankRanges : CharRanges := [
  (0x9, 0xD), (0x20, 0x20), (0x85, 0x85), (0xA0, 0xA0), (0x1680, 0x1680), (0x2000, 0x200A),
  (0x2028, 0x2029), (0x202F, 0x202F), (0x205F, 0x205F), (0x3000, 0x3000)]

/-- Reads the digits behind a first one, of which `total` is what came so far. A low line stands
between two digits. -/
def readDigits (total : Nat) : List Char → Option Nat
  | [] => some total
  | '_' :: c :: rest =>
    match digitValue? c with
    | some digit => readDigits (10 * total + digit) rest
    | none => none
  | c :: rest =>
    match digitValue? c with
    | some digit => readDigits (10 * total + digit) rest
    | none => none

/-- Reads a number without a sign, which begins with a digit and does not have too many of them. -/
def readNat? (text : List Char) : Option Nat :=
  if Number.digitLimit < (text.filter (· != '_')).length then none
  else
    match text with
    | [] => none
    | c :: rest => (digitValue? c).bind (readDigits · rest)

/-- Reads a whole number. -/
def readInt? (text : String) : Option Int :=
  let trimmed := text.toList.dropWhile blankRanges.contains
  let trimmed := (trimmed.reverse.dropWhile blankRanges.contains).reverse
  match trimmed with
  | '-' :: digits => (readNat? digits).map fun n => -(n : Int)
  | '+' :: digits => (readNat? digits).map Int.ofNat
  | digits => (readNat? digits).map Int.ofNat

end JsxRouting
