import JsxRouting.Binary64.Shortest
import JsxRouting.Json

namespace JsxRouting

namespace Number

def isDigit (c : Char) : Bool := '0' ≤ c && c ≤ '9'

/-- The digits of a natural number. -/
def natChars (n : Nat) : List Char := Nat.toDigits 10 n

def intChars (n : Int) : List Char :=
  if n < 0 then '-' :: natChars n.natAbs else natChars n.natAbs

/-- The number that a list of digits writes. -/
def ofDigits (digits : List Char) : Nat :=
  digits.foldl (fun total digit => 10 * total + (digit.toNat - 48)) 0

/-- The most digits that are read as one whole number. -/
def digitLimit : Nat := 4300

/-- How binary64 numbers are written. -/
structure RealLayout where
  /-- The least exponent written with leading zeros instead of an exponent. -/
  positionalFrom : Int
  /-- The least large exponent that is written as such. -/
  positionalBelow : Int
  /-- The least number of digits of an exponent. -/
  exponentWidth : Nat
  notANumber : String
  infinity : String

/-- Exponents of at least two digits stand from `1e-05` downward and from `1e+16` upward. -/
def jsonLayout : RealLayout := ⟨-4, 16, 2, "NaN", "Infinity"⟩

/-- Numbers inside messages differ from JSON text in the names of what is not finite. -/
def messageLayout : RealLayout := { jsonLayout with notANumber := "nan", infinity := "inf" }

/-- Digits without the zeros at their end. -/
def trimZeros (digits : List Char) : List Char :=
  (digits.reverse.dropWhile (· == '0')).reverse

/-- Digits around a point, at least one on either side. The first digit has the weight
`10 ^ exponent`. -/
def positional (digits : List Char) (exponent : Int) : List Char :=
  if exponent < 0 then '0' :: '.' :: (List.replicate (-exponent - 1).toNat '0' ++ digits)
  else
    let whole := exponent.toNat + 1
    if digits.length ≤ whole then
      digits ++ List.replicate (whole - digits.length) '0' ++ ['.', '0']
    else digits.take whole ++ '.' :: digits.drop whole

/-- One digit, the others behind a point if there are others, and a signed exponent. -/
def scientific (width : Nat) (digits : List Char) (exponent : Int) : List Char :=
  let power := natChars exponent.natAbs
  digits.take 1 ++ (if digits.length ≤ 1 then [] else '.' :: digits.drop 1) ++
    'e' :: (if exponent < 0 then '-' else '+') ::
      (List.replicate (width - power.length) '0' ++ power)

def signChars (negative : Bool) : List Char := if negative then ['-'] else []

/-- The text of a binary64 number: its shortest decimal in the layout. -/
def RealLayout.chars (layout : RealLayout) : Binary64 → List Char
  | .nan => layout.notANumber.toList
  | .infinite negative => signChars negative ++ layout.infinity.toList
  | .finite negative significand exponent =>
    if significand = 0 then signChars negative ++ ['0', '.', '0']
    else
      let decimal := Binary64.shortest significand exponent
      let written := natChars decimal.digits
      let digits := trimZeros written
      let first := decimal.exponent + written.length - 1
      signChars negative ++
        (if layout.positionalFrom ≤ first ∧ first < layout.positionalBelow
          then positional digits first
          else scientific layout.exponentWidth digits first)

/-- Takes the digits behind a point, if a point with a digit behind it comes next. -/
def takeFraction : List Char → List Char × List Char
  | '.' :: rest =>
    match rest.takeWhile isDigit with
    | [] => ([], '.' :: rest)
    | digits => (digits, rest.dropWhile isDigit)
  | rest => ([], rest)

/-- Takes an exponent, if a mark, perhaps a sign, and a digit come next. -/
def takeExponent (text : List Char) : Option Int × List Char :=
  let taken (negative : Bool) (rest : List Char) : Option Int × List Char :=
    match rest.takeWhile isDigit with
    | [] => (none, text)
    | digits =>
      let value : Int := ofDigits digits
      (some (if negative then -value else value), rest.dropWhile isDigit)
  match text with
  | mark :: rest =>
    if mark == 'e' || mark == 'E' then
      match rest with
      | '+' :: rest => taken false rest
      | '-' :: rest => taken true rest
      | rest => taken false rest
    else (none, text)
  | [] => (none, text)

/-- Reads what follows the sign of a number. A leading zero ends the whole part. -/
def readUnsigned (negative : Bool) (text : List Char) : Except Json.Refusal (Scalar × List Char) :=
  let whole := match text with
    | '0' :: _ => ['0']
    | _ => text.takeWhile isDigit
  if whole.isEmpty then .error .malformed
  else
    let (fraction, afterFraction) := takeFraction (text.drop whole.length)
    let (exponent, rest) := takeExponent afterFraction
    if fraction.isEmpty && exponent.isNone then
      if digitLimit < whole.length then .error .tooManyDigits
      else
        let value : Int := ofDigits whole
        .ok (.int (if negative then -value else value), rest)
    else
      let digits := ofDigits (whole ++ fraction)
      .ok (.real (.ofDecimal negative digits (exponent.getD 0 - fraction.length)), rest)

/-- Reads a number at the start of a text. -/
def read : List Char → Except Json.Refusal (Scalar × List Char)
  | '-' :: 'I' :: 'n' :: 'f' :: 'i' :: 'n' :: 'i' :: 't' :: 'y' :: rest =>
    .ok (.real (.infinite true), rest)
  | 'I' :: 'n' :: 'f' :: 'i' :: 'n' :: 'i' :: 't' :: 'y' :: rest =>
    .ok (.real (.infinite false), rest)
  | 'N' :: 'a' :: 'N' :: rest => .ok (.real .nan, rest)
  | '-' :: rest => readUnsigned true rest
  | text => readUnsigned false text

end Number

end JsxRouting
