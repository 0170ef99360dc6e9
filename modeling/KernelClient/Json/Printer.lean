import KernelClient.Json.Basic
import KernelClient.Binary64.Shortest
import KernelClient.Text.Hex

/-!
# Writing JSON

Values are written without blanks. Only quotes, backslashes and control characters are escaped.
A double is written with its shortest digits, positionally when its leading digit stands between
the places `10 ^ -5` and `10 ^ 15`, and always so that it does not read as an integer.
-/

namespace KernelClient.Json

/-- The characters that stand for one character of a string. -/
def escape (character : Char) : List Char :=
  if character = '"' then ['\\', '"']
  else if character = '\\' then ['\\', '\\']
  else if character = '\x08' then ['\\', 'b']
  else if character = '\x0c' then ['\\', 'f']
  else if character = '\n' then ['\\', 'n']
  else if character = '\x0d' then ['\\', 'r']
  else if character = '\t' then ['\\', 't']
  else if character.toNat < 32 then
    ['\\', 'u', '0', '0', Hex.digit (character.toNat / 16), Hex.digit (character.toNat % 16)]
  else [character]

/-- A string with its quotes, before the rest of the text. -/
def writeString (text : String) (rest : List Char) : List Char :=
  '"' :: text.toList.foldr (fun character written => escape character ++ written) ('"' :: rest)

/-- Least and greatest place of a leading digit that is written positionally. -/
def leastPositionalPlace : Int := -5

def greatestPositionalPlace : Int := 15

/-- The digits of a nonzero decimal with its point or its exponent. -/
def decimalText (decimal : Binary64.Decimal) : List Char :=
  let digits := Nat.toDigits 10 decimal.digits
  let place := decimal.leadingExponent
  if leastPositionalPlace ≤ place ∧ place ≤ greatestPositionalPlace then
    if place < 0 then
      ['0', '.'] ++ List.replicate (-place - 1).toNat '0' ++ digits
    else
      let whole := place.toNat + 1
      if digits.length ≤ whole then
        digits ++ List.replicate (whole - digits.length) '0' ++ ['.', '0']
      else digits.take whole ++ ['.'] ++ digits.drop whole
  else
    let mantissa := match digits with
      | [] => []
      | [leading] => [leading]
      | leading :: others => leading :: '.' :: others
    let sign := if place < 0 then '-' else '+'
    mantissa ++ ['e', sign] ++ Nat.toDigits 10 place.natAbs

def Number.text : Number → List Char
  | .integer value =>
      if value < 0 then '-' :: Nat.toDigits 10 value.natAbs else Nat.toDigits 10 value.natAbs
  | .double value =>
      let magnitude := if value.isZero then ['0', '.', '0'] else decimalText value.shortest
      if value.negative then '-' :: magnitude else magnitude

mutual

/-- The text of a value, before the rest of the text. -/
def write : Json → List Char → List Char
  | .null, rest => 'n' :: 'u' :: 'l' :: 'l' :: rest
  | .bool true, rest => 't' :: 'r' :: 'u' :: 'e' :: rest
  | .bool false, rest => 'f' :: 'a' :: 'l' :: 's' :: 'e' :: rest
  | .number value, rest => value.text ++ rest
  | .string text, rest => writeString text rest
  | .array [], rest => '[' :: ']' :: rest
  | .array (item :: items), rest => '[' :: write item (writeItems items (']' :: rest))
  | .object [], rest => '{' :: '}' :: rest
  | .object ((name, value) :: fields), rest =>
      '{' :: writeString name (':' :: write value (writeFields fields ('}' :: rest)))

/-- The items after the first, each with a comma before it. -/
def writeItems : List Json → List Char → List Char
  | [], rest => rest
  | item :: items, rest => ',' :: write item (writeItems items rest)

/-- The fields after the first, each with a comma before it. -/
def writeFields : List (String × Json) → List Char → List Char
  | [], rest => rest
  | (name, value) :: fields, rest =>
      ',' :: writeString name (':' :: write value (writeFields fields rest))

end

/-- The text of a value. -/
def render (value : Json) : String :=
  String.ofList (write value [])

end KernelClient.Json
