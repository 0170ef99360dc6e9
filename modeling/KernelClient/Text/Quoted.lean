import KernelClient.Text.Printable

/-!
# Quoted strings

Diagnostic texts show a string between double quotes. Quotes, backslashes and the usual control
characters are escaped by a letter, and every other character that is not printable by its code in
hexadecimal.
-/

namespace KernelClient.Text

/-- The characters that stand for one character between quotes. -/
def quoteCharacter (character : Char) : List Char :=
  if character = '\x00' then ['\\', '0']
  else if character = '\t' then ['\\', 't']
  else if character = '\x0d' then ['\\', 'r']
  else if character = '\n' then ['\\', 'n']
  else if character = '\\' then ['\\', '\\']
  else if character = '"' then ['\\', '"']
  else if isPrintable character then [character]
  else ['\\', 'u', '\x7b'] ++ Nat.toDigits 16 character.toNat ++ ['\x7d']

/-- A string between quotes. -/
def quote (text : String) : String :=
  String.ofList ('"' :: text.toList.flatMap quoteCharacter ++ ['"'])

/-- A list between brackets. -/
def bracket (items : List String) : String :=
  "[" ++ String.intercalate ", " items ++ "]"

/-- A record with named parts; an open record has more parts than it shows. -/
def record (name : String) (fields : List (String × String)) (isOpen : Bool) : String :=
  let shown := fields.map fun (field, value) => field ++ ": " ++ value
  let all := if isOpen then shown ++ [".."] else shown
  name ++ " \x7b " ++ String.intercalate ", " all ++ " \x7d"

/-- The text of an optional value. -/
def optional : Option String → String
  | some text => "Some(" ++ text ++ ")"
  | none => "None"

def truth (value : Bool) : String := if value then "true" else "false"

end KernelClient.Text
