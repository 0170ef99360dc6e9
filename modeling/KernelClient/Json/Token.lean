import KernelClient.Json.Numeral
import KernelClient.Text.Hex

/-!
# Tokens of JSON text

The text of a document is a list of punctuation marks, words, strings and numbers with blanks
between them. It is read one character at a time; what has been read of a token that is not yet
complete is the state in between.
-/

namespace KernelClient.Json

inductive Token where
  | openArray
  | closeArray
  | openObject
  | closeObject
  | comma
  | colon
  | null
  | bool (value : Bool)
  | number (value : Number)
  | string (text : String)
deriving DecidableEq, Inhabited

/-- A part of a token, with its characters in reverse. -/
inductive PartialToken where
  | nothing
  | numeral (before : List Char)
  | word (before : List Char)
  | string (before : List Char)
  | escape (before : List Char)
  | codeUnit (before : List Char) (high : Option Nat) (digits : Nat) (value : Nat)
  | lowEscape (before : List Char) (high : Nat)
  | lowMark (before : List Char) (high : Nat)
deriving DecidableEq, Inhabited

namespace Token

def isBlank (character : Char) : Bool :=
  character = ' ' || character = '\n' || character = '\t' || character = '\x0d'

def isWordLetter (character : Char) : Bool :=
  'a' ≤ character && character ≤ 'z'

/-- Characters that a numeral is made of. Nothing else of a document may follow a numeral with one
of them. -/
def isNumeralCharacter (character : Char) : Bool :=
  Numeral.isDigit character || character = '-' || character = '+' || character = '.' ||
    character = 'e' || character = 'E'

def ofWord? (word : List Char) : Option Token :=
  if word = ['n', 'u', 'l', 'l'] then some .null
  else if word = ['t', 'r', 'u', 'e'] then some (.bool true)
  else if word = ['f', 'a', 'l', 's', 'e'] then some (.bool false)
  else none

/-- The character that an escape of one letter stands for. -/
def ofEscape? (letter : Char) : Option Char :=
  if letter = '"' then some '"'
  else if letter = '\\' then some '\\'
  else if letter = '/' then some '/'
  else if letter = 'b' then some '\x08'
  else if letter = 'f' then some '\x0c'
  else if letter = 'n' then some '\n'
  else if letter = 'r' then some '\x0d'
  else if letter = 't' then some '\t'
  else none

/-- The character of a pair of surrogates. -/
def ofSurrogates (high low : Nat) : Char :=
  Char.ofNat (0x10000 + (high - 0xD800) * 0x400 + (low - 0xDC00))

/-- Begin a token with its first character, or complete a token of one character. -/
def start? (character : Char) : Option (List Token × PartialToken) :=
  if isBlank character then some ([], .nothing)
  else if character = '"' then some ([], .string [])
  else if character = '-' || Numeral.isDigit character then some ([], .numeral [character])
  else if isWordLetter character then some ([], .word [character])
  else if character = '[' then some ([.openArray], .nothing)
  else if character = ']' then some ([.closeArray], .nothing)
  else if character = '\x7b' then some ([.openObject], .nothing)
  else if character = '\x7d' then some ([.closeObject], .nothing)
  else if character = ',' then some ([.comma], .nothing)
  else if character = ':' then some ([.colon], .nothing)
  else none

/-- Complete a token whose end is seen by what follows it. -/
def complete? : PartialToken → Option (List Token)
  | .nothing => some []
  | .numeral before => (Number.ofText? before.reverse).map fun number => [.number number]
  | .word before => (ofWord? before.reverse).map fun token => [token]
  | _ => none

/-- What a code unit of four digits adds to a string. Surrogates come in pairs. -/
def afterCodeUnit? (before : List Char) (high : Option Nat) (unit : Nat) : Option PartialToken :=
  match high with
  | some high =>
      if 0xDC00 ≤ unit ∧ unit < 0xE000 then some (.string (ofSurrogates high unit :: before))
      else none
  | none =>
      if 0xDC00 ≤ unit ∧ unit < 0xE000 then none
      else if 0xD800 ≤ unit ∧ unit < 0xDC00 then some (.lowEscape before unit)
      else some (.string (Char.ofNat unit :: before))

/-- Read one character: the tokens that it completes and what is read of the next one. -/
def step? (reading : PartialToken) (character : Char) : Option (List Token × PartialToken) :=
  match reading with
  | .nothing => start? character
  | .numeral before =>
      if isNumeralCharacter character then some ([], .numeral (character :: before))
      else (complete? reading).bind fun tokens =>
        (start? character).map fun (more, next) => (tokens ++ more, next)
  | .word before =>
      if isWordLetter character then some ([], .word (character :: before))
      else (complete? reading).bind fun tokens =>
        (start? character).map fun (more, next) => (tokens ++ more, next)
  | .string before =>
      if character = '"' then some ([.string (String.ofList before.reverse)], .nothing)
      else if character = '\\' then some ([], .escape before)
      else if character.toNat < 32 then none
      else some ([], .string (character :: before))
  | .escape before =>
      if character = 'u' then some ([], .codeUnit before none 0 0)
      else (ofEscape? character).map fun escaped => ([], .string (escaped :: before))
  | .codeUnit before high digits value =>
      (Hex.value? character).bind fun digit =>
        let longer := 16 * value + digit
        if digits < 3 then some ([], .codeUnit before high (digits + 1) longer)
        else (afterCodeUnit? before high longer).map fun next => ([], next)
  | .lowEscape before high =>
      if character = '\\' then some ([], .lowMark before high) else none
  | .lowMark before high =>
      if character = 'u' then some ([], .codeUnit before (some high) 0 0) else none

/-- The tokens of a text, put after those read before, which are given in reverse. -/
def scan? (before : List Token) (reading : PartialToken) : List Char → Option (List Token)
  | [] => (complete? reading).map fun tokens => before.reverse ++ tokens
  | character :: rest =>
      match step? reading character with
      | some (tokens, next) => scan? (tokens.reverse ++ before) next rest
      | none => none

/-- The tokens of a text. -/
def ofText? (text : List Char) : Option (List Token) :=
  scan? [] .nothing text

end Token

end KernelClient.Json
