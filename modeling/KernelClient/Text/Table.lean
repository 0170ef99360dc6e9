import KernelClient.Text.Hex

/-!
# Tables of characters

A property of characters is written as a text of entries with blanks between them. An entry is the
code of a character in hexadecimal, or the codes of the ends of a range with a hyphen between them.
A number behind a slash tells that only every so many characters of the range are meant. The codes
of what belongs to an entry follow behind a sign, with commas between them.
-/

namespace KernelClient.Text

/-- The parts of a text between marks, without empty ones. -/
def separate (isMark : Char → Bool) (text : List Char) : List (List Char) :=
  let (part, parts) := text.foldr (fun character (part, parts) =>
    if isMark character then ([], if part.isEmpty then parts else part :: parts)
    else (character :: part, parts)) ([], [])
  if part.isEmpty then parts else part :: parts

/-- What stands before and after the first mark of a text. -/
def cut (mark : Char) (text : List Char) : List Char × List Char :=
  (text.takeWhile fun character => character ≠ mark,
    (text.dropWhile fun character => character ≠ mark).drop 1)

/-- The number that hexadecimal digits stand for. -/
def hexadecimal (digits : List Char) : Nat :=
  digits.foldl (fun number digit => 16 * number + (Hex.value? digit).getD 0) 0

structure TableEntry where
  first : Nat
  last : Nat
  step : Nat
  values : List Nat
deriving DecidableEq, Inhabited

namespace TableEntry

def ofText (text : List Char) : TableEntry :=
  let (source, values) := cut '=' text
  let (range, step) := cut '/' source
  let (first, last) := cut '-' range
  { first := hexadecimal first
    last := hexadecimal (if last.isEmpty then first else last)
    step := if step.isEmpty then 1 else hexadecimal step
    values := (separate (· = ',') values).map hexadecimal }

/-- Whether an entry is about the character of a code. -/
def covers (entry : TableEntry) (code : Nat) : Bool :=
  entry.first ≤ code && code ≤ entry.last && (code - entry.first) % entry.step = 0

end TableEntry

abbrev Table := List TableEntry

namespace Table

def ofText (text : String) : Table :=
  (separate Char.isWhitespace text.toList).map TableEntry.ofText

/-- The entry about a character. -/
def find? (table : Table) (character : Char) : Option TableEntry :=
  List.find? (fun entry => entry.covers character.toNat) table

/-- Whether a table has an entry about a character. -/
def has (table : Table) (character : Char) : Bool :=
  table.any fun entry => entry.covers character.toNat

end Table

end KernelClient.Text
