/-!
# Punycode

A label of a domain is written in ASCII: first the ASCII characters that it holds, then, behind a
hyphen, where to insert the others. These are inserted in increasing order. What is written for each
is how far it is from the insertion before, counting through the places of the label and from one
character to the next. The distances are numbers of base 36 whose digits end themselves; which
digits do so is adapted to the distances so far.
-/

namespace KernelClient.Punycode

/-- The first character that is inserted. -/
def firstCode : Nat := 128

/-- The threshold that is adapted, before the first distance. -/
def firstBias : Nat := 72

def digit (value : Nat) : Char :=
  if value < 26 then Char.ofNat (97 + value) else Char.ofNat (22 + value)

def value? (character : Char) : Option Nat :=
  if 'a' ≤ character ∧ character ≤ 'z' then some (character.toNat - 97)
  else if 'A' ≤ character ∧ character ≤ 'Z' then some (character.toNat - 65)
  else if '0' ≤ character ∧ character ≤ '9' then some (character.toNat - 22)
  else none

/-- A digit below this one is the last of its number. -/
def threshold (bias weight : Nat) : Nat := min 26 (max 1 (weight - bias))

theorem threshold_pos (bias weight : Nat) : 1 ≤ threshold bias weight := by
  unfold threshold
  omega

/-- Divide until a number is small, and count the divisions in steps of 36. -/
def settle (delta weight : Nat) : Nat × Nat :=
  if 455 < delta then settle (delta / 35) (weight + 36) else (delta, weight)
termination_by delta
decreasing_by exact Nat.div_lt_self (by omega) (by omega)

/-- The bias after a distance, once there is a number of characters. -/
def adapt (delta count : Nat) (isFirst : Bool) : Nat :=
  let damped := if isFirst then delta / 700 else delta / 2
  let (rest, weight) := settle (damped + damped / count) 0
  weight + 36 * rest / (rest + 38)

/-- The digits of a number. -/
def digits (bias weight number : Nat) : List Char :=
  let limit := threshold bias weight
  if number < limit then [digit number]
  else
    digit (limit + (number - limit) % (36 - limit)) ::
      digits bias (weight + 36) ((number - limit) / (36 - limit))
termination_by number
decreasing_by
  have positive := threshold_pos bias weight
  exact Nat.lt_of_le_of_lt (Nat.div_le_self _ _) (by omega)

/-- What has been written of a label. -/
structure Writer where
  delta : Nat
  bias : Nat
  count : Nat
  isFirst : Bool
  written : List Char
deriving DecidableEq, Inhabited

/-- Pass a place of a label while a character is inserted. -/
def Writer.pass (code : Nat) (writer : Writer) (character : Char) : Writer :=
  if character.toNat < code then { writer with delta := writer.delta + 1 }
  else if character.toNat = code then
    { delta := 0
      bias := adapt writer.delta (writer.count + 1) writer.isFirst
      count := writer.count + 1
      isFirst := false
      written := writer.written ++ digits writer.bias 36 writer.delta }
  else writer

/-- Write the insertions of characters in increasing order. -/
def insertions (label : List Char) : (before : Nat) → List Nat → Writer → List Char
  | _, [], writer => writer.written
  | before, code :: rest, writer =>
      let start := { writer with delta := writer.delta + (code - before) * (writer.count + 1) }
      let passed := label.foldl (Writer.pass code) start
      insertions label (code + 1) rest { passed with delta := passed.delta + 1 }

/-- Put a number into an increasing list, once. -/
def insertSorted (number : Nat) : List Nat → List Nat
  | [] => [number]
  | other :: rest =>
      if number < other then number :: other :: rest
      else if number = other then other :: rest
      else other :: insertSorted number rest

def isAscii (character : Char) : Bool := character.toNat < firstCode

/-- A label in ASCII. -/
def encode (label : List Char) : List Char :=
  let plain := label.filter isAscii
  let codes := (label.filter fun character => !isAscii character).foldr
    (fun character codes => insertSorted character.toNat codes) []
  let start := if plain.isEmpty then [] else plain ++ ['-']
  insertions label firstCode codes ⟨0, firstBias, plain.length, true, start⟩

/-- What has been read of a label. The number that is being read has a weight and the factor of its
next digit. -/
structure Reader where
  place : Nat
  before : Nat
  code : Nat
  bias : Nat
  weight : Nat
  factor : Nat
  label : List Char
deriving DecidableEq, Inhabited

/-- Insert a character once its distance is complete. -/
def Reader.insert? (reader : Reader) : Option Reader :=
  let count := reader.label.length + 1
  let code := reader.code + reader.place / count
  let place := reader.place % count
  if code.isValidChar then
    some {
      place := place + 1
      before := place + 1
      code := code
      bias := adapt (reader.place - reader.before) count (reader.before = 0)
      weight := 36
      factor := 1
      label := reader.label.take place ++ Char.ofNat code :: reader.label.drop place }
  else none

/-- A number that fits into a word of 32 bits. -/
def word? (number : Nat) : Option Nat := if number < UInt32.size then some number else none

/-- Read a digit. Numbers and factors that do not fit into a word are refused. -/
def Reader.read? (reader : Reader) (character : Char) : Option Reader := do
  let value ← value? character
  let place ← word? (reader.place + value * reader.factor)
  let read := { reader with place := place }
  let limit := threshold reader.bias reader.weight
  if value < limit then read.insert?
  else
    let factor ← word? (reader.factor * (36 - limit))
    return { read with weight := reader.weight + 36, factor := factor }

/-- What stands before the last hyphen, and what follows it. A hyphen at the start separates
nothing. -/
def splitPlain (text : List Char) : List Char × List Char :=
  match text.reverse.span (· != '-') with
  | (after, _ :: first :: before) => ((first :: before).reverse, after.reverse)
  | _ => ([], text)

/-- The label that a text in ASCII stands for. -/
def decode? (text : List Char) : Option (List Char) := do
  let (plain, rest) := splitPlain text
  let reader ← rest.foldlM Reader.read? ⟨0, 0, firstCode, firstBias, 36, 1, plain⟩
  if reader.factor = 1 then some reader.label else none

end KernelClient.Punycode
