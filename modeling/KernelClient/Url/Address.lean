import KernelClient.Url.Percent

/-!
# Addresses of hosts

An IPv4 address is written as up to four numbers, each decimal, octal after a zero or hexadecimal
after `0x`, of which the last one fills the bytes that are left. An IPv6 address is eight pieces of
16 bits, of which one run of zeros may be left out.
-/

namespace KernelClient.Address

/-- The parts of a text between marks. -/
def splitOn (mark : Char) (text : List Char) : List (List Char) :=
  match text with
  | [] => [[]]
  | character :: rest =>
      let parts := splitOn mark rest
      if character = mark then [] :: parts
      else match parts with
        | [] => [[character]]
        | part :: others => (character :: part) :: others

/-- A number in a base up to sixteen. -/
def number? (base : Nat) (digits : List Char) : Option Nat :=
  digits.foldlM (fun value character =>
    match Hex.value? character with
    | some digit => if digit < base then some (base * value + digit) else none
    | none => none) 0

/-- A part of an IPv4 address. -/
def part4? : List Char → Option Nat
  | [] => none
  | '0' :: 'x' :: digits | '0' :: 'X' :: digits => number? 16 digits
  | '0' :: digit :: digits => number? 8 (digit :: digits)
  | digits => number? 10 digits

/-- Whether a domain is meant to be an IPv4 address: its last part, or the one before a final
point, is a number. -/
def endsInNumber (domain : List Char) : Bool :=
  let isNumber (part : List Char) : Bool :=
    (!part.isEmpty && part.all Char.isDigit) || (part4? part).isSome
  match (splitOn '.' domain).reverse with
  | [] :: last :: _ => isNumber last
  | [] :: [] => false
  | last :: _ => isNumber last
  | [] => false

/-- The value of numbers of which each fills one of the given bytes and the last one the bytes
that are left. -/
def combine4? : (bytes : Nat) → List Nat → Option Nat
  | bytes, [last] => if last < Nat.pow 256 bytes then some last else none
  | bytes + 1, byte :: rest =>
      if byte < 256 then (combine4? bytes rest).map (byte * Nat.pow 256 bytes + ·) else none
  | _, _ => none

/-- Read an IPv4 address of 32 bits. -/
def parse4? (domain : List Char) : Option Nat :=
  let parts := splitOn '.' domain
  let parts := if parts.getLast? = some [] then parts.dropLast else parts
  if parts.length ≤ 4 then (parts.mapM part4?).bind (combine4? 4) else none

def render4 (address : Nat) : String :=
  String.intercalate "." <|
    [address >>> 24, (address >>> 16) % 256, (address >>> 8) % 256, address % 256].map toString

/-- A piece of one to four hexadecimal digits. -/
def piece? (digits : List Char) : Option Nat :=
  if 1 ≤ digits.length ∧ digits.length ≤ 4 then number? 16 digits else none

/-- A byte in decimal without leading zeros. -/
def byte? (digits : List Char) : Option Nat :=
  if digits = ['0'] then some 0
  else if digits.isEmpty ∨ digits.head? = some '0' then none
  else (number? 10 digits).filter (· < 256)

/-- The two pieces that an IPv4 address at the end stands for. -/
def embedded? (text : List Char) : Option (List Nat) :=
  match (splitOn '.' text).mapM byte? with
  | some [a, b, c, d] => some [a * 256 + b, c * 256 + d]
  | _ => none

/-- The pieces between colons; the last one may be an IPv4 address. -/
def pieces? (isLast : Bool) : List (List Char) → Option (List Nat)
  | [] => some []
  | [text] =>
      if isLast && text.contains '.' then embedded? text else (piece? text).map ([·])
  | text :: rest => do return (← piece? text) :: (← pieces? isLast rest)

/-- The pieces of a part of an address, which may be empty. -/
def half? (isLast : Bool) (text : List Char) : Option (List Nat) :=
  if text.isEmpty then some [] else pieces? isLast (splitOn ':' text)

/-- What stands before and after the first double colon. -/
def splitRun? : List Char → Option (List Char × List Char)
  | ':' :: ':' :: rest => some ([], rest)
  | character :: rest => (splitRun? rest).map fun (before, after) => (character :: before, after)
  | [] => none

/-- Read the eight pieces of an IPv6 address. -/
def parse6? (text : List Char) : Option (List Nat) :=
  match splitRun? text with
  | none => (pieces? true (splitOn ':' text)).filter (·.length = 8)
  | some (before, after) => do
      let first ← half? false before
      let last ← half? true after
      let known := first.length + last.length
      if known < 8 then return first ++ List.replicate (8 - known) 0 ++ last else none

/-- The length of the run of zeros at the start. -/
def zeros (pieces : List Nat) : Nat := (pieces.takeWhile (· = 0)).length

/-- Where the first of the longest runs of at least two zeros starts, and its length. -/
def longestRun? (pieces : List Nat) : Option (Nat × Nat) :=
  (List.range pieces.length).foldl (fun best start =>
    let length := zeros (pieces.drop start)
    let least := match best with
      | some (_, longest) => longest
      | none => 1
    if least < length then some (start, length) else best) none

def renderPieces (pieces : List Nat) : String :=
  String.intercalate ":" (pieces.map fun piece => String.ofList (Nat.toDigits 16 piece))

def render6 (pieces : List Nat) : String :=
  match longestRun? pieces with
  | some (start, length) =>
      renderPieces (pieces.take start) ++ "::" ++ renderPieces (pieces.drop (start + length))
  | none => renderPieces pieces

end KernelClient.Address
