import KernelClient.Text.Blank
import KernelClient.Time.Calendar

/-!
# Instants

An instant is a second counted from the start of 1970 in universal time and a number of
nanoseconds; a leap second is the second before it with a second's worth of nanoseconds more.
Instants are written as in RFC 3339, in universal time and with as few digits of 0, 3, 6 or 9 after
the point as lose nothing. They are read with any offset, with blanks between their parts and with
years of any sign and length.
-/

namespace KernelClient

structure Instant where
  seconds : Int
  nanoseconds : Nat
deriving DecidableEq, Inhabited

namespace Instant

/-- The start of 1970. -/
def epoch : Instant := ⟨0, 0⟩

/-- The years that instants may lie in. -/
def firstYear : Int := -262143

def lastYear : Int := 262142

/-- A number in decimal with zeros before it up to a width. -/
def padded (width : Nat) (number : Nat) : List Char :=
  let digits := Nat.toDigits 10 number
  List.replicate (width - digits.length) '0' ++ digits

def yearText (year : Int) : List Char :=
  if 0 ≤ year ∧ year ≤ 9999 then padded 4 year.toNat
  else (if year < 0 then '-' else '+') :: padded 4 year.natAbs

def fractionText (nanoseconds : Nat) : List Char :=
  if nanoseconds = 0 then []
  else if nanoseconds % 1000000 = 0 then '.' :: padded 3 (nanoseconds / 1000000)
  else if nanoseconds % 1000 = 0 then '.' :: padded 6 (nanoseconds / 1000)
  else '.' :: padded 9 nanoseconds

/-- The text of an instant in universal time. -/
def render (instant : Instant) : String :=
  let days := Int.fdiv instant.seconds 86400
  let secondOfDay := (instant.seconds - days * 86400).toNat
  let date := Calendar.Date.ofDays days
  let leap := 1000000000 ≤ instant.nanoseconds
  let second := secondOfDay % 60 + (if leap then 1 else 0)
  let nanoseconds := if leap then instant.nanoseconds - 1000000000 else instant.nanoseconds
  String.ofList <|
    yearText date.year ++ '-' :: padded 2 date.month ++ '-' :: padded 2 date.day ++
      'T' :: padded 2 (secondOfDay / 3600) ++ ':' :: padded 2 (secondOfDay / 60 % 60) ++
      ':' :: padded 2 second ++ fractionText nanoseconds ++ ['Z']

def isDigit (character : Char) : Bool := '0' ≤ character && character ≤ '9'

def digitsValue (digits : List Char) : Nat :=
  digits.foldl (fun value digit => 10 * value + (digit.toNat - 48)) 0

/-- A number of at least one digit and at most as many as given. -/
def number? (most : Nat) (text : List Char) : Option (Nat × List Char) :=
  let digits := (text.take most).takeWhile isDigit
  if digits.isEmpty then none else some (digitsValue digits, text.drop digits.length)

/-- A number of digits without bound. -/
def longNumber? (text : List Char) : Option (Nat × List Char) :=
  number? text.length text

/-- A year: four digits at most, or any number of digits after a sign. -/
def year? (text : List Char) : Option (Int × List Char) :=
  match Text.trimStart text with
  | '-' :: rest => (longNumber? rest).map fun (year, rest) => (-year, rest)
  | '+' :: rest => (longNumber? rest).map fun (year, rest) => (year, rest)
  | rest => (number? 4 rest).map fun (year, rest) => (year, rest)

/-- A number of one or two digits, with blanks before it. -/
def pair? (text : List Char) : Option (Nat × List Char) :=
  number? 2 (Text.trimStart text)

/-- A mark, with blanks before it. -/
def mark? (mark : Char) (text : List Char) : Option (List Char) :=
  match Text.trimStart text with
  | character :: rest => if character = mark then some rest else none
  | [] => none

/-- A fraction of a second in nanoseconds. Digits after the ninth are left out. -/
def fraction? : List Char → Option (Nat × List Char)
  | '.' :: rest =>
      (number? 9 rest).map fun (value, after) =>
        (value * Nat.pow 10 (9 - (rest.length - after.length)), after.dropWhile isDigit)
  | rest => some (0, rest)

/-- The hours and minutes of an offset, in minutes, after its sign. -/
def offsetMinutes? : List Char → Option (Int × List Char)
  | h :: i :: rest =>
      if isDigit h && isDigit i then
        match rest.dropWhile (fun character => character = ':' || Text.isBlank character) with
        | m :: n :: after =>
            if '0' ≤ m && m ≤ '5' && isDigit n then
              some (digitsValue [h, i] * 60 + digitsValue [m, n], after)
            else none
        | _ => none
      else none
  | _ => none

/-- The offset from universal time in minutes. -/
def offset? : List Char → Option (Int × List Char)
  | 'Z' :: rest | 'z' :: rest => some (0, rest)
  | '+' :: rest => offsetMinutes? rest
  | '-' :: rest | '−' :: rest => (offsetMinutes? rest).map fun (minutes, after) => (-minutes, after)
  | u :: t :: c :: rest =>
      if u.toLower = 'u' ∧ t.toLower = 't' ∧ c.toLower = 'c' then some (0, rest) else none
  | _ => none

/-- The years whose instants are accepted. -/
def isYear (year : Int) : Bool := firstYear ≤ year && year ≤ lastYear

/-- The instant of a local date and time at an offset from universal time. -/
def ofLocal? (date : Calendar.Date) (hour minute second nanoseconds : Nat)
    (offset : Int) : Option Instant :=
  if date.isValid && isYear date.year && hour < 24 && minute < 60 && second ≤ 60 &&
      offset.natAbs < 1440 then
    let leap := second = 60
    let secondOfDay : Nat := hour * 3600 + minute * 60 + (if leap then 59 else second)
    let seconds := date.toDays * 86400 + secondOfDay - offset * 60
    if isYear (Calendar.Date.ofDays (Int.fdiv seconds 86400)).year then
      some ⟨seconds, nanoseconds + (if leap then 1000000000 else 0)⟩
    else none
  else none

/-- Read an instant. -/
def parse? (text : String) : Option Instant := do
  let (year, rest) ← year? text.toList
  let rest ← mark? '-' rest
  let (month, rest) ← pair? rest
  let rest ← mark? '-' rest
  let (day, rest) ← pair? rest
  let rest ← match rest with
    | 'T' :: rest | 't' :: rest | ' ' :: rest => some rest
    | _ => none
  let (hour, rest) ← pair? rest
  let rest ← mark? ':' rest
  let (minute, rest) ← pair? rest
  let rest ← mark? ':' rest
  let (second, rest) ← pair? rest
  let (nanoseconds, rest) ← fraction? rest
  let (offset, rest) ← offset? (Text.trimStart rest)
  if (Text.trimStart rest).isEmpty then
    ofLocal? ⟨year, month, day⟩ hour minute second nanoseconds offset
  else none

end Instant

end KernelClient
