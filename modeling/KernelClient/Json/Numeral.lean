import KernelClient.Json.Basic

/-!
# Numerals of JSON

A numeral without a fraction or an exponent is an integer when it fits 64 bits, and minus zero is
not one. Any other numeral is a double: its leading digits are read into a significand of 64 bits,
and the significand is scaled by a power of ten with one rounding for each operation. A numeral
beyond the largest double stands for nothing.
-/

namespace KernelClient.Json

/-- The parts of a number as it is written. -/
structure Numeral where
  negative : Bool
  whole : List Char
  fraction : Option (List Char)
  exponent : Option (Bool × List Char)

namespace Numeral

def isDigit (character : Char) : Bool := '0' ≤ character && character ≤ '9'

def digitValue (character : Char) : Nat := character.toNat - 48

def digitsValue (digits : List Char) : Nat :=
  digits.foldl (fun value digit => 10 * value + digitValue digit) 0

/-- The digits at the start of a text, and the rest. -/
def spanDigits (text : List Char) : List Char × List Char :=
  (text.takeWhile isDigit, text.dropWhile isDigit)

/-- A sign and digits after the letter of an exponent, up to the end of the text. -/
def exponent? (text : List Char) : Option (Bool × List Char) :=
  let (negative, unsigned) := match text with
    | '+' :: rest => (false, rest)
    | '-' :: rest => (true, rest)
    | rest => (false, rest)
  match spanDigits unsigned with
  | ([], _) => none
  | (digits, []) => some (negative, digits)
  | _ => none

/-- The exponent that ends a numeral, if any. -/
def ending? : List Char → Option (Option (Bool × List Char))
  | [] => some none
  | 'e' :: rest | 'E' :: rest => (exponent? rest).map some
  | _ => none

/-- The parts of a numeral: no superfluous zeros at the front, and at least one digit in each
part. -/
def ofText? (text : List Char) : Option Numeral :=
  let (negative, unsigned) := match text with
    | '-' :: rest => (true, rest)
    | rest => (false, rest)
  match spanDigits unsigned with
  | ([], _) | ('0' :: _ :: _, _) => none
  | (whole, '.' :: rest) =>
    match spanDigits rest with
    | ([], _) => none
    | (digits, after) =>
      (ending? after).map fun exponent => ⟨negative, whole, some digits, exponent⟩
  | (whole, rest) => (ending? rest).map fun exponent => ⟨negative, whole, none, exponent⟩

/-- The largest significand that is kept. -/
def largestSignificand : Nat := UInt64.size - 1

/-- The largest exponent that is told apart from larger ones. -/
def largestExponent : Nat := UInt32.size / 2 - 1

/-- The largest power of ten that is a double. -/
def largestPower : Nat := 308

/-- Read digits into a significand as long as it stays within 64 bits; the digits that do not fit
are counted. -/
def readSignificand (significand : Nat) : List Char → Nat × Nat
  | [] => (significand, 0)
  | digit :: rest =>
      let longer := 10 * significand + digitValue digit
      if longer ≤ largestSignificand then readSignificand longer rest
      else (significand, rest.length + 1)

/-- A power of ten as a double. -/
def powerOfTen (exponent : Nat) : Binary64 :=
  (Binary64.nearest? false (Nat.pow 10 exponent) 1).getD default

/-- Divide by a power of ten, by the largest one as long as the exponent is beyond it. -/
def divideByPower (value : Binary64) (exponent : Nat) : Option Binary64 :=
  if largestPower < exponent then
    if value.isZero then some value
    else (value.divide? (powerOfTen largestPower)).bind fun quotient =>
      divideByPower quotient (exponent - largestPower)
  else value.divide? (powerOfTen exponent)
termination_by exponent
decreasing_by unfold largestPower at *; omega

/-- The double of a significand and a power of ten, or none beyond the largest double. -/
def scaled? (significand : Nat) (exponent : Int) : Option Binary64 :=
  (Binary64.nearest? false significand 1).bind fun value =>
    if exponent < 0 then divideByPower value exponent.natAbs
    else if exponent.natAbs ≤ largestPower then value.multiply? (powerOfTen exponent.natAbs)
    else if value.isZero then some value
    else none

/-- The power of ten of the significand: the written exponent and the shift for the digits that
stand behind the point or were left out. -/
def totalExponent? (significand : Nat) (shift : Int) : Option (Bool × List Char) → Option Int
  | none => some shift
  | some (negative, digits) =>
      let written := digitsValue digits
      if written ≤ largestExponent then
        some (if negative then shift - written else shift + written)
      else if significand ≠ 0 ∧ ¬ negative then none
      else some (-(largestExponent : Int))

/-- The magnitude of a numeral as a double. -/
def double? (numeral : Numeral) : Option Binary64 :=
  let (whole, dropped) := readSignificand 0 numeral.whole
  let fraction := numeral.fraction.getD []
  -- A digit behind the point can fit where a larger one before the point did not.
  let (significand, unread) := readSignificand whole fraction
  let shift : Int := dropped - (fraction.length - unread : Nat)
  (totalExponent? significand shift numeral.exponent).bind (scaled? significand)

/-- The number that a numeral stands for. -/
def number? (numeral : Numeral) : Option Number :=
  let value := digitsValue numeral.whole
  if numeral.fraction.isNone ∧ numeral.exponent.isNone ∧
      (if numeral.negative then 0 < value ∧ value ≤ UInt64.size / 2 else value < UInt64.size) then
    some (.integer (if numeral.negative then -value else value))
  else
    numeral.double?.map fun magnitude =>
      .double ⟨numeral.negative, magnitude.significand, magnitude.scale⟩

end Numeral

/-- The number that a text stands for. -/
def Number.ofText? (text : List Char) : Option Number :=
  (Numeral.ofText? text).bind Numeral.number?

end KernelClient.Json
