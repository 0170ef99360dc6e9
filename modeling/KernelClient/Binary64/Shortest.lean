import KernelClient.Binary64

/-!
# The shortest decimal of a double

Among the decimals that round to a double, those with the fewest digits are the shortest, and of
two with equally many digits the nearer is taken. For each number of digits only the two decimals
next to the double have to be tried, and seventeen digits always suffice.
-/

namespace KernelClient.Binary64

/-- The decimal `digits * 10 ^ exponent`. -/
structure Decimal where
  digits : Nat
  exponent : Int
deriving DecidableEq, Inhabited

namespace Decimal

/-- The number of decimal digits of a natural number. -/
def digitCount (number : Nat) : Nat := (Nat.toDigits 10 number).length

/-- The same decimal without trailing zeros, unless it is zero. -/
def normalize (decimal : Decimal) : Decimal :=
  if digits : decimal.digits ≠ 0 ∧ decimal.digits % 10 = 0 then
    normalize ⟨decimal.digits / 10, decimal.exponent + 1⟩
  else decimal
termination_by decimal.digits
decreasing_by exact Nat.div_lt_self (Nat.pos_of_ne_zero digits.1) (by decide)

/-- The power of ten of the leading digit. -/
def leadingExponent (decimal : Decimal) : Int :=
  digitCount decimal.digits + decimal.exponent - 1

end Decimal

/-- The decimals that round to a double, as bounds on quarter units. -/
structure RoundingRange where
  low : Nat
  middle : Nat
  high : Nat
  closed : Bool

/-- Half a unit of the last place on either side, a quarter below a power of two. The ends round
to the double when its significand is even. -/
def roundingRange (number : Binary64) : RoundingRange :=
  let step := 1 <<< number.scale
  let below := if number.significand = 1 <<< 52 ∧ number.scale ≠ 0 then step else 2 * step
  { low := 4 * number.units - below
    middle := 4 * number.units
    high := 4 * number.units + 2 * step
    closed := number.significand % 2 == 0 }

/-- Quarter units in one. -/
def quarterUnitsPerOne : Nat := 4 * unitsPerOne

/-- The position of the decimal point before the leading digit: the value lies at or above
`10 ^ (position - 1)` and below `10 ^ position`. -/
def pointPosition (number : Binary64) : Int :=
  let value := 4 * number.units
  if quarterUnitsPerOne ≤ value then
    Decimal.digitCount (value / quarterUnitsPerOne)
  else
    match (List.range 325).find? (fun zeros => quarterUnitsPerOne ≤ value * Nat.pow 10 (zeros + 1)) with
    | some zeros => -(zeros : Int)
    | none => 0

/-- The nearest decimal with the given number of digits that rounds to the double, if there is
one. Of two equally near decimals the even one is taken. -/
def decimalWith? (number : Binary64) (digits : Nat) : Option Decimal :=
  let range := number.roundingRange
  let exponent := number.pointPosition - digits
  let up := Nat.pow 10 (-exponent).toNat
  let down := Nat.pow 10 exponent.toNat
  let fits (candidate : Nat) : Bool :=
    let value := candidate * down * quarterUnitsPerOne
    if range.closed then range.low * up ≤ value && value ≤ range.high * up
    else range.low * up < value && value < range.high * up
  let floor := range.middle * up / (down * quarterUnitsPerOne)
  let belowBy := range.middle * up - floor * down * quarterUnitsPerOne
  let aboveBy := (floor + 1) * down * quarterUnitsPerOne - range.middle * up
  let preferFloor := belowBy < aboveBy || (belowBy == aboveBy && floor % 2 == 0)
  let (first, second) := if preferFloor then (floor, floor + 1) else (floor + 1, floor)
  if fits first then some ⟨first, exponent⟩
  else if fits second then some ⟨second, exponent⟩
  else none

/-- The shortest decimal that rounds to the double. -/
def shortest (number : Binary64) : Decimal :=
  if number.isZero then ⟨0, 0⟩
  else
    match (List.range 17).findSome? (fun fewer => number.decimalWith? (fewer + 1)) with
    | some decimal => decimal.normalize
    | none => ⟨0, 0⟩

end KernelClient.Binary64
