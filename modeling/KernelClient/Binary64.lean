/-!
# Double-precision numbers

A finite double is a sign and a whole number of units of `2 ^ -1074`, the smallest positive
double. The number of units is a significand below `2 ^ 53` times a power of two, so that every
operation is exact arithmetic on natural numbers followed by one rounding.
-/

namespace KernelClient

/-- A finite double: `significand * 2 ^ scale` units of `2 ^ -1074`, with a sign. -/
structure Binary64 where
  negative : Bool
  significand : Nat
  scale : Nat
deriving DecidableEq, Inhabited

namespace Binary64

/-- The magnitude, counted in units of `2 ^ -1074`. -/
def units (number : Binary64) : Nat :=
  number.significand <<< number.scale

/-- Units in one. -/
def unitsPerOne : Nat := 1 <<< 1074

/-- The scale of the largest finite doubles. -/
def largestScale : Nat := 2045

def isZero (number : Binary64) : Bool := number.significand == 0

/-- The quotient of two natural numbers, rounded to the nearest, a half to the even neighbour. -/
def roundHalfEven (numerator denominator : Nat) : Nat :=
  let quotient := numerator / denominator
  let rest := numerator % denominator
  if 2 * rest < denominator then quotient
  else if denominator < 2 * rest then quotient + 1
  else if quotient % 2 = 0 then quotient
  else quotient + 1

/-- The double nearest to a ratio of units, or none beyond the largest double. -/
def nearestUnits? (negative : Bool) (numerator denominator : Nat) : Option Binary64 :=
  let whole := numerator / denominator
  let scale := if whole < 1 <<< 53 then 0 else whole.log2 - 52
  let significand := roundHalfEven numerator (denominator <<< scale)
  let nearest : Binary64 :=
    if significand = 1 <<< 53 then ⟨negative, 1 <<< 52, scale + 1⟩ else ⟨negative, significand, scale⟩
  if nearest.scale ≤ largestScale then some nearest else none

/-- The double nearest to a ratio, or none beyond the largest double. -/
def nearest? (negative : Bool) (numerator denominator : Nat) : Option Binary64 :=
  nearestUnits? negative (numerator * unitsPerOne) denominator

/-- The product, rounded once. -/
def multiply? (left right : Binary64) : Option Binary64 :=
  nearestUnits? (left.negative != right.negative) (left.units * right.units) unitsPerOne

/-- The quotient, rounded once. The divisor is not zero. -/
def divide? (left right : Binary64) : Option Binary64 :=
  nearestUnits? (left.negative != right.negative) (left.units * unitsPerOne) right.units

/-- Numerical equality: the two zeros are equal, and nothing else is shared. -/
def agrees (left right : Binary64) : Bool :=
  (left.isZero && right.isZero) || left == right

@[simp] theorem agrees_self (number : Binary64) : number.agrees number = true := by
  simp [agrees]

end Binary64

end KernelClient
