import DesignTokens.Number.Power

/-!
Nonnegative binary64 numbers as a significand times a power of two, and the rounding of an exact
quotient of natural numbers to the nearest of them. A decimal is rounded once, or in steps.
-/

namespace DesignTokens

/-- The number `significand * 2 ^ exponent`. -/
structure Binary64 where
  significand : Nat
  exponent : Int
  deriving DecidableEq, Repr

namespace Binary64

/-- Significands have at most this many bits. -/
def precision : Nat := 53

/-- The exponent of the smallest positive number. -/
def leastExponent : Int := -1074

def greatestExponent : Int := 971

/-- `numerator / denominator` rounded to a natural number, a tie going to the even neighbour. -/
def roundQuotient (numerator denominator : Nat) : Nat :=
  let below := numerator / denominator
  let twiceRest := 2 * (numerator % denominator)
  if twiceRest < denominator then below
  else if denominator < twiceRest then below + 1
  else if below % 2 = 0 then below
  else below + 1

/-- The exponent of the largest power of two that does not exceed `numerator / denominator`. -/
def floorLog (numerator denominator : Nat) : Int :=
  let difference : Int := (Nat.log2 numerator : Int) - Nat.log2 denominator
  if numerator * powerOfTwo (-difference).toNat < denominator * powerOfTwo difference.toNat then
    difference - 1
  else difference

/-- The nearest number to `numerator / denominator`; a tie goes to the even significand, and a
quotient beyond the largest number has none. -/
def nearest? (numerator denominator : Nat) : Option Binary64 :=
  if numerator = 0 then some ⟨0, leastExponent⟩
  else
    let exponent := max (floorLog numerator denominator - (precision - 1)) leastExponent
    let significand := roundQuotient (numerator * powerOfTwo (-exponent).toNat)
      (denominator * powerOfTwo exponent.toNat)
    let rounded : Binary64 :=
      if significand = powerOfTwo precision then ⟨powerOfTwo (precision - 1), exponent + 1⟩
      else ⟨significand, exponent⟩
    if rounded.exponent ≤ greatestExponent then some rounded else none

/-- The nearest number to `coefficient * 10 ^ exponent`. Powers of ten far outside the range are
not computed. -/
def ofDecimal? (coefficient : Nat) (exponent : Int) : Option Binary64 :=
  let digitCount : Int := (Nat.toDigits 10 coefficient).length
  if coefficient = 0 then some ⟨0, leastExponent⟩
  else if 310 < digitCount + exponent then none
  else if digitCount + exponent < -330 then some ⟨0, leastExponent⟩
  else nearest? (coefficient * powerOfTen exponent.toNat) (powerOfTen (-exponent).toNat)

def numerator (number : Binary64) : Nat :=
  number.significand * powerOfTwo number.exponent.toNat

def denominator (number : Binary64) : Nat :=
  powerOfTwo (-number.exponent).toNat

def times? (first second : Binary64) : Option Binary64 :=
  nearest? (first.numerator * second.numerator) (first.denominator * second.denominator)

def over? (first second : Binary64) : Option Binary64 :=
  nearest? (first.numerator * second.denominator) (first.denominator * second.numerator)

/-- The exponent of the greatest power of ten within the range. -/
def greatestPower : Nat := 308

def ofPower? (exponent : Nat) : Option Binary64 :=
  nearest? (powerOfTen exponent) 1

/-- Divides by the greatest power of ten so many times, or until nothing is left. -/
def shrink? (number : Binary64) : Nat → Option Binary64
  | 0 => some number
  | count + 1 =>
      if number.significand = 0 then some number
      else do
        let quotient ← number.over? (← ofPower? greatestPower)
        quotient.shrink? count

/-- `significand * 10 ^ exponent` in steps: the significand is rounded, then what comes of it and a
rounded power of ten, so that the result may be next to the nearest number. -/
def ofSteps? (significand : Nat) (exponent : Int) : Option Binary64 := do
  let number ← nearest? significand 1
  if 0 ≤ exponent then
    if number.significand = 0 then some number
    else if greatestPower < exponent then none
    else number.times? (← ofPower? exponent.toNat)
  else
    let places := (-exponent).toNat
    let count := (places - 1) / greatestPower
    let number ← number.shrink? count
    number.over? (← ofPower? (places - greatestPower * count))

end Binary64

end DesignTokens
