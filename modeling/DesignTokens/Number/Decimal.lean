import DesignTokens.Number.Shortest

/-!
Signed decimals without trailing zeros in the coefficient, and their two written forms: plain
positional notation, and the notation of number texts, which turns to an exponent for very large
and very small magnitudes.
-/

namespace DesignTokens

/-- The number `coefficient * 10 ^ exponent` with a sign of its own, so that zero has two. -/
structure Decimal where
  negative : Bool
  coefficient : Nat
  exponent : Int
  reduced : coefficient % 10 ≠ 0 ∨ (coefficient = 0 ∧ exponent = 0) := by decide
  deriving DecidableEq

namespace Decimal

/-- Moves trailing zeros of a coefficient into the exponent. -/
def trimZeros : Nat → Nat → Int → Nat × Int
  | 0, coefficient, exponent => (coefficient, exponent)
  | fuel + 1, coefficient, exponent =>
      if coefficient % 10 = 0 then trimZeros fuel (coefficient / 10) (exponent + 1)
      else (coefficient, exponent)

theorem trimZeros_reduced (fuel coefficient : Nat) (exponent : Int)
    (positive : 0 < coefficient) (enough : coefficient ≤ fuel) :
    (trimZeros fuel coefficient exponent).1 % 10 ≠ 0 := by
  induction fuel generalizing coefficient exponent with
  | zero => omega
  | succ fuel ih =>
      simp only [trimZeros]
      split
      · exact ih (coefficient / 10) (exponent + 1) (by omega) (by omega)
      · assumption

def ofParts (negative : Bool) (coefficient : Nat) (exponent : Int) : Decimal :=
  if zero : coefficient = 0 then ⟨negative, 0, 0, Or.inr ⟨rfl, rfl⟩⟩
  else
    ⟨negative, (trimZeros coefficient coefficient exponent).1,
      (trimZeros coefficient coefficient exponent).2,
      Or.inl (trimZeros_reduced coefficient coefficient exponent (by omega) (Nat.le_refl _))⟩

/-- The shortest decimal that reads back as a binary64 number with a sign. -/
def shortest (tie : Tie) (negative : Bool) (number : Binary64) : Decimal :=
  if number.significand = 0 then ofParts negative 0 0
  else ofParts negative (number.shortest tie).1 (number.shortest tie).2

def digits (decimal : Decimal) : List Char :=
  Nat.toDigits 10 decimal.coefficient

/-- The digits without sign and exponent, padded with zeros around the point. -/
def positional (decimal : Decimal) : List Char :=
  let digits := decimal.digits
  if 0 ≤ decimal.exponent then digits ++ List.replicate decimal.exponent.toNat '0'
  else
    let places := (-decimal.exponent).toNat
    if places < digits.length then
      digits.take (digits.length - places) ++ '.' :: digits.drop (digits.length - places)
    else '0' :: '.' :: (List.replicate (places - digits.length) '0' ++ digits)

/-- Plain notation: no exponent, no trailing zero after the point, and one zero without a sign. -/
def plain (decimal : Decimal) : List Char :=
  if decimal.negative && decimal.coefficient != 0 then '-' :: decimal.positional
  else decimal.positional

/-- The power of ten of the leading digit. -/
def magnitude (decimal : Decimal) : Int :=
  decimal.digits.length + decimal.exponent - 1

/-- One digit before the point, and an exponent that always has a sign. -/
def scientific (decimal : Decimal) : List Char :=
  let power := decimal.magnitude
  let fraction := decimal.digits.drop 1
  decimal.digits.take 1 ++ (if fraction.isEmpty then [] else '.' :: fraction) ++
    'e' :: (if power < 0 then '-' else '+') :: Nat.toDigits 10 power.natAbs

/-- The notation of number texts: positional with at least one place for leading digits from
`10 ^ -5` to `10 ^ 15`, scientific otherwise, and signed zeros. -/
def written (decimal : Decimal) : List Char :=
  let unsigned :=
    if decimal.coefficient = 0 || (-5 ≤ decimal.magnitude && decimal.magnitude < 16) then
      if 0 ≤ decimal.exponent then decimal.positional ++ ['.', '0'] else decimal.positional
    else decimal.scientific
  if decimal.negative then '-' :: unsigned else unsigned

end Decimal
end DesignTokens
