import DesignTokens.Number.Binary64

/-!
The fewest decimal digits that read back as a given binary64 number. Grids of powers of ten are
tried from coarse to fine; the first grid with a point that rounds to the number gives the digits.
-/

namespace DesignTokens

/-- Where a number goes that lies halfway between two points of a grid: to the even one, or to the
greater one. -/
inductive Tie where
  | toEven
  | toGreater
  deriving DecidableEq

namespace Binary64

/-- Distances to the ends of the interval that rounds to a number, in quarters of its unit. Below
a power of two the numbers lie twice as close. -/
def quartersBelow (number : Binary64) : Nat :=
  if number.significand = powerOfTwo (precision - 1) ∧ leastExponent < number.exponent then 1
  else 2

/-- Whether a point lies in the interval of reals that round to a number. The point is given as
`point / unit` quarters; the ends belong to the interval of an even significand. -/
def readsBack (number : Binary64) (point unit : Nat) : Bool :=
  let low := (4 * number.significand - quartersBelow number) * unit
  let high := (4 * number.significand + 2) * unit
  if number.significand % 2 = 0 then low ≤ point && point ≤ high
  else low < point && point < high

/-- The point of the grid of `10 ^ exponent` that reads back as the number, the nearer one if both
neighbours do. -/
def onGrid? (tie : Tie) (number : Binary64) (exponent : Int) : Option Nat :=
  let unit := powerOfTwo (number.exponent - 2).toNat * powerOfTen (-exponent).toNat
  let step := powerOfTwo (2 - number.exponent).toNat * powerOfTen exponent.toNat
  let exact := 4 * number.significand * unit
  let below := exact / step
  let above := below + 1
  match readsBack number (below * step) unit, readsBack number (above * step) unit with
  | true, true =>
      if 2 * exact < (below + above) * step then some below
      else if (below + above) * step < 2 * exact then some above
      else if tie = .toEven ∧ below % 2 = 0 then some below
      else some above
  | true, false => some below
  | false, true => some above
  | false, false => none

/-- The first of `count` grids, each ten times finer than the one before, with a point that reads
back. -/
def searchGrids (tie : Tie) (number : Binary64) : Nat → Int → Option (Nat × Int)
  | 0, _ => none
  | count + 1, exponent =>
      match onGrid? tie number exponent with
      | some point => some (point, exponent)
      | none => searchGrids tie number count (exponent - 1)

/-- A power of ten above the number. -/
def gridAbove (number : Binary64) : Int :=
  (((Nat.log2 number.significand : Int) + number.exponent + 1) * 30103) / 100000 + 1

/-- Coefficient and exponent of the shortest decimal that reads back as a positive number. -/
def shortest (tie : Tie) (number : Binary64) : Nat × Int :=
  (searchGrids tie number 25 (gridAbove number)).getD (number.numerator, 0)

end Binary64
end DesignTokens
