import DesignTokens.Number.Decimal

/-!
The numbers of documents: integers of a machine word, and reals, which are binary64 numbers with a
sign. Two notations write a real, and a real halfway between its two shortest decimals is written
as the even one in number texts and as the greater one in plain notation.
-/

namespace DesignTokens

inductive Number where
  | integer (value : Int)
  | real (negative : Bool) (magnitude : Binary64)
  deriving DecidableEq

namespace Number

/-- Integers that a signed or an unsigned word of 64 bits holds. -/
def fitsWord (value : Int) : Bool :=
  -(powerOfTwo 63 : Int) ≤ value && value < powerOfTwo 64

def integerDigits (value : Int) : List Char :=
  if value < 0 then '-' :: Nat.toDigits 10 value.natAbs else Nat.toDigits 10 value.natAbs

def written : Number → String
  | integer value => String.ofList (integerDigits value)
  | real negative magnitude =>
      String.ofList (Decimal.shortest .toEven negative magnitude).written

/-- The text of a number in plain notation, which never has an exponent. -/
def plain : Number → String
  | integer value => String.ofList (integerDigits value)
  | real negative magnitude =>
      String.ofList (Decimal.shortest .toGreater negative magnitude).plain

def lessThanOne : Number → Bool
  | integer value => value < 1
  | real negative magnitude => negative || magnitude.numerator < magnitude.denominator

/-- The level from 0 to 255 of a number that is clamped to the unit interval: the product with 255
is a binary64 number and is rounded half up. -/
def byteLevel : Number → Nat
  | integer value => if value < 1 then 0 else 255
  | real negative magnitude =>
      if negative then 0
      else if magnitude.denominator ≤ magnitude.numerator then 255
      else
        match Binary64.nearest? (255 * magnitude.numerator) magnitude.denominator with
        | none => 255
        | some product => (2 * product.numerator + product.denominator) / (2 * product.denominator)

/-- The number of a literal without fraction and exponent. A negative zero and an integer that fits
no word are reals. -/
def ofInteger? (negative : Bool) (magnitude : Nat) : Option Number :=
  let value : Int := if negative then -magnitude else magnitude
  if fitsWord value && !(negative && magnitude == 0) then some (integer value)
  else (Binary64.ofDecimal? magnitude 0).map (real negative)

def ofReal? (negative : Bool) (coefficient : Nat) (exponent : Int) : Option Number :=
  (Binary64.ofDecimal? coefficient exponent).map (real negative)

/-- The number of a literal whose first digits make a significand, rounded in steps. -/
def ofSteps? (negative : Bool) (significand : Nat) (exponent : Int) : Option Number :=
  (Binary64.ofSteps? significand exponent).map (real negative)

end Number
end DesignTokens
