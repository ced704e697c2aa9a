import DesignTokens.Proofs.Number.Numeral
import Mathlib.Algebra.Order.Field.Rat
import Mathlib.Algebra.Order.Field.Power
import Mathlib.Tactic.FieldSimp
import Mathlib.Tactic.Linarith
import Mathlib.Tactic.NormNum
import Mathlib.Tactic.Positivity
import Mathlib.Tactic.Ring

/-!
Rounding to binary64 numbers. Around each number lies the interval of what is rounded to it; both
the rounding of a quotient and the reading of a decimal give the number whose interval it lies in.
-/

namespace DesignTokens

theorem cast_powerOfTwo (power : Nat) : (powerOfTwo power : ℚ) = 2 ^ power := by
  rw [powerOfTwo, Nat.pow_eq, Nat.cast_pow, Nat.cast_ofNat]

theorem cast_powerOfTen (power : Nat) : (powerOfTen power : ℚ) = 10 ^ power := by
  rw [powerOfTen, Nat.pow_eq, Nat.cast_pow, Nat.cast_ofNat]

theorem zpow_eq_div {base : ℚ} (nonzero : base ≠ 0) (power : Int) :
    base ^ power = base ^ power.toNat / base ^ (-power).toNat := by
  rw [← zpow_natCast, ← zpow_natCast, ← zpow_sub₀ nonzero]
  congr 1
  omega

theorem two_zpow_eq (power : Int) :
    (2 : ℚ) ^ power = powerOfTwo power.toNat / powerOfTwo (-power).toNat := by
  rw [cast_powerOfTwo, cast_powerOfTwo, zpow_eq_div (by decide)]

theorem ten_zpow_eq (power : Int) :
    (10 : ℚ) ^ power = powerOfTen power.toNat / powerOfTen (-power).toNat := by
  rw [cast_powerOfTen, cast_powerOfTen, zpow_eq_div (by decide)]

theorem two_zpow_pos (power : Int) : (0 : ℚ) < 2 ^ power :=
  zpow_pos (by decide) power

theorem ten_zpow_pos (power : Int) : (0 : ℚ) < 10 ^ power :=
  zpow_pos (by decide) power

theorem two_zpow_add (power : Int) (shift : Nat) {sum : Int} (isSum : sum = power + shift) :
    (2 : ℚ) ^ sum = 2 ^ shift * 2 ^ power := by
  rw [isSum, zpow_add₀ (by decide), zpow_natCast, mul_comm]

theorem powerOfTwo_pos (power : Nat) : 0 < powerOfTwo power :=
  Nat.pow_pos (by decide)

theorem powerOfTen_pos (power : Nat) : 0 < powerOfTen power :=
  Nat.pow_pos (by decide)

/-- Whether a quotient lies in the interval around a natural number, which has its ends just when
the number is even. -/
def Within (whole : Nat) (low high quotient : ℚ) : Prop :=
  if whole % 2 = 0 then low ≤ quotient ∧ quotient ≤ high else low < quotient ∧ quotient < high

namespace Within

variable {whole : Nat} {low high quotient : ℚ}

theorem bounds (within : Within whole low high quotient) : low ≤ quotient ∧ quotient ≤ high := by
  rw [Within] at within
  split at within
  · exact within
  · exact ⟨within.1.le, within.2.le⟩

theorem of_lt (above : low < quotient) (below : quotient < high) :
    Within whole low high quotient := by
  rw [Within]
  split
  · exact ⟨above.le, below.le⟩
  · exact ⟨above, below⟩

theorem between {least greatest : ℚ} (withinLeast : Within whole low high least)
    (withinGreatest : Within whole low high greatest) (atLeast : least ≤ quotient)
    (atMost : quotient ≤ greatest) : Within whole low high quotient := by
  by_cases even : whole % 2 = 0
  · rw [Within, if_pos even] at *
    exact ⟨withinLeast.1.trans atLeast, atMost.trans withinGreatest.2⟩
  · rw [Within, if_neg even] at *
    exact ⟨withinLeast.1.trans_le atLeast, atMost.trans_lt withinGreatest.2⟩

theorem mono {lower higher : ℚ} (within : Within whole low high quotient) (atLeast : lower ≤ low)
    (atMost : high ≤ higher) : Within whole lower higher quotient := by
  by_cases even : whole % 2 = 0
  · rw [Within, if_pos even] at *
    exact ⟨atLeast.trans within.1, within.2.trans atMost⟩
  · rw [Within, if_neg even] at *
    exact ⟨atLeast.trans_lt within.1, within.2.trans_le atMost⟩

theorem mul_iff {unit : ℚ} (positive : 0 < unit) :
    Within whole (low * unit) (high * unit) (quotient * unit) ↔ Within whole low high quotient := by
  simp only [Within, mul_le_mul_iff_left₀ positive, mul_lt_mul_iff_left₀ positive]

end Within

/-- A quotient rounds to the nearest natural number, and halfway between two to the even one. -/
def RoundsTo (quotient : ℚ) (whole : Nat) : Prop :=
  Within whole (whole - 1 / 2) (whole + 1 / 2) quotient

namespace RoundsTo

variable {quotient : ℚ} {whole other : Nat}

theorem not_lt (rounds : RoundsTo quotient whole) (otherRounds : RoundsTo quotient other) :
    ¬whole < other := by
  intro less
  have apart : (whole : ℚ) + 1 ≤ other := by exact_mod_cast less
  obtain ⟨-, below⟩ := Within.bounds rounds
  obtain ⟨above, -⟩ := Within.bounds otherRounds
  have next : other = whole + 1 := by
    have close : (other : ℚ) ≤ whole + 1 := by linarith
    have : other ≤ whole + 1 := by exact_mod_cast close
    omega
  -- Of two neighbours one is odd and has no ends, but the quotient is an end of both.
  by_cases even : whole % 2 = 0
  · rw [RoundsTo, Within, if_neg (by omega)] at otherRounds
    linarith [otherRounds.1]
  · rw [RoundsTo, Within, if_neg even] at rounds
    linarith [rounds.2]

theorem unique (rounds : RoundsTo quotient whole) (otherRounds : RoundsTo quotient other) :
    whole = other := by
  have notLess := rounds.not_lt otherRounds
  have notGreater := otherRounds.not_lt rounds
  omega

end RoundsTo

namespace Binary64

theorem roundsTo_roundQuotient (numerator : Nat) {denominator : Nat} (positive : 0 < denominator) :
    RoundsTo (numerator / denominator) (roundQuotient numerator denominator) := by
  have positiveCast : (0 : ℚ) < denominator := by exact_mod_cast positive
  have quotient : (numerator : ℚ) / denominator = (numerator / denominator : Nat) +
      (numerator % denominator : Nat) / (denominator : ℚ) := by
    rw [div_eq_iff positiveCast.ne', add_mul, div_mul_cancel₀ _ positiveCast.ne']
    exact_mod_cast (Nat.div_add_mod' numerator denominator).symm
  have twice : 2 * ((numerator % denominator : Nat) / (denominator : ℚ)) =
      (2 * (numerator % denominator) : Nat) / (denominator : ℚ) := by
    push_cast
    ring
  have fractionNonneg : (0 : ℚ) ≤ (numerator % denominator : Nat) / (denominator : ℚ) := by
    positivity
  have fractionLess : (numerator % denominator : Nat) / (denominator : ℚ) < 1 := by
    rw [div_lt_one positiveCast]
    exact_mod_cast Nat.mod_lt numerator positive
  rw [quotient]
  simp only [roundQuotient]
  split
  case isTrue small =>
    have : (2 * (numerator % denominator) : Nat) / (denominator : ℚ) < 1 := by
      rw [div_lt_one positiveCast]
      exact_mod_cast small
    exact Within.of_lt (by linarith) (by linarith)
  case isFalse notSmall =>
    split
    case isTrue large =>
      have : 1 < (2 * (numerator % denominator) : Nat) / (denominator : ℚ) := by
        rw [one_lt_div positiveCast]
        exact_mod_cast large
      exact Within.of_lt (by push_cast; linarith) (by push_cast; linarith)
    case isFalse notLarge =>
      have halfway : 2 * (numerator % denominator) = denominator := by omega
      rw [halfway, div_self positiveCast.ne'] at twice
      split
      case isTrue even =>
        rw [RoundsTo, Within, if_pos even]
        constructor <;> linarith
      case isFalse odd =>
        rw [RoundsTo, Within, if_pos (by omega)]
        constructor <;> push_cast <;> linarith

theorem floorLog_bounds {numerator denominator : Nat} (positive : 0 < numerator)
    (denominatorPositive : 0 < denominator) :
    (2 : ℚ) ^ floorLog numerator denominator ≤ numerator / denominator ∧
      (numerator : ℚ) / denominator < 2 ^ (floorLog numerator denominator + 1) := by
  have positiveCast : (0 : ℚ) < denominator := by exact_mod_cast denominatorPositive
  have atLeast : (2 : ℚ) ^ (Nat.log2 numerator : Int) ≤ numerator := by
    rw [zpow_natCast]
    exact_mod_cast Nat.log2_self_le positive.ne'
  have below : (numerator : ℚ) < 2 ^ (Nat.log2 numerator + 1 : Int) := by
    exact_mod_cast (Nat.lt_log2_self : numerator < 2 ^ (Nat.log2 numerator + 1))
  have denominatorAtLeast : (2 : ℚ) ^ (Nat.log2 denominator : Int) ≤ denominator := by
    rw [zpow_natCast]
    exact_mod_cast Nat.log2_self_le denominatorPositive.ne'
  have denominatorBelow : (denominator : ℚ) < 2 ^ (Nat.log2 denominator + 1 : Int) := by
    exact_mod_cast (Nat.lt_log2_self : denominator < 2 ^ (Nat.log2 denominator + 1))
  simp only [floorLog]
  generalize Nat.log2 numerator = upper at *
  generalize Nat.log2 denominator = lower at *
  have test : numerator * powerOfTwo (-((upper : Int) - lower)).toNat <
      denominator * powerOfTwo ((upper : Int) - lower).toNat ↔
        (numerator : ℚ) / denominator < 2 ^ ((upper : Int) - lower) := by
    rw [two_zpow_eq, div_lt_div_iff₀ positiveCast (by exact_mod_cast powerOfTwo_pos _)]
    rw [mul_comm (powerOfTwo _ : ℚ)]
    exact_mod_cast Iff.rfl
  split
  case isTrue less =>
    refine ⟨?_, by rw [sub_add_cancel]; exact test.mp less⟩
    rw [le_div_iff₀ positiveCast]
    calc (2 : ℚ) ^ ((upper : Int) - lower - 1) * denominator
        ≤ 2 ^ ((upper : Int) - lower - 1) * 2 ^ ((lower : Int) + 1) :=
          mul_le_mul_of_nonneg_left denominatorBelow.le (two_zpow_pos _).le
      _ = 2 ^ (upper : Int) := by
          rw [← zpow_add₀ (by decide)]
          congr 1
          omega
      _ ≤ numerator := atLeast
  case isFalse notLess =>
    refine ⟨not_lt.mp fun less => notLess (test.mpr less), ?_⟩
    rw [div_lt_iff₀ positiveCast]
    calc (numerator : ℚ) < 2 ^ ((upper : Int) + 1) := below
      _ = 2 ^ ((upper : Int) - lower + 1) * 2 ^ (lower : Int) := by
          rw [← zpow_add₀ (by decide)]
          congr 1
          omega
      _ ≤ 2 ^ ((upper : Int) - lower + 1) * denominator :=
          mul_le_mul_of_nonneg_left denominatorAtLeast (two_zpow_pos _).le

/-- The unit of a quotient: it has 53 bits in it, or fewer when the unit is the least one. -/
structure HasUnit (quotient : ℚ) (unit : Int) : Prop where
  atLeast : leastExponent ≤ unit
  below : quotient < 2 ^ (unit + 53)
  full : unit = leastExponent ∨ 2 ^ (unit + 52) ≤ quotient

theorem HasUnit.not_lt {quotient : ℚ} {unit other : Int} (hasUnit : HasUnit quotient unit)
    (hasOther : HasUnit quotient other) : ¬unit < other := by
  intro less
  have atLeast := hasUnit.atLeast
  rcases hasOther.full with least | full
  · omega
  · have ordered : (2 : ℚ) ^ (unit + 53) ≤ 2 ^ (other + 52) :=
      zpow_le_zpow_right₀ (by decide) (by omega)
    linarith [hasUnit.below]

theorem HasUnit.unique {quotient : ℚ} {unit other : Int} (hasUnit : HasUnit quotient unit)
    (hasOther : HasUnit quotient other) : unit = other := by
  have notLess := hasUnit.not_lt hasOther
  have notGreater := hasOther.not_lt hasUnit
  omega

theorem hasUnit_of_floorLog {numerator denominator : Nat} (positive : 0 < numerator)
    (denominatorPositive : 0 < denominator) :
    HasUnit (numerator / denominator)
      (max (floorLog numerator denominator - (precision - 1)) leastExponent) := by
  obtain ⟨atLeast, below⟩ := floorLog_bounds positive denominatorPositive
  have bits : (precision : Int) = 53 := rfl
  rcases le_total (floorLog numerator denominator - (precision - 1)) leastExponent with few | many
  · rw [max_eq_right few]
    refine ⟨le_rfl, below.trans_le ?_, .inl rfl⟩
    exact zpow_le_zpow_right₀ (by decide) (by omega)
  · rw [max_eq_left many]
    refine ⟨many, below.trans_le ?_, .inr (le_trans ?_ atLeast)⟩
    · exact zpow_le_zpow_right₀ (by decide) (by omega)
    · exact zpow_le_zpow_right₀ (by decide) (by omega)

/-- The number of a rounded significand; a significand that took a bit too many is halved. -/
def carried (significand : Nat) (unit : Int) : Binary64 :=
  if significand = powerOfTwo precision then ⟨powerOfTwo (precision - 1), unit + 1⟩
  else ⟨significand, unit⟩

theorem scaled_quotient (numerator denominator : Nat) (unit : Int) :
    ((numerator * powerOfTwo (-unit).toNat : Nat) : ℚ) /
        (denominator * powerOfTwo unit.toNat : Nat) =
      numerator / denominator / 2 ^ unit := by
  rw [two_zpow_eq, Nat.cast_mul, Nat.cast_mul, div_div_eq_mul_div, div_mul_eq_mul_div, div_div]

theorem nearest?_eq {numerator denominator significand : Nat} {unit : Int}
    (positive : 0 < numerator) (denominatorPositive : 0 < denominator)
    (hasUnit : HasUnit (numerator / denominator) unit)
    (rounds : RoundsTo (numerator / denominator / 2 ^ unit) significand) :
    nearest? numerator denominator =
      if (carried significand unit).exponent ≤ greatestExponent then
        some (carried significand unit)
      else none := by
  have isUnit := (hasUnit_of_floorLog positive denominatorPositive).unique hasUnit
  have rounded := roundsTo_roundQuotient (numerator * powerOfTwo (-unit).toNat)
    (Nat.mul_pos denominatorPositive (powerOfTwo_pos unit.toNat))
  rw [scaled_quotient] at rounded
  simp only [nearest?, if_neg positive.ne', isUnit, rounded.unique rounds, carried]
  rfl

def value (number : Binary64) : ℚ :=
  number.significand * 2 ^ number.exponent

/-- Significands have all bits, unless the exponent is the least one. -/
structure IsCanonical (number : Binary64) : Prop where
  fits : number.significand < powerOfTwo precision
  atLeast : leastExponent ≤ number.exponent
  atMost : number.exponent ≤ greatestExponent
  full : number.exponent = leastExponent ∨ powerOfTwo (precision - 1) ≤ number.significand

/-- A quarter of the unit of a number. -/
def quarter (number : Binary64) : ℚ :=
  2 ^ (number.exponent - 2)

/-- The interval of what is rounded to a number. -/
def Covers (number : Binary64) (quotient : ℚ) : Prop :=
  Within number.significand ((4 * number.significand - number.quartersBelow) * number.quarter)
    ((4 * number.significand + 2) * number.quarter) quotient

variable {number : Binary64} {quotient : ℚ}

theorem quarter_pos : 0 < number.quarter :=
  two_zpow_pos _

theorem two_zpow_eq_quarters (number : Binary64) (shift : Nat) {power : Int}
    (shifted : power = number.exponent - 2 + shift) :
    (2 : ℚ) ^ power = 2 ^ shift * number.quarter :=
  two_zpow_add _ shift shifted

theorem value_eq_quarters : number.value = 4 * number.significand * number.quarter := by
  rw [value, number.two_zpow_eq_quarters 2 (by omega)]
  ring

theorem quartersBelow_bounds (number : Binary64) :
    (1 : ℚ) ≤ number.quartersBelow ∧ (number.quartersBelow : ℚ) ≤ 2 := by
  rw [quartersBelow]
  split <;> norm_num

theorem covers_value (number : Binary64) : number.Covers number.value := by
  have some := number.quartersBelow_bounds.1
  rw [value_eq_quarters]
  apply Within.of_lt
  · exact mul_lt_mul_of_pos_right (by linarith) quarter_pos
  · exact mul_lt_mul_of_pos_right (by linarith) quarter_pos

theorem Covers.between {least greatest : ℚ} (coversLeast : number.Covers least)
    (coversGreatest : number.Covers greatest) (atLeast : least ≤ quotient)
    (atMost : quotient ≤ greatest) : number.Covers quotient :=
  Within.between coversLeast coversGreatest atLeast atMost

theorem Covers.pos (covers : number.Covers quotient) (positive : 0 < number.significand) :
    0 < quotient := by
  have atLeastOne : (1 : ℚ) ≤ number.significand := by exact_mod_cast positive
  have few := number.quartersBelow_bounds.2
  have lowPos : 0 < (4 * (number.significand : ℚ) - number.quartersBelow) * number.quarter :=
    mul_pos (by linarith) quarter_pos
  exact lowPos.trans_le covers.bounds.1

theorem Covers.roundsTo (covers : number.Covers quotient) :
    RoundsTo (quotient / 2 ^ number.exponent) number.significand := by
  have few := number.quartersBelow_bounds.2
  rw [RoundsTo, ← Within.mul_iff (two_zpow_pos number.exponent),
    div_mul_cancel₀ _ (two_zpow_pos _).ne', number.two_zpow_eq_quarters 2 (by omega), ← mul_assoc,
    ← mul_assoc]
  apply covers.mono
  · exact mul_le_mul_of_nonneg_right (by linarith) quarter_pos.le
  · exact mul_le_mul_of_nonneg_right (by linarith) quarter_pos.le

theorem powerOfTwo_precision : powerOfTwo precision = 2 ^ 53 := rfl

theorem powerOfTwo_precision_sub_one : powerOfTwo (precision - 1) = 2 ^ 52 := rfl

theorem IsCanonical.high_lt (canonical : number.IsCanonical) (covers : number.Covers quotient) :
    quotient < 2 ^ (number.exponent + 53) := by
  have fits : (number.significand : ℚ) + 1 ≤ 2 ^ 53 := by
    have := canonical.fits
    rw [powerOfTwo_precision] at this
    exact_mod_cast this
  calc quotient ≤ (4 * number.significand + 2) * number.quarter := covers.bounds.2
    _ < 2 ^ 55 * number.quarter := mul_lt_mul_of_pos_right (by linarith) quarter_pos
    _ = 2 ^ (number.exponent + 53) := (number.two_zpow_eq_quarters 55 (by omega)).symm

/-- What is rounded up to a power of two has the smaller unit of the numbers below it. -/
theorem IsCanonical.eq_powerOfTwo (canonical : number.IsCanonical)
    (covers : number.Covers quotient) (notLeast : number.exponent ≠ leastExponent)
    (less : quotient < 2 ^ (number.exponent + 52)) :
    number.significand = powerOfTwo (precision - 1) ∧
      RoundsTo (quotient / 2 ^ (number.exponent - 1)) (powerOfTwo precision) := by
  have atLeast := canonical.full.resolve_left notLeast
  have few := number.quartersBelow_bounds.2
  rw [number.two_zpow_eq_quarters 54 (by omega)] at less
  have isPower : number.significand = powerOfTwo (precision - 1) := by
    by_contra notPower
    rw [powerOfTwo_precision_sub_one] at atLeast notPower
    have more : (2 : ℚ) ^ 52 + 1 ≤ number.significand := by exact_mod_cast (by omega)
    have above : 2 ^ 54 * number.quarter ≤
        (4 * number.significand - number.quartersBelow) * number.quarter :=
      mul_le_mul_of_nonneg_right (by linarith) quarter_pos.le
    exact absurd (above.trans covers.bounds.1) (not_le.mpr less)
  refine ⟨isPower, ?_⟩
  have one : number.quartersBelow = 1 := by
    rw [quartersBelow, if_pos ⟨isPower, lt_of_le_of_ne canonical.atLeast (Ne.symm notLeast)⟩]
  have low := covers.bounds.1
  rw [one, isPower, cast_powerOfTwo] at low
  rw [RoundsTo, Within, if_pos (by decide), cast_powerOfTwo,
    le_div_iff₀ (two_zpow_pos _), div_le_iff₀ (two_zpow_pos _),
    number.two_zpow_eq_quarters 1 (by omega)]
  norm_num [precision] at low ⊢
  constructor <;> linarith

theorem nearest?_of_covers {numerator denominator : Nat} (canonical : number.IsCanonical)
    (positive : 0 < number.significand) (denominatorPositive : 0 < denominator)
    (covers : number.Covers (numerator / denominator)) :
    nearest? numerator denominator = some number := by
  have numeratorPositive : 0 < numerator := by
    have quotientPositive := covers.pos positive
    rw [div_pos_iff_of_pos_right (by exact_mod_cast denominatorPositive)] at quotientPositive
    exact_mod_cast quotientPositive
  by_cases carries : number.exponent ≠ leastExponent ∧
      (numerator / denominator : ℚ) < 2 ^ (number.exponent + 52)
  · obtain ⟨isPower, rounds⟩ := canonical.eq_powerOfTwo covers carries.1 carries.2
    have atLeast := canonical.atLeast
    have hasUnit : HasUnit (numerator / denominator) (number.exponent - 1) := by
      refine ⟨by omega, ?_, .inr ?_⟩
      · convert carries.2 using 2
        omega
      · have close := (Within.bounds rounds).1
        rw [le_div_iff₀ (two_zpow_pos _), powerOfTwo_precision] at close
        rw [two_zpow_add (number.exponent - 1) 52 (by omega)]
        refine le_trans (mul_le_mul_of_nonneg_right ?_ (two_zpow_pos _).le) close
        norm_num
    rw [nearest?_eq numeratorPositive denominatorPositive hasUnit rounds]
    have isNumber : carried (powerOfTwo precision) (number.exponent - 1) = number := by
      rw [carried, if_pos rfl, ← isPower, sub_add_cancel]
    rw [isNumber, if_pos canonical.atMost]
  · have hasUnit : HasUnit (numerator / denominator) number.exponent := by
      refine ⟨canonical.atLeast, canonical.high_lt covers, ?_⟩
      rw [not_and_or, not_not, not_lt] at carries
      exact carries
    rw [nearest?_eq numeratorPositive denominatorPositive hasUnit covers.roundsTo]
    have isNumber : carried number.significand number.exponent = number := by
      rw [carried, if_neg canonical.fits.ne]
    rw [isNumber, if_pos canonical.atMost]

theorem covers_powerOfTwo {exponent : Int} (notLeast : leastExponent < exponent)
    (low : (2 ^ 54 - 1) * 2 ^ (exponent - 2) ≤ quotient)
    (high : quotient ≤ (2 ^ 54 + 2) * 2 ^ (exponent - 2)) :
    Covers ⟨powerOfTwo (precision - 1), exponent⟩ quotient := by
  have one : quartersBelow ⟨powerOfTwo (precision - 1), exponent⟩ = 1 := by
    rw [quartersBelow, if_pos ⟨rfl, notLeast⟩]
  have even : powerOfTwo (precision - 1) % 2 = 0 := rfl
  simp only [Covers, Within, one, even, if_true, cast_powerOfTwo, quarter]
  norm_num [precision] at low high ⊢
  exact ⟨low, high⟩

theorem covers_carried {unit : Int} {whole : Nat} (hasUnit : HasUnit quotient unit)
    (rounds : RoundsTo (quotient / 2 ^ unit) whole) : (carried whole unit).Covers quotient := by
  rw [RoundsTo, ← Within.mul_iff (two_zpow_pos unit),
    div_mul_cancel₀ _ (two_zpow_pos _).ne'] at rounds
  obtain ⟨low, high⟩ := rounds.bounds
  rw [carried]
  split
  case isTrue isPower =>
    have below := hasUnit.below
    have quarterPos := two_zpow_pos (unit + 1 - 2)
    rw [isPower, cast_powerOfTwo, precision, two_zpow_add (unit + 1 - 2) 1 (by omega)] at low
    rw [two_zpow_add (unit + 1 - 2) 54 (by omega)] at below
    exact covers_powerOfTwo (Int.lt_add_one_of_le hasUnit.atLeast) (by linarith) (by linarith)
  case isFalse notPower =>
    have quarters := two_zpow_add (unit - 2) 2 (by omega : unit = _)
    by_cases power : whole = powerOfTwo (precision - 1) ∧ leastExponent < unit
    · obtain ⟨isPower, notLeast⟩ := power
      have atLeast := hasUnit.full.resolve_left notLeast.ne'
      have quarterPos := two_zpow_pos (unit - 2)
      rw [two_zpow_add (unit - 2) 54 (by omega)] at atLeast
      rw [isPower, cast_powerOfTwo, precision, quarters] at high
      rw [isPower]
      exact covers_powerOfTwo notLeast (by linarith) (by linarith)
    · have two : quartersBelow ⟨whole, unit⟩ = 2 := by rw [quartersBelow, if_neg power]
      rw [quarters] at rounds
      rw [Covers, two]
      apply rounds.mono <;> dsimp only [quarter] <;> push_cast <;> linarith

theorem exists_carried {numerator denominator : Nat} (positive : 0 < numerator)
    (denominatorPositive : 0 < denominator)
    (isNearest : nearest? numerator denominator = some number) :
    ∃ unit whole, HasUnit (numerator / denominator) unit ∧
      RoundsTo (numerator / denominator / 2 ^ unit) whole ∧ number = carried whole unit ∧
      number.exponent ≤ greatestExponent := by
  have hasUnit := hasUnit_of_floorLog positive denominatorPositive
  generalize max (floorLog numerator denominator - (precision - 1)) leastExponent = unit at hasUnit
  have rounds := roundsTo_roundQuotient (numerator * powerOfTwo (-unit).toNat)
    (Nat.mul_pos denominatorPositive (powerOfTwo_pos unit.toNat))
  rw [scaled_quotient] at rounds
  rw [nearest?_eq positive denominatorPositive hasUnit rounds] at isNearest
  split at isNearest
  case isTrue inRange =>
    obtain rfl := Option.some.inj isNearest
    exact ⟨unit, _, hasUnit, rounds, rfl, inRange⟩
  case isFalse outside => exact absurd isNearest nofun

theorem covers_of_nearest? {numerator denominator : Nat} (positive : 0 < number.significand)
    (denominatorPositive : 0 < denominator)
    (isNearest : nearest? numerator denominator = some number) :
    number.Covers (numerator / denominator) := by
  have numeratorPositive : 0 < numerator := by
    apply Nat.pos_of_ne_zero
    rintro rfl
    rw [nearest?, if_pos rfl, Option.some.injEq] at isNearest
    rw [← isNearest] at positive
    exact absurd positive (by decide)
  obtain ⟨unit, whole, hasUnit, rounds, rfl, -⟩ :=
    exists_carried numeratorPositive denominatorPositive isNearest
  exact covers_carried hasUnit rounds

theorem isCanonical_zero : IsCanonical ⟨0, leastExponent⟩ :=
  ⟨by decide, le_rfl, by decide, .inl rfl⟩

theorem isCanonical_carried {unit : Int} {whole : Nat} (hasUnit : HasUnit quotient unit)
    (rounds : RoundsTo (quotient / 2 ^ unit) whole)
    (inRange : (carried whole unit).exponent ≤ greatestExponent) :
    (carried whole unit).IsCanonical := by
  obtain ⟨low, high⟩ := Within.bounds rounds
  rw [carried] at inRange ⊢
  split
  case isTrue isPower =>
    rw [if_pos isPower] at inRange
    have fits : powerOfTwo (precision - 1) < powerOfTwo precision := by decide
    exact ⟨fits, Int.le_add_one hasUnit.atLeast, inRange, .inr le_rfl⟩
  case isFalse notPower =>
    rw [if_neg notPower] at inRange
    rw [powerOfTwo_precision] at notPower
    refine ⟨?_, hasUnit.atLeast, inRange, hasUnit.full.imp_right fun full => ?_⟩
    · have below := hasUnit.below
      rw [two_zpow_add unit 53 (by omega), ← div_lt_iff₀ (two_zpow_pos unit)] at below
      have less : (whole : ℚ) < 2 ^ 53 + 1 := by linarith
      have : whole < 2 ^ 53 + 1 := by exact_mod_cast less
      rw [powerOfTwo_precision]
      dsimp only
      omega
    · rw [two_zpow_add unit 52 (by omega), ← le_div_iff₀ (two_zpow_pos unit)] at full
      have more : (2 : ℚ) ^ 52 < whole + 1 := by linarith
      have : 2 ^ 52 < whole + 1 := by exact_mod_cast more
      rw [powerOfTwo_precision_sub_one]
      dsimp only
      omega

theorem isCanonical_of_nearest? {numerator denominator : Nat}
    (denominatorPositive : 0 < denominator)
    (isNearest : nearest? numerator denominator = some number) : number.IsCanonical := by
  rcases Nat.eq_zero_or_pos numerator with rfl | positive
  · rw [nearest?, if_pos rfl, Option.some.injEq] at isNearest
    rw [← isNearest]
    exact isCanonical_zero
  · obtain ⟨unit, whole, hasUnit, rounds, rfl, inRange⟩ :=
      exists_carried positive denominatorPositive isNearest
    exact isCanonical_carried hasUnit rounds inRange

theorem IsCanonical.nearest?_eq_some_iff (canonical : number.IsCanonical)
    (positive : 0 < number.significand) {numerator denominator : Nat}
    (denominatorPositive : 0 < denominator) :
    nearest? numerator denominator = some number ↔ number.Covers (numerator / denominator) :=
  ⟨covers_of_nearest? positive denominatorPositive,
    nearest?_of_covers canonical positive denominatorPositive⟩

theorem IsCanonical.covered_lt (canonical : number.IsCanonical) (covers : number.Covers quotient) :
    quotient < 2 ^ (1024 : Int) := by
  have atMost : number.exponent ≤ 971 := canonical.atMost
  exact (canonical.high_lt covers).trans_le (zpow_le_zpow_right₀ (by decide) (by omega))

theorem IsCanonical.lt_covered (canonical : number.IsCanonical) (positive : 0 < number.significand)
    (covers : number.Covers quotient) : 2 ^ (-1075 : Int) ≤ quotient := by
  have atLeast : -1074 ≤ number.exponent := canonical.atLeast
  have atLeastOne : (1 : ℚ) ≤ number.significand := by exact_mod_cast positive
  have few := number.quartersBelow_bounds.2
  calc (2 : ℚ) ^ (-1075 : Int) ≤ 2 ^ (number.exponent - 1) :=
        zpow_le_zpow_right₀ (by decide) (by omega)
    _ = 2 * number.quarter := number.two_zpow_eq_quarters 1 (by omega)
    _ ≤ (4 * number.significand - number.quartersBelow) * number.quarter :=
        mul_le_mul_of_nonneg_right (by linarith) quarter_pos.le
    _ ≤ quotient := covers.bounds.1

theorem cast_decimal (coefficient : Nat) (exponent : Int) :
    ((coefficient * powerOfTen exponent.toNat : Nat) : ℚ) / (powerOfTen (-exponent).toNat : Nat) =
      coefficient * 10 ^ exponent := by
  rw [ten_zpow_eq, Nat.cast_mul, mul_div_assoc]

theorem two_pow_le_ten_pow : (2 : ℚ) ^ (1024 : Int) ≤ 10 ^ (310 : Int) := by
  exact_mod_cast (by decide +kernel : 2 ^ 1024 ≤ 10 ^ 310)

theorem ten_pow_le_two_pow : (10 : ℚ) ^ (-331 : Int) ≤ 2 ^ (-1075 : Int) := by
  rw [zpow_neg, zpow_neg]
  apply inv_anti₀ (two_zpow_pos _)
  exact_mod_cast (by decide +kernel : 2 ^ 1075 ≤ 10 ^ 331)

theorem ten_zpow_le_decimal {coefficient : Nat} (positive : 0 < coefficient) (exponent : Int) :
    (10 : ℚ) ^ (Numeral.digitCount coefficient + exponent - 1) ≤ coefficient * 10 ^ exponent := by
  have someDigit := Numeral.digitCount_pos coefficient
  have split : (Numeral.digitCount coefficient + exponent - 1 : Int) =
      (Numeral.digitCount coefficient - 1 : Nat) + exponent := by omega
  rw [split, zpow_add₀ (by decide), zpow_natCast]
  exact mul_le_mul_of_nonneg_right (by exact_mod_cast Numeral.ten_pow_digitCount_le positive)
    (ten_zpow_pos _).le

theorem decimal_lt_ten_zpow (coefficient : Nat) (exponent : Int) :
    coefficient * (10 : ℚ) ^ exponent < 10 ^ (Numeral.digitCount coefficient + exponent) := by
  rw [zpow_add₀ (by decide), zpow_natCast]
  exact mul_lt_mul_of_pos_right (by exact_mod_cast Numeral.lt_ten_pow_digitCount coefficient)
    (ten_zpow_pos _)

/-- A decimal reads as the number whose interval it lies in. -/
theorem IsCanonical.ofDecimal?_eq_some_iff (canonical : number.IsCanonical)
    (positive : 0 < number.significand) (coefficient : Nat) (exponent : Int) :
    ofDecimal? coefficient exponent = some number ↔
      number.Covers (coefficient * 10 ^ exponent) := by
  have notZero : some (⟨0, leastExponent⟩ : Binary64) ≠ some number := by
    rintro isZero
    rw [← Option.some.inj isZero] at positive
    exact absurd positive (by decide)
  have count : (Nat.toDigits 10 coefficient).length = Numeral.digitCount coefficient := rfl
  simp only [ofDecimal?, count]
  split
  case isTrue zero =>
    refine iff_of_false notZero fun covers => ?_
    rw [zero, Nat.cast_zero, zero_mul] at covers
    exact absurd (covers.pos positive) (lt_irrefl 0)
  case isFalse someDigit =>
    split
    case isTrue huge =>
      refine iff_of_false nofun fun covers => ?_
      have large : (10 : ℚ) ^ (310 : Int) ≤
          10 ^ (Numeral.digitCount coefficient + exponent - 1) :=
        zpow_le_zpow_right₀ (by decide) (by omega)
      have decimal := ten_zpow_le_decimal (Nat.pos_of_ne_zero someDigit) exponent
      exact absurd (canonical.covered_lt covers)
        (not_lt.mpr (two_pow_le_ten_pow.trans (large.trans decimal)))
    case isFalse notHuge =>
      split
      case isTrue tiny =>
        refine iff_of_false notZero fun covers => ?_
        have small : (10 : ℚ) ^ (Numeral.digitCount coefficient + exponent) ≤
            10 ^ (-331 : Int) :=
          zpow_le_zpow_right₀ (by decide) (by omega)
        have decimal := decimal_lt_ten_zpow coefficient exponent
        exact absurd (canonical.lt_covered positive covers)
          (not_le.mpr (decimal.trans_le (small.trans ten_pow_le_two_pow)))
      case isFalse notTiny =>
        rw [canonical.nearest?_eq_some_iff positive (powerOfTen_pos _), cast_decimal]

end Binary64
end DesignTokens
