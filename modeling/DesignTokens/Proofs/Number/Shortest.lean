import DesignTokens.Proofs.Number.Grid

/-!
Shortest decimals. A decimal that reads as a number and lies on a finer grid than the coarsest one
has more digits than a nearest point of the coarsest grid, or as many and is farther away.
-/

namespace DesignTokens
namespace Binary64

open Numeral

variable {number : Binary64} {exponent : Int}

theorem grid_shift (point shift : Nat) (exponent : Int) :
    ((point * 10 ^ shift : Nat) : ℚ) * 10 ^ exponent = point * 10 ^ (exponent + shift) := by
  rw [zpow_add₀ (by decide), zpow_natCast]
  push_cast
  ring

theorem IsCoarsest.mod_ten_ne_zero (isCoarsest : number.IsCoarsest exponent) {point : Nat}
    (covers : number.Covers (point * 10 ^ exponent)) : point % 10 ≠ 0 := by
  intro tens
  obtain ⟨tenth, rfl⟩ := Nat.dvd_of_mod_eq_zero tens
  rw [Nat.mul_comm, ← pow_one (10 : Nat), grid_shift] at covers
  exact isCoarsest.coarser _ (by omega) tenth covers

theorem IsCoarsest.digitCount_le (isCoarsest : number.IsCoarsest exponent) {first second : Nat}
    (coversFirst : number.Covers (first * 10 ^ exponent))
    (coversSecond : number.Covers (second * 10 ^ exponent)) :
    digitCount second ≤ digitCount first := by
  refine not_lt.mp fun longer => ?_
  -- Between two points with different counts of digits there is a power of ten.
  have powerCovered : number.Covers ((10 ^ digitCount first : Nat) * 10 ^ exponent) := by
    apply coversFirst.between coversSecond
    · exact (grid_le_iff _ _ _).mpr (lt_ten_pow_digitCount first).le
    · exact (grid_le_iff _ _ _).mpr ((lt_digitCount_iff (digitCount_pos first)).mp longer)
  rw [← one_mul (10 ^ digitCount first), grid_shift] at powerCovered
  have someDigit := digitCount_pos first
  exact isCoarsest.coarser _ (by omega) 1 powerCovered

theorem IsCoarsest.digitCount_eq (isCoarsest : number.IsCoarsest exponent) {first second : Nat}
    (coversFirst : number.Covers (first * 10 ^ exponent))
    (coversSecond : number.Covers (second * 10 ^ exponent)) :
    digitCount first = digitCount second :=
  le_antisymm (isCoarsest.digitCount_le coversSecond coversFirst)
    (isCoarsest.digitCount_le coversFirst coversSecond)

theorem digitCount_lt_of_shift {point finer shift : Nat} (positive : 0 < point)
    (someShift : 0 < shift) (atLeast : point * 10 ^ shift ≤ finer) :
    digitCount point < digitCount finer := by
  rw [lt_digitCount_iff (digitCount_pos point)]
  have someDigit := digitCount_pos point
  calc 10 ^ digitCount point ≤ 10 ^ (digitCount point - 1 + shift) :=
        Nat.pow_le_pow_right (by decide) (by omega)
    _ = 10 ^ (digitCount point - 1) * 10 ^ shift := Nat.pow_add _ _ _
    _ ≤ point * 10 ^ shift := Nat.mul_le_mul_right _ (ten_pow_digitCount_le positive)
    _ ≤ finer := atLeast

theorem least_quarter_bounds :
    80 * (2 : ℚ) ^ (-1076 : Int) < 100 * 10 ^ (-324 : Int) ∧
      100 * (10 : ℚ) ^ (-324 : Int) < 81 * 2 ^ (-1076 : Int) := by
  have natural : 80 * 10 ^ 324 < 100 * 2 ^ 1076 ∧ 100 * 2 ^ 1076 < 81 * 10 ^ 324 := by
    decide +kernel
  rw [zpow_neg, zpow_neg, ← div_eq_mul_inv, ← div_eq_mul_inv, ← div_eq_mul_inv,
    div_lt_div_iff₀ (two_zpow_pos _) (ten_zpow_pos _),
    div_lt_div_iff₀ (ten_zpow_pos _) (two_zpow_pos _)]
  exact_mod_cast natural

theorem eq_of_near_least_quarter (above : (2 : ℚ) ^ (-1076 : Int) < 9 * 10 ^ exponent)
    (below : 10 * 10 ^ exponent ≤ 38 * (2 : ℚ) ^ (-1076 : Int)) : exponent = -324 := by
  obtain ⟨low, high⟩ := least_quarter_bounds
  have tenfold : (10 : ℚ) ^ (-323 : Int) = 10 ^ (-324 : Int) * 10 :=
    zpow_add_one₀ (by decide) (-324)
  have tenth : (10 : ℚ) ^ (-324 : Int) = 10 ^ (-325 : Int) * 10 :=
    zpow_add_one₀ (by decide) (-325)
  have quarterPos := two_zpow_pos (-1076)
  by_contra different
  rcases lt_or_gt_of_ne different with less | greater
  · have fine : (10 : ℚ) ^ exponent ≤ 10 ^ (-325 : Int) :=
      zpow_le_zpow_right₀ (by decide) (by omega)
    linarith
  · have coarse : (10 : ℚ) ^ (-323 : Int) ≤ 10 ^ exponent :=
      zpow_le_zpow_right₀ (by decide) (by omega)
    linarith

/-- Only the second one of all numbers has a power of ten and nine tenths of it in its interval,
and it is nearer to that power. -/
theorem IsCanonical.nearer_to_power (canonical : number.IsCanonical)
    (positive : 0 < number.significand) (coversNine : number.Covers (9 * 10 ^ exponent))
    (coversTen : number.Covers (10 * 10 ^ exponent)) :
    19 * 10 ^ exponent < 2 * number.value := by
  have low := coversNine.bounds.1
  have high := coversTen.bounds.2
  have quarterPos : 0 < number.quarter := quarter_pos
  have few := mul_le_mul_of_nonneg_right number.quartersBelow_bounds.2 quarterPos.le
  have small : number.significand ≤ 9 := by
    have scaled : 4 * (number.significand : ℚ) * number.quarter ≤ 38 * number.quarter := by
      linarith
    have : 4 * (number.significand : ℚ) ≤ 38 := le_of_mul_le_mul_right scaled quarterPos
    have : 4 * number.significand ≤ 38 := by exact_mod_cast this
    omega
  have least : number.exponent = leastExponent := by
    refine canonical.full.resolve_right fun large => ?_
    rw [powerOfTwo_precision_sub_one] at large
    omega
  have isQuarter : number.quarter = 2 ^ (-1076 : Int) := by rw [quarter, least]; rfl
  have atLeastOne : (1 : ℚ) ≤ number.significand := by exact_mod_cast positive
  have atMostNine : (number.significand : ℚ) ≤ 9 := by exact_mod_cast small
  have someQuarters := le_mul_of_one_le_left quarterPos.le atLeastOne
  have fewQuarters := mul_le_mul_of_nonneg_right atMostNine quarterPos.le
  have isLeast : exponent = -324 := by
    apply eq_of_near_least_quarter <;> rw [← isQuarter] <;> linarith
  obtain ⟨lowPower, highPower⟩ := least_quarter_bounds
  rw [← isQuarter, ← isLeast] at lowPower highPower
  have two : number.significand = 2 := by
    have lessScaled : 4 * (number.significand : ℚ) * number.quarter < 10 * number.quarter := by
      linarith
    have moreScaled : 6 * number.quarter < 4 * (number.significand : ℚ) * number.quarter := by
      linarith
    have less := lt_of_mul_lt_mul_right lessScaled quarterPos.le
    have more := lt_of_mul_lt_mul_right moreScaled quarterPos.le
    have : 4 * number.significand < 10 := by exact_mod_cast less
    have : 6 < 4 * number.significand := by exact_mod_cast more
    omega
  rw [value_eq_quarters, two]
  push_cast
  linarith

theorem grid_of_finer (point shift : Nat) (exponent : Int) :
    ((point * 10 ^ shift : Nat) : ℚ) * 10 ^ (exponent - shift) = point * 10 ^ exponent := by
  rw [grid_shift, sub_add_cancel]

theorem finer_between {finer shift : Nat} (someShift : 0 < shift) (notTens : finer % 10 ≠ 0)
    (exponent : Int) :
    ((finer / 10 ^ shift : Nat) : ℚ) * 10 ^ exponent < finer * 10 ^ (exponent - shift) ∧
      finer * 10 ^ (exponent - shift) < ((finer / 10 ^ shift + 1 : Nat) : ℚ) * 10 ^ exponent := by
  have notPoint : finer / 10 ^ shift * 10 ^ shift ≠ finer := by
    intro isPoint
    rw [← isPoint, ← Nat.succ_pred_eq_of_pos someShift, Nat.pow_succ, ← Nat.mul_assoc,
      Nat.mul_mod_left] at notTens
    exact notTens rfl
  rw [← grid_of_finer (finer / 10 ^ shift) shift, ← grid_of_finer (finer / 10 ^ shift + 1) shift,
    grid_lt_iff, grid_lt_iff]
  refine ⟨lt_of_le_of_ne (Nat.div_mul_le_self _ _) notPoint, ?_⟩
  exact Nat.lt_mul_of_div_lt (Nat.lt_succ_self _) (Nat.pow_pos (by decide))

/-- Below the first point of the coarsest grid a decimal of one digit is farther than that point. -/
theorem IsCanonical.nearer_than_digit (canonical : number.IsCanonical)
    (positive : 0 < number.significand) {point finer shift : Nat}
    (isNearest : number.IsNearestOn exponent point) (someShift : 0 < shift)
    (covers : number.Covers (finer * 10 ^ (exponent - shift)))
    (coversOne : number.Covers (1 * 10 ^ exponent)) (oneDigit : finer ≤ 9) :
    |point * 10 ^ exponent - number.value| <
      |finer * 10 ^ (exponent - shift) - number.value| := by
  have nearest := isNearest.nearest 1 (by exact_mod_cast coversOne)
  push_cast at nearest
  have tenth : (10 : ℚ) ^ exponent = 10 * 10 ^ (exponent - 1) := by
    rw [mul_comm, ← zpow_add_one₀ (by decide), sub_add_cancel]
  have tenthPos := ten_zpow_pos (exponent - 1)
  have atMostNine : finer * (10 : ℚ) ^ (exponent - shift) ≤ 9 * 10 ^ (exponent - 1) :=
    mul_le_mul (by exact_mod_cast oneDigit) (zpow_le_zpow_right₀ (by decide) (by omega))
      (ten_zpow_pos _).le (by decide)
  refine nearest.trans_lt ?_
  rcases le_or_gt ((10 : ℚ) ^ exponent) number.value with atLeast | less
  · rw [abs_of_nonpos (by linarith), abs_of_nonpos (by linarith)]
    linarith
  · have coversNine : number.Covers (9 * 10 ^ (exponent - 1)) :=
      covers.between coversOne atMostNine (by linarith)
    rw [one_mul, tenth] at coversOne
    have nearer := canonical.nearer_to_power positive coversNine coversOne
    rw [abs_of_pos (by linarith), abs_of_nonpos (by linarith)]
    linarith

/-- A decimal on a finer grid than the coarsest one has more digits, or it is farther. -/
theorem IsCoarsest.beats_finer (isCoarsest : number.IsCoarsest exponent)
    (canonical : number.IsCanonical) (positive : 0 < number.significand) {point finer : Nat}
    (isNearest : number.IsNearestOn exponent point) {shift : Nat} (someShift : 0 < shift)
    (notTens : finer % 10 ≠ 0) (covers : number.Covers (finer * 10 ^ (exponent - shift))) :
    digitCount point < digitCount finer ∨ digitCount point = digitCount finer ∧
      |point * 10 ^ exponent - number.value| <
        |finer * 10 ^ (exponent - shift) - number.value| := by
  obtain ⟨above, below⟩ := finer_between someShift notTens exponent
  have shifted := Nat.div_mul_le_self finer (10 ^ shift)
  generalize finer / 10 ^ shift = coarse at above below shifted
  rcases Nat.lt_or_ge coarse point with less | atLeast
  · -- The next point lies between the decimal and the nearest point.
    have coversNext : number.Covers ((coarse + 1 : Nat) * 10 ^ exponent) :=
      covers.between isNearest.covers below.le ((grid_le_iff _ _ _).mpr less)
    have sameCount := isCoarsest.digitCount_eq isNearest.covers coversNext
    rcases Nat.eq_zero_or_pos coarse with rfl | coarsePositive
    · have one : digitCount point = 1 := sameCount
      rcases Nat.lt_or_ge 1 (digitCount finer) with several | single
      · exact .inl (one ▸ several)
      · have oneDigit : finer ≤ 9 := by
          have := lt_ten_pow_digitCount finer
          have someDigit := digitCount_pos finer
          rw [show digitCount finer = 1 by omega] at this
          omega
        refine .inr ⟨by have := digitCount_pos finer; omega, ?_⟩
        exact canonical.nearer_than_digit positive isNearest someShift covers
          (by exact_mod_cast coversNext) oneDigit
    · left
      rw [sameCount, digitCount_succ (isCoarsest.mod_ten_ne_zero coversNext)]
      exact digitCount_lt_of_shift coarsePositive someShift shifted
  · left
    have pointPositive : 0 < point := by
      have decimalPos := isNearest.covers.pos positive
      have : (0 : ℚ) < point := pos_of_mul_pos_left decimalPos (ten_zpow_pos _).le
      exact_mod_cast this
    calc digitCount point ≤ digitCount coarse := digitCount_mono atLeast
      _ < digitCount finer := digitCount_lt_of_shift (by omega) someShift shifted

end Binary64

namespace Decimal

open Numeral

def ReadsAs (decimal : Decimal) (number : Binary64) : Prop :=
  Binary64.ofDecimal? decimal.coefficient decimal.exponent = some number

/-- The decimals that read as a number have no fewer digits than a shortest one, and those that
have as many are no nearer to the number. -/
structure IsShortest (number : Binary64) (decimal : Decimal) : Prop where
  reads : decimal.ReadsAs number
  fewest : ∀ other : Decimal, other.ReadsAs number →
    decimal.digits.length ≤ other.digits.length
  nearest : ∀ other : Decimal, other.ReadsAs number →
    other.digits.length = decimal.digits.length →
      |decimal.size - number.value| ≤ |other.size - number.value|

variable {number : Binary64} {decimal : Decimal} {exponent : Int} {point : Nat}

theorem reads_iff_covers (canonical : number.IsCanonical) (positive : 0 < number.significand) :
    decimal.ReadsAs number ↔ number.Covers decimal.size :=
  canonical.ofDecimal?_eq_some_iff positive _ _

theorem ReadsAs.mod_ten_ne_zero (reads : decimal.ReadsAs number)
    (canonical : number.IsCanonical) (positive : 0 < number.significand) :
    decimal.coefficient % 10 ≠ 0 := by
  have sizePos := ((reads_iff_covers canonical positive).mp reads).pos positive
  rcases decimal.reduced with notTens | ⟨zero, -⟩
  · exact notTens
  · exact absurd (decimal.size_eq_zero_iff.mpr zero) sizePos.ne'

/-- A nearest point of the coarsest grid against the decimals that read as the number. -/
theorem ReadsAs.compared (reads : decimal.ReadsAs number) (canonical : number.IsCanonical)
    (positive : 0 < number.significand) (isCoarsest : number.IsCoarsest exponent)
    (isNearest : number.IsNearestOn exponent point) :
    (decimal.exponent = exponent ∧ digitCount point = decimal.digits.length ∧
      |point * 10 ^ exponent - number.value| ≤ |decimal.size - number.value|) ∨
    digitCount point < decimal.digits.length ∨
    (digitCount point = decimal.digits.length ∧
      |point * 10 ^ exponent - number.value| < |decimal.size - number.value|) := by
  have covers := (reads_iff_covers canonical positive).mp reads
  have notTens := reads.mod_ten_ne_zero canonical positive
  rw [size] at covers ⊢
  have notCoarser : decimal.exponent ≤ exponent :=
    not_lt.mp fun coarser => isCoarsest.coarser _ coarser _ covers
  rcases Int.lt_or_eq_of_le notCoarser with finer | same
  · obtain ⟨shift, shifted⟩ : ∃ shift : Nat, decimal.exponent = exponent - shift :=
      ⟨(exponent - decimal.exponent).toNat, by omega⟩
    rw [shifted] at covers finer ⊢
    exact .inr (isCoarsest.beats_finer canonical positive isNearest (by omega) notTens covers)
  · rw [same] at covers ⊢
    exact .inl ⟨rfl, isCoarsest.digitCount_eq isNearest.covers covers,
      isNearest.nearest _ covers⟩

theorem isShortest_of_nearest (canonical : number.IsCanonical)
    (positive : 0 < number.significand) (isCoarsest : number.IsCoarsest decimal.exponent)
    (isNearest : number.IsNearestOn decimal.exponent decimal.coefficient) :
    IsShortest number decimal where
  reads := (reads_iff_covers canonical positive).mpr isNearest.covers
  fewest := by
    intro other reads
    rcases reads.compared canonical positive isCoarsest isNearest with
      ⟨-, same, -⟩ | fewer | ⟨same, -⟩
    · exact same.le
    · exact fewer.le
    · exact same.le
  nearest := by
    intro other reads sameLength
    rcases reads.compared canonical positive isCoarsest isNearest with
      ⟨-, -, near⟩ | fewer | ⟨-, nearer⟩
    · exact near
    · exact absurd (fewer.trans_le sameLength.le) (lt_irrefl _)
    · exact nearer.le

/-- Shortest decimals are the nearest points of the coarsest grid. -/
theorem IsShortest.nearest_on_coarsest (isShortest : IsShortest number decimal)
    (canonical : number.IsCanonical) (positive : 0 < number.significand) :
    number.IsCoarsest decimal.exponent ∧
      number.IsNearestOn decimal.exponent decimal.coefficient := by
  obtain ⟨point, exponent, -, found, isCoarsest⟩ := canonical.shortest_found positive .toEven
  have isNearest := Binary64.isNearestOn_of_onGrid? positive found
  let rival : Decimal :=
    ⟨false, point, exponent, .inl (isCoarsest.mod_ten_ne_zero isNearest.covers)⟩
  have rivalReads : rival.ReadsAs number :=
    (reads_iff_covers canonical positive).mpr isNearest.covers
  rcases isShortest.reads.compared canonical positive isCoarsest isNearest with
    ⟨rfl, same, -⟩ | fewer | ⟨same, nearer⟩
  · refine ⟨isCoarsest, (reads_iff_covers canonical positive).mp isShortest.reads, ?_⟩
    intro other coversOther
    exact (isShortest.nearest rival rivalReads same).trans (isNearest.nearest other coversOther)
  · exact absurd (isShortest.fewest rival rivalReads) (not_le.mpr fewer)
  · exact absurd (isShortest.nearest rival rivalReads same) (not_le.mpr nearer)

theorem ofParts_of_mod_ten_ne_zero (negative : Bool) {coefficient : Nat} (exponent : Int)
    (notTens : coefficient % 10 ≠ 0) :
    ofParts negative coefficient exponent = ⟨negative, coefficient, exponent, .inl notTens⟩ := by
  have notZero : coefficient ≠ 0 := by
    rintro rfl
    exact notTens rfl
  obtain ⟨fuel, rfl⟩ := Nat.exists_eq_succ_of_ne_zero notZero
  have trimmed : trimZeros fuel.succ fuel.succ exponent = (fuel.succ, exponent) := by
    rw [trimZeros, if_neg notTens]
  simp only [ofParts, dif_neg notZero, trimmed]

theorem negative_ofParts (negative : Bool) (coefficient : Nat) (exponent : Int) :
    (ofParts negative coefficient exponent).negative = negative := by
  rw [ofParts]
  split <;> rfl

theorem negative_shortest (tie : Tie) (negative : Bool) (number : Binary64) :
    (shortest tie negative number).negative = negative := by
  rw [shortest]
  split <;> exact negative_ofParts _ _ _

theorem shortest_on_coarsest (canonical : number.IsCanonical)
    (positive : 0 < number.significand) (tie : Tie) (negative : Bool) :
    number.IsCoarsest (shortest tie negative number).exponent ∧
      number.onGrid? tie (shortest tie negative number).exponent =
        some (shortest tie negative number).coefficient := by
  obtain ⟨point, exponent, isResult, found, isCoarsest⟩ := canonical.shortest_found positive tie
  have isNearest := Binary64.isNearestOn_of_onGrid? positive found
  rw [shortest, if_neg positive.ne', isResult,
    ofParts_of_mod_ten_ne_zero negative exponent (isCoarsest.mod_ten_ne_zero isNearest.covers)]
  exact ⟨isCoarsest, found⟩

/-! Zero is its own shortest decimal. -/

theorem eq_zero_of_canonical (canonical : number.IsCanonical) (zero : number.significand = 0) :
    number = ⟨0, Binary64.leastExponent⟩ := by
  obtain ⟨significand, exponent⟩ := number
  obtain rfl : significand = 0 := zero
  have notFull : ¬powerOfTwo (Binary64.precision - 1) ≤ 0 := by decide
  obtain rfl : exponent = Binary64.leastExponent := canonical.full.resolve_right notFull
  rfl

theorem ofParts_zero (negative : Bool) :
    ofParts negative 0 0 = ⟨negative, 0, 0, .inr ⟨rfl, rfl⟩⟩ := by
  rw [ofParts, dif_pos rfl]

theorem isShortest_zero (canonical : number.IsCanonical) (zero : number.significand = 0)
    (negative : Bool) : IsShortest number (ofParts negative 0 0) := by
  obtain rfl := eq_zero_of_canonical canonical zero
  rw [ofParts_zero]
  have oneDigit : digitCount 0 = 1 := rfl
  refine ⟨rfl, fun other _ => oneDigit.trans_le Nat.length_toDigits_pos, fun other _ _ => ?_⟩
  have noDistance : size ⟨negative, 0, 0, .inr ⟨rfl, rfl⟩⟩ -
      Binary64.value ⟨0, Binary64.leastExponent⟩ = 0 := by
    simp [size, Binary64.value]
  rw [noDistance, abs_zero]
  exact abs_nonneg _

theorem IsShortest.size_eq_zero (isShortest : IsShortest number decimal)
    (canonical : number.IsCanonical) (zero : number.significand = 0) : decimal.size = 0 := by
  have isZero := isShortest_zero canonical zero false
  have someDigit : 0 < decimal.digits.length := Nat.length_toDigits_pos
  have near := isShortest.nearest _ isZero.reads
    (le_antisymm someDigit (isShortest.fewest _ isZero.reads))
  have valueZero : number.value = 0 := by rw [Binary64.value, zero, Nat.cast_zero, zero_mul]
  have sizeZero : (ofParts false 0 0).size = 0 := by simp [ofParts_zero, size]
  rw [valueZero, sizeZero, sub_zero, sub_zero, abs_zero] at near
  exact abs_eq_zero.mp (le_antisymm near (abs_nonneg _))

/-- Both ties give shortest decimals. -/
theorem isShortest_shortest (canonical : number.IsCanonical) (tie : Tie) (negative : Bool) :
    IsShortest number (shortest tie negative number) := by
  rcases Nat.eq_zero_or_pos number.significand with zero | positive
  · rw [shortest, if_pos zero]
    exact isShortest_zero canonical zero negative
  · obtain ⟨isCoarsest, found⟩ := shortest_on_coarsest canonical positive tie negative
    exact isShortest_of_nearest canonical positive isCoarsest
      (Binary64.isNearestOn_of_onGrid? positive found)

section Split

variable {lesser greater : Decimal}

theorem neighbours_of_lt (canonical : number.IsCanonical) (isLesser : IsShortest number lesser)
    (isGreater : IsShortest number greater) (less : lesser.size < greater.size) :
    0 < number.significand ∧ number.IsCoarsest lesser.exponent ∧
      greater.exponent = lesser.exponent ∧
        number.IsNearestOn lesser.exponent lesser.coefficient ∧
          number.IsNearestOn lesser.exponent greater.coefficient ∧
            lesser.coefficient < greater.coefficient := by
  rcases Nat.eq_zero_or_pos number.significand with zero | positive
  · rw [isLesser.size_eq_zero canonical zero, isGreater.size_eq_zero canonical zero] at less
    exact absurd less (lt_irrefl 0)
  · obtain ⟨lesserCoarsest, lesserNearest⟩ := isLesser.nearest_on_coarsest canonical positive
    obtain ⟨greaterCoarsest, greaterNearest⟩ := isGreater.nearest_on_coarsest canonical positive
    have sameGrid := greaterCoarsest.unique lesserCoarsest
    rw [sameGrid] at greaterNearest
    rw [size, size, sameGrid, Binary64.grid_lt_iff] at less
    exact ⟨positive, lesserCoarsest, sameGrid, lesserNearest, greaterNearest, less⟩

theorem halfway_of_lt (canonical : number.IsCanonical) (isLesser : IsShortest number lesser)
    (isGreater : IsShortest number greater) (less : lesser.size < greater.size) :
    2 * number.value = lesser.size + greater.size := by
  obtain ⟨-, -, sameGrid, lesserNearest, greaterNearest, ordered⟩ :=
    neighbours_of_lt canonical isLesser isGreater less
  rw [size, size, sameGrid]
  exact (Binary64.halfway_of_nearest_lt lesserNearest greaterNearest ordered).2.2

/-- Which one of two shortest decimals a tie takes. -/
theorem size_shortest_of_lt (canonical : number.IsCanonical) (isLesser : IsShortest number lesser)
    (isGreater : IsShortest number greater) (less : lesser.size < greater.size) (tie : Tie)
    (negative : Bool) :
    (shortest tie negative number).size =
      if tie = .toEven ∧ lesser.coefficient % 2 = 0 then lesser.size else greater.size := by
  obtain ⟨positive, isCoarsest, sameGrid, lesserNearest, greaterNearest, ordered⟩ :=
    neighbours_of_lt canonical isLesser isGreater less
  obtain ⟨shortestCoarsest, found⟩ := shortest_on_coarsest canonical positive tie negative
  have onGrid := Binary64.onGrid?_of_nearest_lt positive tie lesserNearest greaterNearest ordered
  rw [shortestCoarsest.unique isCoarsest, onGrid] at found
  rw [size, ← Option.some.inj found, shortestCoarsest.unique isCoarsest, size, size, sameGrid]
  split <;> rfl

end Split

end Decimal
end DesignTokens
