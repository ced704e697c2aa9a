import DesignTokens.Proofs.Number.Rounding
import DesignTokens.Number.Shortest

/-!
The grids of powers of ten on which the digits of a number are searched. The search starts on a
grid without a point in the interval of the number and reaches one with a point, so what it finds
lies on the coarsest grid that has one.
-/

namespace DesignTokens

theorem zpow_le_ten_mul_zpow (first second : ℚ) (positive : 0 < first) (ordered : first ≤ second)
    (close : 1000 * second ≤ 1001 * first) {power : Int} (least : -1074 ≤ power) :
    first ^ power ≤ 10 * second ^ power := by
  have secondPositive := positive.trans_le ordered
  rcases le_total 0 power with nonneg | nonpos
  · obtain ⟨power, rfl⟩ := Int.eq_ofNat_of_zero_le nonneg
    rw [zpow_natCast, zpow_natCast]
    have powers := pow_le_pow_left₀ positive.le ordered power
    linarith [pow_pos secondPositive power]
  · obtain ⟨count, rfl⟩ : ∃ count : Nat, power = -count := ⟨(-power).toNat, by omega⟩
    rw [zpow_neg, zpow_neg, zpow_natCast, zpow_natCast, ← div_eq_mul_inv, ← one_div,
      div_le_div_iff₀ (pow_pos positive _) (pow_pos secondPositive _), one_mul]
    calc second ^ count ≤ (1001 / 1000 * first) ^ count :=
          pow_le_pow_left₀ secondPositive.le (by linarith) count
      _ = (1001 / 1000) ^ count * first ^ count := mul_pow _ _ _
      _ ≤ 10 * first ^ count := by
          refine mul_le_mul_of_nonneg_right ?_ (pow_pos positive _).le
          calc (1001 / 1000 : ℚ) ^ count ≤ (1001 / 1000) ^ 1074 :=
                pow_le_pow_right₀ (by norm_num) (by omega)
            _ ≤ 10 := by
                rw [div_pow, div_le_iff₀ (by positivity)]
                exact_mod_cast (by decide +kernel : 1001 ^ 1074 ≤ 10 * 1000 ^ 1074)

/-- The fraction 30103 / 100000 is just above the logarithm of two to the base ten. -/
theorem two_pow_close_to_ten_pow :
    2 ^ 100000 ≤ 10 ^ 30103 ∧ 1000 * 10 ^ 30103 ≤ 1001 * 2 ^ 100000 := by
  decide +kernel

theorem two_zpow_le_ten_zpow {binary decimal : Int} (least : -1074 ≤ binary)
    (above : binary * 30103 < decimal * 100000) : (2 : ℚ) ^ binary ≤ 10 ^ decimal := by
  obtain ⟨ordered, close⟩ := two_pow_close_to_ten_pow
  have powers := zpow_le_ten_mul_zpow (2 ^ 100000) (10 ^ 30103) (by positivity)
    (by exact_mod_cast ordered) (by exact_mod_cast close) least
  rw [← pow_le_pow_iff_left₀ (two_zpow_pos _).le (ten_zpow_pos _).le (by decide : 100000 ≠ 0)]
  calc ((2 : ℚ) ^ binary) ^ 100000 = (2 ^ 100000) ^ binary := by
        rw [← zpow_natCast, ← zpow_natCast, zpow_comm]
    _ ≤ 10 * (10 ^ 30103) ^ binary := powers
    _ = 10 ^ (binary * 30103 + 1) := by
        rw [zpow_add_one₀ (by decide), zpow_mul', mul_comm]
        rfl
    _ ≤ 10 ^ (decimal * 100000) := zpow_le_zpow_right₀ (by decide) (by omega)
    _ = (10 ^ decimal) ^ 100000 := zpow_mul _ _ _
theorem ten_zpow_le_two_zpow {binary decimal : Int} (most : binary ≤ 1074)
    (below : decimal * 100000 < binary * 30103) : (10 : ℚ) ^ decimal ≤ 2 ^ binary := by
  have inverse := two_zpow_le_ten_zpow (by omega : -1074 ≤ -binary)
    (by omega : -binary * 30103 < -decimal * 100000)
  rw [zpow_neg, zpow_neg] at inverse
  exact (inv_le_inv₀ (two_zpow_pos _) (ten_zpow_pos _)).mp inverse

namespace Binary64

variable {number : Binary64}

theorem readsBack_iff (positive : 0 < number.significand) (point : Nat) {unit : Nat}
    (unitPositive : 0 < unit) :
    number.readsBack point unit = true ↔ number.Covers (point / unit * number.quarter) := by
  have unitCast : (0 : ℚ) < unit := by exact_mod_cast unitPositive
  have few : number.quartersBelow ≤ 4 * number.significand := by
    have := number.quartersBelow_bounds.2
    have : number.quartersBelow ≤ 2 := by exact_mod_cast this
    omega
  rw [Covers, Within.mul_iff quarter_pos, ← Within.mul_iff unitCast, div_mul_cancel₀ _ unitCast.ne']
  have low : (4 * number.significand - number.quartersBelow : ℚ) * unit =
      ((4 * number.significand - number.quartersBelow) * unit : Nat) := by
    push_cast [Nat.cast_sub few]
    ring
  have high : (4 * number.significand + 2 : ℚ) * unit =
      ((4 * number.significand + 2) * unit : Nat) := by
    push_cast
    ring
  rw [low, high]
  simp only [readsBack, Within, Nat.cast_le, Nat.cast_lt]
  split <;> simp only [Bool.and_eq_true, decide_eq_true_eq]

/-- One quarter of the unit of a number, and one step of a grid, in parts that both are a whole
number of. -/
def quarterParts (number : Binary64) (exponent : Int) : Nat :=
  powerOfTwo (number.exponent - 2).toNat * powerOfTen (-exponent).toNat

def stepParts (number : Binary64) (exponent : Int) : Nat :=
  powerOfTwo (2 - number.exponent).toNat * powerOfTen exponent.toNat

/-- The last point of a grid that is not above a number. -/
def pointBelow (number : Binary64) (exponent : Int) : Nat :=
  4 * number.significand * number.quarterParts exponent / number.stepParts exponent

theorem quarterParts_pos (number : Binary64) (exponent : Int) : 0 < number.quarterParts exponent :=
  Nat.mul_pos (powerOfTwo_pos _) (powerOfTen_pos _)

theorem stepParts_pos (number : Binary64) (exponent : Int) : 0 < number.stepParts exponent :=
  Nat.mul_pos (powerOfTwo_pos _) (powerOfTen_pos _)

theorem onGrid?_eq (tie : Tie) (number : Binary64) (exponent : Int) :
    number.onGrid? tie exponent =
      let unit := number.quarterParts exponent
      let step := number.stepParts exponent
      let below := number.pointBelow exponent
      match number.readsBack (below * step) unit, number.readsBack ((below + 1) * step) unit with
      | true, true =>
          if 2 * (4 * number.significand * unit) < (below + (below + 1)) * step then some below
          else if (below + (below + 1)) * step < 2 * (4 * number.significand * unit) then
            some (below + 1)
          else if tie = .toEven ∧ below % 2 = 0 then some below
          else some (below + 1)
      | true, false => some below
      | false, true => some (below + 1)
      | false, false => none := rfl

/-- What is found on a grid, by the points beside a number that its interval has. -/
inductive OnGrid (tie : Tie) (number : Binary64) (exponent : Int) (below : Nat) :
    Option Nat → Prop where
  | neither (notBelow : ¬number.Covers (below * 10 ^ exponent))
      (notAbove : ¬number.Covers ((below + 1) * 10 ^ exponent)) :
      OnGrid tie number exponent below none
  | below (covers : number.Covers (below * 10 ^ exponent))
      (nearer : number.Covers ((below + 1) * 10 ^ exponent) →
        2 * number.value < (2 * below + 1) * 10 ^ exponent) :
      OnGrid tie number exponent below (some below)
  | above (covers : number.Covers ((below + 1) * 10 ^ exponent))
      (nearer : number.Covers (below * 10 ^ exponent) →
        (2 * below + 1) * 10 ^ exponent < 2 * number.value) :
      OnGrid tie number exponent below (some (below + 1))
  | halfway (coversBelow : number.Covers (below * 10 ^ exponent))
      (coversAbove : number.Covers ((below + 1) * 10 ^ exponent))
      (isHalfway : 2 * number.value = (2 * below + 1) * 10 ^ exponent) :
      OnGrid tie number exponent below
        (some (if tie = .toEven ∧ below % 2 = 0 then below else below + 1))

theorem quarters_of_step (number : Binary64) (exponent : Int) (point : Nat) :
    ((point * number.stepParts exponent : Nat) : ℚ) / number.quarterParts exponent *
        number.quarter = point * 10 ^ exponent := by
  have negated : 2 - number.exponent = -(number.exponent - 2) := by omega
  have up : (powerOfTwo (number.exponent - 2).toNat : ℚ) ≠ 0 := by
    exact_mod_cast (powerOfTwo_pos _).ne'
  have down : (powerOfTwo (-(number.exponent - 2)).toNat : ℚ) ≠ 0 := by
    exact_mod_cast (powerOfTwo_pos _).ne'
  have tens : (powerOfTen (-exponent).toNat : ℚ) ≠ 0 := by
    exact_mod_cast (powerOfTen_pos _).ne'
  rw [stepParts, quarterParts, quarter, two_zpow_eq, ten_zpow_eq, negated]
  push_cast
  field_simp

theorem quarters_of_exact (number : Binary64) {unit : Nat} (unitPositive : 0 < unit) :
    ((4 * number.significand * unit : Nat) : ℚ) / unit * number.quarter = number.value := by
  have unitCast : (unit : ℚ) ≠ 0 := by exact_mod_cast unitPositive.ne'
  rw [value_eq_quarters]
  push_cast
  rw [mul_div_cancel_right₀ _ unitCast]

theorem quarters_lt_iff (number : Binary64) {unit : Nat} (unitPositive : 0 < unit)
    (first second : Nat) :
    (first : ℚ) / unit * number.quarter < second / unit * number.quarter ↔ first < second := by
  have unitCast : (0 : ℚ) < unit := by exact_mod_cast unitPositive
  rw [mul_lt_mul_iff_left₀ quarter_pos, div_lt_div_iff_of_pos_right unitCast, Nat.cast_lt]

theorem onGrid (positive : 0 < number.significand) (tie : Tie) (exponent : Int) :
    OnGrid tie number exponent (number.pointBelow exponent) (number.onGrid? tie exponent) := by
  have grid := number.quarters_of_step exponent
  have unitPositive := number.quarterParts_pos exponent
  have exact := quarters_of_exact number unitPositive
  simp only [onGrid?_eq]
  generalize number.quarterParts exponent = unit at *
  generalize number.stepParts exponent = step at *
  generalize 4 * number.significand * unit = quarters at *
  generalize number.pointBelow exponent = below at *
  have reads (point : Nat) : number.readsBack (point * step) unit = true ↔
      number.Covers (point * 10 ^ exponent) := by
    rw [readsBack_iff positive _ unitPositive, grid]
  have twice : ((2 * quarters : Nat) : ℚ) / unit * number.quarter = 2 * number.value := by
    rw [← exact]
    push_cast
    ring
  have sum : (((below + (below + 1)) * step : Nat) : ℚ) / unit * number.quarter =
      (2 * below + 1) * 10 ^ exponent := by
    rw [grid]
    push_cast
    ring
  have nearBelow :=
    number.quarters_lt_iff unitPositive (2 * quarters) ((below + (below + 1)) * step)
  have nearAbove :=
    number.quarters_lt_iff unitPositive ((below + (below + 1)) * step) (2 * quarters)
  rw [twice, sum] at nearBelow nearAbove
  have readsBelow := reads below
  have readsAbove := reads (below + 1)
  push_cast at readsAbove
  split
  case h_1 coversBelow coversAbove =>
    split
    case isTrue near => exact .below (readsBelow.mp coversBelow) fun _ => nearBelow.mpr near
    case isFalse notNearBelow =>
      split
      case isTrue near => exact .above (readsAbove.mp coversAbove) fun _ => nearAbove.mpr near
      case isFalse notNearAbove =>
        have isHalfway := le_antisymm (not_lt.mp fun less => notNearAbove (nearAbove.mp less))
          (not_lt.mp fun less => notNearBelow (nearBelow.mp less))
        have found : (if tie = .toEven ∧ below % 2 = 0 then some below else some (below + 1)) =
            some (if tie = .toEven ∧ below % 2 = 0 then below else below + 1) := by
          split <;> rfl
        rw [found]
        exact .halfway (readsBelow.mp coversBelow) (readsAbove.mp coversAbove) isHalfway
  case h_2 coversBelow notAbove =>
    refine .below (readsBelow.mp coversBelow) fun covers => ?_
    rw [readsAbove.mpr covers] at notAbove
    exact absurd notAbove (by decide)
  case h_3 notBelow coversAbove =>
    refine .above (readsAbove.mp coversAbove) fun covers => ?_
    rw [readsBelow.mpr covers] at notBelow
    exact absurd notBelow (by decide)
  case h_4 notBelow notAbove =>
    refine .neither (fun covers => ?_) fun covers => ?_
    · rw [readsBelow.mpr covers] at notBelow
      exact absurd notBelow (by decide)
    · rw [readsAbove.mpr covers] at notAbove
      exact absurd notAbove (by decide)

theorem pointBelow_bounds (number : Binary64) (exponent : Int) :
    number.pointBelow exponent * 10 ^ exponent ≤ number.value ∧
      number.value < (number.pointBelow exponent + 1) * 10 ^ exponent := by
  have grid := number.quarters_of_step exponent
  have unitPositive := number.quarterParts_pos exponent
  have stepPositive := number.stepParts_pos exponent
  have above := grid (number.pointBelow exponent + 1)
  push_cast at above
  rw [← quarters_of_exact number unitPositive, ← grid, ← above, ← not_lt, pointBelow]
  constructor
  · rw [quarters_lt_iff number unitPositive, not_lt]
    exact Nat.div_mul_le_self _ _
  · exact_mod_cast (quarters_lt_iff number unitPositive _ _).mpr
      (Nat.lt_mul_of_div_lt (Nat.lt_succ_self _) stepPositive)

theorem le_pointBelow_or (number : Binary64) (exponent : Int) (point : Nat) :
    (point : ℚ) * 10 ^ exponent ≤ number.pointBelow exponent * 10 ^ exponent ∨
      (number.pointBelow exponent + 1) * 10 ^ exponent ≤ (point : ℚ) * 10 ^ exponent := by
  rcases Nat.lt_or_ge (number.pointBelow exponent) point with less | atMost
  · right
    exact mul_le_mul_of_nonneg_right (by exact_mod_cast less) (ten_zpow_pos _).le
  · left
    exact mul_le_mul_of_nonneg_right (by exact_mod_cast atMost) (ten_zpow_pos _).le

/-- A point of a grid that the number covers, and no such point is nearer to the number. -/
structure IsNearestOn (number : Binary64) (exponent : Int) (point : Nat) : Prop where
  covers : number.Covers (point * 10 ^ exponent)
  nearest : ∀ other : Nat, number.Covers (other * 10 ^ exponent) →
    |point * 10 ^ exponent - number.value| ≤ |other * 10 ^ exponent - number.value|

theorem not_covers_of_onGrid? (positive : 0 < number.significand) {tie : Tie} {exponent : Int}
    (nothing : number.onGrid? tie exponent = none) (point : Nat) :
    ¬number.Covers (point * 10 ^ exponent) := by
  intro covers
  have found := onGrid positive tie exponent
  obtain ⟨low, high⟩ := number.pointBelow_bounds exponent
  rw [nothing] at found
  cases found with
  | neither notBelow notAbove =>
      rcases number.le_pointBelow_or exponent point with atMost | atLeast
      · exact notBelow (covers.between number.covers_value atMost low)
      · exact notAbove (number.covers_value.between covers high.le atLeast)

theorem isNearestOn_of_onGrid? (positive : 0 < number.significand) {tie : Tie} {exponent : Int}
    {point : Nat} (found : number.onGrid? tie exponent = some point) :
    number.IsNearestOn exponent point := by
  have onGrid := onGrid positive tie exponent
  obtain ⟨low, high⟩ := number.pointBelow_bounds exponent
  have sides := number.le_pointBelow_or exponent
  rw [found] at onGrid
  generalize number.pointBelow exponent = below at onGrid low high sides
  have distanceBelow : |below * 10 ^ exponent - number.value| =
      number.value - below * 10 ^ exponent := by
    rw [abs_of_nonpos (by linarith), neg_sub]
  have distanceAbove : |(below + 1) * 10 ^ exponent - number.value| =
      (below + 1) * 10 ^ exponent - number.value := abs_of_pos (by linarith)
  cases onGrid with
  | below covers nearer =>
      refine ⟨covers, fun other coversOther => ?_⟩
      rw [distanceBelow]
      rcases sides other with atMost | atLeast
      · rw [abs_of_nonpos (by linarith)]
        linarith
      · have near := nearer (number.covers_value.between coversOther high.le atLeast)
        rw [abs_of_pos (by linarith)]
        linarith
  | above covers nearer =>
      refine ⟨by exact_mod_cast covers, fun other coversOther => ?_⟩
      push_cast
      rw [distanceAbove]
      rcases sides other with atMost | atLeast
      · have near := nearer (coversOther.between number.covers_value atMost low)
        rw [abs_of_nonpos (by linarith)]
        linarith
      · rw [abs_of_pos (by linarith)]
        linarith
  | halfway coversBelow coversAbove isHalfway =>
      have farther (other : Nat) :
          (10 : ℚ) ^ exponent ≤ 2 * |other * 10 ^ exponent - number.value| := by
        rcases sides other with atMost | atLeast
        · rw [abs_of_nonpos (by linarith)]
          linarith
        · rw [abs_of_pos (by linarith)]
          linarith
      split
      · refine ⟨coversBelow, fun other _ => ?_⟩
        rw [distanceBelow]
        linarith [farther other]
      · refine ⟨by exact_mod_cast coversAbove, fun other _ => ?_⟩
        push_cast
        rw [distanceAbove]
        linarith [farther other]

theorem grid_le_iff (exponent : Int) (first second : Nat) :
    (first : ℚ) * 10 ^ exponent ≤ second * 10 ^ exponent ↔ first ≤ second := by
  rw [mul_le_mul_iff_left₀ (ten_zpow_pos _), Nat.cast_le]

theorem grid_lt_iff (exponent : Int) (first second : Nat) :
    (first : ℚ) * 10 ^ exponent < second * 10 ^ exponent ↔ first < second := by
  rw [mul_lt_mul_iff_left₀ (ten_zpow_pos _), Nat.cast_lt]

theorem halfway_of_nearest_lt {exponent : Int} {lesser greater : Nat}
    (isLesser : number.IsNearestOn exponent lesser)
    (isGreater : number.IsNearestOn exponent greater) (less : lesser < greater) :
    (lesser : ℚ) * 10 ^ exponent < number.value ∧ number.value < greater * 10 ^ exponent ∧
      2 * number.value = lesser * 10 ^ exponent + greater * 10 ^ exponent := by
  have lessOnGrid := (grid_lt_iff exponent lesser greater).mpr less
  have same := le_antisymm (isLesser.nearest greater isGreater.covers)
    (isGreater.nearest lesser isLesser.covers)
  rcases abs_eq_abs.mp same with equal | opposite
  · linarith
  · refine ⟨?_, ?_, ?_⟩ <;> linarith

theorem neighbours_of_nearest_lt {exponent : Int} {lesser greater : Nat}
    (isLesser : number.IsNearestOn exponent lesser)
    (isGreater : number.IsNearestOn exponent greater) (less : lesser < greater) :
    number.pointBelow exponent = lesser ∧ greater = lesser + 1 := by
  obtain ⟨lesserBelow, greaterAbove, -⟩ := halfway_of_nearest_lt isLesser isGreater less
  obtain ⟨low, high⟩ := number.pointBelow_bounds exponent
  have sides := number.le_pointBelow_or exponent
  generalize number.pointBelow exponent = below at *
  have lesserLow := (sides lesser).resolve_right (by linarith)
  have greaterHigh := (sides greater).resolve_left (by linarith)
  have nearLesser := isLesser.nearest below
    (isLesser.covers.between number.covers_value lesserLow low)
  have nearGreater := isGreater.nearest (below + 1)
    (by exact_mod_cast number.covers_value.between isGreater.covers high.le greaterHigh)
  rw [abs_of_nonpos (by linarith), abs_of_nonpos (by linarith)] at nearLesser
  push_cast at nearGreater
  rw [abs_of_pos (by linarith), abs_of_pos (by linarith)] at nearGreater
  have isBelow : below = lesser :=
    le_antisymm ((grid_le_iff exponent below lesser).mp (by linarith))
      ((grid_le_iff exponent lesser below).mp lesserLow)
  have isAbove : greater = below + 1 :=
    le_antisymm ((grid_le_iff exponent greater (below + 1)).mp (by push_cast; linarith))
      ((grid_le_iff exponent (below + 1) greater).mp (by exact_mod_cast greaterHigh))
  exact ⟨isBelow, isBelow ▸ isAbove⟩

/-- Two nearest points of a grid are the neighbours of a number that lies halfway. -/
theorem onGrid?_of_nearest_lt (positive : 0 < number.significand) (tie : Tie) {exponent : Int}
    {lesser greater : Nat} (isLesser : number.IsNearestOn exponent lesser)
    (isGreater : number.IsNearestOn exponent greater) (less : lesser < greater) :
    number.onGrid? tie exponent =
      some (if tie = .toEven ∧ lesser % 2 = 0 then lesser else greater) := by
  obtain ⟨isBelow, rfl⟩ := neighbours_of_nearest_lt isLesser isGreater less
  obtain ⟨-, -, isHalfway⟩ := halfway_of_nearest_lt isLesser isGreater less
  have coversAbove := isGreater.covers
  have onGrid := onGrid positive tie exponent
  rw [isBelow] at onGrid
  push_cast at isHalfway coversAbove
  generalize number.onGrid? tie exponent = found at *
  cases onGrid with
  | neither notBelow notAbove => exact absurd isLesser.covers notBelow
  | below covers nearer => linarith [nearer coversAbove]
  | above covers nearer => linarith [nearer isLesser.covers]
  | halfway => rfl

theorem searchGrids_cases (tie : Tie) (number : Binary64) (count : Nat) (start : Int) :
    (∀ exponent, start - count < exponent → exponent ≤ start →
        number.onGrid? tie exponent = none) ∨
      ∃ point exponent, searchGrids tie number count start = some (point, exponent) ∧
        exponent ≤ start ∧ number.onGrid? tie exponent = some point ∧
        ∀ other, exponent < other → other ≤ start → number.onGrid? tie other = none := by
  induction count generalizing start with
  | zero => exact .inl fun exponent _ _ => by omega
  | succ count ih =>
      cases found : number.onGrid? tie start with
      | some point =>
          refine .inr ⟨point, start, ?_, le_rfl, found, fun other _ _ => by omega⟩
          simp only [searchGrids, found]
      | none =>
          rcases ih (start - 1) with nothing | ⟨point, exponent, isResult, atMost, isPoint, coarser⟩
          · refine .inl fun exponent _ _ => ?_
            by_cases isStart : exponent = start
            · rw [isStart, found]
            · exact nothing exponent (by omega) (by omega)
          · refine .inr ⟨point, exponent, ?_, by omega, isPoint, fun other _ _ => ?_⟩
            · simp only [searchGrids, found, isResult]
            · by_cases isStart : other = start
              · rw [isStart, found]
              · exact coarser other (by omega) (by omega)

theorem IsCanonical.log2_le (canonical : number.IsCanonical) (positive : 0 < number.significand) :
    Nat.log2 number.significand ≤ 52 := by
  have fits := canonical.fits
  rw [powerOfTwo_precision] at fits
  have := (Nat.log2_lt positive.ne').mpr fits
  omega

theorem IsCanonical.lt_gridAbove (canonical : number.IsCanonical) {quotient : ℚ}
    (positive : 0 < number.significand) (covers : number.Covers quotient) :
    quotient < 10 ^ number.gridAbove := by
  have few := canonical.log2_le positive
  have atLeast : -1074 ≤ number.exponent := canonical.atLeast
  have bits : (number.significand : ℚ) + 1 ≤ 2 ^ (Nat.log2 number.significand + 1) := by
    exact_mod_cast (Nat.lt_log2_self : number.significand < 2 ^ (Nat.log2 number.significand + 1))
  calc quotient ≤ (4 * number.significand + 2) * number.quarter := covers.bounds.2
    _ < 4 * 2 ^ (Nat.log2 number.significand + 1) * number.quarter :=
        mul_lt_mul_of_pos_right (by linarith) quarter_pos
    _ = 2 ^ (Nat.log2 number.significand + 3) * number.quarter := by ring
    _ = 2 ^ (Nat.log2 number.significand + number.exponent + 1) :=
        (number.two_zpow_eq_quarters _ (by push_cast; omega)).symm
    _ ≤ 10 ^ number.gridAbove := two_zpow_le_ten_zpow (by omega) (by rw [gridAbove]; omega)

theorem IsCanonical.gridAbove_le (canonical : number.IsCanonical)
    (positive : 0 < number.significand) : 10 ^ (number.gridAbove - 24) ≤ number.quarter := by
  have few := canonical.log2_le positive
  have atMost : number.exponent ≤ 971 := canonical.atMost
  exact ten_zpow_le_two_zpow (by omega) (by rw [gridAbove]; omega)

/-- A grid with a point in the interval of a number, where no coarser one has such a point. -/
structure IsCoarsest (number : Binary64) (exponent : Int) : Prop where
  covers : ∃ point : Nat, number.Covers (point * 10 ^ exponent)
  coarser : ∀ other, exponent < other → ∀ point : Nat, ¬number.Covers (point * 10 ^ other)

theorem IsCoarsest.unique {first second : Int} (isFirst : number.IsCoarsest first)
    (isSecond : number.IsCoarsest second) : first = second := by
  obtain ⟨firstPoint, coversFirst⟩ := isFirst.covers
  obtain ⟨secondPoint, coversSecond⟩ := isSecond.covers
  by_contra different
  rcases lt_or_gt_of_ne different with less | greater
  · exact isFirst.coarser second less secondPoint coversSecond
  · exact isSecond.coarser first greater firstPoint coversFirst

/-- The unit of the number is wider than the finest of the grids that are tried. -/
theorem IsCanonical.exists_onGrid? (canonical : number.IsCanonical)
    (positive : 0 < number.significand) (tie : Tie) :
    number.onGrid? tie (number.gridAbove - 24) ≠ none := by
  intro nothing
  apply not_covers_of_onGrid? positive nothing (number.pointBelow (number.gridAbove - 24))
  obtain ⟨low, high⟩ := number.pointBelow_bounds (number.gridAbove - 24)
  have fine := canonical.gridAbove_le positive
  have some := number.quartersBelow_bounds.1
  have below : number.quarter ≤ number.quartersBelow * number.quarter :=
    le_mul_of_one_le_left quarter_pos.le some
  have quarterPos : 0 < number.quarter := quarter_pos
  rw [value_eq_quarters] at low high
  apply Within.of_lt <;> linarith

theorem IsCanonical.shortest_found (canonical : number.IsCanonical)
    (positive : 0 < number.significand) (tie : Tie) :
    ∃ point exponent, number.shortest tie = (point, exponent) ∧
      number.onGrid? tie exponent = some point ∧ number.IsCoarsest exponent := by
  rcases searchGrids_cases tie number 25 number.gridAbove with
    nothing | ⟨point, exponent, isResult, atMost, isPoint, coarser⟩
  · exact absurd (nothing (number.gridAbove - 24) (by omega) (by omega))
      (canonical.exists_onGrid? positive tie)
  · refine ⟨point, exponent, by rw [shortest, isResult, Option.getD_some], isPoint,
      ⟨point, (isNearestOn_of_onGrid? positive isPoint).covers⟩, fun other less beside covers => ?_⟩
    by_cases inRange : other ≤ number.gridAbove
    · exact not_covers_of_onGrid? positive (coarser other less inRange) beside covers
    · have decimalPos := covers.pos positive
      have someDigit : (1 : ℚ) ≤ beside := by
        have : (0 : ℚ) < beside := pos_of_mul_pos_left decimalPos (ten_zpow_pos _).le
        exact_mod_cast this
      have above : (10 : ℚ) ^ number.gridAbove ≤ 10 ^ other :=
        zpow_le_zpow_right₀ (by decide) (by omega)
      have less := canonical.lt_gridAbove positive covers
      linarith [le_mul_of_one_le_left (ten_zpow_pos other).le someDigit]

end Binary64
end DesignTokens
