import DesignTokens.Proofs.Number.PlainText

/-!
The numbers that literals are read as. However a literal is rounded, once or in steps, the number
has its one form.
-/

namespace DesignTokens
namespace Binary64

variable {number other : Binary64}

theorem numerator_pos (positive : 0 < number.significand) : 0 < number.numerator :=
  Nat.mul_pos positive (powerOfTwo_pos _)

theorem denominator_pos (number : Binary64) : 0 < number.denominator :=
  powerOfTwo_pos _

/-- What is at least one is not rounded to zero. -/
theorem significand_pos_of_nearest? {numerator denominator : Nat}
    (denominatorPositive : 0 < denominator) (atLeast : denominator ≤ numerator)
    (isNearest : nearest? numerator denominator = some number) : 0 < number.significand := by
  obtain ⟨unit, whole, hasUnit, rounds, rfl, -⟩ :=
    exists_carried (denominatorPositive.trans_le atLeast) denominatorPositive isNearest
  have atLeastOne : (1 : ℚ) ≤ numerator / denominator := by
    rw [one_le_div (by exact_mod_cast denominatorPositive)]
    exact_mod_cast atLeast
  rw [carried]
  split
  · exact powerOfTwo_pos _
  · apply Nat.pos_of_ne_zero
    rintro rfl
    have small := (Within.bounds rounds).2
    rw [div_le_iff₀ (two_zpow_pos unit), Nat.cast_zero, zero_add] at small
    rcases hasUnit.full with rfl | full
    · have tiny : (2 : ℚ) ^ leastExponent ≤ 1 := zpow_le_one_of_nonpos₀ (by norm_num) (by decide)
      linarith
    · have ordered : (2 : ℚ) ^ unit ≤ 2 ^ (unit + 52) :=
        zpow_le_zpow_right₀ (by norm_num) (by omega)
      linarith [two_zpow_pos unit]

theorem significand_pos_of_ofPower? {exponent : Nat} (isPower : ofPower? exponent = some number) :
    0 < number.significand :=
  significand_pos_of_nearest? (by decide) (powerOfTen_pos exponent) isPower

theorem isCanonical_of_ofDecimal? {coefficient : Nat} {exponent : Int}
    (reads : ofDecimal? coefficient exponent = some number) : number.IsCanonical := by
  simp only [ofDecimal?] at reads
  split at reads
  · cases reads
    exact isCanonical_zero
  · split at reads
    · cases reads
    · split at reads
      · cases reads
        exact isCanonical_zero
      · exact isCanonical_of_nearest? (powerOfTen_pos _) reads

theorem isCanonical_of_times? {product : Binary64}
    (isProduct : number.times? other = some product) : product.IsCanonical :=
  isCanonical_of_nearest? (Nat.mul_pos number.denominator_pos other.denominator_pos) isProduct

theorem isCanonical_of_over? {quotient : Binary64} (positive : 0 < other.significand)
    (isQuotient : number.over? other = some quotient) : quotient.IsCanonical :=
  isCanonical_of_nearest? (Nat.mul_pos number.denominator_pos (numerator_pos positive)) isQuotient

theorem isCanonical_of_ofSteps? {significand : Nat} {exponent : Int}
    (reads : ofSteps? significand exponent = some number) : number.IsCanonical := by
  obtain ⟨whole, isWhole, reads⟩ := Option.bind_eq_some_iff.mp reads
  have canonical := isCanonical_of_nearest? (by decide) isWhole
  split at reads
  · split at reads
    · cases reads
      exact canonical
    · split at reads
      · cases reads
      · obtain ⟨power, -, isProduct⟩ := Option.bind_eq_some_iff.mp reads
        exact isCanonical_of_times? isProduct
  · obtain ⟨shrunk, -, reads⟩ := Option.bind_eq_some_iff.mp reads
    obtain ⟨power, isPower, isQuotient⟩ := Option.bind_eq_some_iff.mp reads
    exact isCanonical_of_over? (significand_pos_of_ofPower? isPower) isQuotient

end Binary64

namespace Number

variable {negative : Bool} {number : Number}

theorem isCanonical_of_ofReal? {coefficient : Nat} {exponent : Int}
    (reads : ofReal? negative coefficient exponent = some number) : number.IsCanonical := by
  obtain ⟨magnitude, isMagnitude, rfl⟩ := Option.map_eq_some_iff.mp reads
  exact Binary64.isCanonical_of_ofDecimal? isMagnitude

theorem isCanonical_of_ofSteps? {significand : Nat} {exponent : Int}
    (reads : ofSteps? negative significand exponent = some number) : number.IsCanonical := by
  obtain ⟨magnitude, isMagnitude, rfl⟩ := Option.map_eq_some_iff.mp reads
  exact Binary64.isCanonical_of_ofSteps? isMagnitude

theorem isCanonical_of_ofInteger? {magnitude : Nat}
    (reads : ofInteger? negative magnitude = some number) : number.IsCanonical := by
  dsimp only [ofInteger?] at reads
  generalize (if negative then -(magnitude : Int) else magnitude) = value at reads
  split at reads
  · rw [← Option.some.inj reads]
    exact trivial
  · obtain ⟨rounded, isRounded, rfl⟩ := Option.map_eq_some_iff.mp reads
    exact Binary64.isCanonical_of_ofDecimal? isRounded

end Number
end DesignTokens
