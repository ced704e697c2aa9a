import DesignTokens.Number.Decimal
import Mathlib.Algebra.Order.Field.Rat
import Mathlib.Algebra.Order.Field.Power
import Mathlib.Tactic.FieldSimp
import Mathlib.Tactic.Ring

/-!
Numerals and the exact numbers that they denote. Plain notation is told by its form; a decimal has
the same value in plain notation, which has no exponent, and in the notation of number texts.
-/

namespace DesignTokens
namespace Numeral

def IsDigits (text : List Char) : Prop :=
  ∀ character ∈ text, character.isDigit = true

/-- A point before the digits of a fraction; without digits there is no point. -/
def pointed : List Char → List Char
  | [] => []
  | first :: rest => '.' :: first :: rest

theorem pointed_of_ne_nil {digits : List Char} (someDigit : digits ≠ []) :
    pointed digits = '.' :: digits := by
  cases digits with
  | nil => exact absurd rfl someDigit
  | cons first rest => rfl

/-- A single zero, or digits of which the first one is no zero. -/
def IsWhole (digits : List Char) : Prop :=
  digits = ['0'] ∨ IsDigits digits ∧ ∃ first rest, digits = first :: rest ∧ first ≠ '0'

/-- Digits of a fraction do not end in a zero. -/
def IsFraction (digits : List Char) : Prop :=
  IsDigits digits ∧ digits.getLast? ≠ some '0'

/-- Plain notation: a sign, whole digits and a fraction, without exponent. -/
def IsPlain (text : List Char) : Prop :=
  ∃ sign whole fraction, text = sign ++ whole ++ pointed fraction ∧
    (sign = [] ∨ sign = ['-']) ∧ IsWhole whole ∧ IsFraction fraction ∧ text ≠ ['-', '0']

/-- The power of ten that the end of a numeral multiplies it with. -/
def power? : List Char → Option Int
  | [] => some 0
  | 'e' :: '+' :: digits =>
      if digits ≠ [] ∧ digits.all Char.isDigit then some (Nat.ofDigitChars 10 digits 0) else none
  | 'e' :: '-' :: digits =>
      if digits ≠ [] ∧ digits.all Char.isDigit then some (-Nat.ofDigitChars 10 digits 0) else none
  | _ => none

/-- The number that whole digits, the digits of a fraction and a power of ten denote. -/
def scaled (whole fraction : List Char) (power : Int) : ℚ :=
  Nat.ofDigitChars 10 (whole ++ fraction) 0 * 10 ^ (power - fraction.length)

def unsignedValue? (text : List Char) : Option ℚ :=
  let whole := text.takeWhile Char.isDigit
  if whole.isEmpty then none
  else
    match text.dropWhile Char.isDigit with
    | '.' :: rest =>
        let fraction := rest.takeWhile Char.isDigit
        if fraction.isEmpty then none
        else (power? (rest.dropWhile Char.isDigit)).map (scaled whole fraction)
    | rest => (power? rest).map (scaled whole [])

/-- The exact number that a numeral denotes. -/
def value? (text : List Char) : Option ℚ :=
  match text with
  | '-' :: unsigned => (unsignedValue? unsigned).map (- ·)
  | unsigned => unsignedValue? unsigned

theorem span_digits {digits rest : List Char} (isDigits : IsDigits digits)
    (ends : rest.head?.all fun character => !character.isDigit) :
    (digits ++ rest).takeWhile Char.isDigit = digits ∧
      (digits ++ rest).dropWhile Char.isDigit = rest := by
  rw [List.takeWhile_append_of_pos isDigits, List.dropWhile_append_of_pos isDigits]
  cases rest with
  | nil => simp
  | cons first later =>
      have stops : first.isDigit = false := by simpa using ends
      simp [stops]

theorem unsignedValue?_parts {whole fraction rest : List Char} (someDigit : whole ≠ [])
    (isWhole : IsDigits whole) (isFraction : IsDigits fraction)
    (ends : rest = [] ∨ rest.head? = some 'e') :
    unsignedValue? (whole ++ pointed fraction ++ rest) =
      (power? rest).map (scaled whole fraction) := by
  have noDigit : rest.head?.all fun character => !character.isDigit := by
    rcases ends with rfl | isExponent
    · rfl
    · simp [isExponent]
  have noPoint (later : List Char) : rest ≠ '.' :: later := by
    rintro rfl
    simp at ends
  cases fraction with
  | nil =>
      obtain ⟨taken, dropped⟩ := span_digits isWhole noDigit
      simp only [pointed, List.append_nil, unsignedValue?, taken, dropped, List.isEmpty_iff,
        someDigit, if_false]
  | cons first later =>
      have stops : ('.' :: (first :: later ++ rest)).head?.all fun character =>
          !character.isDigit := rfl
      obtain ⟨taken, dropped⟩ := span_digits isWhole stops
      obtain ⟨takenLater, droppedLater⟩ := span_digits isFraction noDigit
      rw [pointed, List.append_assoc, List.cons_append]
      simp only [unsignedValue?, taken, dropped, takenLater, droppedLater, List.isEmpty_iff,
        someDigit, reduceCtorEq, if_false]

theorem value?_of_unsignedValue? {text : List Char} {number : ℚ}
    (valued : unsignedValue? text = some number) : value? text = some number := by
  rw [value?]
  · exact valued
  · rintro unsigned rfl
    simp [unsignedValue?] at valued

theorem value?_negative (text : List Char) :
    value? ('-' :: text) = (unsignedValue? text).map (- ·) := by
  rw [value?]

theorem IsWhole.ne_nil {whole : List Char} (isWhole : IsWhole whole) : whole ≠ [] := by
  rcases isWhole with rfl | ⟨-, first, rest, rfl, -⟩ <;> exact List.cons_ne_nil _ _

theorem IsWhole.isDigits {whole : List Char} (isWhole : IsWhole whole) : IsDigits whole := by
  rcases isWhole with rfl | ⟨isDigits, -⟩
  · simp [IsDigits]
  · exact isDigits

theorem scaled_zero_fraction (whole : List Char) (power : Int) :
    scaled whole ['0'] power = scaled whole [] power := by
  rw [scaled, scaled, Nat.ofDigitChars_append, List.append_nil]
  have point : (10 : ℚ) ^ power = 10 ^ (power - 1) * 10 := by
    rw [← zpow_add_one₀ (by decide), sub_add_cancel]
  simp [Nat.ofDigitChars_cons, point]
  ring

/-! Digits of natural numbers. -/

theorem isDigits_toDigits (number : Nat) : IsDigits (Nat.toDigits 10 number) :=
  fun _ member => Nat.isDigit_of_mem_toDigits (by decide) (by decide) member

theorem isDigits_replicate_zero (count : Nat) : IsDigits (List.replicate count '0') := by
  intro character member
  rw [List.eq_of_mem_replicate member]
  decide

theorem IsDigits.append {first second : List Char} (isFirst : IsDigits first)
    (isSecond : IsDigits second) : IsDigits (first ++ second) := by
  intro character member
  exact (List.mem_append.mp member).elim (isFirst character) (isSecond character)

theorem ofDigitChars_zeros_append (count : Nat) (digits : List Char) :
    Nat.ofDigitChars 10 (List.replicate count '0' ++ digits) 0 = Nat.ofDigitChars 10 digits 0 := by
  rw [Nat.ofDigitChars_append, Nat.ofDigitChars_replicate_zero, Nat.mul_zero]

theorem toDigits_concat {number : Nat} (several : 10 ≤ number) :
    Nat.toDigits 10 number = Nat.toDigits 10 (number / 10) ++ [Nat.digitChar (number % 10)] := by
  rw [Nat.toDigits_eq_if (by decide), if_neg (by omega)]

theorem getLast?_toDigits (number : Nat) :
    (Nat.toDigits 10 number).getLast? = some (Nat.digitChar (number % 10)) := by
  by_cases several : 10 ≤ number
  · rw [toDigits_concat several, List.getLast?_concat]
  · have small : number < 10 := by omega
    rw [Nat.toDigits_of_lt_base small, Nat.mod_eq_of_lt small]
    rfl

def digitCount (number : Nat) : Nat :=
  (Nat.toDigits 10 number).length

theorem digitCount_pos (number : Nat) : 0 < digitCount number :=
  Nat.length_toDigits_pos

theorem lt_digitCount_iff {number count : Nat} (positive : 0 < count) :
    count < digitCount number ↔ 10 ^ count ≤ number := by
  rw [digitCount, ← not_le, Nat.length_toDigits_le_iff (by decide) positive, not_lt]

theorem lt_ten_pow_digitCount (number : Nat) : number < 10 ^ digitCount number := by
  rw [← not_le, ← lt_digitCount_iff (digitCount_pos number)]
  exact lt_irrefl _

theorem ten_pow_digitCount_le {number : Nat} (positive : 0 < number) :
    10 ^ (digitCount number - 1) ≤ number := by
  have someDigit := digitCount_pos number
  by_cases single : digitCount number = 1
  · rw [single]
    exact positive
  · exact (lt_digitCount_iff (by omega)).mp (by omega)

theorem digitCount_mono {first second : Nat} (atMost : first ≤ second) :
    digitCount first ≤ digitCount second := by
  by_contra fewer
  have large := (lt_digitCount_iff (digitCount_pos second)).mp (not_le.mp fewer)
  exact absurd (large.trans atMost) (not_le.mpr (lt_ten_pow_digitCount second))

theorem digitCount_succ {number : Nat} (notTens : (number + 1) % 10 ≠ 0) :
    digitCount (number + 1) = digitCount number := by
  refine le_antisymm (not_lt.mp fun longer => notTens ?_) (digitCount_mono (Nat.le_succ number))
  have atLeast := (lt_digitCount_iff (digitCount_pos number)).mp longer
  have less := lt_ten_pow_digitCount number
  have power : number + 1 = 10 ^ digitCount number := by omega
  rw [power, ← Nat.succ_pred_eq_of_pos (digitCount_pos number), Nat.pow_succ, Nat.mul_mod_left]

theorem exists_toDigits_cons {number : Nat} (positive : 0 < number) :
    ∃ first rest, Nat.toDigits 10 number = first :: rest ∧ first ≠ '0' := by
  induction number using Nat.strong_induction_on with
  | _ number ih =>
      by_cases several : 10 ≤ number
      · obtain ⟨first, rest, digits, notZero⟩ := ih (number / 10) (by omega) (by omega)
        refine ⟨first, rest ++ [Nat.digitChar (number % 10)], ?_, notZero⟩
        rw [toDigits_concat several, digits, List.cons_append]
      · refine ⟨Nat.digitChar number, [], Nat.toDigits_of_lt_base (by omega), ?_⟩
        rw [ne_eq, Nat.digitChar_eq_zero]
        omega

theorem isWhole_toDigits (number : Nat) : IsWhole (Nat.toDigits 10 number) := by
  by_cases zero : number = 0
  · exact .inl (by rw [zero]; rfl)
  · exact .inr ⟨isDigits_toDigits number, exists_toDigits_cons (by omega)⟩

theorem unsignedValue?_toDigits (number : Nat) :
    unsignedValue? (Nat.toDigits 10 number) = some (number : ℚ) := by
  have whole := isWhole_toDigits number
  have parts := unsignedValue?_parts whole.ne_nil whole.isDigits
    (isDigits_replicate_zero 0) (.inl rfl)
  simp only [List.replicate_zero, pointed, List.append_nil, power?, Option.map_some, scaled,
    Nat.ofDigitChars_ten_toDigits] at parts
  simpa using parts

end Numeral

namespace Decimal

open Numeral

/-- The number that a decimal denotes without its sign. -/
def size (decimal : Decimal) : ℚ :=
  decimal.coefficient * 10 ^ decimal.exponent

def value (decimal : Decimal) : ℚ :=
  if decimal.negative then -decimal.size else decimal.size

theorem value_eq_iff {first second : Decimal} (sameSign : first.negative = second.negative) :
    first.value = second.value ↔ first.size = second.size := by
  rw [value, value, sameSign]
  split
  · exact neg_inj
  · exact Iff.rfl

variable (decimal : Decimal)

theorem coefficient_pos_of_exponent_neg (negative : decimal.exponent < 0) :
    0 < decimal.coefficient ∧ decimal.coefficient % 10 ≠ 0 := by
  rcases decimal.reduced with notZero | ⟨-, zero⟩
  · omega
  · omega

theorem ofDigitChars_digits : Nat.ofDigitChars 10 decimal.digits 0 = decimal.coefficient :=
  Nat.ofDigitChars_toDigits (by decide) (by decide)

theorem getLast?_digits (negative : decimal.exponent < 0) :
    decimal.digits.getLast? ≠ some '0' := by
  have notZero := (decimal.coefficient_pos_of_exponent_neg negative).2
  rw [digits, getLast?_toDigits, ne_eq, Option.some.injEq, Nat.digitChar_eq_zero]
  exact notZero

theorem positional_of_nonneg (nonneg : 0 ≤ decimal.exponent) :
    decimal.positional = decimal.digits ++ List.replicate decimal.exponent.toNat '0' := by
  rw [positional, if_pos nonneg]

theorem isWhole_digits_append_zeros (nonneg : 0 ≤ decimal.exponent) :
    IsWhole (decimal.digits ++ List.replicate decimal.exponent.toNat '0') := by
  by_cases zero : decimal.coefficient = 0
  · have noZeros : decimal.exponent = 0 := by
      rcases decimal.reduced with notZero | ⟨-, noExponent⟩
      · omega
      · exact noExponent
    rw [noZeros]
    exact .inl (by simp [digits, zero])
  · obtain ⟨first, rest, isFirst, notZero⟩ := exists_toDigits_cons (Nat.pos_of_ne_zero zero)
    refine .inr ⟨(isDigits_toDigits _).append (isDigits_replicate_zero _), first,
      rest ++ List.replicate decimal.exponent.toNat '0', ?_, notZero⟩
    rw [digits, isFirst, List.cons_append]

theorem scaled_digits_append_zeros (nonneg : 0 ≤ decimal.exponent) :
    scaled (decimal.digits ++ List.replicate decimal.exponent.toNat '0') [] 0 = decimal.size := by
  obtain ⟨count, power⟩ := Int.eq_ofNat_of_zero_le nonneg
  rw [scaled, List.append_nil, Nat.ofDigitChars_append, ofDigitChars_digits,
    Nat.ofDigitChars_replicate_zero, size, power, zpow_natCast]
  simp [mul_comm]

variable {decimal}

theorem fraction_of_few_places (negative : decimal.exponent < 0) {places : Nat}
    (few : places < decimal.digits.length) (isPlaces : decimal.exponent = -(places : ℤ)) :
    IsWhole (decimal.digits.take (decimal.digits.length - places)) ∧
      IsFraction (decimal.digits.drop (decimal.digits.length - places)) ∧
      scaled (decimal.digits.take (decimal.digits.length - places))
        (decimal.digits.drop (decimal.digits.length - places)) 0 = decimal.size := by
  have isDigits : IsDigits decimal.digits := isDigits_toDigits _
  refine ⟨.inr ⟨fun _ member => isDigits _ (List.mem_of_mem_take member), ?_⟩,
    ⟨fun _ member => isDigits _ (List.mem_of_mem_drop member), ?_⟩, ?_⟩
  · obtain ⟨first, rest, isFirst, notZero⟩ :=
      exists_toDigits_cons (decimal.coefficient_pos_of_exponent_neg negative).1
    obtain ⟨count, isCount⟩ : ∃ count, decimal.digits.length - places = count + 1 :=
      ⟨decimal.digits.length - places - 1, by omega⟩
    refine ⟨first, rest.take count, ?_, notZero⟩
    rw [isCount, digits, isFirst, List.take_succ_cons]
  · rw [List.getLast?_drop]
    split
    · simp
    · exact decimal.getLast?_digits negative
  · rw [scaled, List.take_append_drop, ofDigitChars_digits, List.length_drop, size, isPlaces]
    congr 2
    omega

theorem fraction_of_many_places (negative : decimal.exponent < 0) {places : Nat}
    (many : decimal.digits.length ≤ places) (isPlaces : decimal.exponent = -(places : ℤ)) :
    IsFraction (List.replicate (places - decimal.digits.length) '0' ++ decimal.digits) ∧
      scaled ['0'] (List.replicate (places - decimal.digits.length) '0' ++ decimal.digits) 0 =
        decimal.size := by
  refine ⟨⟨(isDigits_replicate_zero _).append (isDigits_toDigits _), ?_⟩, ?_⟩
  · have someDigit : decimal.digits ≠ [] := List.ne_nil_of_length_pos Nat.length_toDigits_pos
    rw [List.getLast?_append_of_ne_nil _ someDigit]
    exact decimal.getLast?_digits negative
  · have allZeros : ['0'] ++ (List.replicate (places - decimal.digits.length) '0' ++
        decimal.digits) =
          List.replicate (places - decimal.digits.length + 1) '0' ++ decimal.digits := by
      rw [List.replicate_succ, List.cons_append, List.nil_append, List.cons_append]
    rw [scaled, allZeros, ofDigitChars_zeros_append, ofDigitChars_digits, List.length_append,
      List.length_replicate, size, isPlaces]
    congr 2
    omega

variable (decimal)

/-- Positional notation: which digits stand before the point, and which ones after it. -/
theorem exists_positional_parts :
    ∃ whole fraction, decimal.positional = whole ++ pointed fraction ∧ IsWhole whole ∧
      IsFraction fraction ∧ scaled whole fraction 0 = decimal.size ∧
      (0 ≤ decimal.exponent → fraction = []) := by
  by_cases nonneg : 0 ≤ decimal.exponent
  · refine ⟨_, [], ?_, decimal.isWhole_digits_append_zeros nonneg, ?_,
      decimal.scaled_digits_append_zeros nonneg, fun _ => rfl⟩
    · rw [decimal.positional_of_nonneg nonneg, pointed, List.append_nil]
    · simp [IsFraction, IsDigits]
  · have negative : decimal.exponent < 0 := by omega
    obtain ⟨places, isPlaces⟩ : ∃ places : Nat, decimal.exponent = -(places : ℤ) :=
      ⟨(-decimal.exponent).toNat, by omega⟩
    have toPlaces : (-decimal.exponent).toNat = places := by omega
    have someDigit : 0 < decimal.digits.length := Nat.length_toDigits_pos
    have somePlace : 0 < places := by omega
    by_cases few : places < decimal.digits.length
    · obtain ⟨isWhole, isFraction, isSize⟩ := fraction_of_few_places negative few isPlaces
      refine ⟨_, _, ?_, isWhole, isFraction, isSize, fun isNonneg => absurd isNonneg nonneg⟩
      have longEnough : 0 <
          (decimal.digits.drop (decimal.digits.length - places)).length := by
        rw [List.length_drop]
        omega
      rw [positional, if_neg nonneg, toPlaces, if_pos few, pointed_of_ne_nil]
      exact List.ne_nil_of_length_pos longEnough
    · obtain ⟨isFraction, isSize⟩ := fraction_of_many_places negative (by omega) isPlaces
      refine ⟨['0'], _, ?_, .inl rfl, isFraction, isSize, fun isNonneg => absurd isNonneg nonneg⟩
      rw [positional, if_neg nonneg, toPlaces, if_neg few, pointed_of_ne_nil, List.singleton_append]
      simp [List.ne_nil_of_length_pos someDigit]

theorem unsignedValue?_positional : unsignedValue? decimal.positional = some decimal.size := by
  obtain ⟨whole, fraction, isPositional, isWhole, isFraction, isSize, -⟩ :=
    decimal.exists_positional_parts
  rw [isPositional, ← List.append_nil (whole ++ pointed fraction),
    unsignedValue?_parts isWhole.ne_nil isWhole.isDigits isFraction.1 (.inl rfl), power?,
    Option.map_some, isSize]

theorem size_eq_zero_iff : decimal.size = 0 ↔ decimal.coefficient = 0 := by
  rw [size, mul_eq_zero, Nat.cast_eq_zero]
  exact or_iff_left (zpow_ne_zero _ (by decide))

theorem positional_ne_zero (notZero : decimal.coefficient ≠ 0) : decimal.positional ≠ ['0'] := by
  intro isZero
  have valued := decimal.unsignedValue?_positional
  have zeroValue : unsignedValue? ['0'] = some 0 := by
    simp [unsignedValue?, power?, scaled, Nat.ofDigitChars_cons]
  rw [isZero, zeroValue] at valued
  exact notZero (decimal.size_eq_zero_iff.mp (Option.some.inj valued).symm)

theorem isPlain_plain : IsPlain decimal.plain := by
  obtain ⟨whole, fraction, isPositional, isWhole, isFraction, -⟩ := decimal.exists_positional_parts
  by_cases signed : decimal.negative && decimal.coefficient != 0
  · refine ⟨['-'], whole, fraction, ?_, .inr rfl, isWhole, isFraction, ?_⟩
    · rw [plain, if_pos signed, isPositional, List.singleton_append, List.cons_append]
    · have notZero : decimal.coefficient ≠ 0 := by simp_all
      rw [plain, if_pos signed]
      simpa using decimal.positional_ne_zero notZero
  · refine ⟨[], whole, fraction, ?_, .inl rfl, isWhole, isFraction, ?_⟩
    · rw [plain, if_neg signed, isPositional, List.nil_append]
    · rw [plain, if_neg signed]
      intro negativeZero
      have valued := decimal.unsignedValue?_positional
      rw [negativeZero] at valued
      simp [unsignedValue?] at valued

theorem value_of_zero (zero : decimal.coefficient = 0) : decimal.value = decimal.size := by
  simp [value, decimal.size_eq_zero_iff.mpr zero]

theorem value?_plain : value? decimal.plain = some decimal.value := by
  by_cases signed : decimal.negative && decimal.coefficient != 0
  · have isNegative : decimal.negative = true := by simp_all
    rw [plain, if_pos signed, value?_negative, unsignedValue?_positional, value,
      if_pos isNegative, Option.map_some]
  · have unsigned : decimal.value = decimal.size := by
      by_cases zero : decimal.coefficient = 0
      · exact decimal.value_of_zero zero
      · have positive : decimal.negative = false := by simp_all
        rw [value, positive, if_neg (by decide)]
    rw [plain, if_neg signed, unsigned]
    exact value?_of_unsignedValue? decimal.unsignedValue?_positional

/-! The notation of number texts. -/

theorem unsignedValue?_positional_point (nonneg : 0 ≤ decimal.exponent) :
    unsignedValue? (decimal.positional ++ ['.', '0']) = some decimal.size := by
  obtain ⟨whole, fraction, isPositional, isWhole, -, isSize, noFraction⟩ :=
    decimal.exists_positional_parts
  obtain rfl := noFraction nonneg
  have isZero : IsDigits ['0'] := isDigits_replicate_zero 1
  have parts := unsignedValue?_parts isWhole.ne_nil isWhole.isDigits isZero (.inl rfl)
  rw [List.append_nil, power?, Option.map_some, scaled_zero_fraction, isSize] at parts
  rw [isPositional, pointed, List.append_nil]
  exact parts

theorem power?_signed (power : Int) :
    power? ('e' :: (if power < 0 then '-' else '+') :: Nat.toDigits 10 power.natAbs) =
      some power := by
  have isDigits : Nat.toDigits 10 power.natAbs ≠ [] ∧
      (Nat.toDigits 10 power.natAbs).all Char.isDigit = true :=
    ⟨(isWhole_toDigits _).ne_nil, List.all_eq_true.mpr (isDigits_toDigits _)⟩
  by_cases negative : power < 0
  · rw [if_pos negative, power?, if_pos isDigits,
      Nat.ofDigitChars_toDigits (by decide) (by decide)]
    congr 1
    omega
  · rw [if_neg negative, power?, if_pos isDigits,
      Nat.ofDigitChars_toDigits (by decide) (by decide)]
    congr 1
    omega

theorem scientific_eq :
    decimal.scientific = decimal.digits.take 1 ++ pointed (decimal.digits.drop 1) ++
      'e' :: (if decimal.magnitude < 0 then '-' else '+') ::
        Nat.toDigits 10 decimal.magnitude.natAbs := by
  rw [scientific]
  cases decimal.digits.drop 1 <;> rfl

theorem unsignedValue?_scientific : unsignedValue? decimal.scientific = some decimal.size := by
  have isDigits : IsDigits decimal.digits := isDigits_toDigits _
  have someDigit : 0 < decimal.digits.length := Nat.length_toDigits_pos
  have firstDigit : decimal.digits.take 1 ≠ [] := by
    simpa using List.ne_nil_of_length_pos someDigit
  rw [scientific_eq, unsignedValue?_parts firstDigit
    (fun _ member => isDigits _ (List.mem_of_mem_take member))
    (fun _ member => isDigits _ (List.mem_of_mem_drop member)) (.inr rfl), power?_signed,
    Option.map_some, scaled, List.take_append_drop, ofDigitChars_digits, size, magnitude,
    List.length_drop]
  congr 3
  omega

theorem value?_written : value? decimal.written = some decimal.value := by
  have signed : ∀ text, unsignedValue? text = some decimal.size →
      value? (if decimal.negative then '-' :: text else text) = some decimal.value := by
    intro text valued
    rw [value]
    split
    · rw [value?_negative, valued, Option.map_some]
    · exact value?_of_unsignedValue? valued
  apply signed
  split
  · split
    · exact decimal.unsignedValue?_positional_point ‹_›
    · exact decimal.unsignedValue?_positional
  · exact decimal.unsignedValue?_scientific

end Decimal
end DesignTokens
