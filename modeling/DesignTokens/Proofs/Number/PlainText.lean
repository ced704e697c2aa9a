import DesignTokens.Proofs.Number.Shortest
import DesignTokens.Scss.Plain

/-!
The two texts of a number. The plain text has no exponent, and it denotes what the text inside
compact objects denotes, unless the number lies halfway between two shortest decimals.
-/

namespace DesignTokens
namespace Number

open Numeral

/-- Integers are exact; the magnitude of a real is a binary64 number in its one form. -/
def IsCanonical : Number → Prop
  | integer _ => True
  | real _ magnitude => magnitude.IsCanonical

/-- An integer denotes itself, and a real what one of its shortest decimals denotes. -/
def Denotes : Number → ℚ → Prop
  | integer value, exact => exact = value
  | real negative magnitude, exact =>
      ∃ decimal : Decimal, decimal.negative = negative ∧ decimal.IsShortest magnitude ∧
        exact = decimal.value

/-- A number halfway between two shortest decimals, of which the lesser one is even. -/
def IsSplit : Number → Decimal → Decimal → Prop
  | integer _, _, _ => False
  | real negative magnitude, lesser, greater =>
      lesser.negative = negative ∧ greater.negative = negative ∧
        lesser.IsShortest magnitude ∧ greater.IsShortest magnitude ∧
          2 * magnitude.value = lesser.size + greater.size ∧ lesser.size < greater.size ∧
            lesser.coefficient % 2 = 0

theorem isPlain_integerDigits (value : Int) : IsPlain (integerDigits value) := by
  have whole := isWhole_toDigits value.natAbs
  have noFraction : IsFraction [] := ⟨isDigits_replicate_zero 0, by decide⟩
  rw [integerDigits]
  split
  case isTrue negative =>
    refine ⟨['-'], _, [], by rw [pointed, List.append_nil, List.singleton_append], .inr rfl, whole,
      noFraction, ?_⟩
    obtain ⟨first, rest, isDigits, notZero⟩ := exists_toDigits_cons (by omega : 0 < value.natAbs)
    rw [isDigits]
    simp [notZero]
  case isFalse nonneg =>
    refine ⟨[], _, [], by rw [pointed, List.append_nil, List.nil_append], .inl rfl, whole,
      noFraction, fun negativeZero => ?_⟩
    have isDigits := isDigits_toDigits value.natAbs
    rw [negativeZero] at isDigits
    exact absurd (isDigits '-' List.mem_cons_self) (by decide)

theorem value?_integerDigits (value : Int) : value? (integerDigits value) = some (value : ℚ) := by
  have valued := unsignedValue?_toDigits value.natAbs
  rw [integerDigits]
  split
  case isTrue negative =>
    have absolute : ((value.natAbs : Int) : ℚ) = -value := by
      exact_mod_cast Int.ofNat_natAbs_of_nonpos negative.le
    rw [value?_negative, valued, Option.map_some, ← Int.cast_natCast, absolute, neg_neg]
  case isFalse nonneg =>
    have absolute : ((value.natAbs : Int) : ℚ) = value := by
      exact_mod_cast Int.natAbs_of_nonneg (not_lt.mp nonneg)
    rw [value?_of_unsignedValue? valued, ← Int.cast_natCast, absolute]

theorem exists_split (negative : Bool) {magnitude : Binary64} (canonical : magnitude.IsCanonical)
    (different : (Decimal.shortest .toGreater negative magnitude).value ≠
      (Decimal.shortest .toEven negative magnitude).value) :
    (real negative magnitude).IsSplit (Decimal.shortest .toEven negative magnitude)
      (Decimal.shortest .toGreater negative magnitude) := by
  have isGreater := Decimal.isShortest_shortest canonical .toGreater negative
  have isEven := Decimal.isShortest_shortest canonical .toEven negative
  have greaterSign := Decimal.negative_shortest .toGreater negative magnitude
  have evenSign := Decimal.negative_shortest .toEven negative magnitude
  rw [ne_eq, Decimal.value_eq_iff (greaterSign.trans evenSign.symm)] at different
  rcases lt_or_gt_of_ne different with less | less
  · have taken := Decimal.size_shortest_of_lt canonical isGreater isEven less .toGreater negative
    rw [if_neg (by simp)] at taken
    exact absurd taken different
  · have taken := Decimal.size_shortest_of_lt canonical isEven isGreater less .toEven negative
    have even : (Decimal.shortest .toEven negative magnitude).coefficient % 2 = 0 := by
      by_contra odd
      rw [if_neg (fun both => odd both.2)] at taken
      exact different taken.symm
    exact ⟨evenSign, greaterSign, isEven, isGreater,
      Decimal.halfway_of_lt canonical isEven isGreater less, less, even⟩

theorem value_of_split {negative : Bool} {magnitude : Binary64} {lesser greater : Decimal}
    (canonical : magnitude.IsCanonical) (split : (real negative magnitude).IsSplit lesser greater)
    (tie : Tie) :
    (Decimal.shortest tie negative magnitude).value =
      if tie = .toEven then lesser.value else greater.value := by
  obtain ⟨lesserSign, greaterSign, isLesser, isGreater, -, less, even⟩ := split
  have sign := Decimal.negative_shortest tie negative magnitude
  have taken := Decimal.size_shortest_of_lt canonical isLesser isGreater less tie negative
  by_cases toEven : tie = .toEven
  · rw [if_pos ⟨toEven, even⟩] at taken
    rw [if_pos toEven, Decimal.value_eq_iff (sign.trans lesserSign.symm), taken]
  · rw [if_neg (fun both => toEven both.1)] at taken
    rw [if_neg toEven, Decimal.value_eq_iff (sign.trans greaterSign.symm), taken]

theorem not_split_of_shortest_eq {negative : Bool} {magnitude : Binary64}
    (canonical : magnitude.IsCanonical)
    (same : Decimal.shortest .toGreater negative magnitude =
      Decimal.shortest .toEven negative magnitude) (lesser greater : Decimal) :
    ¬(real negative magnitude).IsSplit lesser greater := by
  intro split
  have toGreater := value_of_split canonical split .toGreater
  have toEven := value_of_split canonical split .toEven
  obtain ⟨lesserSign, greaterSign, -, -, -, less, -⟩ := split
  rw [if_neg (by decide), same, toEven, if_pos rfl,
    Decimal.value_eq_iff (lesserSign.trans greaterSign.symm)] at toGreater
  exact less.ne toGreater

/-- The plain text of a number is plain and denotes it, and so does its text inside the compact
text of an object. Where two shortest decimals are left and the lesser one is even, the plain text
has the greater one and the compact text the lesser one; otherwise both denote the same. -/
theorem plain_denotes (number : Number) (canonical : number.IsCanonical) :
    IsPlain (Scss.plain (.number number)).toList ∧
      ∃ inObject : String,
        (∀ name, Scss.plain (.object [(name, .number number)]) =
          "\x7b" ++ (Text.quote name ++ ":" ++ inObject) ++ "\x7d") ∧
        ∃ exact exactInObject : ℚ,
          value? (Scss.plain (.number number)).toList = some exact ∧
          value? inObject.toList = some exactInObject ∧
          number.Denotes exact ∧ number.Denotes exactInObject ∧
          ((∀ lesser greater, ¬number.IsSplit lesser greater) → exact = exactInObject) ∧
          ∀ lesser greater, number.IsSplit lesser greater →
            exact = greater.value ∧ exactInObject = lesser.value := by
  have inObject (name : String) : Scss.plain (.object [(name, .number number)]) =
      "\x7b" ++ (Text.quote name ++ ":" ++ number.written) ++ "\x7d" := by
    simp only [Scss.plain, Value.compact, Value.compactFields, Text.joinWith]
  rw [Scss.plain]
  cases number with
  | integer value =>
      refine ⟨?_, _, inObject, value, value, ?_, ?_, rfl, rfl, fun _ => rfl, fun _ _ => False.elim⟩
      · rw [plain, String.toList_ofList]
        exact isPlain_integerDigits value
      · rw [plain, String.toList_ofList]
        exact value?_integerDigits value
      · rw [written, String.toList_ofList]
        exact value?_integerDigits value
  | real negative magnitude =>
      have denotes (tie : Tie) : (real negative magnitude).Denotes
          (Decimal.shortest tie negative magnitude).value :=
        ⟨_, Decimal.negative_shortest _ _ _, Decimal.isShortest_shortest canonical _ _, rfl⟩
      refine ⟨?_, _, inObject, _, _, ?_, ?_, denotes .toGreater, denotes .toEven,
        fun notSplit => ?_, fun lesser greater split => ?_⟩
      · rw [plain, String.toList_ofList]
        exact Decimal.isPlain_plain _
      · rw [plain, String.toList_ofList]
        exact Decimal.value?_plain _
      · rw [written, String.toList_ofList]
        exact Decimal.value?_written _
      · by_contra different
        exact notSplit _ _ (exists_split negative canonical different)
      · have toGreater := value_of_split canonical split .toGreater
        have toEven := value_of_split canonical split .toEven
        rw [if_neg (by decide)] at toGreater
        rw [if_pos rfl] at toEven
        exact ⟨toGreater, toEven⟩

def sextillion : Number :=
  real false ⟨7629394531250000, 17⟩

theorem sextillion_denotes :
    sextillion.IsCanonical ∧ IsPlain "1000000000000000000000".toList ∧
      ∃ exact : ℚ, value? "1000000000000000000000".toList = some exact ∧
        value? "1e+21".toList = some exact ∧ sextillion.Denotes exact := by
  have canonical : sextillion.IsCanonical := ⟨by decide, by decide, by decide, by decide⟩
  have text : Scss.plain (.number sextillion) = "1000000000000000000000" := by decide +kernel
  have objectText : Scss.plain (.object [("v", .number sextillion)]) =
      "\x7b" ++ (Text.quote "v" ++ ":" ++ "1e+21") ++ "\x7d" := by decide +kernel
  have sameDecimal : Decimal.shortest .toGreater false ⟨7629394531250000, 17⟩ =
      Decimal.shortest .toEven false ⟨7629394531250000, 17⟩ := by decide +kernel
  obtain ⟨isPlain, inObject, isInObject, exact, exactInObject, valued, valuedInObject, denotes, -,
    agree, -⟩ := plain_denotes sextillion canonical
  obtain rfl : inObject = "1e+21" := by
    simpa using (isInObject "v").symm.trans objectText
  obtain rfl := agree (not_split_of_shortest_eq canonical sameDecimal)
  rw [text] at isPlain valued
  exact ⟨canonical, isPlain, exact, valued, valuedInObject, denotes⟩

/-- The number 562949953421312.25, halfway between two decimals of sixteen digits. -/
def halfwayNumber : Number :=
  real false ⟨4503599627370498, -3⟩

theorem halfwayNumber_denotes_otherwise_in_object :
    halfwayNumber.IsCanonical ∧
      Scss.plain (.number halfwayNumber) = "562949953421312.3" ∧
      value? "562949953421312.3".toList = some (5629499534213123 / 10) ∧
      Scss.plain (.object [("v", .number halfwayNumber)]) =
        "\x7b" ++ (Text.quote "v" ++ ":" ++ "562949953421312.2") ++ "\x7d" ∧
      value? "562949953421312.2".toList = some (5629499534213122 / 10) ∧
      (5629499534213123 / 10 : ℚ) ≠ 5629499534213122 / 10 := by
  refine ⟨⟨by decide, by decide, by decide, by decide⟩, ?_⟩
  decide +kernel

end Number
end DesignTokens
