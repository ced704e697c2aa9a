import DesignTokens.Scss.Identifier
import Mathlib.Data.List.Basic

/-!
The characters of names. Kebab case neither loses nor makes a quotation mark, and the name of a
segment has name characters only; so a text in kebab case is no quoted key.
-/

namespace DesignTokens
namespace Text

theorem replaceChar_append (character : Char) (replacement : List Char) (first second : String) :
    replaceChar character replacement (first ++ second) =
      replaceChar character replacement first ++ replaceChar character replacement second := by
  simp [replaceChar]

theorem replaceChar_of_not_mem {character : Char} {text : String}
    (absent : character ∉ text.toList) (replacement : List Char) :
    replaceChar character replacement text = text := by
  have kept : (text.toList.flatMap fun found =>
      if found = character then replacement else [found]) = text.toList := by
    generalize text.toList = characters at absent
    induction characters with
    | nil => rfl
    | cons first rest ih =>
        rw [List.mem_cons, not_or] at absent
        rw [List.flatMap_cons, if_neg (Ne.symm absent.1), ih absent.2]
        rfl
  rw [replaceChar, kept, String.ofList_toList]

theorem replaceChar_self (character : Char) (text : String) :
    replaceChar character [character] text = text := by
  have kept (found : Char) :
      (if found = character then [character] else [found]) = [found] := by
    split
    · rename_i same
      rw [same]
    · rfl
  simp only [replaceChar, kept, List.flatMap_singleton', String.ofList_toList]

theorem quote_below_lowercaseShifts :
    ∀ shift ∈ lowercaseShifts, ('"'.toNat : Int) < shift.first + shift.offset := by
  decide +kernel

theorem ofNat_ne_quote {code : Nat} (above : '"'.toNat < code) : Char.ofNat code ≠ '"' := by
  intro same
  by_cases valid : code.isValidChar
  · have codes : (Char.ofNat code).toNat = code := by
      rw [Char.ofNat, dif_pos valid]
      rfl
    rw [same] at codes
    exact absurd codes (Nat.ne_of_lt above)
  · have isNull : Char.ofNat code = '\x00' := by
      rw [Char.ofNat, dif_neg valid]
      rfl
    rw [isNull] at same
    exact absurd same (by decide)

theorem count_quote_lowerChar_of_ascii {character : Char} (ascii : character.toNat < 0x80) :
    (lowerChar character).count '"' = [character].count '"' := by
  have all : ∀ code < 0x80,
      (lowerChar (Char.ofNat code)).count '"' = [Char.ofNat code].count '"' := by
    decide +kernel
  have here := all character.toNat ascii
  rwa [Char.ofNat_toNat] at here

/-- Lowercase keeps quotation marks and makes none. -/
theorem count_quote_lowerChar (character : Char) :
    (lowerChar character).count '"' = [character].count '"' := by
  by_cases ascii : character.toNat < 0x80
  · exact count_quote_lowerChar_of_ascii ascii
  · have other : character ≠ '"' := by
      rintro rfl
      exact ascii (by decide)
    rw [lowerChar, if_neg ascii]
    split
    · rename_i isDotted
      subst isDotted
      decide
    · split
      · rename_i shift found
        have above := quote_below_lowercaseShifts shift (List.mem_of_find?_eq_some found)
        have covers := List.find?_some found
        simp only [Run.contains, Bool.and_eq_true, decide_eq_true_eq] at covers
        have different : Char.ofNat (character.toNat + shift.offset).toNat ≠ '"' :=
          ofNat_ne_quote (by omega)
        simp [different, other]
      · rfl

end Text

namespace Identifier

variable {spell : List Char → List Char}

theorem count_quote_kebabAfter (previous : Option Char) (text : List Char) :
    (kebabAfter previous text).count '"' = text.count '"' := by
  induction text generalizing previous with
  | nil => rfl
  | cons character rest ih =>
      have step : (Text.lowerChar character ++ kebabAfter (some character) rest).count '"' =
          (character :: rest).count '"' := by
        rw [List.count_append, Text.count_quote_lowerChar, ih, ← List.count_append]
        rfl
      rw [kebabAfter]
      split
      · rw [List.count_cons_of_ne (by decide), step]
      · exact step

theorem count_quote_kebab (text : String) :
    (kebab text).toList.count '"' = text.toList.count '"' := by
  rw [kebab, String.toList_ofList, count_quote_kebabAfter]

theorem mem_of_mem_collapseDashes {character : Char} {text : List Char}
    (member : character ∈ collapseDashes text) : character ∈ text := by
  induction text with
  | nil => exact member
  | cons first rest ih =>
      rw [collapseDashes] at member
      split at member
      · exact List.mem_cons_of_mem first (ih member)
      · rcases List.mem_cons.mp member with here | later
        · exact here ▸ List.mem_cons_self
        · exact List.mem_cons_of_mem first (ih later)

theorem mem_of_mem_trimDashes {character : Char} {text : List Char}
    (member : character ∈ trimDashes text) : character ∈ text := by
  have inBack := (List.dropWhile_sublist isDash).mem (List.mem_reverse.mp member)
  exact (List.dropWhile_sublist isDash).mem (List.mem_reverse.mp inBack)

theorem isNameChar_of_mem_segmentBy {character : Char} {text : String}
    (member : character ∈ (segmentBy spell text).toList) : isNameChar character = true := by
  rw [segmentBy, String.toList_ofList] at member
  exact (List.mem_filter.mp (mem_of_mem_collapseDashes (mem_of_mem_trimDashes member))).2

theorem count_quote_escaped (text : String) :
    (Text.replaceChar '"' ['\\', '"'] text).toList.count '"' = text.toList.count '"' := by
  rw [Text.replaceChar, String.toList_ofList]
  induction text.toList with
  | nil => rfl
  | cons character rest ih =>
      rw [List.flatMap_cons, List.count_append, ih, List.count_cons, Nat.add_comm]
      by_cases isQuote : character = '"'
      · simp [isQuote]
      · simp [isQuote]

/-- A quoted key has two quotation marks more than its text, a name in kebab case has no more. -/
theorem segmentBy_ne_empty_of_kebab {key : String} (same : kebab key = mapKeyBy spell key) :
    segmentBy spell key ≠ "" := by
  intro empty
  have counts := congrArg (fun text => text.toList.count '"') same
  simp [mapKeyBy, empty, count_quote_kebab, count_quote_escaped] at counts
  omega

theorem newline_not_mem_kebab {key : String} (same : kebab key = mapKeyBy spell key) :
    '\n' ∉ (kebab key).toList := by
  have isName : mapKeyBy spell key = segmentBy spell key := by
    simp [mapKeyBy, segmentBy_ne_empty_of_kebab same]
  rw [same, isName]
  intro member
  exact absurd (isNameChar_of_mem_segmentBy member) (by decide)

end Identifier
end DesignTokens
