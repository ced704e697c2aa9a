import DesignTokens.Proofs.Identifier.Characters
import DesignTokens.Scss.Value
import Mathlib.Data.List.Forall2

/-!
Quoted texts in stylesheets: keys without a name, and families that are no keywords. Within the
quotes a backslash escapes the character after it, so that a text with backslashes or line breaks,
or a family with quotation marks, is not what its quotation stands for.
-/

namespace DesignTokens

namespace Text

/-- What is written between two quotation marks, and the text that it stands for. -/
inductive Spells : List Char → List Char → Prop
  | nil : Spells [] []
  | plain {character written text} : character ≠ '"' → character ≠ '\\' → character ≠ '\n' →
      Spells written text → Spells (character :: written) (character :: text)
  | escaped {character written text} : character ≠ '\n' → Spells written text →
      Spells ('\\' :: character :: written) (character :: text)

/-- A quotation begins and ends with a quotation mark; between them all others are escaped. -/
def IsQuotation (quotation text : String) : Prop :=
  ∃ written, quotation.toList = '"' :: (written ++ ['"']) ∧ Spells written text.toList

theorem isQuotation_quoted_iff (written text : String) :
    IsQuotation ("\"" ++ written ++ "\"") text ↔ Spells written.toList text.toList := by
  constructor
  · rintro ⟨other, whole, spells⟩
    have inQuotes : ("\"" ++ written ++ "\"").toList = '"' :: (written.toList ++ ['"']) := by simp
    rw [inQuotes, List.cons.injEq] at whole
    rwa [List.append_cancel_right whole.2]
  · intro spells
    exact ⟨written.toList, by simp, spells⟩

variable {written text : List Char}

theorem Spells.newline_not_mem (spells : Spells written text) :
    '\n' ∉ written ∧ '\n' ∉ text := by
  induction spells with
  | nil => simp
  | plain _ _ notBreak _ ih => simp [ih, Ne.symm notBreak]
  | escaped notBreak _ ih => simp [ih, Ne.symm notBreak]

/-- Each backslash of a text takes two in its quotation, and each quotation mark one. -/
theorem Spells.count_backslash_le (spells : Spells written text) :
    2 * text.count '\\' + text.count '"' ≤ written.count '\\' := by
  induction spells with
  | nil => simp
  | plain notMark notBackslash _ _ ih =>
      rwa [List.count_cons_of_ne notBackslash, List.count_cons_of_ne notMark,
        List.count_cons_of_ne notBackslash]
  | @escaped character written text _ _ ih =>
      by_cases isMark : character = '"'
      · subst isMark
        simp (disch := decide) only [List.count_cons_self, List.count_cons_of_ne]
        omega
      · by_cases isBackslash : character = '\\'
        · subst isBackslash
          simp (disch := decide) only [List.count_cons_self, List.count_cons_of_ne]
          omega
        · rw [List.count_cons_of_ne isBackslash, List.count_cons_of_ne isMark,
            List.count_cons_self, List.count_cons_of_ne isBackslash]
          omega

theorem spells_self_iff (text : List Char) :
    Spells text text ↔ '"' ∉ text ∧ '\\' ∉ text ∧ '\n' ∉ text := by
  constructor
  · intro spells
    have counts := spells.count_backslash_le
    refine ⟨?_, ?_, spells.newline_not_mem.2⟩
    · exact List.count_eq_zero.mp (by omega)
    · exact List.count_eq_zero.mp (by omega)
  · rintro ⟨noMark, noBackslash, noBreak⟩
    induction text with
    | nil => exact .nil
    | cons character rest ih =>
        rw [List.mem_cons, not_or] at noMark noBackslash noBreak
        exact .plain (Ne.symm noMark.1) (Ne.symm noBackslash.1) (Ne.symm noBreak.1)
          (ih noMark.2 noBackslash.2 noBreak.2)

/-- A text with a backslash before each quotation mark. -/
def withMarksEscaped (text : List Char) : List Char :=
  text.flatMap fun character => if character = '"' then ['\\', '"'] else [character]

theorem count_backslash_withMarksEscaped (text : List Char) :
    (withMarksEscaped text).count '\\' = text.count '\\' + text.count '"' := by
  induction text with
  | nil => rfl
  | cons character rest ih =>
      rw [withMarksEscaped] at ih ⊢
      rw [List.flatMap_cons, List.count_append, ih]
      by_cases isMark : character = '"'
      · subst isMark
        simp (disch := decide) only [if_true, List.count_cons_self, List.count_cons_of_ne,
          List.count_nil]
        omega
      · have step : (character :: rest).count '\\' =
            [character].count '\\' + rest.count '\\' := by
          rw [← List.count_append, List.singleton_append]
        rw [if_neg isMark, List.count_cons_of_ne isMark]
        omega

theorem spells_withMarksEscaped_iff (text : List Char) :
    Spells (withMarksEscaped text) text ↔ '\\' ∉ text ∧ '\n' ∉ text := by
  constructor
  · intro spells
    have counts := spells.count_backslash_le
    rw [count_backslash_withMarksEscaped] at counts
    exact ⟨List.count_eq_zero.mp (by omega), spells.newline_not_mem.2⟩
  · rintro ⟨noBackslash, noBreak⟩
    induction text with
    | nil => exact .nil
    | cons character rest ih =>
        rw [List.mem_cons, not_or] at noBackslash noBreak
        have others := ih noBackslash.2 noBreak.2
        rw [withMarksEscaped, List.flatMap_cons]
        by_cases isMark : character = '"'
        · rw [if_pos isMark, isMark]
          exact .escaped (by decide) others
        · rw [if_neg isMark]
          exact .plain isMark (Ne.symm noBackslash.1) (Ne.symm noBreak.1) others

end Text

theorem Identifier.isQuotation_mapKeyBy_iff {spell : List Char → List Char} {key : String}
    (unwritten : segmentBy spell key = "") :
    Text.IsQuotation (mapKeyBy spell key) key ↔ '\\' ∉ key.toList ∧ '\n' ∉ key.toList := by
  have quoted : mapKeyBy spell key = "\"" ++ Text.replaceChar '"' ['\\', '"'] key ++ "\"" := by
    simp [mapKeyBy, unwritten]
  rw [quoted, Text.isQuotation_quoted_iff, Text.replaceChar, String.toList_ofList]
  exact Text.spells_withMarksEscaped_iff key.toList

namespace Scss

theorem isQuotation_family_iff {name : String} (notGeneric : name ∉ genericFamilies) :
    Text.IsQuotation (family (.text name)) name ↔
      '"' ∉ name.toList ∧ '\\' ∉ name.toList ∧ '\n' ∉ name.toList := by
  have quoted : family (.text name) = "\"" ++ name ++ "\"" := by
    simp [family, plain, notGeneric]
  rw [quoted, Text.isQuotation_quoted_iff]
  exact Text.spells_self_iff name.toList

/-- A key without a name is quoted well unless it has a backslash or a line break. A list of
families has one entry for each of them, and a family that is no keyword is quoted well unless it
has a backslash, a line break or a quotation mark. -/
theorem quotations_of_keys_and_families (spell : List Char → List Char) (key : String)
    (families : List Value) :
    (Identifier.segmentBy spell key = "" →
      (Text.IsQuotation (Identifier.mapKeyBy spell key) key ↔
        '\\' ∉ key.toList ∧ '\n' ∉ key.toList)) ∧
    ∃ entries,
      render .fontFamily (.list families) = "(" ++ Text.joinWith ", " entries ++ ")" ∧
      List.Forall₂ (fun value entry => ∀ name, value = .text name → name ∉ genericFamilies →
        (Text.IsQuotation entry name ↔
          '"' ∉ name.toList ∧ '\\' ∉ name.toList ∧ '\n' ∉ name.toList)) families entries := by
  refine ⟨Identifier.isQuotation_mapKeyBy_iff, families.map family,
    by simp [render, simple, fontFamily], ?_⟩
  rw [List.forall₂_map_right_iff, List.forall₂_same]
  rintro _ - name rfl notGeneric
  exact isQuotation_family_iff notGeneric

theorem plain_texts_quoted :
    Identifier.segmentBy id "@\"@" = "" ∧ Text.IsQuotation (Identifier.mapKeyBy id "@\"@") "@\"@" ∧
    "Open Sans" ∉ genericFamilies ∧ ∃ entry,
      render .fontFamily (.list [.text "Open Sans"]) = "(" ++ entry ++ ")" ∧
      Text.IsQuotation entry "Open Sans" := by
  have unwritten : Identifier.segmentBy id "@\"@" = "" := by decide +kernel
  have notGeneric : "Open Sans" ∉ genericFamilies := by decide
  obtain ⟨ofKey, entries, whole, quotations⟩ :=
    quotations_of_keys_and_families id "@\"@" [.text "Open Sans"]
  obtain ⟨entry, rest, quotation, others, rfl⟩ := List.forall₂_cons_left_iff.mp quotations
  obtain rfl := List.forall₂_nil_left_iff.mp others
  exact ⟨unwritten, (ofKey unwritten).mpr (by decide), notGeneric, entry, whole,
    (quotation _ rfl notGeneric).mpr (by decide)⟩

/-- The quotation mark of a family is not escaped, and neither is the backslash of a key, which
takes the final quotation mark with it. -/
theorem marks_and_backslashes_misquoted :
    render .fontFamily (.list [.text "Say \"Hi\""]) = "(\"Say \"Hi\"\")" ∧
    ¬ Text.IsQuotation "\"Say \"Hi\"\"" "Say \"Hi\"" ∧
    Identifier.segmentBy id "\\" = "" ∧ Identifier.mapKeyBy id "\\" = "\"\\\"" ∧
    ¬ Text.IsQuotation "\"\\\"" "\\" := by
  have misspelled (text : String) (refused : '"' ∈ text.toList ∨ '\\' ∈ text.toList) :
      ¬ Text.IsQuotation ("\"" ++ text ++ "\"") text := by
    rw [Text.isQuotation_quoted_iff, Text.spells_self_iff]
    rintro ⟨noMark, noBackslash, -⟩
    exact refused.elim noMark noBackslash
  refine ⟨by decide +kernel, misspelled "Say \"Hi\"" (by decide), by decide +kernel,
    by decide +kernel, misspelled "\\" (by decide)⟩

end Scss
end DesignTokens
