import DesignTokens.Proofs.Identifier.Characters
import Mathlib.Data.List.Infix
import Mathlib.Logic.Function.Basic

/-!
When two names have the same key in a map. A quoted key has one name only; the others are shared by
all names that are spelled alike.
-/

namespace DesignTokens

namespace Text

theorem flatMap_injective_of_head {code : Char → List Char}
    (begins : ∀ character, (code character).head? = some character) :
    Function.Injective fun text : List Char => text.flatMap code := by
  have someCode (character : Char) : code character ≠ [] := by
    intro empty
    have start := begins character
    rw [empty] at start
    cases start
  intro first second same
  induction first generalizing second with
  | nil =>
      cases second with
      | nil => rfl
      | cons character rest => simp [eq_comm, someCode] at same
  | cons character rest ih =>
      cases second with
      | nil => simp [someCode] at same
      | cons other later =>
          have starts := congrArg List.head? same
          simp only [List.flatMap_cons, List.head?_append, begins, Option.some_or,
            Option.some.injEq] at starts
          subst starts
          simp only [List.flatMap_cons, List.append_cancel_left_eq] at same
          rw [ih same]

theorem flatMap_injective_of_last {code : Char → List Char}
    (ends : ∀ character, (code character).getLast? = some character) :
    Function.Injective fun text : List Char => text.flatMap code := by
  have begins : ∀ character, (code character).reverse.head? = some character := by
    intro character
    rw [List.head?_reverse, ends]
  intro first second same
  have reversed := congrArg List.reverse same
  simp only [List.reverse_flatMap] at reversed
  exact List.reverse_injective (flatMap_injective_of_head begins reversed)

variable {character : Char} {replacement : List Char} {first second : String}

theorem replaceChar_inj_of_head (begins : replacement.head? = some character) :
    replaceChar character replacement first = replaceChar character replacement second ↔
      first = second := by
  have codes : ∀ found, (if found = character then replacement else [found]).head? =
      some found := by
    intro found
    split
    · rename_i same
      rw [begins, same]
    · rfl
  rw [replaceChar, replaceChar, String.ofList_inj, (flatMap_injective_of_head codes).eq_iff,
    String.toList_inj]

theorem replaceChar_inj_of_last (ends : replacement.getLast? = some character) :
    replaceChar character replacement first = replaceChar character replacement second ↔
      first = second := by
  have codes : ∀ found, (if found = character then replacement else [found]).getLast? =
      some found := by
    intro found
    split
    · rename_i same
      rw [ends, same]
    · rfl
  rw [replaceChar, replaceChar, String.ofList_inj, (flatMap_injective_of_last codes).eq_iff,
    String.toList_inj]

theorem lowerChar_ne_nil (character : Char) : lowerChar character ≠ [] := by
  rw [lowerChar]
  split
  · simp
  · split
    · simp
    · split <;> simp

end Text

namespace Identifier

theorem kebab_eq_empty_iff (name : String) : kebab name = "" ↔ name = "" := by
  rw [kebab, ← String.toList_inj, String.toList_ofList, ← String.toList_inj, String.toList_empty]
  cases name.toList with
  | nil => simp [kebabAfter]
  | cons first rest =>
      rw [kebabAfter]
      split <;> simp [Text.lowerChar_ne_nil]

theorem kebab_eq_iff (first second : String) :
    kebab first = kebab second ↔
      first = second ∨ (kebab first = kebab second ∧ kebab first ≠ "") := by
  constructor
  · intro same
    by_cases empty : kebab first = ""
    · left
      rw [(kebab_eq_empty_iff first).mp empty,
        (kebab_eq_empty_iff second).mp (same.symm.trans empty)]
    · exact .inr ⟨same, empty⟩
  · rintro (rfl | ⟨same, -⟩)
    · rfl
    · exact same

variable {spell : List Char → List Char}

theorem mapKeyBy_of_written {name : String} (written : segmentBy spell name ≠ "") :
    mapKeyBy spell name = segmentBy spell name := by
  simp [mapKeyBy, written]

theorem mapKeyBy_of_unwritten {name : String} (unwritten : segmentBy spell name = "") :
    mapKeyBy spell name = "\"" ++ Text.replaceChar '"' ['\\', '"'] name ++ "\"" := by
  simp [mapKeyBy, unwritten]

theorem quote_not_mem_segmentBy (name : String) : '"' ∉ (segmentBy spell name).toList :=
  fun member => absurd (isNameChar_of_mem_segmentBy member) (by decide)

theorem quoted_ne_segmentBy (text name : String) :
    "\"" ++ text ++ "\"" ≠ segmentBy spell name := by
  intro same
  have inside : '"' ∈ (segmentBy spell name).toList := by simp [← same]
  exact quote_not_mem_segmentBy name inside

theorem mapKeyBy_eq_iff (first second : String) :
    mapKeyBy spell first = mapKeyBy spell second ↔
      first = second ∨
        (segmentBy spell first = segmentBy spell second ∧ segmentBy spell first ≠ "") := by
  rcases eq_or_ne (segmentBy spell first) "" with unwritten | written
  · rcases eq_or_ne (segmentBy spell second) "" with alsoUnwritten | written
    · rw [mapKeyBy_of_unwritten unwritten, mapKeyBy_of_unwritten alsoUnwritten,
        String.append_left_inj, String.append_right_inj, Text.replaceChar_inj_of_last rfl]
      simp [unwritten]
    · rw [mapKeyBy_of_unwritten unwritten, mapKeyBy_of_written written]
      constructor
      · intro same
        exact absurd same (quoted_ne_segmentBy _ second)
      · rintro (rfl | ⟨-, writtenFirst⟩)
        · exact absurd unwritten written
        · exact absurd unwritten writtenFirst
  · rcases eq_or_ne (segmentBy spell second) "" with unwritten | alsoWritten
    · rw [mapKeyBy_of_written written, mapKeyBy_of_unwritten unwritten]
      constructor
      · intro same
        exact absurd same.symm (quoted_ne_segmentBy _ first)
      · rintro (rfl | ⟨same, -⟩)
        · exact absurd unwritten written
        · exact absurd (same.trans unwritten) written
    · rw [mapKeyBy_of_written written, mapKeyBy_of_written alsoWritten]
      constructor
      · intro same
        exact .inr ⟨same, written⟩
      · rintro (rfl | ⟨same, -⟩)
        · rfl
        · exact same

end Identifier
end DesignTokens
