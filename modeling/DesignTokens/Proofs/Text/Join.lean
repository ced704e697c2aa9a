import DesignTokens.Text.Join
import Mathlib.Data.List.Infix

/-!
Texts joined with a separator, and lists of characters divided at one and joined again.
-/

namespace DesignTokens
namespace Text

theorem not_mem_of_mem_splitOn {mark : Char} {text piece : List Char}
    (member : piece ∈ text.splitOn mark) : mark ∉ piece := by
  induction text generalizing piece with
  | nil =>
      rw [List.splitOn_nil, List.mem_singleton] at member
      simp [member]
  | cons first rest ih =>
      rw [List.splitOn_cons_eq_if_modifyHead] at member
      split at member
      · rcases List.mem_cons.mp member with rfl | later
        · simp
        · exact ih later
      · rename_i different
        obtain ⟨head, others, whole⟩ := List.exists_cons_of_ne_nil (List.splitOn_ne_nil mark rest)
        rw [whole] at ih member
        rcases List.mem_cons.mp member with rfl | later
        · have notMark : mark ≠ first := by
            rintro rfl
            simp at different
          simp [notMark, ih List.mem_cons_self]
        · exact ih (List.mem_cons_of_mem head later)

theorem mem_intercalate {mark : List Char} {joined : List (List Char)} {character : Char}
    (member : character ∈ mark.intercalate joined) :
    character ∈ mark ∨ ∃ piece ∈ joined, character ∈ piece := by
  induction joined with
  | nil => simp at member
  | cons piece rest ih =>
      by_cases last : rest = []
      · rw [last, List.intercalate_singleton] at member
        exact .inr ⟨piece, List.mem_cons_self, member⟩
      · rw [List.intercalate_cons_of_ne_nil last, List.mem_append, List.mem_append] at member
        rcases member with (here | between) | there
        · exact .inr ⟨piece, List.mem_cons_self, here⟩
        · exact .inl between
        · rcases ih there with between | ⟨other, among, inside⟩
          · exact .inl between
          · exact .inr ⟨other, List.mem_cons_of_mem piece among, inside⟩

theorem infix_intercalate (mark : List Char) {joined : List (List Char)} {piece : List Char}
    (member : piece ∈ joined) : piece <:+: mark.intercalate joined := by
  induction joined with
  | nil => cases member
  | cons first rest ih =>
      by_cases last : rest = []
      · rw [last] at member ⊢
        rw [List.mem_singleton.mp member, List.intercalate_singleton]
      · rw [List.intercalate_cons_of_ne_nil last]
        rcases List.mem_cons.mp member with rfl | among
        · rw [List.append_assoc]
          exact (List.prefix_append _ _).isInfix
        · exact (ih among).trans (List.suffix_append _ _).isInfix

theorem infix_of_mem_splitOn {mark : Char} {text piece : List Char}
    (member : piece ∈ text.splitOn mark) : piece <:+: text := by
  have inJoined := infix_intercalate [mark] member
  rwa [List.intercalate_splitOn] at inJoined

theorem intercalate_append_of_ne_nil {first second : List (List Char)} (mark : List Char)
    (someFirst : first ≠ []) (someSecond : second ≠ []) :
    mark.intercalate (first ++ second) =
      mark.intercalate first ++ mark ++ mark.intercalate second := by
  induction first with
  | nil => exact absurd rfl someFirst
  | cons piece rest ih =>
      by_cases last : rest = []
      · rw [last, List.singleton_append, List.intercalate_cons_of_ne_nil someSecond,
          List.intercalate_singleton]
      · rw [List.cons_append, List.intercalate_cons_of_ne_nil (by simp [last]), ih last,
          List.intercalate_cons_of_ne_nil last]
        simp only [List.append_assoc]

theorem intercalate_eq_nil_iff {joined : List (List Char)} (mark : List Char)
    (nonempty : ∀ piece ∈ joined, piece ≠ []) : mark.intercalate joined = [] ↔ joined = [] := by
  constructor
  · intro empty
    cases joined with
    | nil => rfl
    | cons piece rest =>
        obtain ⟨first, others, rfl⟩ := List.exists_cons_of_ne_nil (nonempty _ List.mem_cons_self)
        simp at empty
  · rintro rfl
    rfl

section

variable {groups : List (List (List Char))} (mark : List Char)

theorem filter_intercalate_eq_nil_iff (nonempty : ∀ group ∈ groups, ∀ piece ∈ group, piece ≠ []) :
    (groups.map mark.intercalate).filter (fun joined => !joined.isEmpty) = [] ↔
      groups.flatten = [] := by
  rw [List.filter_eq_nil_iff, List.forall_mem_map, List.flatten_eq_nil_iff]
  apply forall₂_congr
  intro group among
  simp [intercalate_eq_nil_iff mark (nonempty group among)]

/-- Groups may be joined one by one, and what is empty then is left out. -/
theorem intercalate_groups (nonempty : ∀ group ∈ groups, ∀ piece ∈ group, piece ≠ []) :
    mark.intercalate ((groups.map mark.intercalate).filter fun joined => !joined.isEmpty) =
      mark.intercalate groups.flatten := by
  induction groups with
  | nil => rfl
  | cons group rest ih =>
      rw [List.forall_mem_cons] at nonempty
      have others := ih nonempty.2
      have noneKept := filter_intercalate_eq_nil_iff mark nonempty.2
      by_cases empty : group = []
      · rw [empty]
        simpa using others
      · have someText : mark.intercalate group ≠ [] := by
          rwa [ne_eq, intercalate_eq_nil_iff mark nonempty.1]
        have kept : ((group :: rest).map mark.intercalate).filter (fun joined => !joined.isEmpty) =
            mark.intercalate group ::
              (rest.map mark.intercalate).filter fun joined => !joined.isEmpty := by
          simp [someText]
        rw [kept, List.flatten_cons]
        by_cases last : rest.flatten = []
        · rw [noneKept.mpr last, last, List.append_nil, List.intercalate_singleton]
        · rw [List.intercalate_cons_of_ne_nil (mt noneKept.mp last), others,
            intercalate_append_of_ne_nil mark empty last]

end

theorem joinWith_eq_intercalate (separator : String) (texts : List String) :
    joinWith separator texts = separator.intercalate texts := by
  induction texts with
  | nil => rfl
  | cons text rest ih =>
      cases rest with
      | nil => simp [joinWith]
      | cons next later => simp [joinWith, ih]

theorem toList_joinWith (separator : String) (texts : List String) :
    (joinWith separator texts).toList =
      separator.toList.intercalate (texts.map String.toList) := by
  rw [joinWith_eq_intercalate, String.toList_intercalate]

theorem mem_joinWith {separator : String} {texts : List String} {character : Char}
    (member : character ∈ (joinWith separator texts).toList) :
    character ∈ separator.toList ∨ ∃ text ∈ texts, character ∈ text.toList := by
  rw [toList_joinWith] at member
  rcases mem_intercalate member with between | ⟨_, among, inside⟩
  · exact .inl between
  · obtain ⟨text, isText, rfl⟩ := List.mem_map.mp among
    exact .inr ⟨text, isText, inside⟩

theorem infix_joinWith (separator : String) {text : String} {texts : List String}
    (member : text ∈ texts) : text.toList <:+: (joinWith separator texts).toList := by
  rw [toList_joinWith]
  exact infix_intercalate separator.toList (List.mem_map_of_mem member)

theorem joinWith_cons_of_ne_nil (separator text : String) {rest : List String}
    (someText : rest ≠ []) :
    joinWith separator (text :: rest) = text ++ separator ++ joinWith separator rest := by
  obtain ⟨next, later, rfl⟩ := List.exists_cons_of_ne_nil someText
  rfl

theorem joinWith_append {first second : List String} (separator : String)
    (someFirst : first ≠ []) (someSecond : second ≠ []) :
    joinWith separator (first ++ second) =
      joinWith separator first ++ separator ++ joinWith separator second := by
  simp only [joinWith_eq_intercalate]
  exact String.intercalate_append_of_ne_nil someFirst someSecond

theorem joinWith_newline_append (texts : List String) (someText : texts ≠ []) :
    joinWith "\n" texts ++ "\n" = String.join (texts.map (· ++ "\n")) := by
  induction texts with
  | nil => exact absurd rfl someText
  | cons text rest ih =>
      by_cases last : rest = []
      · simp [last, joinWith]
      · rw [joinWith_cons_of_ne_nil _ _ last, List.map_cons, String.join_cons, ← ih last]
        simp only [String.append_assoc]

/-- Texts with a blank line between them are lines of text with one line break between them. -/
theorem joinWith_blankLine_append {texts : List String} (someText : texts ≠ []) :
    joinWith "\n\n" texts ++ "\n" = joinWith "\n" (texts.map (· ++ "\n")) := by
  have blankLine : "\n\n" = "\n" ++ "\n" := rfl
  induction texts with
  | nil => exact absurd rfl someText
  | cons text rest ih =>
      by_cases last : rest = []
      · simp [last, joinWith]
      · rw [joinWith_cons_of_ne_nil _ _ last, List.map_cons,
          joinWith_cons_of_ne_nil _ _ (by simpa using last), ← ih last, blankLine]
        simp only [String.append_assoc]

end Text
end DesignTokens
