import DesignTokens.Proofs.Identifier.Characters
import DesignTokens.Proofs.Text.Join

/-!
Names of variables. Whatever the path is, its name has name characters only; whether the name may
follow a dollar sign depends on the first name of the path that is written at all.
-/

namespace DesignTokens

namespace Identifier

/-- A name that may follow the dollar sign of a variable. -/
structure IsVariable (name : String) : Prop where
  nonempty : name ≠ ""
  characters : ∀ character ∈ name.toList, isNameChar character = true
  start : ∀ first ∈ name.toList.head?, first.isDigit = false

theorem isVariable_iff (name : String) :
    IsVariable name ↔
      name ≠ "" ∧ name.toList.all isNameChar = true ∧
        name.toList.head?.all (fun first => !first.isDigit) = true := by
  rw [List.all_eq_true, Option.all_eq_true]
  constructor
  · rintro ⟨nonempty, characters, start⟩
    exact ⟨nonempty, characters, fun first begins => by simp [start first begins]⟩
  · rintro ⟨nonempty, characters, start⟩
    exact ⟨nonempty, characters, fun first begins => by simpa using start first begins⟩

instance (name : String) : Decidable (IsVariable name) :=
  decidable_of_iff _ (isVariable_iff name).symm

variable {spell : List Char → List Char}

theorem isNameChar_of_mem_variableNameBy {path : List String} {character : Char}
    (member : character ∈ (variableNameBy spell path).toList) : isNameChar character = true := by
  rcases Text.mem_joinWith member with between | ⟨name, among, inside⟩
  · obtain rfl : character = '-' := List.mem_singleton.mp between
    decide
  · obtain ⟨key, -, rfl⟩ := List.mem_map.mp (List.mem_filter.mp among).1
    exact isNameChar_of_mem_segmentBy inside

theorem variableNameBy_cons_of_unwritten {name : String} (unwritten : segmentBy spell name = "")
    (rest : List String) : variableNameBy spell (name :: rest) = variableNameBy spell rest := by
  simp [variableNameBy, unwritten]

/-- A name that is written stands at the start, before the others. -/
theorem exists_variableNameBy_cons {name : String} (written : segmentBy spell name ≠ "")
    (rest : List String) :
    ∃ others, variableNameBy spell (name :: rest) = segmentBy spell name ++ others := by
  have kept : ((name :: rest).map (segmentBy spell)).filter (fun name => !name.isEmpty) =
      segmentBy spell name :: (rest.map (segmentBy spell)).filter fun name => !name.isEmpty := by
    simp [written]
  rw [variableNameBy, kept]
  cases (rest.map (segmentBy spell)).filter fun name => !name.isEmpty with
  | nil => exact ⟨"", by simp [Text.joinWith]⟩
  | cons next later => exact ⟨"-" ++ Text.joinWith "-" (next :: later), String.append_assoc⟩

theorem variableNameBy_singleton (name : String) :
    variableNameBy spell [name] = segmentBy spell name := by
  by_cases unwritten : segmentBy spell name = ""
  · rw [variableNameBy_cons_of_unwritten unwritten, unwritten]
    rfl
  · simp [variableNameBy, unwritten, Text.joinWith]

/-- The first name of a path that is written at all. -/
def firstWritten? (spell : List Char → List Char) (path : List String) : Option String :=
  path.find? fun name => !(segmentBy spell name).isEmpty

theorem head?_variableNameBy (spell : List Char → List Char) (path : List String) :
    (variableNameBy spell path).toList.head? =
      (firstWritten? spell path).bind fun name => (segmentBy spell name).toList.head? := by
  induction path with
  | nil => rfl
  | cons name rest ih =>
      by_cases unwritten : segmentBy spell name = ""
      · rw [variableNameBy_cons_of_unwritten unwritten, ih]
        simp [firstWritten?, unwritten]
      · obtain ⟨others, whole⟩ := exists_variableNameBy_cons unwritten rest
        have someCharacter : (segmentBy spell name).toList ≠ [] := by simpa using unwritten
        rw [whole, String.toList_append, List.head?_append_of_ne_nil _ someCharacter]
        simp [firstWritten?, unwritten]

theorem isVariable_variableNameBy_iff (path : List String) :
    IsVariable (variableNameBy spell path) ↔
      ∃ name first, firstWritten? spell path = some name ∧
        (segmentBy spell name).toList.head? = some first ∧ first.isDigit = false := by
  have begins := head?_variableNameBy spell path
  constructor
  · rintro ⟨nonempty, -, start⟩
    have someCharacter : (variableNameBy spell path).toList ≠ [] := by simpa using nonempty
    obtain ⟨first, rest, whole⟩ := List.exists_cons_of_ne_nil someCharacter
    have isFirst : (variableNameBy spell path).toList.head? = some first := by rw [whole]; rfl
    rw [isFirst] at begins
    obtain ⟨name, found, starts⟩ := Option.bind_eq_some_iff.mp begins.symm
    exact ⟨name, first, found, starts, start first isFirst⟩
  · rintro ⟨name, first, found, starts, noDigit⟩
    rw [found, Option.bind_some, starts] at begins
    refine ⟨?_, fun _ => isNameChar_of_mem_variableNameBy, ?_⟩
    · intro empty
      rw [empty] at begins
      cases begins
    · intro other isFirst
      rw [begins] at isFirst
      cases isFirst
      exact noDigit

end Identifier
end DesignTokens
