import DesignTokens.Document.Encoding
import DesignTokens.Proofs.Files.SameFile
import Mathlib.Data.List.Induction

/-!
Paths that are put together from a directory, a base and an ending. The ending is the extension of
the path, unless it is the whole name of the file: a dot at the start of a name begins none.
-/

namespace DesignTokens

namespace Path

/-- A name begins after this text. -/
def BeforeName (text : List Char) : Prop :=
  text = [] ∨ text.getLast? = some '/'

instance (text : List Char) : Decidable (BeforeName text) :=
  inferInstanceAs (Decidable (_ ∨ _))

theorem beforeName_append_iff {folder : List Char} (before : BeforeName folder)
    (text : List Char) : BeforeName (folder ++ text) ↔ BeforeName text := by
  cases text with
  | nil => simpa [BeforeName] using before
  | cons first rest => simp [BeforeName, List.getLast?_append]

theorem beforeName_iff_of_no_slash {folder file : List Char} (before : BeforeName folder)
    (noSlash : '/' ∉ file) : BeforeName (folder ++ file) ↔ file = [] := by
  rw [beforeName_append_iff before, BeforeName, or_iff_left_iff_imp]
  intro last
  exact absurd (List.mem_of_getLast? last) noSlash

theorem pieces_ne_nil (text : List Char) : pieces text ≠ [] := by
  cases text with
  | nil => simp [pieces]
  | cons character rest =>
      rw [pieces]
      split
      · simp
      · split <;> simp

theorem pieces_of_no_slash {text : List Char} (noSlash : '/' ∉ text) : pieces text = [text] := by
  induction text with
  | nil => rfl
  | cons character rest ih =>
      rw [List.mem_cons, not_or] at noSlash
      rw [pieces, if_neg (Ne.symm noSlash.1), ih noSlash.2]

theorem pieces_append_slash (before rest : List Char) :
    pieces (before ++ '/' :: rest) = pieces before ++ pieces rest := by
  induction before with
  | nil => simp [pieces]
  | cons character later ih =>
      rw [List.cons_append, pieces, pieces, ih]
      split
      · rfl
      · obtain ⟨piece, others, whole⟩ := List.exists_cons_of_ne_nil (pieces_ne_nil later)
        rw [whole]
        rfl

theorem exists_pieces_of_file {folder file : List Char} (before : BeforeName folder)
    (noSlash : '/' ∉ file) : ∃ earlier, pieces (folder ++ file) = earlier ++ [file] := by
  rcases before with rfl | last
  · exact ⟨[], pieces_of_no_slash noSlash⟩
  · obtain ⟨above, rfl⟩ := List.getLast?_eq_some_iff.mp last
    refine ⟨pieces above, ?_⟩
    rw [List.append_assoc, List.singleton_append, pieces_append_slash, pieces_of_no_slash noSlash]

/-- Every text is what is before its last name and that name, which may be empty. -/
theorem exists_file (text : List Char) :
    ∃ folder file, text = folder ++ file ∧ BeforeName folder ∧ '/' ∉ file := by
  induction text using List.reverseRecOn with
  | nil => exact ⟨[], [], rfl, .inl rfl, List.not_mem_nil⟩
  | append_singleton text last ih =>
      by_cases slash : last = '/'
      · exact ⟨text ++ [last], [], by simp, .inr (by simp [slash]), List.not_mem_nil⟩
      · obtain ⟨folder, file, rfl, before, noSlash⟩ := ih
        refine ⟨folder, file ++ [last], by simp, before, ?_⟩
        simp [noSlash, Ne.symm slash]

theorem componentOf?_of_mem {piece : List Char} {character : Char} (member : character ∈ piece)
    (notDot : character ≠ '.') :
    componentOf? piece = some (.normal (String.ofList piece)) := by
  have notDots (count : Nat) : piece ≠ List.replicate count '.' := by
    rintro rfl
    exact notDot (List.eq_of_mem_replicate member)
  have noPiece : piece ≠ [] := notDots 0
  have noDot : piece ≠ ['.'] := notDots 1
  have noDots : piece ≠ ['.', '.'] := notDots 2
  simp [componentOf?, noPiece, noDot, noDots]

theorem fileName?_of_file {path : Path} {folder file : List Char}
    (whole : path.text.toList = folder ++ file) (before : BeforeName folder)
    (noSlash : '/' ∉ file)
    (named : componentOf? file = some (.normal (String.ofList file))) :
    path.fileName? = some (String.ofList file) := by
  obtain ⟨earlier, divided⟩ := exists_pieces_of_file before noSlash
  obtain ⟨start, components, -⟩ := path.components_eq
  have steps : path.steps = earlier.filterMap componentOf? ++ [.normal (String.ofList file)] := by
    rw [Path.steps, whole, divided, List.filterMap_append, List.filterMap_cons_some named,
      List.filterMap_nil]
  rw [fileName?, components, steps, ← List.append_assoc, List.getLast?_concat]

theorem afterLastDot?_dot (stem : List Char) {ending : List Char} (noDot : '.' ∉ ending) :
    afterLastDot? (stem ++ '.' :: ending) = if stem = [] then none else some ending := by
  have reversed : (stem ++ '.' :: ending).reverse = ending.reverse ++ '.' :: stem.reverse := by
    simp
  have all : ∀ character ∈ ending.reverse, (character != '.') = true := by
    intro character member
    rw [List.mem_reverse] at member
    simp only [bne_iff_ne]
    rintro rfl
    exact noDot member
  simp only [afterLastDot?, reversed, List.dropWhile_append_of_pos all,
    List.takeWhile_append_of_pos all]
  cases stem with
  | nil => rfl
  | cons first rest => simp

theorem join_eq (directory : Path) (name : String) :
    ∃ folder, (directory.join name).text.toList = folder ++ name.toList ∧ BeforeName folder := by
  unfold join
  split
  · exact ⟨[], rfl, .inl rfl⟩
  · split
    · rename_i ends
      refine ⟨directory.text.toList, by simp, ?_⟩
      simpa [BeforeName] using ends
    · exact ⟨directory.text.toList ++ ['/'], by simp, .inr (by simp)⟩

/-- A file's extension is what follows the last dot of the ending, unless nothing is before it. -/
theorem extension?_join (directory : Path) (base : String) {extension : String}
    {stem ending : List Char} (parts : extension.toList = stem ++ '.' :: ending)
    (noSlash : '/' ∉ extension.toList) (noDot : '.' ∉ ending) (someEnding : ending ≠ []) :
    (directory.join (base ++ extension)).extension? =
      if BeforeName base.toList ∧ stem = [] then none else some (String.ofList ending) := by
  obtain ⟨folder, whole, before⟩ := join_eq directory (base ++ extension)
  obtain ⟨inside, file, split, beforeFile, noSlashFile⟩ := exists_file (folder ++ base.toList)
  have text : (directory.join (base ++ extension)).text.toList =
      inside ++ (file ++ extension.toList) := by
    rw [whole, String.toList_append, ← List.append_assoc, split, List.append_assoc]
  have noSlashWhole : '/' ∉ file ++ extension.toList := by
    rw [List.mem_append, not_or]
    exact ⟨noSlashFile, noSlash⟩
  have named : componentOf? (file ++ extension.toList) =
      some (.normal (String.ofList (file ++ extension.toList))) := by
    obtain ⟨character, member⟩ := List.exists_mem_of_ne_nil ending someEnding
    have inside : character ∈ file ++ extension.toList := by simp [parts, member]
    apply componentOf?_of_mem inside
    rintro rfl
    exact noDot member
  have noName : file = [] ↔ BeforeName base.toList := by
    rw [← beforeName_iff_of_no_slash beforeFile noSlashFile, ← split,
      beforeName_append_iff before]
  rw [extension?, fileName?_of_file text beforeFile noSlashWhole named, Option.bind_some,
    String.toList_ofList, parts, ← List.append_assoc, afterLastDot?_dot _ noDot]
  simp only [List.append_eq_nil_iff, noName]
  split <;> rfl

end Path

end DesignTokens
