import DesignTokens.Proofs.Identifier.NormalForm

/-!
Names of joined paths. A dash ends a word and makes none, so a path whose spelling is its own text
may be joined before it is made into a name or after it.
-/

namespace DesignTokens
namespace Identifier

theorem kebabAfter_dash (text : List Char) : kebabAfter (some '-') text = kebabAfter none text := by
  cases text with
  | nil => rfl
  | cons first rest =>
      have noWord : endsWord '-' = false := by decide +kernel
      simp [kebabAfter, noWord]

theorem kebabAfter_append_dash (previous : Option Char) (first second : List Char) :
    kebabAfter previous (first ++ '-' :: second) =
      kebabAfter previous first ++ '-' :: kebabAfter none second := by
  induction first generalizing previous with
  | nil =>
      have isName : isNameChar '-' = true := by decide
      obtain ⟨lowered, small, -⟩ := nameChar_unchanged isName
      simp [kebabAfter, kebabAfter_dash, lowered, small]
  | cons character rest ih =>
      rw [List.cons_append, kebabAfter, kebabAfter, ih]
      split
      · rw [List.cons_append, List.append_assoc]
      · rw [List.append_assoc]

theorem nameChars_append_dash (first second : List Char) :
    nameChars (first ++ '-' :: second) = nameChars first ++ '-' :: nameChars second := by
  have dash : nameChars ['-'] = ['-'] :=
    nameChars_of_nameChars (List.forall_mem_singleton.mpr (by decide))
  rw [nameChars] at dash
  rw [nameChars, nameChars, nameChars, List.append_cons, List.map_append, List.map_append,
    List.filter_append, List.filter_append, dash, List.append_assoc]
  rfl

/-- The name characters of a text that is spelled as it stands. -/
def letters (text : List Char) : List Char :=
  nameChars (kebabAfter none text)

theorem letters_append_dash (first second : List Char) :
    letters (first ++ '-' :: second) = letters first ++ '-' :: letters second := by
  rw [letters, kebabAfter_append_dash, nameChars_append_dash]
  rfl

theorem pieces_letters_joinWith (path : List String) :
    pieces (letters (Text.joinWith "-" path).toList) =
      path.flatMap fun name => pieces (letters name.toList) := by
  induction path with
  | nil => rfl
  | cons name rest ih =>
      cases rest with
      | nil => simp [Text.joinWith]
      | cons next later =>
          have joined : (Text.joinWith "-" (name :: next :: later)).toList =
              name.toList ++ '-' :: (Text.joinWith "-" (next :: later)).toList := by
            simp [Text.joinWith]
          rw [joined, letters_append_dash, pieces_append_dash, ih]
          rfl

theorem forall_mem_joinWith {plain : Char → Prop} (dash : plain '-') {path : List String}
    (plainPath : ∀ name ∈ path, ∀ character ∈ name.toList, plain character) :
    ∀ character ∈ (Text.joinWith "-" path).toList, plain character := by
  intro character member
  rcases Text.mem_joinWith member with between | ⟨name, among, inside⟩
  · obtain rfl : character = '-' := by simpa using between
    exact dash
  · exact plainPath name among character inside

section

variable {spell : List Char → List Char}

theorem lettersBy_of_unchanged {text : String} (unchanged : spell text.toList = text.toList) :
    lettersBy spell text = letters text.toList := by
  rw [lettersBy, unchanged, kebab, String.ofList_toList, String.toList_ofList, letters]

/-- Characters that are spelled as they stand, the dash among them. -/
structure Keeps (spell : List Char → List Char) (plain : Char → Prop) : Prop where
  dash : plain '-'
  unchanged : ∀ text, (∀ character ∈ text, plain character) → spell text = text

variable {plain : Char → Prop} (keeps : Keeps spell plain) {path : List String}
  (plainPath : ∀ name ∈ path, ∀ character ∈ name.toList, plain character)

include keeps plainPath

theorem pieces_lettersBy_joinWith :
    pieces (lettersBy spell (Text.joinWith "-" path)) = pathPieces spell path := by
  rw [lettersBy_of_unchanged (keeps.unchanged _ (forall_mem_joinWith keeps.dash plainPath)),
    pieces_letters_joinWith, pathPieces]
  apply List.flatMap_congr
  intro name member
  rw [lettersBy_of_unchanged (keeps.unchanged _ (plainPath name member))]

theorem variableNameBy_eq_segmentBy :
    variableNameBy spell path = segmentBy spell (Text.joinWith "-" path) := by
  rw [← String.toList_inj, toList_variableNameBy, toList_segmentBy,
    pieces_lettersBy_joinWith keeps plainPath]

/-- A name in groups within others, and the same name written flat in their place. -/
theorem variableNameBy_flat (before after : List String) :
    variableNameBy spell (before ++ Text.joinWith "-" path :: after) =
      variableNameBy spell (before ++ path ++ after) := by
  have inPlace : pathPieces spell (before ++ Text.joinWith "-" path :: after) =
      pathPieces spell (before ++ path ++ after) := by
    rw [pathPieces, List.flatMap_append, List.flatMap_cons,
      pieces_lettersBy_joinWith keeps plainPath, pathPieces, pathPieces, List.flatMap_append,
      List.flatMap_append, List.append_assoc]
  rw [← String.toList_inj, toList_variableNameBy, toList_variableNameBy, inPlace]

end

theorem variableNameBy_append (spell : List Char → List Char) (first second : List String) :
    variableNameBy spell (first ++ second) =
      if variableNameBy spell first = "" then variableNameBy spell second
      else if variableNameBy spell second = "" then variableNameBy spell first
      else variableNameBy spell first ++ "-" ++ variableNameBy spell second := by
  have both : pathPieces spell (first ++ second) =
      pathPieces spell first ++ pathPieces spell second := List.flatMap_append
  simp only [variableNameBy_eq_empty_iff]
  rw [← String.toList_inj, toList_variableNameBy, both]
  split
  · rename_i unwritten
    rw [unwritten, List.nil_append, toList_variableNameBy]
  · rename_i written
    split
    · rename_i unwritten
      rw [unwritten, List.append_nil, toList_variableNameBy]
    · rename_i alsoWritten
      have dash : "-".toList = ['-'] := by simp
      rw [String.toList_append, String.toList_append, toList_variableNameBy,
        toList_variableNameBy, dash, Text.intercalate_append_of_ne_nil ['-'] written alsoWritten]

/-- Characters below U+0080 only. -/
def IsAscii (text : List Char) : Prop :=
  ∀ character ∈ text, character.toNat < 0x80

/-- The name of an ASCII path is that of its joined text: names in groups are the flat names with
dashes, also among other groups. A longer path has the names of its parts, as far as they are
written. -/
theorem variableNameBy_of_joined {spell : List Char → List Char}
    (keepsAscii : ∀ text, IsAscii text → spell text = text) :
    (∀ path : List String, (∀ name ∈ path, IsAscii name.toList) →
      variableNameBy spell path = segmentBy spell (Text.joinWith "-" path) ∧
      (∀ other, Text.joinWith "-" other = Text.joinWith "-" path →
        variableNameBy spell other = variableNameBy spell path) ∧
      ∀ before after, variableNameBy spell (before ++ Text.joinWith "-" path :: after) =
        variableNameBy spell (before ++ path ++ after)) ∧
    ∀ first second, variableNameBy spell (first ++ second) =
      if variableNameBy spell first = "" then variableNameBy spell second
      else if variableNameBy spell second = "" then variableNameBy spell first
      else variableNameBy spell first ++ "-" ++ variableNameBy spell second := by
  have keeps : Keeps spell fun character => character.toNat < 0x80 := ⟨by decide, keepsAscii⟩
  refine ⟨?_, variableNameBy_append spell⟩
  intro path asciiPath
  have ofPath := variableNameBy_eq_segmentBy keeps asciiPath
  refine ⟨ofPath, ?_, variableNameBy_flat keeps asciiPath⟩
  intro other sameText
  have asciiOther : ∀ name ∈ other, IsAscii name.toList := by
    intro name member character inside
    have joined := (Text.infix_joinWith "-" member).subset inside
    rw [sameText] at joined
    exact forall_mem_joinWith keeps.dash asciiPath character joined
  rw [ofPath, variableNameBy_eq_segmentBy keeps asciiOther, sameText]

/-- Transliteration of texts that are not ASCII already. -/
def transliterateOthers (text : List Char) : List Char :=
  if text.all fun character => character.toNat < 0x80 then text else Text.transliterate text

theorem transliterateOthers_of_ascii (text : List Char) (ascii : IsAscii text) :
    transliterateOthers text = text := by
  apply if_pos
  simpa [IsAscii] using ascii

theorem variableNameBy_of_joined_spacings :
    (∀ text, IsAscii text → transliterateOthers text = text) ∧
      (∀ name ∈ ["spacing", "", "Small Gap"], IsAscii name.toList) ∧
      Text.joinWith "-" ["spacing-", "Small Gap"] =
        Text.joinWith "-" ["spacing", "", "Small Gap"] ∧
      variableNameBy transliterateOthers ["spacing", "", "Small Gap"] =
        segmentBy transliterateOthers "spacing--Small Gap" ∧
      variableNameBy transliterateOthers ["spacing-", "Small Gap"] =
        variableNameBy transliterateOthers ["spacing", "", "Small Gap"] ∧
      variableNameBy transliterateOthers ["Größe", "spacing--Small Gap"] =
        variableNameBy transliterateOthers ["Größe", "spacing", "", "Small Gap"] ∧
      variableNameBy transliterateOthers ["Größe", "spacing", "", "Small Gap"] =
        "grosse-spacing-small-gap" := by
  have ascii : ∀ name ∈ ["spacing", "", "Small Gap"], IsAscii name.toList := by
    simp [IsAscii]
  have sameText : Text.joinWith "-" ["spacing-", "Small Gap"] =
      Text.joinWith "-" ["spacing", "", "Small Gap"] := by decide +kernel
  obtain ⟨joined, sameName, flat⟩ :=
    (variableNameBy_of_joined transliterateOthers_of_ascii).1 _ ascii
  exact ⟨transliterateOthers_of_ascii, ascii, sameText, joined, sameName _ sameText,
    flat ["Größe"] [], by decide +kernel⟩

end Identifier
end DesignTokens
