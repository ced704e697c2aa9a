import DesignTokens.Proofs.Identifier.VariableName
import DesignTokens.Text.Transliteration
import Mathlib.Data.List.DropRight
import Mathlib.Data.List.Infix
import Mathlib.Logic.Function.Iterate

/-!
The normal form of names: pieces without dashes, with one dash between neighbours. It does not
matter whether a text is divided at its dashes or its dashes are halved until no two follow one
another.
-/

namespace DesignTokens

theorem Text.transliterate_of_plain {text : List Char}
    (plain : ∀ character ∈ text, isPlainAscii character = true) : transliterate text = text := by
  have front : text.takeWhile isPlainAscii = text := List.takeWhile_eq_self_iff.mpr plain
  have noneAfter : text.dropWhile isPlainAscii = [] := List.dropWhile_eq_nil_iff.mpr plain
  rw [transliterate, front, noneAfter, List.map_nil]
  exact List.append_nil text

namespace Identifier

/-- What stands between the dashes of a text, without what is empty. -/
def pieces (text : List Char) : List (List Char) :=
  (text.splitOn '-').filter fun piece => !piece.isEmpty

@[simp] theorem pieces_nil : pieces [] = [] := rfl

theorem pieces_append_dash (first second : List Char) :
    pieces (first ++ '-' :: second) = pieces first ++ pieces second := by
  rw [pieces, List.splitOn_append_cons_self, List.filter_append]
  rfl

@[simp] theorem pieces_dash (text : List Char) : pieces ('-' :: text) = pieces text :=
  pieces_append_dash [] text

@[simp] theorem pieces_concat_dash (text : List Char) : pieces (text ++ ['-']) = pieces text := by
  rw [pieces_append_dash, pieces_nil, List.append_nil]

theorem mem_pieces {text piece : List Char} (member : piece ∈ pieces text) :
    piece ≠ [] ∧ '-' ∉ piece ∧ piece ⊆ text := by
  obtain ⟨among, someCharacter⟩ := List.mem_filter.mp member
  exact ⟨by simpa using someCharacter, Text.not_mem_of_mem_splitOn among,
    (Text.infix_of_mem_splitOn among).subset⟩

/-- A text has two dashes in a row. -/
def HasPair (text : List Char) : Prop :=
  ['-', '-'] <:+: text

/-- Name characters, and dashes only where one stands between two others. -/
structure IsNormal (text : List Char) : Prop where
  characters : ∀ character ∈ text, isNameChar character = true
  start : text.head? ≠ some '-'
  finish : text.getLast? ≠ some '-'
  single : ¬ HasPair text

theorem nil_mem_splitOn_iff {text : List Char} (someText : text ≠ []) :
    [] ∈ text.splitOn '-' ↔
      text.head? = some '-' ∨ text.getLast? = some '-' ∨ HasPair text := by
  constructor
  · intro member
    obtain ⟨before, after, whole⟩ := List.append_of_mem member
    have joined : ['-'].intercalate (before ++ [] :: after) = text := by
      rw [← whole, List.intercalate_splitOn]
    by_cases atStart : before = []
    · by_cases atEnd : after = []
      · subst atStart atEnd
        exact absurd joined.symm someText
      · rw [atStart, List.nil_append, List.intercalate_cons_of_ne_nil atEnd] at joined
        left
        simp [← joined]
    · rw [Text.intercalate_append_of_ne_nil ['-'] atStart (by simp)] at joined
      right
      by_cases atEnd : after = []
      · left
        simp [← joined, atEnd]
      · right
        rw [List.intercalate_cons_of_ne_nil atEnd] at joined
        exact ⟨['-'].intercalate before, ['-'].intercalate after, by simp [← joined]⟩
  · have divided (before after : List Char) : text = before ++ '-' :: after →
        (before.splitOn '-' ++ after.splitOn '-') = text.splitOn '-' := by
      rintro rfl
      rw [List.splitOn_append_cons_self]
    rintro (starts | ends | ⟨before, after, whole⟩)
    · obtain ⟨rest, rfl⟩ := List.head?_eq_some_iff.mp starts
      rw [← divided [] rest rfl]
      simp
    · obtain ⟨rest, rfl⟩ := List.getLast?_eq_some_iff.mp ends
      rw [← divided rest [] rfl]
      simp
    · rw [← divided before ('-' :: after) (by simp [← whole]), List.mem_append]
      right
      exact (List.splitOn_append_cons_self [] after).symm ▸ List.mem_cons_self

theorem intercalate_pieces {text : List Char} (start : text.head? ≠ some '-')
    (finish : text.getLast? ≠ some '-') (single : ¬ HasPair text) :
    ['-'].intercalate (pieces text) = text := by
  by_cases empty : text = []
  · rw [empty]
    rfl
  · have noneEmpty : [] ∉ text.splitOn '-' := by
      rw [nil_mem_splitOn_iff empty]
      rintro (starts | ends | pair)
      · exact start starts
      · exact finish ends
      · exact single pair
    have kept : pieces text = text.splitOn '-' := by
      rw [pieces, List.filter_eq_self]
      intro piece member
      have someCharacter : piece ≠ [] := fun isNil => noneEmpty (isNil ▸ member)
      simpa using someCharacter
    rw [kept, List.intercalate_splitOn]

/-- A piece of a name: some name characters, and no dash among them. -/
structure IsPiece (piece : List Char) : Prop where
  nonempty : piece ≠ []
  noDash : '-' ∉ piece
  characters : ∀ character ∈ piece, isNameChar character = true

theorem isNormal_intercalate {joined : List (List Char)}
    (isPiece : ∀ piece ∈ joined, IsPiece piece) : IsNormal (['-'].intercalate joined) := by
  have characters : ∀ character ∈ ['-'].intercalate joined, isNameChar character = true := by
    intro character member
    rcases Text.mem_intercalate member with between | ⟨piece, among, inside⟩
    · obtain rfl := List.mem_singleton.mp between
      decide
    · exact (isPiece piece among).characters character inside
  by_cases empty : joined = []
  · rw [empty]
    exact ⟨by simp, by simp, by simp, by simp [HasPair]⟩
  · have divided : (['-'].intercalate joined).splitOn '-' = joined :=
      List.splitOn_intercalate '-' (fun piece among => (isPiece piece among).noDash) empty
    have noneEmpty : [] ∉ joined := fun among => (isPiece [] among).nonempty rfl
    have someText : ['-'].intercalate joined ≠ [] := by
      intro isNil
      rw [isNil, List.splitOn_nil] at divided
      exact noneEmpty (divided ▸ List.mem_cons_self)
    rw [← divided, nil_mem_splitOn_iff someText, not_or, not_or] at noneEmpty
    exact ⟨characters, noneEmpty.1, noneEmpty.2.1, noneEmpty.2.2⟩

theorem isPiece_of_mem_pieces {text piece : List Char}
    (characters : ∀ character ∈ text, isNameChar character = true)
    (member : piece ∈ pieces text) : IsPiece piece := by
  obtain ⟨nonempty, noDash, inText⟩ := mem_pieces member
  exact ⟨nonempty, noDash, fun character inside => characters character (inText inside)⟩

theorem hasPair_cons_iff (first : Char) (rest : List Char) :
    HasPair (first :: rest) ↔ first = '-' ∧ rest.head? = some '-' ∨ HasPair rest := by
  have begins : ['-'] <+: rest ↔ rest.head? = some '-' := by
    cases rest with
    | nil => simp
    | cons next later => simp [List.cons_prefix_cons, eq_comm]
  rw [HasPair, List.infix_cons_iff, List.cons_prefix_cons, begins, eq_comm]
  rfl

section

variable {text : List Char}

theorem pieces_dropWhile (text : List Char) : pieces (text.dropWhile isDash) = pieces text := by
  induction text with
  | nil => rfl
  | cons first rest ih =>
      rw [List.dropWhile_cons]
      split
      · rename_i dash
        obtain rfl : first = '-' := by simpa [isDash] using dash
        rw [ih, pieces_dash]
      · rfl

theorem pieces_rdropWhile (text : List Char) : pieces (text.rdropWhile isDash) = pieces text := by
  induction text using List.reverseRecOn with
  | nil => rfl
  | append_singleton text last ih =>
      rw [List.rdropWhile_concat]
      split
      · rename_i dash
        obtain rfl : last = '-' := by simpa [isDash] using dash
        rw [ih, pieces_concat_dash]
      · rfl

/-- Once no two dashes follow one another, trimming leaves the pieces with one dash between. -/
theorem trimDashes_of_single (single : ¬ HasPair text) :
    trimDashes text = ['-'].intercalate (pieces text) := by
  have trimmed : trimDashes text = (text.dropWhile isDash).rdropWhile isDash := rfl
  have inFront := List.rdropWhile_prefix isDash (text.dropWhile isDash)
  have samePieces : pieces (trimDashes text) = pieces text := by
    rw [trimmed, pieces_rdropWhile, pieces_dropWhile]
  rw [← samePieces]
  symm
  apply intercalate_pieces
  · intro starts
    obtain ⟨rest, whole⟩ := List.head?_eq_some_iff.mp starts
    rw [trimmed] at whole
    rw [whole] at inFront
    have noDash := List.head?_dropWhile_not isDash text
    obtain ⟨later, whole⟩ := inFront
    rw [← whole] at noDash
    simp [isDash] at noDash
  · intro ends
    obtain ⟨rest, whole⟩ := List.getLast?_eq_some_iff.mp ends
    rw [trimmed] at whole
    have noDash := List.rdropWhile_last_not isDash (text.dropWhile isDash) (by simp [whole])
    simp [whole, isDash] at noDash
  · intro pair
    exact single (pair.trans (inFront.isInfix.trans (List.dropWhile_suffix isDash).isInfix))

theorem not_hasPair_collapseDashes (text : List Char) : ¬ HasPair (collapseDashes text) := by
  induction text with
  | nil => simp [collapseDashes, HasPair]
  | cons first rest ih =>
      rw [collapseDashes]
      split
      · exact ih
      · rename_i apart
        rw [hasPair_cons_iff]
        rintro (⟨rfl, starts⟩ | pair)
        · simp [isDash, starts] at apart
        · exact ih pair

theorem pieces_append_collapseDashes (front text : List Char) :
    pieces (front ++ collapseDashes text) = pieces (front ++ text) := by
  -- A character that is no dash goes on with the piece in front, so the front grows by it.
  induction text generalizing front with
  | nil => rfl
  | cons first rest ih =>
      rw [collapseDashes]
      split
      · rename_i pair
        simp only [isDash, Bool.and_eq_true, decide_eq_true_eq, Option.any_eq_true] at pair
        obtain ⟨rfl, _, starts, rfl⟩ := pair
        obtain ⟨later, whole⟩ := List.head?_eq_some_iff.mp starts
        have others := ih []
        rw [whole, List.nil_append, List.nil_append, pieces_dash] at others
        rw [whole, pieces_append_dash, pieces_append_dash, others]
      · by_cases dash : first = '-'
        · rw [dash, pieces_append_dash, pieces_append_dash]
          exact congrArg _ (ih [])
        · simpa using ih (front ++ [first])

theorem pieces_collapseDashes (text : List Char) :
    pieces (collapseDashes text) = pieces text :=
  pieces_append_collapseDashes [] text

/-- One dash for each two that follow one another, from left to right. -/
def halveDashes : List Char → List Char
  | first :: second :: rest =>
      if isDash first && isDash second then '-' :: halveDashes rest
      else first :: halveDashes (second :: rest)
  | text => text

theorem pieces_append_halveDashes (front text : List Char) :
    pieces (front ++ halveDashes text) = pieces (front ++ text) := by
  induction text using halveDashes.induct generalizing front with
  | case1 first second rest dashes ih =>
      obtain ⟨rfl, rfl⟩ : first = '-' ∧ second = '-' := by simpa [isDash] using dashes
      rw [halveDashes, if_pos dashes, pieces_append_dash, pieces_append_dash, pieces_dash]
      exact congrArg _ (ih [])
  | case2 first second rest apart ih =>
      rw [halveDashes, if_neg apart]
      simpa using ih (front ++ [first])
  | case3 text short =>
      rw [halveDashes]
      exact short

theorem length_halveDashes_le (text : List Char) : (halveDashes text).length ≤ text.length := by
  induction text using halveDashes.induct with
  | case1 first second rest dashes ih =>
      rw [halveDashes, if_pos dashes]
      simp only [List.length_cons]
      omega
  | case2 first second rest apart ih =>
      rw [halveDashes, if_neg apart]
      simpa using ih
  | case3 text short =>
      rw [halveDashes]
      exact short

theorem length_halveDashes_lt (pair : HasPair text) :
    (halveDashes text).length < text.length := by
  induction text using halveDashes.induct with
  | case1 first second rest dashes ih =>
      have shorter := length_halveDashes_le rest
      rw [halveDashes, if_pos dashes]
      simp only [List.length_cons]
      omega
  | case2 first second rest apart ih =>
      rw [halveDashes, if_neg apart]
      rw [hasPair_cons_iff] at pair
      rcases pair with ⟨rfl, starts⟩ | later
      · obtain rfl : second = '-' := by simpa using starts
        simp [isDash] at apart
      · simpa using ih later
  | case3 text short =>
      cases text with
      | nil => simp [HasPair] at pair
      | cons first rest =>
          cases rest with
          | nil =>
              rw [hasPair_cons_iff] at pair
              simp [HasPair] at pair
          | cons second later => exact absurd rfl (short first second later)

/-- Two dashes are in a row before each of these passes, and after them no more. -/
structure EndsAfter (passes : Nat) (text : List Char) : Prop where
  running : ∀ earlier < passes, HasPair (halveDashes^[earlier] text)
  ended : ¬ HasPair (halveDashes^[passes] text)

theorem exists_endsAfter (text : List Char) : ∃ passes, EndsAfter passes text := by
  -- A pass over two dashes in a row leaves a shorter text.
  generalize bound : text.length = length
  induction length using Nat.strongRecOn generalizing text with
  | ind length ih =>
      by_cases pair : HasPair text
      · have shorter := length_halveDashes_lt pair
        obtain ⟨passes, running, ended⟩ := ih _ (by omega) (halveDashes text) rfl
        refine ⟨passes + 1, ?_, ?_⟩
        · intro earlier before
          cases earlier with
          | zero => exact pair
          | succ earlier => exact running earlier (by omega)
        · exact ended
      · exact ⟨0, fun earlier before => absurd before (Nat.not_lt_zero earlier), pair⟩

theorem pieces_iterate_halveDashes (passes : Nat) (text : List Char) :
    pieces (halveDashes^[passes] text) = pieces text := by
  induction passes generalizing text with
  | zero => rfl
  | succ passes ih =>
      rw [Function.iterate_succ_apply, ih]
      exact pieces_append_halveDashes [] text

theorem EndsAfter.trimDashes_eq {passes : Nat} (ends : EndsAfter passes text) :
    trimDashes (halveDashes^[passes] text) = trimDashes (collapseDashes text) := by
  rw [trimDashes_of_single ends.ended, trimDashes_of_single (not_hasPair_collapseDashes text),
    pieces_iterate_halveDashes]
  rw [pieces_collapseDashes]

end

theorem isPlainAscii_of_isNameChar {character : Char} (isName : isNameChar character = true) :
    Text.isPlainAscii character = true := by
  simp only [isNameChar, isDash, Char.isDigit, Bool.or_eq_true, Bool.and_eq_true,
    decide_eq_true_eq, Char.le_def, UInt32.le_iff_toNat_le] at isName
  rw [Text.isPlainAscii, decide_eq_true_eq]
  rcases isName with ((⟨-, letter⟩ | ⟨-, digit⟩) | rfl) | rfl
  · exact Nat.lt_of_le_of_lt letter (by decide)
  · exact Nat.lt_of_le_of_lt digit (by decide)
  · decide
  · decide

theorem ascii_of_isNameChar {character : Char} (isName : isNameChar character = true) :
    character.toNat < 0x80 := by
  have plain := isPlainAscii_of_isNameChar isName
  rw [Text.isPlainAscii, decide_eq_true_eq] at plain
  omega

theorem nameChar_unchanged {character : Char} (isName : isNameChar character = true) :
    Text.lowerChar character = [character] ∧ Text.isCapital character = false ∧
      Text.isBlank character = false := by
  have all : ∀ code < 0x80, isNameChar (Char.ofNat code) = true →
      Text.lowerChar (Char.ofNat code) = [Char.ofNat code] ∧
        Text.isCapital (Char.ofNat code) = false ∧ Text.isBlank (Char.ofNat code) = false := by
    decide +kernel
  have here := all character.toNat (ascii_of_isNameChar isName)
  rw [Char.ofNat_toNat] at here
  exact here isName

theorem kebabAfter_of_nameChars {text : List Char}
    (isName : ∀ character ∈ text, isNameChar character = true) (previous : Option Char) :
    kebabAfter previous text = text := by
  induction text generalizing previous with
  | nil => rfl
  | cons first rest ih =>
      rw [List.forall_mem_cons] at isName
      obtain ⟨lowered, small, -⟩ := nameChar_unchanged isName.1
      rw [kebabAfter, small, lowered, ih isName.2]
      rfl

theorem transliterate_of_nameChars (text : List Char)
    (isName : ∀ character ∈ text, isNameChar character = true) :
    Text.transliterate text = text := by
  apply Text.transliterate_of_plain
  intro character member
  exact isPlainAscii_of_isNameChar (isName character member)

theorem nameChars_of_nameChars {text : List Char}
    (isName : ∀ character ∈ text, isNameChar character = true) : nameChars text = text := by
  induction text with
  | nil => rfl
  | cons first rest ih =>
      rw [List.forall_mem_cons] at isName
      have notBlank := (nameChar_unchanged isName.1).2.2
      have others := ih isName.2
      rw [nameChars] at others ⊢
      simp [notBlank, isName.1, others]

section

variable (spell : List Char → List Char)

/-- The name characters of a text, before its dashes are put in order. -/
def lettersBy (text : String) : List Char :=
  nameChars (kebab (String.ofList (spell text.toList))).toList

theorem isNameChar_of_mem_lettersBy {text : String} {character : Char}
    (member : character ∈ lettersBy spell text) : isNameChar character = true :=
  (List.mem_filter.mp member).2

theorem segmentBy_eq_trimDashes (text : String) :
    segmentBy spell text = String.ofList (trimDashes (collapseDashes (lettersBy spell text))) := by
  simp [segmentBy, lettersBy, kebab]

theorem toList_segmentBy (text : String) :
    (segmentBy spell text).toList = ['-'].intercalate (pieces (lettersBy spell text)) := by
  rw [segmentBy_eq_trimDashes, String.toList_ofList,
    trimDashes_of_single (not_hasPair_collapseDashes _), pieces_collapseDashes]

theorem isNormal_segmentBy (text : String) : IsNormal (segmentBy spell text).toList := by
  rw [toList_segmentBy]
  apply isNormal_intercalate
  intro piece
  exact isPiece_of_mem_pieces fun _ => isNameChar_of_mem_lettersBy spell

/-- The pieces of the names on a path, one after the other. -/
def pathPieces (path : List String) : List (List Char) :=
  path.flatMap fun text => pieces (lettersBy spell text)

theorem isPiece_of_mem_pathPieces {path : List String} {piece : List Char}
    (member : piece ∈ pathPieces spell path) : IsPiece piece := by
  obtain ⟨text, -, inText⟩ := List.mem_flatMap.mp member
  exact isPiece_of_mem_pieces (fun _ => isNameChar_of_mem_lettersBy spell) inText

theorem toList_variableNameBy (path : List String) :
    (variableNameBy spell path).toList = ['-'].intercalate (pathPieces spell path) := by
  have sameTest : (fun name : String => !name.isEmpty) =
      (fun joined : List Char => !joined.isEmpty) ∘ String.toList := by
    funext name
    rw [Function.comp_apply, Bool.eq_iff_iff]
    simp
  have sameNames : String.toList ∘ segmentBy spell =
      ['-'].intercalate ∘ fun text => pieces (lettersBy spell text) := by
    funext text
    rw [Function.comp_apply, Function.comp_apply, toList_segmentBy]
  have joinedNames : ((path.map (segmentBy spell)).filter fun name => !name.isEmpty).map
      String.toList = ((path.map fun text => pieces (lettersBy spell text)).map
        ['-'].intercalate).filter fun joined => !joined.isEmpty := by
    rw [sameTest, ← List.filter_map, List.map_map, List.map_map, sameNames]
  have dash : "-".toList = ['-'] := by simp
  rw [variableNameBy, Text.toList_joinWith, joinedNames, dash, pathPieces, List.flatMap_def]
  apply Text.intercalate_groups ['-']
  intro group among piece inside
  obtain ⟨text, -, rfl⟩ := List.mem_map.mp among
  exact (mem_pieces inside).1

theorem isNormal_variableNameBy (path : List String) :
    IsNormal (variableNameBy spell path).toList := by
  rw [toList_variableNameBy]
  exact isNormal_intercalate fun _ => isPiece_of_mem_pathPieces spell

theorem variableNameBy_eq_empty_iff (path : List String) :
    variableNameBy spell path = "" ↔ pathPieces spell path = [] := by
  rw [← String.toList_inj, toList_variableNameBy, String.toList_empty]
  apply Text.intercalate_eq_nil_iff
  intro piece member
  exact (isPiece_of_mem_pathPieces spell member).nonempty

variable {spell} (keeps : ∀ text : List Char,
  (∀ character ∈ text, isNameChar character = true) → spell text = text)

include keeps

theorem lettersBy_of_normal {text : String} (normal : IsNormal text.toList) :
    lettersBy spell text = text.toList := by
  rw [lettersBy, keeps _ normal.characters, kebab, String.toList_ofList, String.toList_ofList,
    kebabAfter_of_nameChars normal.characters, nameChars_of_nameChars normal.characters]

theorem segmentBy_of_normal {text : String} (normal : IsNormal text.toList) :
    segmentBy spell text = text := by
  rw [← String.toList_inj, toList_segmentBy, lettersBy_of_normal keeps normal]
  exact intercalate_pieces normal.start normal.finish normal.single

theorem variableNameBy_map_segmentBy (path : List String) :
    variableNameBy spell (path.map (segmentBy spell)) = variableNameBy spell path := by
  have unchanged : (path.map (segmentBy spell)).map (segmentBy spell) =
      path.map (segmentBy spell) := by
    rw [List.map_map]
    apply List.map_congr_left
    intro text _
    exact segmentBy_of_normal keeps (isNormal_segmentBy spell text)
  rw [variableNameBy, unchanged, variableNameBy]

end

/-- Names are in normal form, and are left as they are when they are made into names again. The
name of a text is made of what stands between the dashes, and its dashes may as well be halved: in
the end no two follow one another, whatever the text is. Of the spelling it matters only that it
leaves name characters as they are. -/
theorem segmentBy_normalizes {spell : List Char → List Char}
    (keeps : ∀ text : List Char,
      (∀ character ∈ text, isNameChar character = true) → spell text = text) :
    (∀ text, let letters := nameChars (kebab (String.ofList (spell text.toList))).toList
      (segmentBy spell text).toList = ['-'].intercalate (pieces letters) ∧
      (∃ passes, EndsAfter passes letters ∧
        (segmentBy spell text).toList = trimDashes (halveDashes^[passes] letters)) ∧
      IsNormal (segmentBy spell text).toList ∧
      segmentBy spell (segmentBy spell text) = segmentBy spell text) ∧
    ∀ path, IsNormal (variableNameBy spell path).toList ∧
      segmentBy spell (variableNameBy spell path) = variableNameBy spell path ∧
      variableNameBy spell (path.map (segmentBy spell)) = variableNameBy spell path := by
  constructor
  · intro text letters
    obtain ⟨passes, ends⟩ := exists_endsAfter letters
    refine ⟨toList_segmentBy spell text, ⟨passes, ends, ?_⟩, isNormal_segmentBy spell text,
      segmentBy_of_normal keeps (isNormal_segmentBy spell text)⟩
    rw [segmentBy_eq_trimDashes, String.toList_ofList]
    exact ends.trimDashes_eq.symm
  · intro path
    have normal := isNormal_variableNameBy spell path
    exact ⟨normal, segmentBy_of_normal keeps normal, variableNameBy_map_segmentBy keeps path⟩

theorem segmentBy_normalizes_spaced :
    (∀ text : List Char, (∀ character ∈ text, isNameChar character = true) →
      Text.transliterate text = text) ∧
      segmentBy Text.transliterate " Café  auLait--2" = "cafe-au-lait-2" ∧
      segmentBy Text.transliterate (segmentBy Text.transliterate " Café  auLait--2") =
        segmentBy Text.transliterate " Café  auLait--2" ∧
      variableNameBy Text.transliterate ["Größe", "--", "fooBar"] = "grosse-foo-bar" ∧
      IsNormal (variableNameBy Text.transliterate ["Größe", "--", "fooBar"]).toList := by
  obtain ⟨ofTexts, ofPaths⟩ := segmentBy_normalizes transliterate_of_nameChars
  obtain ⟨-, -, -, again⟩ := ofTexts " Café  auLait--2"
  obtain ⟨normal, -, -⟩ := ofPaths ["Größe", "--", "fooBar"]
  exact ⟨transliterate_of_nameChars, by decide +kernel, again, by decide +kernel, normal⟩

end Identifier
end DesignTokens
