import DesignTokens.Proofs.Identifier.VariableName
import DesignTokens.Proofs.Stylesheet.Outline
import Mathlib.Data.List.Forall2

/-!
Stylesheets whose values take one line each can be told apart. Whatever characters a value has, it
does not pass for the start of a map, for its end or for another entry, so that equal stylesheets
have equal names and values.
-/

namespace DesignTokens

namespace Text

theorem eq_of_append_mark {mark : Char} {first second rest other : List Char}
    (absent : mark ∉ first) (absentSecond : mark ∉ second)
    (same : first ++ mark :: rest = second ++ mark :: other) : first = second ∧ rest = other := by
  rcases List.append_eq_append_iff.mp same with ⟨between, whole, parts⟩ | ⟨between, whole, parts⟩
  · cases between with
    | nil => exact ⟨by simpa using whole.symm, (List.cons.inj parts).2⟩
    | cons next later =>
        obtain rfl := (List.cons.inj parts).1
        exact absurd (by simp [whole]) absentSecond
  · cases between with
    | nil => exact ⟨by simpa using whole, (List.cons.inj parts).2.symm⟩
    | cons next later =>
        obtain rfl := (List.cons.inj parts).1
        exact absurd (by simp [whole]) absent

/-- Lines that end each in a line break are what the breaks divide their text into. -/
theorem splitOn_lines {lines : List (List Char)} (unbroken : ∀ line ∈ lines, '\n' ∉ line) :
    (lines.flatMap fun line => line ++ ['\n']).splitOn '\n' = lines ++ [[]] := by
  have joined : (lines.flatMap fun line => line ++ ['\n']) =
      ['\n'].intercalate (lines ++ [[]]) := by
    induction lines with
    | nil => rfl
    | cons line rest ih =>
        rw [List.forall_mem_cons] at unbroken
        rw [List.flatMap_cons, ih unbroken.2, List.cons_append,
          List.intercalate_cons_of_ne_nil (by simp)]
  rw [joined, List.splitOn_intercalate]
  · simpa [or_imp, forall_and] using unbroken
  · simp

end Text

namespace Scss

/-- What a stylesheet of maps shows of a tree: the names as they are written, and the values. -/
inductive Shown where
  | value (text : String)
  | map (entries : List (String × Shown))

section

variable (spell : List Char → List Char)

mutual

def shown : Tree → Shown
  | .leaf token => .value (renderToken token)
  | .group entries => .map (shownAmong entries)

def shownAmong : List (String × Tree) → List (String × Shown)
  | [] => []
  | (name, tree) :: rest => (Identifier.segmentBy spell name, shown tree) :: shownAmong rest

end

end

/-- Every name of a tree is written, and every value takes one line. -/
inductive Legible (spell : List Char → List Char) : Tree → Prop
  | leaf {token} : '\n' ∉ (renderToken token).toList → Legible spell (.leaf token)
  | group {entries} : (∀ entry ∈ entries, Identifier.segmentBy spell entry.1 ≠ "") →
      (∀ entry ∈ entries, Legible spell entry.2) → Legible spell (.group entries)

structure LegibleAmong (spell : List Char → List Char) (entries : List (String × Tree)) :
    Prop where
  names : ∀ entry ∈ entries, Identifier.segmentBy spell entry.1 ≠ ""
  trees : ∀ entry ∈ entries, Legible spell entry.2

variable {spell : List Char → List Char}

theorem legible_group_iff (entries : List (String × Tree)) :
    Legible spell (.group entries) ↔ LegibleAmong spell entries := by
  constructor
  · intro legible
    cases legible with
    | group names trees => exact ⟨names, trees⟩
  · rintro ⟨names, trees⟩
    exact .group names trees

theorem legibleAmong_cons_iff (name : String) (tree : Tree) (rest : List (String × Tree)) :
    LegibleAmong spell ((name, tree) :: rest) ↔
      Identifier.segmentBy spell name ≠ "" ∧ Legible spell tree ∧ LegibleAmong spell rest := by
  constructor
  · rintro ⟨names, trees⟩
    rw [List.forall_mem_cons] at names trees
    exact ⟨names.1, trees.1, names.2, trees.2⟩
  · rintro ⟨written, legible, names, trees⟩
    exact ⟨List.forall_mem_cons.mpr ⟨written, names⟩, List.forall_mem_cons.mpr ⟨legible, trees⟩⟩

/-- The first line of an entry after its name. -/
def firstLine (mark : Char) : Tree → List Char
  | .leaf token => (renderToken token).toList ++ [mark]
  | .group _ => ['(']

def laterLines (spell : List Char → List Char) (depth : Nat) (mark : Char) :
    Tree → List Char
  | .leaf _ => []
  | .group entries =>
      (mapLines spell (depth + 1) entries).toList ++ (indent depth ++ [')', mark, '\n'])

/-- A whole entry. At the top it begins with a dollar sign and ends in a semicolon. -/
def entryText (spell : List Char → List Char) (start : List Char) (depth : Nat)
    (mark : Char) (name : String) (tree : Tree) : List Char :=
  start ++ ((Identifier.segmentBy spell name).toList ++
    ':' :: ' ' :: (firstLine mark tree ++ '\n' :: laterLines spell depth mark tree))

theorem toList_entryLines (depth : Nat) {name : String} {tree : Tree}
    (written : Identifier.segmentBy spell name ≠ "") (legible : Legible spell tree) :
    (entryLines spell depth name tree).toList =
      entryText spell (indent depth) depth ',' name tree := by
  have isName : Identifier.mapKeyBy spell name = Identifier.segmentBy spell name := by
    simp [Identifier.mapKeyBy, written]
  cases legible with
  | leaf oneLine =>
      rw [entryLines, isName, Text.replaceChar_of_not_mem oneLine]
      simp [entryText, firstLine, laterLines]
  | group =>
      rw [entryLines, isName]
      simp [entryText, firstLine, laterLines]

theorem toList_mapDeclaration (name : String) (tree : Tree) :
    (mapDeclaration spell name tree).toList ++ ['\n'] = entryText spell ['$'] 0 ';' name tree := by
  cases tree <;>
    simp [mapDeclaration, declaration, entryText, firstLine, laterLines, indent]

/-- The name of an entry ends at the first colon. -/
theorem eq_of_names {start rest other : List Char} {first second : String}
    (names : ∀ character ∈ first.toList, Identifier.isNameChar character = true)
    (namesSecond : ∀ character ∈ second.toList, Identifier.isNameChar character = true)
    (same : start ++ (first.toList ++ ':' :: rest) = start ++ (second.toList ++ ':' :: other)) :
    first = second ∧ rest = other := by
  have noColon {name : String}
      (names : ∀ character ∈ name.toList, Identifier.isNameChar character = true) :
      ':' ∉ name.toList := fun member => absurd (names ':' member) (by decide)
  obtain ⟨sameName, sameRest⟩ := Text.eq_of_append_mark (noColon names) (noColon namesSecond)
    (List.append_cancel_left same)
  exact ⟨String.toList_inj.mp sameName, sameRest⟩

section

variable {mark : Char} (isMark : mark ∈ [',', ';'])

include isMark

theorem newline_not_mem_firstLine {tree : Tree} (legible : Legible spell tree) :
    '\n' ∉ firstLine mark tree := by
  have notMark : '\n' ≠ mark := by
    rintro rfl
    simp at isMark
  cases legible with
  | leaf oneLine => simp [firstLine, notMark, oneLine]
  | group => simp [firstLine]

/-- The line of a value ends in its mark, and the line that opens a map does not. -/
theorem firstLine_leaf_ne_group (token : Token) (entries : List (String × Tree)) :
    firstLine mark (.leaf token) ≠ firstLine mark (.group entries) := by
  intro same
  have lasts := congrArg List.getLast? same
  simp only [firstLine, List.getLast?_concat, List.getLast?_singleton, Option.some.injEq] at lasts
  simp [lasts] at isMark

variable {start rest restSecond : List Char} {depth : Nat} {name other : String}

/-- The text of an entry gives its name and its first line, whatever comes after it. -/
theorem eq_of_entryText {first second : Tree} (legible : Legible spell first)
    (legibleSecond : Legible spell second)
    (same : entryText spell start depth mark name first ++ rest =
      entryText spell start depth mark other second ++ restSecond) :
    Identifier.segmentBy spell name = Identifier.segmentBy spell other ∧
      firstLine mark first = firstLine mark second ∧
      laterLines spell depth mark first ++ rest =
        laterLines spell depth mark second ++ restSecond := by
  simp only [entryText, List.append_assoc, List.cons_append] at same
  obtain ⟨sameName, sameRest⟩ := eq_of_names
    (fun _ => Identifier.isNameChar_of_mem_segmentBy)
    (fun _ => Identifier.isNameChar_of_mem_segmentBy) same
  exact ⟨sameName, Text.eq_of_append_mark (newline_not_mem_firstLine isMark legible)
    (newline_not_mem_firstLine isMark legibleSecond) (List.cons.inj sameRest).2⟩

end

/-- An entry of this tree is told from all others by its text, whatever comes after it. -/
def IsTold (spell : List Char → List Char) (tree : Tree) : Prop :=
  ∀ ⦃second⦄, Legible spell second → ∀ ⦃mark⦄, mark ∈ [',', ';'] →
    ∀ start depth name other rest restSecond,
    entryText spell start depth mark name tree ++ rest =
      entryText spell start depth mark other second ++ restSecond →
    Identifier.segmentBy spell name = Identifier.segmentBy spell other ∧
      shown spell tree = shown spell second ∧ rest = restSecond

/-- Entries end where an indentation is followed by a parenthesis instead of two more blanks. -/
theorem eq_of_mapLines {first second : List (String × Tree)} {depth : Nat}
    (told : ∀ entry ∈ first, IsTold spell entry.2) (legible : LegibleAmong spell first)
    (legibleSecond : LegibleAmong spell second) {rest restSecond : List Char}
    (same : (mapLines spell (depth + 1) first).toList ++ (indent depth ++ ')' :: rest) =
      (mapLines spell (depth + 1) second).toList ++ (indent depth ++ ')' :: restSecond)) :
    shownAmong spell first = shownAmong spell second ∧ rest = restSecond := by
  induction first generalizing second with
  | nil =>
      cases second with
      | nil => simpa [mapLines] using same
      | cons entry later =>
          obtain ⟨written, legible, -⟩ := (legibleAmong_cons_iff _ _ _).mp legibleSecond
          simp [mapLines, toList_entryLines _ written legible, entryText, indent_add_one] at same
  | cons entry later ih =>
      obtain ⟨written, legible, legibleLater⟩ := (legibleAmong_cons_iff _ _ _).mp legible
      cases second with
      | nil =>
          simp [mapLines, toList_entryLines _ written legible, entryText, indent_add_one] at same
      | cons other laterSecond =>
          obtain ⟨writtenSecond, legibleSecond, legibleLaterSecond⟩ :=
            (legibleAmong_cons_iff _ _ _).mp legibleSecond
          rw [List.forall_mem_cons] at told
          simp only [mapLines, String.toList_append, List.append_assoc,
            toList_entryLines _ written legible,
            toList_entryLines _ writtenSecond legibleSecond] at same
          obtain ⟨sameName, sameTree, sameRest⟩ :=
            told.1 legibleSecond (by simp) _ _ _ _ _ _ same
          obtain ⟨sameLater, sameEnd⟩ := ih told.2 legibleLater legibleLaterSecond sameRest
          exact ⟨by rw [shownAmong, shownAmong, sameName, sameTree, sameLater], sameEnd⟩

theorem Legible.isTold {tree : Tree} (legible : Legible spell tree) : IsTold spell tree := by
  induction legible with
  | @leaf token oneLine =>
      intro second legibleSecond mark isMark start depth name other rest restSecond same
      obtain ⟨sameName, sameLine, sameRest⟩ :=
        eq_of_entryText isMark (.leaf oneLine) legibleSecond same
      cases legibleSecond with
      | leaf =>
          have sameValue := String.toList_inj.mp (List.append_cancel_right sameLine)
          exact ⟨sameName, by rw [shown, shown, sameValue], sameRest⟩
      | group => exact absurd sameLine (firstLine_leaf_ne_group isMark token _)
  | @group entries names trees ih =>
      intro second legibleSecond mark isMark start depth name other rest restSecond same
      obtain ⟨sameName, sameLine, sameRest⟩ :=
        eq_of_entryText isMark (.group names trees) legibleSecond same
      cases legibleSecond with
      | leaf => exact absurd sameLine.symm (firstLine_leaf_ne_group isMark _ entries)
      | group namesSecond treesSecond =>
          simp only [laterLines, List.append_assoc, List.cons_append, List.nil_append] at sameRest
          obtain ⟨sameEntries, sameEnd⟩ :=
            eq_of_mapLines ih ⟨names, trees⟩ ⟨namesSecond, treesSecond⟩ sameRest
          simp only [List.cons.injEq, true_and] at sameEnd
          exact ⟨sameName, by rw [shown, shown, sameEntries], sameEnd⟩

/-- The text of maps at the top, with an empty line between neighbours. -/
def topText (spell : List Char → List Char) (entries : List (String × Tree)) : List Char :=
  (Text.joinWith "\n\n" (entries.map fun entry => mapDeclaration spell entry.1 entry.2) ++
    "\n").toList

theorem topText_cons (name : String) (tree : Tree) (rest : List (String × Tree)) :
    topText spell ((name, tree) :: rest) =
      entryText spell ['$'] 0 ';' name tree ++
        if rest = [] then [] else '\n' :: topText spell rest := by
  rw [← toList_mapDeclaration]
  by_cases last : rest = []
  · simp [topText, last, Text.joinWith]
  · have someText : (rest.map fun entry => mapDeclaration spell entry.1 entry.2) ≠ [] := by
      simpa using last
    simp [topText, last, Text.joinWith_cons_of_ne_nil _ _ someText]

theorem eq_of_topText {first second : List (String × Tree)} (legible : LegibleAmong spell first)
    (legibleSecond : LegibleAmong spell second)
    (same : topText spell first = topText spell second) :
    shownAmong spell first = shownAmong spell second := by
  induction first generalizing second with
  | nil =>
      cases second with
      | nil => rfl
      | cons entry later =>
          rw [topText_cons] at same
          simp [topText, Text.joinWith, entryText] at same
  | cons entry later ih =>
      obtain ⟨-, legible, legibleLater⟩ := (legibleAmong_cons_iff _ _ _).mp legible
      cases second with
      | nil =>
          rw [topText_cons] at same
          simp [topText, Text.joinWith, entryText] at same
      | cons other laterSecond =>
          obtain ⟨-, legibleSecond, legibleLaterSecond⟩ :=
            (legibleAmong_cons_iff _ _ _).mp legibleSecond
          rw [topText_cons, topText_cons] at same
          obtain ⟨sameName, sameTree, sameRest⟩ :=
            legible.isTold legibleSecond (by simp) _ _ _ _ _ _ same
          have sameLater : shownAmong spell later = shownAmong spell laterSecond := by
            by_cases last : later = [] <;> by_cases lastSecond : laterSecond = []
            · rw [last, lastSecond]
            · simp [last, lastSecond] at sameRest
            · simp [last, lastSecond] at sameRest
            · simp only [last, lastSecond, if_false, List.cons.injEq, true_and] at sameRest
              exact ih legibleLater legibleLaterSecond sameRest
          rw [shownAmong, shownAmong, sameName, sameTree, sameLater]

/-- Every name on the path of a token is written, and its value takes one line. -/
structure TakesOneLine (spell : List Char → List Char) (token : Token) : Prop where
  names : ∀ name ∈ token.path, Identifier.segmentBy spell name ≠ ""
  value : '\n' ∉ (renderToken token).toList

section

variable {known : List (String × Tree)}

theorem LegibleAmong.below (legible : LegibleAmong spell known) (name : String) :
    LegibleAmong spell (((known.lookup name).map Tree.entries).getD []) := by
  cases found : known.lookup name with
  | none => exact ⟨by simp, by simp⟩
  | some tree =>
      obtain ⟨before, later, rfl, -⟩ := Entries.exists_first_of_lookup found
      have legibleTree := legible.trees (name, tree) (by simp)
      cases legibleTree with
      | leaf => exact ⟨by simp [Tree.entries], by simp [Tree.entries]⟩
      | group names trees => exact ⟨names, trees⟩

theorem LegibleAmong.insert (legible : LegibleAmong spell known) {token : Token}
    (oneLine : '\n' ∉ (renderToken token).toList) {path : List String}
    (written : ∀ name ∈ path, Identifier.segmentBy spell name ≠ "") :
    LegibleAmong spell (Tree.insert token path known) := by
  induction path generalizing known with
  | nil => exact legible
  | cons name rest ih =>
      rw [List.forall_mem_cons] at written
      have legibleGrown : Legible spell (Tree.grown token rest (known.lookup name)) := by
        rw [Tree.grown]
        split
        · exact .leaf oneLine
        · exact (legible_group_iff _).mpr (ih (legible.below name) written.2)
      rw [Tree.insert_cons]
      refine ⟨?_, ?_⟩
      · intro entry member
        rcases Entries.mem_put member with rfl | member
        · exact written.1
        · exact legible.names entry member
      · intro entry member
        rcases Entries.mem_put member with rfl | member
        · exact legibleGrown
        · exact legible.trees entry member

end

theorem legibleAmong_ofTokens {tokens : List Token}
    (oneLine : ∀ token ∈ tokens, TakesOneLine spell token) :
    LegibleAmong spell (Tree.ofTokens tokens) := by
  induction tokens using List.reverseRecOn with
  | nil => exact ⟨by simp [Tree.ofTokens], by simp [Tree.ofTokens]⟩
  | append_singleton tokens token ih =>
      rw [List.forall_mem_append, List.forall_mem_singleton] at oneLine
      rw [Tree.ofTokens, List.foldl_append]
      exact (ih oneLine.1).insert oneLine.2.value oneLine.2.names

theorem eq_of_stylesheet_nested {first second : List Token}
    (oneLine : ∀ token ∈ first, TakesOneLine spell token)
    (oneLineSecond : ∀ token ∈ second, TakesOneLine spell token)
    (same : stylesheet spell .nested first = stylesheet spell .nested second) :
    shownAmong spell (Tree.ofTokens first) = shownAmong spell (Tree.ofTokens second) := by
  by_cases empty : first = []
  · rw [empty, stylesheet_nil, eq_comm, stylesheet_eq_empty_iff] at same
    rw [empty, same]
  · by_cases emptySecond : second = []
    · rw [emptySecond, stylesheet_nil, stylesheet_eq_empty_iff] at same
      exact absurd same empty
    · simp only [stylesheet, List.isEmpty_eq_false_iff.mpr empty,
        List.isEmpty_eq_false_iff.mpr emptySecond, Bool.false_eq_true, if_false] at same
      exact eq_of_topText (legibleAmong_ofTokens oneLine) (legibleAmong_ofTokens oneLineSecond)
        (congrArg String.toList same)

theorem variableDeclaration_inj {first second : Token} :
    variableDeclaration spell first = variableDeclaration spell second ↔
      Identifier.variableNameBy spell first.path = Identifier.variableNameBy spell second.path ∧
        renderToken first = renderToken second := by
  constructor
  · intro same
    have sameText := String.toList_inj.mpr same
    simp only [variableDeclaration, declaration, String.toList_append,
      List.append_assoc] at sameText
    obtain ⟨sameName, sameRest⟩ := eq_of_names
      (fun _ => Identifier.isNameChar_of_mem_variableNameBy)
      (fun _ => Identifier.isNameChar_of_mem_variableNameBy) sameText
    refine ⟨sameName, String.toList_inj.mp ?_⟩
    exact List.append_cancel_right (List.cons.inj sameRest).2
  · rintro ⟨sameName, sameValue⟩
    rw [variableDeclaration, variableDeclaration, sameName, sameValue]

/-- The lines of variables are their declarations, when no value breaks a line. -/
theorem splitOn_stylesheet_flat (spell : List Char → List Char) {tokens : List Token}
    (oneLine : ∀ token ∈ tokens, '\n' ∉ (renderToken token).toList) :
    (stylesheet spell .flat tokens).toList.splitOn '\n' =
      tokens.map (fun token => (variableDeclaration spell token).toList) ++ [[]] := by
  have lines : (stylesheet spell .flat tokens).toList =
      (tokens.map fun token => (variableDeclaration spell token).toList).flatMap
        fun line => line ++ ['\n'] := by
    rw [stylesheet_flat, String.toList_join, List.flatMap_map, List.flatMap_map]
    congr 1
    funext token
    simp [variableDeclaration, declaration, renderToken]
  rw [lines]
  apply Text.splitOn_lines
  intro line member
  obtain ⟨token, isToken, rfl⟩ := List.mem_map.mp member
  have noBreak : '\n' ∉ (Identifier.variableNameBy spell token.path).toList := fun inName =>
    absurd (Identifier.isNameChar_of_mem_variableNameBy inName) (by decide)
  simp [variableDeclaration, declaration, noBreak, oneLine token isToken]

/-- Values of one line each, whatever their characters, are read back from both kinds of
stylesheets: maps show their entries, and variables have one line for each token. -/
theorem stylesheet_unambiguous {first second : List Token}
    (oneLine : ∀ token ∈ first, TakesOneLine spell token)
    (oneLineSecond : ∀ token ∈ second, TakesOneLine spell token) :
    (stylesheet spell .nested first = stylesheet spell .nested second →
      shownAmong spell (Tree.ofTokens first) = shownAmong spell (Tree.ofTokens second)) ∧
    (stylesheet spell .flat first = stylesheet spell .flat second →
      first.map (fun token => (Identifier.variableNameBy spell token.path, renderToken token)) =
        second.map fun token => (Identifier.variableNameBy spell token.path, renderToken token)) ∧
    (stylesheet spell .flat first).toList.splitOn '\n' =
      first.map (fun token => (variableDeclaration spell token).toList) ++ [[]] := by
  have lines := splitOn_stylesheet_flat spell fun token member => (oneLine token member).value
  have linesSecond := splitOn_stylesheet_flat spell fun token member =>
    (oneLineSecond token member).value
  refine ⟨eq_of_stylesheet_nested oneLine oneLineSecond, ?_, lines⟩
  intro same
  rw [same, linesSecond] at lines
  have sameDeclarations := List.append_cancel_right lines.symm
  rw [← List.forall₂_eq_eq_eq, List.forall₂_map_left_iff, List.forall₂_map_right_iff]
    at sameDeclarations ⊢
  apply sameDeclarations.imp
  intro token other sameText
  rw [Prod.mk.injEq]
  exact variableDeclaration_inj.mp (String.toList_inj.mp sameText)

/-- Values that look like the start of a map, its end, or an entry. -/
def deceptiveSizes (group : String) : List Token :=
  [⟨[group, "base"], .dimension, .text "1px,  wide: ("⟩,
    ⟨[group, "large", "wide"], .dimension, .text "),"⟩,
    ⟨["gap"], .dimension, .text "("⟩]

theorem deceptiveSizes_read_back :
    let camel := deceptiveSizes "fontSize"
    let spaced := deceptiveSizes "font size"
    (∀ token ∈ camel, TakesOneLine id token) ∧ (∀ token ∈ spaced, TakesOneLine id token) ∧
    stylesheet id .nested camel =
      "$font-size: (\n  base: 1px,  wide: (,\n  large: (\n    wide: ),,\n  ),\n);\n\n$gap: (;\n" ∧
    stylesheet id .nested camel = stylesheet id .nested spaced ∧
    shownAmong id (Tree.ofTokens camel) = shownAmong id (Tree.ofTokens spaced) ∧
    camel.map (fun token => (Identifier.variableNameBy id token.path, renderToken token)) =
      spaced.map (fun token => (Identifier.variableNameBy id token.path, renderToken token)) ∧
    (stylesheet id .flat camel).toList.splitOn '\n' =
      camel.map (fun token => (variableDeclaration id token).toList) ++ [[]] := by
  intro camel spaced
  have facts : ∀ token ∈ camel ++ spaced,
      (∀ name ∈ token.path, Identifier.segmentBy id name ≠ "") ∧
        '\n' ∉ (renderToken token).toList := by
    decide +kernel
  rw [List.forall_mem_append] at facts
  have oneLine : ∀ token ∈ camel, TakesOneLine id token :=
    fun token member => ⟨(facts.1 token member).1, (facts.1 token member).2⟩
  have oneLineSpaced : ∀ token ∈ spaced, TakesOneLine id token :=
    fun token member => ⟨(facts.2 token member).1, (facts.2 token member).2⟩
  have sameNested : stylesheet id .nested camel = stylesheet id .nested spaced := by decide +kernel
  have sameFlat : stylesheet id .flat camel = stylesheet id .flat spaced := by decide +kernel
  obtain ⟨readNested, readFlat, lines⟩ := stylesheet_unambiguous oneLine oneLineSpaced
  exact ⟨oneLine, oneLineSpaced, by decide +kernel, sameNested, readNested sameNested,
    readFlat sameFlat, lines⟩

end Scss
end DesignTokens
