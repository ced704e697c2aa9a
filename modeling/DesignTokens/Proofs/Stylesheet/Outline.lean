import DesignTokens.Proofs.Text.Join
import DesignTokens.Proofs.Tree.Placement
import DesignTokens.Scss.Stylesheet

/-!
Stylesheets as lists of lines that say which token or group they belong to, so that what is written
can be counted and ordered.
-/

namespace DesignTokens
namespace Scss

theorem indent_add_one (depth : Nat) : indent (depth + 1) = indent depth ++ [' ', ' '] := by
  rw [indent, Nat.mul_succ, List.replicate_add]
  rfl

/-- A line of nested maps, with the names of the groups around it. The line of a token goes on
where its value does. -/
inductive Line where
  | opening (groups : List String) (name : String)
  | entry (groups : List String) (name : String) (token : Token)
  | closing (groups : List String) (name : String)

namespace Line

def text (spell : List Char → List Char) : Line → String
  | opening [] name => "$" ++ Identifier.segmentBy spell name ++ ": (\n"
  | entry [] name token =>
      "$" ++ Identifier.segmentBy spell name ++ ": " ++ renderToken token ++ ";"
  | closing [] _ => ");"
  | opening groups name =>
      String.ofList (indent groups.length) ++ Identifier.mapKeyBy spell name ++ ": (\n"
  | entry groups name token =>
      String.ofList (indent groups.length) ++ Identifier.mapKeyBy spell name ++ ": " ++
        Text.replaceChar '\n' ('\n' :: indent groups.length) (renderToken token) ++ ",\n"
  | closing groups _ => String.ofList (indent groups.length) ++ "),\n"

def entry? : Line → Option (List String × Token)
  | entry groups name token => some (groups ++ [name], token)
  | _ => none

end Line

mutual

/-- The lines of a token or a group in groups of the given names. -/
def linesOf (groups : List String) (name : String) : Tree → List Line
  | .leaf token => [.entry groups name token]
  | .group entries =>
      .opening groups name :: (linesAmong (groups ++ [name]) entries ++ [.closing groups name])

def linesAmong (groups : List String) : List (String × Tree) → List Line
  | [] => []
  | (name, tree) :: rest => linesOf groups name tree ++ linesAmong groups rest

end

def written (spell : List Char → List Char) (lines : List Line) : String :=
  String.join (lines.map (Line.text spell))

variable {spell : List Char → List Char}

@[simp] theorem written_nil : written spell [] = "" := rfl

@[simp] theorem written_cons (line : Line) (lines : List Line) :
    written spell (line :: lines) = line.text spell ++ written spell lines := by
  simp [written]

@[simp] theorem written_append (first second : List Line) :
    written spell (first ++ second) = written spell first ++ written spell second := by
  simp [written]

mutual

theorem written_linesOf : ∀ (groups : List String) (name : String) (tree : Tree), groups ≠ [] →
    written spell (linesOf groups name tree) = entryLines spell groups.length name tree
  | group :: groups, name, .leaf token, _ => by
      simp [linesOf, entryLines, Line.text, String.append_assoc]
  | group :: groups, name, .group entries, _ => by
      have inner : written spell (linesAmong (group :: groups ++ [name]) entries) = _ :=
        written_linesAmong (group :: groups ++ [name]) entries (by simp)
      simp only [linesOf, written_cons, written_append, written_nil, inner]
      simp [entryLines, Line.text, String.append_assoc]

theorem written_linesAmong : ∀ (groups : List String) (entries : List (String × Tree)),
    groups ≠ [] → written spell (linesAmong groups entries) = mapLines spell groups.length entries
  | _, [], _ => rfl
  | groups, (name, tree) :: rest, someGroup => by
      rw [linesAmong, written_append, mapLines, written_linesOf groups name tree someGroup,
        written_linesAmong groups rest someGroup]

end

theorem written_linesOf_top (name : String) (tree : Tree) :
    written spell (linesOf [] name tree) = mapDeclaration spell name tree := by
  cases tree with
  | leaf token => simp [linesOf, mapDeclaration, declaration, Line.text, String.append_assoc]
  | group entries =>
      have inner : written spell (linesAmong [name] entries) = mapLines spell 1 entries :=
        written_linesAmong [name] entries (by simp)
      have colon : ": (\n" = ": " ++ "(\n" := rfl
      simp only [linesOf, written_cons, written_append, written_nil, List.nil_append, inner]
      simp only [mapDeclaration, declaration, Line.text, colon, String.append_assoc,
        String.append_empty]
      rfl

mutual

theorem entries_linesOf : ∀ (groups : List String) (name : String) (tree : Tree),
    (linesOf groups name tree).filterMap Line.entry? =
      (Tree.positions tree).map fun entry => (groups ++ name :: entry.1, entry.2)
  | groups, name, .leaf token => by simp [linesOf, Line.entry?, Tree.positions]
  | groups, name, .group entries => by
      have inner := entries_linesAmong (groups ++ [name]) entries
      rw [linesOf, List.filterMap_cons_none rfl, List.filterMap_append, inner]
      simp [Line.entry?, Tree.positions]

theorem entries_linesAmong : ∀ (groups : List String) (entries : List (String × Tree)),
    (linesAmong groups entries).filterMap Line.entry? =
      (Tree.positionsAmong entries).map fun entry => (groups ++ entry.1, entry.2)
  | _, [] => rfl
  | groups, (name, tree) :: rest => by
      rw [linesAmong, List.filterMap_append, entries_linesOf groups name tree,
        entries_linesAmong groups rest]
      simp [Tree.positionsAmong, Tree.under, Function.comp_def]

end

theorem stylesheet_flat (tokens : List Token) :
    stylesheet spell .flat tokens = String.join (tokens.map fun token =>
      "$" ++ Identifier.variableNameBy spell token.path ++ ": " ++
        render token.category token.value ++ ";\n") := by
  have sameDeclaration (token : Token) : variableDeclaration spell token ++ "\n" =
      "$" ++ Identifier.variableNameBy spell token.path ++ ": " ++
        render token.category token.value ++ ";\n" := by
    simp [variableDeclaration, declaration, renderToken, String.append_assoc]
  cases tokens with
  | nil => rfl
  | cons token rest =>
      have joined := Text.joinWith_newline_append ((token :: rest).map (variableDeclaration spell))
        (by simp)
      simpa [stylesheet, Function.comp_def, sameDeclaration] using joined

theorem stylesheet_nested_eq {tokens : List Token} (someToken : tokens ≠ []) :
    stylesheet spell .nested tokens = Text.joinWith "\n\n" ((Tree.ofTokens tokens).map fun entry =>
      mapDeclaration spell entry.1 entry.2) ++ "\n" := by
  rw [stylesheet, if_neg (by simpa using someToken)]

theorem stylesheet_nested {tokens : List Token} (someToken : tokens ≠ []) :
    stylesheet spell .nested tokens = Text.joinWith "\n\n" ((Tree.ofTokens tokens).map fun entry =>
      written spell (linesOf [] entry.1 entry.2)) ++ "\n" := by
  simp only [stylesheet_nested_eq someToken, written_linesOf_top]

theorem stylesheet_nil (style : Style) : stylesheet spell style [] = "" := rfl

theorem stylesheet_ends (style : Style) {tokens : List Token} (someToken : tokens ≠ []) :
    ∃ text, stylesheet spell style tokens = text ++ "\n" := by
  cases style <;> exact ⟨_, by rw [stylesheet, if_neg (by simpa using someToken)]⟩

theorem stylesheet_eq_empty_iff (style : Style) (tokens : List Token) :
    stylesheet spell style tokens = "" ↔ tokens = [] := by
  constructor
  · intro empty
    by_contra someToken
    obtain ⟨text, ends⟩ := stylesheet_ends style someToken
    rw [ends] at empty
    simp at empty
  · rintro rfl
    exact stylesheet_nil style

end Scss
end DesignTokens
