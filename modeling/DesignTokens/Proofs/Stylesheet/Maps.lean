import DesignTokens.Proofs.Identifier.Characters
import DesignTokens.Proofs.Stylesheet.Outline

/-!
Maps in stylesheets, entry by entry. A map is written in the same way whether its entries are those
of a group or the fields of a composite token; only their keys and values are spelled differently.
-/

namespace DesignTokens
namespace Scss

/-- An entry of a map in a stylesheet, with the name that its key is written for. -/
structure MapEntry where
  name : String
  key : String
  value : String

def MapEntry.text (depth : Nat) (entry : MapEntry) : String :=
  String.ofList (indent depth) ++ entry.key ++ ": " ++ entry.value ++ ",\n"

/-- A map in parentheses, on whose last line stands an indentation of this depth. -/
def mapText (depth : Nat) (entries : List MapEntry) : String :=
  "(\n" ++ String.join (entries.map (MapEntry.text (depth + 1))) ++ String.ofList (indent depth) ++
    ")"

/-- The text with its lines after the first one indented. -/
def indented (depth : Nat) (text : String) : String :=
  Text.replaceChar '\n' ('\n' :: indent depth) text

section

variable (spell : List Char → List Char)

/-- What is written for a tree after its key. -/
def valueText (depth : Nat) : Tree → String
  | .leaf token => indented depth (renderToken token)
  | .group entries =>
      "(\n" ++ mapLines spell (depth + 1) entries ++ String.ofList (indent depth) ++ ")"

def groupEntries (depth : Nat) (entries : List (String × Tree)) : List MapEntry :=
  entries.map fun entry =>
    ⟨entry.1, Identifier.mapKeyBy spell entry.1, valueText spell (depth + 1) entry.2⟩

end

def compositeEntries (depth : Nat) (fields : List (String × Value)) : List MapEntry :=
  fields.map fun field => ⟨field.1, indented depth (Identifier.kebab field.1),
    indented depth (render (fieldCategory field.1) field.2)⟩

variable {spell : List Char → List Char}

theorem mapLines_eq_join (depth : Nat) (entries : List (String × Tree)) :
    mapLines spell depth entries =
      String.join (entries.map fun entry => entryLines spell depth entry.1 entry.2) := by
  induction entries with
  | nil => rfl
  | cons entry rest ih => rw [mapLines, ih, List.map_cons, String.join_cons]

theorem indent_succ (depth : Nat) :
    String.ofList (indent (depth + 1)) = String.ofList (indent depth) ++ "  " := by
  rw [indent_add_one, String.ofList_append]

theorem entryLines_eq (depth : Nat) (name : String) (tree : Tree) :
    entryLines spell depth name tree =
      MapEntry.text depth ⟨name, Identifier.mapKeyBy spell name, valueText spell depth tree⟩ := by
  cases tree with
  | leaf token => simp only [entryLines, MapEntry.text, valueText, indented]
  | group entries =>
      have colonParenthesis : ": (\n" = ": " ++ "(\n" := rfl
      have parenthesisComma : "),\n" = ")" ++ ",\n" := rfl
      rw [entryLines, colonParenthesis, parenthesisComma]
      simp only [MapEntry.text, valueText, String.append_assoc]

theorem valueText_group (depth : Nat) (entries : List (String × Tree)) :
    valueText spell depth (.group entries) = mapText depth (groupEntries spell depth entries) := by
  rw [valueText, mapLines_eq_join, mapText, groupEntries, List.map_map]
  simp only [entryLines_eq, Function.comp_def]

theorem indented_append (depth : Nat) (first second : String) :
    indented depth (first ++ second) = indented depth first ++ indented depth second :=
  Text.replaceChar_append _ _ first second

theorem indented_newline (depth : Nat) :
    indented depth "\n" = "\n" ++ String.ofList (indent depth) := by
  simp [indented, Text.replaceChar]

theorem indented_zero (text : String) : indented 0 text = text :=
  Text.replaceChar_self '\n' text

/-- Fields that are indented as a whole, with the indentation of the first line before them. -/
theorem indented_renderFields (depth : Nat) (fields : List (String × Value)) :
    String.ofList (indent depth) ++ indented depth (renderFields fields) =
      String.join ((compositeEntries depth fields).map (MapEntry.text (depth + 1))) ++
        String.ofList (indent depth) := by
  induction fields with
  | nil => simp [renderFields, compositeEntries, indented, Text.replaceChar]
  | cons field rest ih =>
      obtain ⟨name, value⟩ := field
      have blanks : indented depth "  " = "  " := rfl
      have colon : indented depth ": " = ": " := rfl
      have comma : indented depth "," = "," := rfl
      have endsLine : ",\n" = "," ++ "\n" := rfl
      simp only [endsLine, renderFields, compositeEntries, List.map_cons, String.join_cons,
        indented_append, blanks, colon, comma, indented_newline, MapEntry.text, indent_succ,
        String.append_assoc]
      simp only [compositeEntries] at ih
      rw [ih]

theorem valueText_composite {depth : Nat} {token : Token} {fields : List (String × Value)}
    (isComposite : token.category.isComposite = true) (isObject : token.value = .object fields)
    (someField : fields ≠ []) :
    valueText spell depth (.leaf token) = mapText depth (compositeEntries depth fields) := by
  have rendered : renderToken token = "(\n" ++ renderFields fields ++ ")" := by
    obtain ⟨first, rest, rfl⟩ := List.exists_cons_of_ne_nil someField
    rw [renderToken, isObject, render, if_pos isComposite]
  have opening : indented depth "(" = "(" := rfl
  have opens : "(\n" = "(" ++ "\n" := rfl
  have closing : indented depth ")" = ")" := rfl
  have fieldsThen (rest : String) :
      String.ofList (indent depth) ++ (indented depth (renderFields fields) ++ rest) =
        String.join ((compositeEntries depth fields).map (MapEntry.text (depth + 1))) ++
          (String.ofList (indent depth) ++ rest) := by
    rw [← String.append_assoc, indented_renderFields, String.append_assoc]
  simp only [valueText, rendered, mapText, opens, indented_append, opening, indented_newline,
    closing, String.append_assoc, fieldsThen]

theorem mapDeclaration_eq (name : String) (tree : Tree) :
    mapDeclaration spell name tree =
      declaration (Identifier.segmentBy spell name) (valueText spell 0 tree) := by
  cases tree with
  | leaf token => rw [mapDeclaration, valueText, indented_zero]
  | group entries => simp [mapDeclaration, valueText, indent]

end Scss
end DesignTokens
