import DesignTokens.Proofs.Stylesheet.Maps
import DesignTokens.Proofs.Tree.Grafting

/-!
Composite tokens in nested maps. Their fields are written as the tokens of a group would be, however
deep the token lies and whatever is around it.
-/

namespace DesignTokens
namespace Scss

/-- Two trees are written alike, among the entries of a map and at the top. -/
structure Alike (spell : List Char → List Char) (first second : Tree) : Prop where
  entries : ∀ depth name, entryLines spell depth name first = entryLines spell depth name second
  declarations : ∀ name, mapDeclaration spell name first = mapDeclaration spell name second

variable {spell : List Char → List Char}

theorem mapLines_graft {first second : Tree} (alike : Alike spell first second) (path : List String)
    (depth : Nat) (known : List (String × Tree)) :
    mapLines spell depth (Tree.graft first path known) =
      mapLines spell depth (Tree.graft second path known) := by
  induction path generalizing depth known with
  | nil => rfl
  | cons name rest ih =>
      rw [mapLines_eq_join, mapLines_eq_join, Tree.graft, Tree.graft]
      apply congrArg String.join
      apply Entries.map_put_congr
      by_cases last : rest = []
      · simpa only [if_pos last] using alike.entries depth name
      · simp only [if_neg last, entryLines, ih]

theorem declarations_graft {first second : Tree} (alike : Alike spell first second)
    (path : List String) (known : List (String × Tree)) :
    (Tree.graft first path known).map (fun entry => mapDeclaration spell entry.1 entry.2) =
      (Tree.graft second path known).map fun entry => mapDeclaration spell entry.1 entry.2 := by
  cases path with
  | nil => rfl
  | cons name rest =>
      apply Entries.map_put_congr
      by_cases last : rest = []
      · simpa only [if_pos last] using alike.declarations name
      · simp only [if_neg last, mapDeclaration, mapLines_graft alike]

/-- A field of a composite token as a token of its own. -/
def fieldToken (path : List String) (field : String × Value) : Token :=
  ⟨path ++ [field.1], fieldCategory field.1, field.2⟩

/-- The entries of a group that has the fields of a composite token as its tokens. -/
def fieldEntries (path : List String) (fields : List (String × Value)) : List (String × Tree) :=
  fields.map fun field => (field.1, .leaf (fieldToken path field))

/-- Fields with names that are written alike in a composite token and a group, each on one line. -/
structure PlainFields (spell : List Char → List Char) (fields : List (String × Value)) :
    Prop where
  names : ∀ field ∈ fields, Identifier.kebab field.1 = Identifier.mapKeyBy spell field.1
  oneLine : ∀ field ∈ fields, '\n' ∉ (render (fieldCategory field.1) field.2).toList

theorem groupEntries_fieldEntries (depth : Nat) (path : List String)
    {fields : List (String × Value)} (plain : PlainFields spell fields) :
    groupEntries spell depth (fieldEntries path fields) = compositeEntries depth fields := by
  rw [groupEntries, fieldEntries, compositeEntries, List.map_map]
  apply List.map_congr_left
  rintro ⟨name, value⟩ member
  have sameName : Identifier.kebab name = Identifier.mapKeyBy spell name :=
    plain.names (name, value) member
  have sameKey : indented depth (Identifier.kebab name) = Identifier.mapKeyBy spell name :=
    (Text.replaceChar_of_not_mem (Identifier.newline_not_mem_kebab sameName) _).trans sameName
  have sameValue (inner : Nat) : indented inner (render (fieldCategory name) value) =
      render (fieldCategory name) value :=
    Text.replaceChar_of_not_mem (plain.oneLine (name, value) member) _
  simp only [Function.comp_apply, valueText, renderToken, fieldToken, sameKey, sameValue]

structure IsPlainComposite (spell : List Char → List Char) (composite : Token)
    (fields : List (String × Value)) : Prop where
  category : composite.category.isComposite = true
  value : composite.value = .object fields
  someField : fields ≠ []
  plain : PlainFields spell fields

theorem valueText_alike {composite : Token} {fields : List (String × Value)}
    (isPlain : IsPlainComposite spell composite fields) (depth : Nat) :
    valueText spell depth (.group (fieldEntries composite.path fields)) =
      valueText spell depth (.leaf composite) := by
  rw [valueText_group, valueText_composite isPlain.category isPlain.value isPlain.someField,
    groupEntries_fieldEntries depth composite.path isPlain.plain]

theorem alike_composite {composite : Token} {fields : List (String × Value)}
    (isPlain : IsPlainComposite spell composite fields) :
    Alike spell (.group (fieldEntries composite.path fields)) (.leaf composite) := by
  refine ⟨?_, ?_⟩
  · intro depth name
    rw [entryLines_eq, entryLines_eq, valueText_alike isPlain]
  · intro name
    rw [mapDeclaration_eq, mapDeclaration_eq, valueText_alike isPlain]

theorem stylesheet_nested_congr {first second : List Token} (someFirst : first ≠ [])
    (someSecond : second ≠ [])
    (alike : (Tree.ofTokens first).map (fun entry => mapDeclaration spell entry.1 entry.2) =
      (Tree.ofTokens second).map fun entry => mapDeclaration spell entry.1 entry.2) :
    stylesheet spell .nested first = stylesheet spell .nested second := by
  simp [stylesheet, someFirst, someSecond, alike]

/-- A composite token that stands apart from all others is written as the group of its fields. -/
theorem stylesheet_composite_as_group {composite : Token} {fields : List (String × Value)}
    (isPlain : IsPlainComposite spell composite fields) (distinct : (fields.map Prod.fst).Nodup)
    (someName : composite.path ≠ []) {before after : List Token}
    (apart : ∀ other ∈ before ++ after, Tree.Apart other.path composite.path) :
    stylesheet spell .nested (before ++ fields.map (fieldToken composite.path) ++ after) =
      stylesheet spell .nested (before ++ composite :: after) := by
  have paths : ∀ part ∈ fields.map fun field => (field.1, fieldToken composite.path field),
      part.2.path = composite.path ++ [part.1] := by
    intro part member
    obtain ⟨field, -, rfl⟩ := List.mem_map.mp member
    rfl
  obtain ⟨known, whole, inParts⟩ := Tree.exists_graft someName apart
    (by simpa using isPlain.someField) (by simpa [Function.comp_def] using distinct) paths
  apply stylesheet_nested_congr (by simp [isPlain.someField]) (by simp)
  simp only [List.map_map, Function.comp_def] at inParts
  rw [whole, inParts]
  exact declarations_graft (alike_composite isPlain) composite.path known

def edgeFields : List (String × Value) :=
  [("color", .text "#00f"),
    ("lineWidth", .object [("value", .number (.integer 1)), ("unit", .text "px")])]

def edge : Token := ⟨["card", "edge"], .border, .object edgeFields⟩

def edgeSheet : String :=
  "$card: (\n  ink: #000,\n  edge: (\n    color: #00f,\n    line-width: 1px,\n  ),\n  round: 2px,\n);\n\n$gap: 4px;\n"

theorem edge_as_group :
    let ink : Token := ⟨["card", "ink"], .color, .text "#000"⟩
    let gap : Token := ⟨["gap"], .dimension, .text "4px"⟩
    let round : Token := ⟨["card", "round"], .dimension, .text "2px"⟩
    let fields : List Token := [⟨["card", "edge", "color"], .color, .text "#00f"⟩,
      ⟨["card", "edge", "lineWidth"], .dimension,
        .object [("value", .number (.integer 1)), ("unit", .text "px")]⟩]
    stylesheet id .nested ([ink] ++ fields ++ [gap, round]) = edgeSheet ∧
    stylesheet id .nested ([ink] ++ edge :: [gap, round]) = edgeSheet := by
  intro ink gap round fields
  have names : ∀ field ∈ edgeFields,
      Identifier.kebab field.1 = Identifier.mapKeyBy id field.1 := by
    decide +kernel
  have oneLine : ∀ field ∈ edgeFields,
      '\n' ∉ (render (fieldCategory field.1) field.2).toList := by
    decide +kernel
  have isPlain : IsPlainComposite id edge edgeFields :=
    ⟨rfl, rfl, List.cons_ne_nil _ _, ⟨names, oneLine⟩⟩
  have apart : ∀ other ∈ [ink] ++ [gap, round], Tree.Apart other.path edge.path := by
    simp [ink, gap, round, edge, Tree.Apart]
  have asGroup := stylesheet_composite_as_group isPlain (by decide) (by simp [edge]) apart
  have whole : stylesheet id .nested ([ink] ++ edge :: [gap, round]) = edgeSheet := by
    decide +kernel
  have color : fieldCategory "color" = .color := by decide +kernel
  have lineWidth : fieldCategory "lineWidth" = .dimension := by decide +kernel
  have sameFields : edgeFields.map (fieldToken edge.path) = fields := by
    simp [edgeFields, fieldToken, edge, color, lineWidth, fields]
  rw [sameFields] at asGroup
  exact ⟨asGroup.trans whole, whole⟩

end Scss
end DesignTokens
