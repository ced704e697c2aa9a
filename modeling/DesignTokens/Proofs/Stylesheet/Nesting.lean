import DesignTokens.Proofs.Entries
import DesignTokens.Scss.Value
import Mathlib.Algebra.Order.BigOperators.Group.List
import Mathlib.Algebra.Order.Ring.Nat

/-!
How deep the maps of composite tokens nest. The category told from the name of a field is never a
composite one, so that a field is written in the notation of a simple category, whatever objects
lie in it.
-/

namespace DesignTokens

/-- Two entries with different keys are two summands. -/
theorem Entries.add_le_sum_of_lookup {Content : Type} {entries : List (String × Content)}
    (weight : String × Content → Nat) {first second : String} (different : first ≠ second)
    {content other : Content} (found : entries.lookup first = some content)
    (foundOther : entries.lookup second = some other) :
    weight (first, content) + weight (second, other) ≤ (entries.map weight).sum := by
  have mem {key : String} {present : Content} (isThere : entries.lookup key = some present) :
      (key, present) ∈ entries := by
    obtain ⟨before, later, rfl, -⟩ := exists_first_of_lookup isThere
    simp
  have pair : [(first, content), (second, other)] ⊆ entries := by
    simp [mem found, mem foundOther]
  obtain ⟨inner, samePair, inside⟩ := List.subperm_of_subset (by simp [different]) pair
  have weights : (inner.map weight).sum = weight (first, content) + weight (second, other) := by
    simpa using (samePair.map weight).sum_eq
  rw [← weights]
  exact (inside.map weight).sum_le_sum (by simp)

namespace Scss

def fieldCategories : List Category :=
  [.color, .fontFamily, .fontWeight, .dimension, .unknown]

def lineHeightTest : NameTest × Category :=
  (.equals "lineheight", .number)

/-- The only name that the test for line heights accepts is accepted as a height before. -/
theorem find?_fieldTests_ne_lineHeight (name : List Char) :
    fieldTests.find? (fun test => test.1.accepts name) ≠ some lineHeightTest := by
  intro found
  have accepted : lineHeightTest.1.accepts name = true := by
    simpa using List.find?_some found
  obtain rfl : name = "lineheight".toList := by
    simpa [lineHeightTest, NameTest.accepts] using accepted
  have asHeight : fieldTests.find? (fun test => test.1.accepts "lineheight".toList) =
      some fieldTests[3] := rfl
  have same := congrArg Prod.snd (Option.some.inj (asHeight.symm.trans found))
  exact absurd same (by decide)

theorem fieldCategory_mem (name : String) : fieldCategory name ∈ fieldCategories := by
  rw [fieldCategory]
  split
  · rename_i test found
    have among := List.mem_of_find?_eq_some found
    have reached : test ≠ lineHeightTest := by
      rintro rfl
      exact find?_fieldTests_ne_lineHeight _ found
    simp only [fieldTests, List.mem_cons, List.not_mem_nil, or_false] at among
    rcases among with rfl | rfl | rfl | rfl | hidden
    · decide
    · decide
    · decide
    · decide
    · exact absurd hidden reached
  · decide

theorem isComposite_fieldCategory (name : String) : (fieldCategory name).isComposite = false := by
  have simpleOnly : ∀ category ∈ fieldCategories, category.isComposite = false := by decide
  exact simpleOnly _ (fieldCategory_mem name)

theorem render_of_simple {category : Category} (isSimple : category.isComposite = false)
    (value : Value) : render category value = simple category value := by
  cases value with
  | object fields => cases fields <;> simp [render, isSimple]
  | _ => rfl

/-- A line of a map, with the value of the field in the notation of a simple category. -/
def fieldLine (field : String × Value) : String :=
  "  " ++ Identifier.kebab field.1 ++ ": " ++ simple (fieldCategory field.1) field.2 ++ ",\n"

def mapLiteral (fields : List (String × Value)) : String :=
  if fields = [] then "()" else "(\n" ++ String.join (fields.map fieldLine) ++ ")"

theorem renderFields_eq (fields : List (String × Value)) :
    renderFields fields = String.join (fields.map fieldLine) := by
  induction fields with
  | nil => rfl
  | cons field rest ih =>
      obtain ⟨name, value⟩ := field
      rw [renderFields, ih, render_of_simple (isComposite_fieldCategory name), List.map_cons,
        String.join_cons, fieldLine]

theorem render_composite {category : Category} (isComposite : category.isComposite = true)
    (fields : List (String × Value)) : render category (.object fields) = mapLiteral fields := by
  cases fields with
  | nil => rw [render, if_pos isComposite]; rfl
  | cons first rest =>
      rw [render, if_pos isComposite, mapLiteral, if_neg (List.cons_ne_nil first rest),
        renderFields_eq]

/-- The written form of a value, made with calls on so many levels: the call for an object of a
composite category makes one on the level below for each field. -/
def renderWithin : Nat → Category → Value → Option String
  | 0, _, _ => none
  | levels + 1, category, .object fields =>
      if category.isComposite then
        if fields = [] then some "()"
        else
          (fields.mapM fun field => (renderWithin levels (fieldCategory field.1) field.2).map
            fun text => "  " ++ Identifier.kebab field.1 ++ ": " ++ text ++ ",\n").map
              fun lines => "(\n" ++ String.join lines ++ ")"
      else some (simple category (.object fields))
  | _ + 1, category, value => some (simple category value)

theorem renderWithin_of_simple {category : Category} (isSimple : category.isComposite = false)
    (levels : Nat) (value : Value) :
    renderWithin (levels + 1) category value = some (simple category value) := by
  cases value <;> simp [renderWithin, isSimple]

theorem renderWithin_two (category : Category) (value : Value) :
    renderWithin 2 category value = some (render category value) := by
  cases isComposite : category.isComposite with
  | false => rw [renderWithin_of_simple isComposite, render_of_simple isComposite]
  | true =>
      cases value with
      | object fields =>
          have line (field : String × Value) :
              ((renderWithin 1 (fieldCategory field.1) field.2).map fun text =>
                "  " ++ Identifier.kebab field.1 ++ ": " ++ text ++ ",\n") =
                some (fieldLine field) := by
            rw [renderWithin_of_simple (isComposite_fieldCategory field.1)]
            rfl
          have lines : (fields.mapM fun field => some (fieldLine field)) =
              some (fields.map fieldLine) := List.mapM_pure
          rw [renderWithin, if_pos isComposite, render_composite isComposite, mapLiteral]
          split
          · rfl
          · simp only [line, lines, Option.map_some]
      | _ => rfl

theorem head?_plain_object (fields : List (String × Value)) :
    (plain (.object fields)).toList.head? = some '{' := by
  rw [plain, Value.compact]
  · simp
  all_goals simp

theorem head?_srgb_ne (components : List Value) (translucency : Option Number) :
    (srgb components translucency).toList.head? ≠ some '(' := by
  cases translucency <;> simp [srgb]

theorem head?_colorFunction_ne (space : String) (components : List Value)
    (translucency : Option Number) :
    (colorFunction space components translucency).toList.head? ≠ some '(' := by
  cases translucency <;> simp [colorFunction]

theorem head?_color_object_ne (fields : List (String × Value)) :
    (color (.object fields)).toList.head? ≠ some '(' := by
  rw [color]
  split
  · simp [head?_plain_object]
  · dsimp only
    split
    · exact head?_srgb_ne _ _
    · exact head?_colorFunction_ne _ _ _

theorem measure_object_cases {fields : List (String × Value)}
    (opens : (measure (.object fields)).toList.head? = some '(') :
    ∃ amount unit, fields.lookup "value" = some amount ∧ fields.lookup "unit" = some unit ∧
      measure (.object fields) = plain amount ++ plain unit := by
  rw [measure] at opens ⊢
  split at opens
  · rename_i amount unit hasValue hasUnit
    exact ⟨amount, unit, hasValue, hasUnit, rfl⟩
  · rw [head?_plain_object] at opens
    exact absurd opens (by decide)

/-- An object in a simple category begins as a map does only where the texts of its amount and its
unit do. -/
theorem simple_object_cases {category : Category} {fields : List (String × Value)}
    (opens : (simple category (.object fields)).toList.head? = some '(') :
    ∃ amount unit, fields.lookup "value" = some amount ∧ fields.lookup "unit" = some unit ∧
      simple category (.object fields) = plain amount ++ plain unit := by
  have plainOpens : (plain (.object fields)).toList.head? ≠ some '(' := by
    simp [head?_plain_object]
  cases category with
  | color => exact absurd opens (head?_color_object_ne fields)
  | dimension | duration => exact measure_object_cases opens
  | _ => exact absurd opens plainOpens

theorem length_le_fieldLine (field : String × Value) :
    (simple (fieldCategory field.1) field.2).length ≤ (fieldLine field).length := by
  simp only [fieldLine, String.length_append]
  omega

theorem length_le_fieldLines {fields : List (String × Value)} {amount unit : Value}
    (hasValue : fields.lookup "value" = some amount) (hasUnit : fields.lookup "unit" = some unit) :
    (plain amount).length + (plain unit).length ≤ (String.join (fields.map fieldLine)).length := by
  have both := Entries.add_le_sum_of_lookup (fun field => (fieldLine field).length) (by decide)
    hasValue hasUnit
  have amountText : simple (fieldCategory "value") amount = plain amount := rfl
  have unitText : simple (fieldCategory "unit") unit = plain unit := rfl
  have valueLine := length_le_fieldLine ("value", amount)
  have unitLine := length_le_fieldLine ("unit", unit)
  rw [amountText] at valueLine
  rw [unitText] at unitLine
  rw [String.length_join, List.map_map, Function.comp_def]
  omega

theorem simple_object_ne_mapLiteral (category : Category) (fields : List (String × Value)) :
    simple category (.object fields) ≠ mapLiteral fields := by
  intro same
  have opens : (mapLiteral fields).toList.head? = some '(' := by
    rw [mapLiteral]
    split <;> simp
  obtain ⟨amount, unit, hasValue, hasUnit, text⟩ := simple_object_cases (same ▸ opens)
  have someField : fields ≠ [] := by
    rintro rfl
    cases hasValue
  have shorter := length_le_fieldLines hasValue hasUnit
  rw [same, mapLiteral, if_neg someField] at text
  have lengths := congrArg String.length text
  simp only [String.length_append] at lengths
  have parentheses : "(\n".length = 2 := rfl
  omega

/-- A field has one of five categories, none of them composite, and never the one of the test for
line heights. So an object of a composite category is a map of fields in simple notation, calls are
made on two levels at most, and an object in a field is no map of its own fields; it begins with a
parenthesis only where its amount does, or its unit. -/
theorem composite_fields_are_simple :
    (∀ name, fieldCategory name ∈ fieldCategories ∧
      fieldTests.find? (fun test => test.1.accepts (Text.lower name.toList)) ≠
        some lineHeightTest) ∧
    (∀ category ∈ fieldCategories, category.isComposite = false ∧
      category ∉ [.duration, .cubicBezier, .number]) ∧
    (∀ category fields, category.isComposite = true →
      render category (.object fields) = mapLiteral fields) ∧
    (∀ category value, renderWithin 2 category value = some (render category value)) ∧
    ∀ name fields,
      render (fieldCategory name) (.object fields) ≠ mapLiteral fields ∧
      ((render (fieldCategory name) (.object fields)).toList.head? = some '(' →
        ∃ amount unit, fields.lookup "value" = some amount ∧ fields.lookup "unit" = some unit ∧
          render (fieldCategory name) (.object fields) = plain amount ++ plain unit) := by
  refine ⟨fun name => ⟨fieldCategory_mem name, find?_fieldTests_ne_lineHeight _⟩, by decide,
    fun _ fields isComposite => render_composite isComposite fields, renderWithin_two, ?_⟩
  intro name fields
  rw [render_of_simple (isComposite_fieldCategory name)]
  exact ⟨simple_object_ne_mapLiteral _ fields, simple_object_cases⟩

/-- Parentheses around nothing, told as an amount and its unit. -/
def parentheses : List (String × Value) :=
  [("value", .text "("), ("unit", .text ")")]

def deepShadow : List (String × Value) :=
  [("offset", .object [("value", .object [("x", .number (.integer 1))]), ("unit", .text "px")]),
    ("inner", .object [("color", .object [("lineHeight", .text "1px")])]),
    ("lineHeight", .object parentheses)]

theorem deepShadow_is_one_map :
    Category.shadow.isComposite = true ∧
    render .shadow (.object deepShadow) =
      "(\n  offset: \x7b\"x\":1\x7dpx,\n  inner: \x7b\"color\":\x7b\"lineHeight\":\"1px\"\x7d\x7d,\n" ++
        "  line-height: (),\n)" ∧
    (render (fieldCategory "lineHeight") (.object parentheses)).toList.head? = some '(' ∧
    ∃ amount unit, parentheses.lookup "value" = some amount ∧
      parentheses.lookup "unit" = some unit ∧
      render (fieldCategory "lineHeight") (.object parentheses) = plain amount ++ plain unit := by
  obtain ⟨-, -, asMap, -, nested⟩ := composite_fields_are_simple
  have opens : (render (fieldCategory "lineHeight") (.object parentheses)).toList.head? =
      some '(' := by rfl
  have isMap := asMap .shadow deepShadow rfl
  exact ⟨rfl, isMap.trans (by rfl), opens, (nested "lineHeight" parentheses).2 opens⟩

end Scss
end DesignTokens
