import DesignTokens.Scss.Color
import DesignTokens.Scss.Field
import DesignTokens.Scss.Identifier

/-!
The written form of a token's value. Each category has a notation for the shapes it knows; any
other shape is written plainly.
-/

namespace DesignTokens
namespace Scss

def measure (value : Value) : String :=
  match value.field? "value", value.field? "unit" with
  | some amount, some unit => plain amount ++ plain unit
  | _, _ => plain value

/-- Families that are keywords and take no quotes. -/
def genericFamilies : List String :=
  ["serif", "sans-serif", "monospace", "cursive", "fantasy", "system-ui", "ui-serif",
    "ui-sans-serif", "ui-monospace", "ui-rounded", "emoji", "math", "fangsong"]

def family (value : Value) : String :=
  let name := plain value
  if genericFamilies.contains name then name else "\"" ++ name ++ "\""

def fontFamily (value : Value) : String :=
  match value with
  | .list families => "(" ++ Text.joinWith ", " (families.map family) ++ ")"
  | _ => plain value

/-- Four numbers make a curve. -/
def cubicBezier (value : Value) : String :=
  match value with
  | .list points =>
      if points.length == 4 && points.all fun point => point.number?.isSome then
        "cubic-bezier(" ++ Text.joinWith ", " (points.map plain) ++ ")"
      else plain value
  | _ => plain value

/-- The written form for a category that is not composite. -/
def simple (category : Category) (value : Value) : String :=
  match category with
  | .color => color value
  | .dimension | .duration => measure value
  | .fontFamily => fontFamily value
  | .cubicBezier => cubicBezier value
  | _ => plain value

mutual

/-- The written form of a value. An object of a composite category is a map with one line for each
of its fields. -/
def render (category : Category) : Value → String
  | .object fields =>
      if category.isComposite then
        match fields with
        | [] => "()"
        | first :: rest => "(\n" ++ renderFields (first :: rest) ++ ")"
      else simple category (.object fields)
  | value => simple category value

def renderFields : List (String × Value) → String
  | [] => ""
  | (name, value) :: rest =>
      "  " ++ Identifier.kebab name ++ ": " ++ render (fieldCategory name) value ++ ",\n" ++
        renderFields rest

end

end Scss
end DesignTokens
