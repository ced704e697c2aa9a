import DesignTokens.Scss.Plain

/-!
Colors. A text is a color already; an object with components is written in the notation of its
color space, and in the shortest one for sRGB.
-/

namespace DesignTokens
namespace Scss

def hexByte (level : Nat) : String :=
  String.ofList ((if level < 16 then ['0'] else []) ++ Nat.toDigits 16 level)

/-- The level of the component at an index; a component that is missing or no number has none. -/
def channel (components : List Value) (index : Nat) : Nat :=
  ((components[index]?.bind Value.number?).map Number.byteLevel).getD 0

/-- The transparency of a color, if it has one. An alpha of one or more is opaque. -/
def translucency? (fields : List (String × Value)) : Option Number :=
  ((fields.lookup "alpha").bind Value.number?).filter Number.lessThanOne

def srgb (components : List Value) (translucency : Option Number) : String :=
  let levels := [channel components 0, channel components 1, channel components 2]
  match translucency with
  | some alpha => "rgba(" ++ Text.joinWith ", " (levels.map toString ++ [alpha.plain]) ++ ")"
  | none => "#" ++ Text.joinWith "" (levels.map hexByte)

def colorFunction (space : String) (components : List Value) (translucency : Option Number) :
    String :=
  let written := space ++ " " ++ Text.joinWith " " (components.map plain)
  match translucency with
  | some alpha => "color(" ++ written ++ " / " ++ alpha.plain ++ ")"
  | none => "color(" ++ written ++ ")"

/-- A color without a space of its own is in sRGB. -/
def color (value : Value) : String :=
  match (value.field? "components").bind Value.items? with
  | none => plain value
  | some components =>
      let space := ((value.field? "colorSpace").bind Value.text?).getD "srgb"
      let translucency := translucency? value.fields
      if space = "srgb" then srgb components translucency
      else colorFunction space components translucency

end Scss
end DesignTokens
