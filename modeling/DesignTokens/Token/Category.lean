/-!
The categories of design tokens. A tag that names no category makes a token `unknown`, which is
written as it stands.
-/

namespace DesignTokens

inductive Category where
  | color
  | dimension
  | fontFamily
  | fontWeight
  | duration
  | cubicBezier
  | number
  | typography
  | shadow
  | border
  | unknown
  deriving DecidableEq, Repr

namespace Category

def tag : Category → String
  | color => "color"
  | dimension => "dimension"
  | fontFamily => "fontFamily"
  | fontWeight => "fontWeight"
  | duration => "duration"
  | cubicBezier => "cubicBezier"
  | number => "number"
  | typography => "typography"
  | shadow => "shadow"
  | border => "border"
  | unknown => "unknown"

def ofTag : String → Category
  | "color" => color
  | "dimension" => dimension
  | "fontFamily" => fontFamily
  | "fontWeight" => fontWeight
  | "duration" => duration
  | "cubicBezier" => cubicBezier
  | "number" => number
  | "typography" => typography
  | "shadow" => shadow
  | "border" => border
  | _ => unknown

/-- Tags of Tokens Studio documents that stand for a category of another name. -/
def studioTags : List (String × Category) :=
  [("size", dimension), ("sizing", dimension), ("spacing", dimension),
    ("borderRadius", dimension), ("borderWidth", dimension), ("fontSizes", dimension),
    ("letterSpacing", dimension), ("paragraphSpacing", dimension), ("opacity", number),
    ("lineHeights", number), ("fontFamilies", fontFamily), ("fontWeights", fontWeight),
    ("boxShadow", shadow)]

def ofStudioTag (tag : String) : Category :=
  (studioTags.lookup tag).getD (ofTag tag)

/-- Tokens of a composite category are objects whose fields are values of their own. -/
def isComposite : Category → Bool
  | typography | shadow | border => true
  | _ => false

end Category
end DesignTokens
