/-!
Putting texts together, and finding one in another.
-/

namespace DesignTokens
namespace Text

/-- The texts in order with a separator between neighbours. -/
def joinWith (separator : String) : List String → String
  | [] => ""
  | [text] => text
  | text :: next :: rest => text ++ separator ++ joinWith separator (next :: rest)

def mentions (fragment : List Char) : List Char → Bool
  | [] => fragment.isEmpty
  | character :: rest => fragment.isPrefixOf (character :: rest) || mentions fragment rest

/-- The text with every `character` replaced. -/
def replaceChar (character : Char) (replacement : List Char) (text : String) : String :=
  String.ofList (text.toList.flatMap fun found =>
    if found = character then replacement else [found])

end Text
end DesignTokens
