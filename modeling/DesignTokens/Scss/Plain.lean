import DesignTokens.Text.Join
import DesignTokens.Value.Compact

/-!
The plain form of a value: texts as they are, numbers without exponent, lists with commas, and
objects as compact text.
-/

namespace DesignTokens
namespace Scss

mutual

def plain : Value → String
  | .text content => content
  | .number amount => amount.plain
  | .list items => Text.joinWith "," (plainItems items)
  | value => value.compact

def plainItems : List Value → List String
  | [] => []
  | item :: rest => plain item :: plainItems rest

end

end Scss
end DesignTokens
