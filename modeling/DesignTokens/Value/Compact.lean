import DesignTokens.Text.Join
import DesignTokens.Text.Quoted
import DesignTokens.Value.Basic

/-!
The compact text of a value: fields in order and no blanks.
-/

namespace DesignTokens
namespace Value

mutual

def compact : Value → String
  | null => "null"
  | boolean true => "true"
  | boolean false => "false"
  | number amount => amount.written
  | text content => Text.quote content
  | list items => "[" ++ Text.joinWith "," (compactItems items) ++ "]"
  | object fields => "\x7b" ++ Text.joinWith "," (compactFields fields) ++ "\x7d"

def compactItems : List Value → List String
  | [] => []
  | item :: rest => item.compact :: compactItems rest

def compactFields : List (String × Value) → List String
  | [] => []
  | (name, value) :: rest => (Text.quote name ++ ":" ++ value.compact) :: compactFields rest

end

end Value
end DesignTokens
