import DesignTokens.Text.Join
import DesignTokens.Token.Category
import DesignTokens.Value.Basic

/-!
Design tokens. The path of a token names the groups around it and ends in the name of the token;
its key is what references call it.
-/

namespace DesignTokens

structure Token where
  path : List String
  category : Category
  value : Value

def Token.key (token : Token) : String :=
  Text.joinWith "." token.path

end DesignTokens
