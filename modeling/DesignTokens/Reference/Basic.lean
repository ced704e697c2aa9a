import DesignTokens.Token.Basic

/-!
References between tokens. A text that is a key in braces, and nothing else, refers to the token of
that key.
-/

namespace DesignTokens
namespace Reference

def isBrace (character : Char) : Bool :=
  character = '\x7b' || character = '\x7d'

/-- The key between the braces of a reference. -/
def target? (text : String) : Option String :=
  match text.toList with
  | [] => none
  | first :: rest =>
      let key := rest.dropLast
      if first = '\x7b' && rest.getLast? == some '\x7d' && !key.isEmpty && !key.any isBrace then
        some (String.ofList key)
      else none

end Reference
end DesignTokens
