import DesignTokens.Document.Dialect
import DesignTokens.Token.Basic

/-!
The tokens of a document, in document order. The document itself is never a token, and nothing
below a token is one.
-/

namespace DesignTokens
namespace Document

/-- The tag that an object declares for itself and what is below it, or else the inherited one. -/
def tagBelow (fields : List (String × Value)) (inherited : Option String) : Option String :=
  match (fields.lookup "$type").bind Value.text? with
  | some tag => some tag
  | none => inherited

def categoryOfTag : Option String → Category
  | some tag => Category.ofTag tag
  | none => .unknown

mutual

def dtcgNode (path : List String) (inherited : Option String) : Value → List Token
  | .object fields =>
      match fields.lookup "$value" with
      | some value => [⟨path, categoryOfTag (tagBelow fields inherited), value⟩]
      | none => dtcgFields path (tagBelow fields inherited) fields
  | _ => []

def dtcgFields (path : List String) (inherited : Option String) :
    List (String × Value) → List Token
  | [] => []
  | (name, child) :: rest =>
      if isMetadata name then dtcgFields path inherited rest
      else dtcgNode (path ++ [name]) inherited child ++ dtcgFields path inherited rest

end

/-- The category of a Tokens Studio token depends on its own tag alone. -/
def studioCategory (fields : List (String × Value)) : Category :=
  match (fields.lookup "type").bind Value.text? with
  | some tag => Category.ofStudioTag tag
  | none => .unknown

mutual

def studioNode (path : List String) : Value → List Token
  | .object fields =>
      if isStudioToken fields then
        [⟨path, studioCategory fields, (fields.lookup "value").getD .null⟩]
      else studioFields path fields
  | _ => []

def studioFields (path : List String) : List (String × Value) → List Token
  | [] => []
  | (name, child) :: rest => studioNode (path ++ [name]) child ++ studioFields path rest

end

def tokens (document : Value) : Dialect → List Token
  | .dtcg =>
      match document with
      | .object fields =>
          if isDtcgToken fields then [] else dtcgFields [] (tagBelow fields none) fields
      | _ => []
  | .tokensStudio =>
      match document with
      | .object fields => if isStudioToken fields then [] else studioFields [] fields
      | _ => []

end Document
end DesignTokens
