import DesignTokens.Scss.Value
import DesignTokens.Token.Tree

/-!
Stylesheets of tokens: a variable for each token, or a nested map for each group at the top.
-/

namespace DesignTokens

/-- The shape of a stylesheet: flat variables, or nested maps. -/
inductive Style where
  | flat
  | nested
  deriving DecidableEq, Repr

namespace Style

def name : Style → String
  | flat => "variables"
  | nested => "map"

/-- The style that a person may call by one of several names, or why there is none. -/
def parse (text : String) : Except String Style :=
  let called := String.ofList (Text.lower (Text.trim text.toList))
  if ["variables", "vars"].contains called then .ok flat
  else if ["map", "maps"].contains called then .ok nested
  else .error ("unknown output style '" ++ called ++ "' (expected 'variables' or 'map')")

end Style

namespace Scss

def syntaxName : String := "scss"

def declaration (name value : String) : String :=
  "$" ++ name ++ ": " ++ value ++ ";"

def renderToken (token : Token) : String :=
  render token.category token.value

def indent (depth : Nat) : List Char :=
  List.replicate (2 * depth) ' '

section

variable (spell : List Char → List Char)

def variableDeclaration (token : Token) : String :=
  declaration (Identifier.variableNameBy spell token.path) (renderToken token)

mutual

/-- The lines of one entry of a map. A value of several lines is indented throughout. -/
def entryLines (depth : Nat) (name : String) : Tree → String
  | .leaf token =>
      String.ofList (indent depth) ++ Identifier.mapKeyBy spell name ++ ": " ++
        Text.replaceChar '\n' ('\n' :: indent depth) (renderToken token) ++ ",\n"
  | .group entries =>
      String.ofList (indent depth) ++ Identifier.mapKeyBy spell name ++ ": (\n" ++
        mapLines (depth + 1) entries ++ String.ofList (indent depth) ++ "),\n"

def mapLines (depth : Nat) : List (String × Tree) → String
  | [] => ""
  | (name, tree) :: rest => entryLines depth name tree ++ mapLines depth rest

end

def mapDeclaration (name : String) : Tree → String
  | .leaf token => declaration (Identifier.segmentBy spell name) (renderToken token)
  | .group entries =>
      declaration (Identifier.segmentBy spell name) ("(\n" ++ mapLines spell 1 entries ++ ")")

/-- The stylesheet of tokens; without tokens it is empty. -/
def stylesheet (style : Style) (tokens : List Token) : String :=
  if tokens.isEmpty then ""
  else
    match style with
    | .flat => Text.joinWith "\n" (tokens.map (variableDeclaration spell)) ++ "\n"
    | .nested =>
        Text.joinWith "\n\n" ((Tree.ofTokens tokens).map fun entry =>
          mapDeclaration spell entry.1 entry.2) ++ "\n"

end

end Scss
end DesignTokens
