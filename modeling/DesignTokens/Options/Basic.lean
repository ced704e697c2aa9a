import DesignTokens.Document.Dialect
import DesignTokens.Scss.Stylesheet

/-!
The options of a compilation, and settings, which leave the options alone that they do not name.
-/

namespace DesignTokens

structure Options where
  style : Style := .flat
  resolvesAliases : Bool := true
  /-- Without a dialect, the document decides. -/
  dialect : Option Dialect := none
  deriving DecidableEq

/-- What is said about each option, if anything. That there is no dialect may be said, too. -/
structure Settings where
  style : Option Style := none
  resolvesAliases : Option Bool := none
  dialect : Option (Option Dialect) := none
  deriving DecidableEq

namespace Options

def updated (options : Options) (settings : Settings) : Options :=
  { style := settings.style.getD options.style
    resolvesAliases := settings.resolvesAliases.getD options.resolvesAliases
    dialect := settings.dialect.getD options.dialect }

def styles : List (String × Style) :=
  [("variables", .flat), ("map", .nested)]

def dialects : List (String × Dialect) :=
  [("dtcg", .dtcg), ("tokens-studio", .tokensStudio)]

def toValue (options : Options) : Value :=
  .object [("output", .text options.style.name),
    ("resolveAliases", .boolean options.resolvesAliases),
    ("format", (options.dialect.map fun dialect => Value.text dialect.name).getD .null)]

end Options
end DesignTokens
