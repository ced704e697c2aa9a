import DesignTokens.Options.Basic

/-!
What a compilation takes from elsewhere: the spelling of texts in ASCII, and the readers of
documents and settings. Nothing is known of them here.
-/

namespace DesignTokens

/-- What a text holds, or the message that it holds nothing of the kind. -/
abbrev Reader (Content : Type) := String → Except String Content

structure Libraries where
  spell : List Char → List Char
  readJson : Reader Value
  readYaml : Reader Value
  readSettings : Reader Settings

end DesignTokens
