import DesignTokens.Json.Reader
import DesignTokens.Libraries.Basic
import DesignTokens.Options.Document
import DesignTokens.Yaml.Value

/-!
The readers of JSON and YAML texts as libraries of a compilation, with any spelling. What is wrong
with a YAML text is not told.
-/

namespace DesignTokens
namespace Libraries

def builtIn (spell : List Char → List Char) : Libraries where
  spell := spell
  readJson text :=
    match Json.read Json.documentDepth text with
    | .ok document => .ok document
    | .error failure => .error (failure.message text)
  readYaml text :=
    match Yaml.read? text with
    | some document => .ok document
    | none => .error "invalid YAML"
  readSettings text :=
    match Settings.read? text with
    | some settings => .ok settings
    | none => .error "invalid options"

end Libraries
end DesignTokens
