import DesignTokens.Failure
import DesignTokens.Files.Path
import DesignTokens.Libraries.Basic

/-!
The two encodings of documents, and the one that a path's extension stands for.
-/

namespace DesignTokens

inductive Encoding where
  | json
  | yaml
  deriving DecidableEq, Repr

namespace Encoding

def name : Encoding → String
  | json => "json"
  | yaml => "yaml"

/-- Extensions are compared without regard to the case of ASCII letters. -/
def ofPath? (path : Path) : Option Encoding :=
  path.extension?.bind fun extension =>
    let lowered := String.ofList (extension.toList.map Char.toLower)
    if lowered = "json" then some json
    else if lowered = "yaml" || lowered = "yml" then some yaml
    else none

/-- A file of another extension, or of none, is taken for JSON. -/
def ofPath (path : Path) : Encoding :=
  (ofPath? path).getD json

end Encoding

def Libraries.reader (libraries : Libraries) : Encoding → Reader Value
  | .json => libraries.readJson
  | .yaml => libraries.readYaml

def Document.parse (libraries : Libraries) (encoding : Encoding) (text : String) :
    Except Failure Value :=
  match libraries.reader encoding text with
  | .ok document => .ok document
  | .error reason => .error (.malformed none reason)

end DesignTokens
