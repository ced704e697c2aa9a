import DesignTokens.Text.Join

/-!
Why a document has no stylesheet.
-/

namespace DesignTokens

inductive Failure where
  /-- References lead back to a key that is being resolved; the last key is the repeated one. -/
  | circularReference (keys : List String)
  /-- A text is not well formed. Texts that come from a file have its path. -/
  | malformed (path : Option String) (reason : String)
  /-- A file cannot be read, or a path is no directory. -/
  | unreadable (reason : String)
  | unknownDocument (name : String)
  deriving DecidableEq

namespace Failure

def message : Failure → String
  | circularReference keys => "circular reference: " ++ Text.joinWith " -> " keys
  | malformed path reason =>
      "failed to parse " ++ path.getD "token document" ++ ": " ++ reason
  | unreadable reason => "failed to load token document: " ++ reason
  | unknownDocument name => "token document not found: " ++ name

/-- The key that a circular reference repeats. -/
def repeatedKey? : Failure → Option String
  | circularReference keys => keys.getLast?
  | _ => none

/-- The same failure of a text that was read from a file. -/
def inFile (path : String) : Failure → Failure
  | malformed _ reason => malformed (some path) reason
  | failure => failure

end Failure
end DesignTokens
