import DesignTokens.Document.Encoding
import DesignTokens.Files.Store
import DesignTokens.Text.Blank

/-!
Documents and options from files. How a file is read is a parameter, so that nothing here depends on
where files are.
-/

namespace DesignTokens

/-- The options that a text gives; a blank text gives none. -/
def Options.parse (libraries : Libraries) (text : String) : Except Failure Options :=
  if (Text.trim text.toList).isEmpty then .ok {}
  else
    match libraries.readSettings text with
    | .ok settings => .ok (Options.updated {} settings)
    | .error reason => .error (.malformed none reason)

abbrev ReadText := Path → Except FileFault String

def loadText (read : ReadText) (path : Path) : Except Failure String :=
  match read path with
  | .ok text => .ok text
  | .error fault =>
      .error (.unreadable ("Failed to read " ++ path.text ++ ": " ++ fault.message))

section

variable (libraries : Libraries) (read : ReadText) (path : Path)

/-- The document in a file, in the encoding of its extension. -/
def loadDocument : Except Failure Value :=
  match loadText read path with
  | .error failure => .error failure
  | .ok text =>
      match Document.parse libraries (Encoding.ofPath path) text with
      | .ok document => .ok document
      | .error failure => .error (failure.inFile path.text)

def loadOptions : Except Failure Options :=
  match loadText read path with
  | .error failure => .error failure
  | .ok text =>
      match Options.parse libraries text with
      | .ok options => .ok options
      | .error failure => .error (failure.inFile path.text)

end

end DesignTokens
