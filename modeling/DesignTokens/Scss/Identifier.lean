import DesignTokens.Text.Blank
import DesignTokens.Text.Case
import DesignTokens.Text.Join

/-!
Names in stylesheets. A segment of a path is spelled in ASCII, split where capitals begin a word,
and keeps letters, digits, underscores and single dashes between them. How a text is spelled is a
parameter of all names.
-/

namespace DesignTokens
namespace Identifier

def isDash (character : Char) : Bool :=
  character = '-'

/-- Whether a capital after this character begins a word. -/
def endsWord (character : Char) : Bool :=
  Text.isSmall character || character.isDigit

/-- Lowercase with a dash before each capital that begins a word. -/
def kebabAfter (previous : Option Char) : List Char → List Char
  | [] => []
  | character :: rest =>
      let lowered := Text.lowerChar character ++ kebabAfter (some character) rest
      if Text.isCapital character && previous.any endsWord then '-' :: lowered else lowered

def kebab (text : String) : String :=
  String.ofList (kebabAfter none text.toList)

/-- The characters that names keep. -/
def isNameChar (character : Char) : Bool :=
  ('a' ≤ character && character ≤ 'z') || character.isDigit || character = '_' || isDash character

/-- A single dash for each run of dashes. -/
def collapseDashes : List Char → List Char
  | [] => []
  | character :: rest =>
      let collapsed := collapseDashes rest
      if isDash character && collapsed.head?.any isDash then collapsed
      else character :: collapsed

def trimDashes (text : List Char) : List Char :=
  ((text.dropWhile isDash).reverse.dropWhile isDash).reverse

/-- The name characters of a text, with dashes for its white space. -/
def nameChars (text : List Char) : List Char :=
  (text.map fun character => if Text.isBlank character then '-' else character).filter isNameChar

section

variable (spell : List Char → List Char)

/-- The name of one segment of a path, spelled in ASCII first; it may be empty. -/
def segmentBy (text : String) : String :=
  String.ofList (trimDashes (collapseDashes (nameChars (kebabAfter none (spell text.toList)))))

/-- The name of a variable: the segments of its path that are not empty, with dashes between. -/
def variableNameBy (path : List String) : String :=
  Text.joinWith "-" ((path.map (segmentBy spell)).filter fun name => !name.isEmpty)

/-- The key of an entry in a map. A key without a name is a quoted string. -/
def mapKeyBy (key : String) : String :=
  let name := segmentBy spell key
  if name.isEmpty then "\"" ++ Text.replaceChar '"' ['\\', '"'] key ++ "\"" else name

end

end Identifier
end DesignTokens
