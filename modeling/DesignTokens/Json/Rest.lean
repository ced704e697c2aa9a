import DesignTokens.Json.Fault

/-!
The part of a JSON text that is still to be read.
-/

namespace DesignTokens
namespace Json

/-- The characters to come, and the number of bytes before them. -/
structure Rest where
  characters : List Char
  offset : Nat

namespace Rest

def start (text : String) : Rest :=
  ⟨text.toList, 0⟩

def advance (rest : Rest) : Rest :=
  match rest.characters with
  | [] => rest
  | character :: characters => ⟨characters, rest.offset + character.utf8Size⟩

/-- A fault at what has been read. -/
def failHere {α : Type} (rest : Rest) (fault : Fault) : Except Failure α :=
  .error ⟨fault, rest.offset⟩

/-- A fault that shows in the byte to come; at the end of the text there is none. -/
def failAhead {α : Type} (rest : Rest) (fault : Fault) : Except Failure α :=
  match rest.characters with
  | [] => .error ⟨fault, rest.offset⟩
  | _ :: _ => .error ⟨fault, rest.offset + 1⟩

def isBlank (character : Char) : Bool :=
  character = ' ' || character = '\n' || character = '\t' || character = '\r'

/-- Blanks are single bytes. -/
def skipBlanks (rest : Rest) : Rest :=
  let blanks := rest.characters.takeWhile isBlank
  ⟨rest.characters.dropWhile isBlank, rest.offset + blanks.length⟩

/-- The digits at the front, which are single bytes. -/
def takeDigits (rest : Rest) : List Char × Rest :=
  let digits := rest.characters.takeWhile Char.isDigit
  (digits, ⟨rest.characters.dropWhile Char.isDigit, rest.offset + digits.length⟩)

end Rest
end Json
end DesignTokens
