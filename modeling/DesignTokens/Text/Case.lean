import DesignTokens.Text.CaseTable

/-!
Capitals, small letters and lowercase. A capital sigma has its final form at the end of a word when
a whole text is lowercased, but not when a single character is.
-/

namespace DesignTokens
namespace Text

def isTitlecase (character : Char) : Bool :=
  titlecaseRuns.any (·.contains character.toNat)

/-- The lowercase of one character, which may have several characters. -/
def lowerChar (character : Char) : List Char :=
  if character.toNat < 0x80 then [character.toLower]
  else if character = 'İ' then ['i', '\u0307']
  else
    match lowercaseShifts.find? (·.contains character.toNat) with
    | some shift => [Char.ofNat (character.toNat + shift.offset).toNat]
    | none => [character]

def isCapital (character : Char) : Bool :=
  if character.toNat < 0x80 then 'A' ≤ character && character ≤ 'Z'
  else (lowerChar character != [character] && !isTitlecase character) ||
    unpairedCapitalRuns.any (·.contains character.toNat)

def isSmall (character : Char) : Bool :=
  if character.toNat < 0x80 then 'a' ≤ character && character ≤ 'z'
  else smallLetterRuns.any (·.contains character.toNat)

def isCased (character : Char) : Bool :=
  isCapital character || isSmall character || isTitlecase character

def isCaseIgnorable (character : Char) : Bool :=
  caseIgnorableRuns.any (·.contains character.toNat)

/-- Whether a cased character comes first once the ignorable ones are skipped. -/
def startsCased (text : List Char) : Bool :=
  match text.dropWhile isCaseIgnorable with
  | [] => false
  | character :: _ => isCased character

/-- Lowercase of a text after the characters in `before`, the nearest first. -/
def lowerAfter (before : List Char) : List Char → List Char
  | [] => []
  | character :: rest =>
      let lowered :=
        if character = 'Σ' then
          if startsCased before && !startsCased rest then ['ς'] else ['σ']
        else lowerChar character
      lowered ++ lowerAfter (character :: before) rest

def lower (text : List Char) : List Char :=
  lowerAfter [] text

end Text
end DesignTokens
