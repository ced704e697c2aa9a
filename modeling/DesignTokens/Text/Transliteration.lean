import DesignTokens.Text.SpellingTable

/-!
A transliteration to ASCII, for those characters that have a spelling here. The ASCII characters at
the front of a text stay as they are, and every character from the first other one on is spelled; a
word sign whose spelling ends in a space keeps that space only where it separates it from what
follows.
-/

namespace DesignTokens
namespace Text

/-- Whether a character stays as it is at the front of a text. -/
def isPlainAscii (character : Char) : Bool :=
  character.toNat < 0x7f

/-- The ASCII spelling of one character. Controls have an empty one. -/
def spelling (character : Char) : List Char :=
  let code := character.toNat
  if code < 0x20 then []
  else if isPlainAscii character then [character]
  else
    match spellingBlocks.find? fun block => block.first ≤ code && code < block.first + 16 with
    | some block => ((block.spellings[code - block.first]?).getD unknownSpelling).toList
    | none =>
        match spellingRuns.find? fun run => run.first ≤ code && code < run.first + run.length with
        | some run => [Char.ofNat (run.spelledFrom.toNat + (code - run.first))]
        | none => ((singleSpellings.lookup code).getD unknownSpelling).toList

/-- A final space of a longer spelling is dropped before a space and at the end of the text. -/
def joinSpellings : List (List Char) → List Char
  | [] => []
  | written :: rest =>
      let atBoundary :=
        match rest with
        | [] => true
        | next :: _ => next.head? == some ' '
      let kept :=
        if atBoundary && 1 < written.length && written.getLast? == some ' ' then written.dropLast
        else written
      kept ++ joinSpellings rest

def transliterate (text : List Char) : List Char :=
  text.takeWhile isPlainAscii ++ joinSpellings ((text.dropWhile isPlainAscii).map spelling)

end Text
end DesignTokens
