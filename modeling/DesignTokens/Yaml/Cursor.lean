/-!
Places in YAML texts. Lines end at any of five breaks, and a carriage return with a newline is one
break.
-/

namespace DesignTokens
namespace Yaml

/-- Characters that a text may hold. -/
def isPermitted (character : Char) : Bool :=
  character = '\t' || character = '\n' || character = '\r' || character = '\u0085' ||
    (' ' ≤ character && character ≤ '~') ||
    ('\u00a0' ≤ character && character ≠ '\ufffe' && character ≠ '\uffff')

def isBreak (character : Char) : Bool :=
  character = '\n' || character = '\r' || character = '\u0085' || character = '\u2028' ||
    character = '\u2029'

def isBlank (character : Char) : Bool :=
  character = ' ' || character = '\t'

/-- Whether a blank, a break or the end of the text comes next. -/
def isWordEnd (next : Option Char) : Bool :=
  match next with
  | none => true
  | some character => isBlank character || isBreak character

/-- Letters, digits, dashes and underscores, which make up names of anchors and tags. -/
def isNameChar (character : Char) : Bool :=
  character.isAlphanum || character = '-' || character = '_'

def byteCount (characters : List Char) : Nat :=
  characters.foldl (fun count character => count + character.utf8Size) 0

/-- The characters to come, how many bytes came before, and the line and column they begin at.
Columns count characters. -/
structure Cursor where
  characters : List Char
  byteIndex : Nat := 0
  line : Nat := 0
  column : Nat := 0

namespace Cursor

def next? (cursor : Cursor) : Option Char :=
  cursor.characters.head?

def nextIs (cursor : Cursor) (character : Char) : Bool :=
  cursor.next? == some character

def skipMany (cursor : Cursor) (count : Nat) : Cursor :=
  { cursor with
    characters := cursor.characters.drop count
    byteIndex := cursor.byteIndex + byteCount (cursor.characters.take count)
    column := cursor.column + count }

def skip (cursor : Cursor) : Cursor :=
  cursor.skipMany 1

/-- The characters of the line up to the first that fails a test. -/
def takeWhile (cursor : Cursor) (test : Char → Bool) : List Char × Cursor :=
  let taken := cursor.characters.takeWhile test
  (taken, cursor.skipMany taken.length)

def skipWhile (cursor : Cursor) (test : Char → Bool) : Cursor :=
  (cursor.takeWhile test).2

def skipBlanks (cursor : Cursor) : Cursor :=
  cursor.skipWhile isBlank

def restOfLine (cursor : Cursor) : List Char × Cursor :=
  cursor.takeWhile fun character => !isBreak character

/-- A break as it counts in a scalar, and the start of the next line. Most breaks count as a
newline. -/
def takeBreak (cursor : Cursor) : List Char × Cursor :=
  match cursor.characters with
  | [] => ([], cursor)
  | '\r' :: '\n' :: rest => (['\n'], ⟨rest, cursor.byteIndex + 2, cursor.line + 1, 0⟩)
  | character :: rest =>
      let counted := if character = '\u2028' || character = '\u2029' then character else '\n'
      ([counted], ⟨rest, cursor.byteIndex + character.utf8Size, cursor.line + 1, 0⟩)

def isAtBreak (cursor : Cursor) : Bool :=
  cursor.next?.any isBreak

def isAtBlank (cursor : Cursor) : Bool :=
  cursor.next?.any isBlank

/-- Whether a comment or nothing but blanks fills the rest of the line; the start of the next. -/
def finishLine? (cursor : Cursor) : Option Cursor :=
  let cursor := cursor.skipBlanks
  let cursor := if cursor.nextIs '#' then cursor.restOfLine.2 else cursor
  match cursor.next? with
  | none => some cursor
  | some character => if isBreak character then some cursor.takeBreak.2 else none

/-- Three equal marks at the start of a line, with nothing joined to them. -/
def isAtMark (cursor : Cursor) (mark : Char) : Bool :=
  cursor.column == 0 && cursor.characters.take 3 == [mark, mark, mark] &&
    isWordEnd cursor.characters[3]?

def isAtDocumentMark (cursor : Cursor) : Bool :=
  cursor.isAtMark '-' || cursor.isAtMark '.'

end Cursor
end Yaml
end DesignTokens
