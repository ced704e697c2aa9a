import DesignTokens.Yaml.Cursor

/-!
Literal and folded block scalars. Their lines share an indentation, given or found on the first
line that is not empty; the header also says what becomes of the breaks at the end.
-/

namespace DesignTokens
namespace Yaml

inductive Chomping where
  | strip
  | clip
  | keep
  deriving DecidableEq

/-- The header of a block scalar: chomping and indentation in either order. An indentation of zero
stands for none, and cannot be given. -/
def blockHeader (cursor : Cursor) : Option (Chomping × Nat × Cursor) :=
  let chomping (cursor : Cursor) : Chomping × Cursor :=
    if cursor.nextIs '+' then (.keep, cursor.skip)
    else if cursor.nextIs '-' then (.strip, cursor.skip)
    else (.clip, cursor)
  let increment (cursor : Cursor) : Option (Nat × Cursor) :=
    match cursor.next? with
    | some digit =>
        if digit = '0' then none
        else if digit.isDigit then some (digit.toNat - '0'.toNat, cursor.skip)
        else some (0, cursor)
    | none => some (0, cursor)
  if cursor.nextIs '+' || cursor.nextIs '-' then do
    let (indicator, cursor) := chomping cursor
    let (amount, cursor) ← increment cursor
    some (indicator, amount, ← cursor.finishLine?)
  else do
    let (amount, cursor) ← increment cursor
    let (indicator, cursor) := if amount = 0 then (.clip, cursor) else chomping cursor
    some (indicator, amount, ← cursor.finishLine?)

/-- The empty lines before content, their breaks, and the greatest column reached in them. While
`indent` is zero any number of spaces is indentation; a tab never is. -/
def emptyLines (indent : Nat) :
    Nat → Nat → List Char → Cursor → Option (Nat × List Char × Cursor)
  | 0, widest, breaks, cursor => some (widest, breaks, cursor)
  | fuel + 1, widest, breaks, cursor =>
      let spaces := cursor.characters.takeWhile (· = ' ')
      let indentation :=
        if indent = 0 then spaces.length else min spaces.length (indent - cursor.column)
      let content := cursor.skipMany indentation
      let widest := max widest content.column
      if (indent = 0 || content.column < indent) && content.nextIs '\t' then none
      else if content.isAtBreak then
        emptyLines indent fuel widest (breaks ++ content.takeBreak.1) content.takeBreak.2
      else some (widest, breaks, content)

/-- What a block scalar has been read of: its content, the break after its last line, and the
breaks of the empty lines since. -/
structure BlockContent where
  content : List Char := []
  lastBreak : List Char := []
  emptyBreaks : List Char := []
  /-- Whether the last line begins with a blank. -/
  isIndented : Bool := false

namespace BlockContent

/-- Adds a line. A folded scalar replaces a newline between two lines that begin without a blank
by a space, or by the newlines of the empty lines between. -/
def addLine (block : BlockContent) (isFolded : Bool) (line lineBreak : List Char) :
    BlockContent :=
  let startsBlank := line.head?.any isBlank
  let joined :=
    if isFolded && block.lastBreak.head? == some '\n' && !block.isIndented && !startsBlank then
      if block.emptyBreaks.isEmpty then [' '] else block.emptyBreaks
    else block.lastBreak ++ block.emptyBreaks
  ⟨block.content ++ joined ++ line, lineBreak, [], startsBlank⟩

def chomp (block : BlockContent) : Chomping → List Char
  | .strip => block.content
  | .clip => block.content ++ block.lastBreak
  | .keep => block.content ++ block.lastBreak ++ block.emptyBreaks

end BlockContent

/-- The lines of a block scalar at column `indent`. -/
def blockLines (isFolded : Bool) (indent : Nat) :
    Nat → BlockContent → Cursor → Option (BlockContent × Cursor)
  | 0, block, cursor => some (block, cursor)
  | fuel + 1, block, cursor =>
      if cursor.column != indent || cursor.next?.isNone then some (block, cursor)
      else do
        let (line, lineEnd) := cursor.restOfLine
        let (lineBreak, nextLine) := lineEnd.takeBreak
        let block := block.addLine isFolded line lineBreak
        let (_, breaks, cursor) ← emptyLines indent fuel 0 [] nextLine
        blockLines isFolded indent fuel { block with emptyBreaks := breaks } cursor

/-- The content of a block scalar after its indicator, inside a block at column `parent`. The limit
exceeds the number of characters to come. -/
def blockScalar (isFolded : Bool) (parent : Int) (limit : Nat) (cursor : Cursor) :
    Option (List Char × Cursor) := do
  let (chomping, increment, cursor) ← blockHeader cursor
  let given := if increment = 0 then 0 else (max parent 0).toNat + increment
  let (widest, breaks, cursor) ← emptyLines given limit 0 [] cursor
  let indent := if given = 0 then max (max widest (parent + 1).toNat) 1 else given
  let (block, cursor) ← blockLines isFolded indent limit { emptyBreaks := breaks } cursor
  some (block.chomp chomping, cursor)

end Yaml
end DesignTokens
