import DesignTokens.Entries
import DesignTokens.Yaml.BlockScalar
import DesignTokens.Yaml.LineScalar
import DesignTokens.Yaml.Tag

/-!
From a text to its tokens. A key of a mapping is recognised only at the colon after it, so the place
where a key may have begun is remembered, and the tokens that announce the key are put there.
-/

namespace DesignTokens
namespace Yaml

/-- The place of a token that may turn out to be a key. -/
structure KeyPlace where
  /-- A required key begins a line of its block, so that only a colon can follow. -/
  isRequired : Bool
  tokenIndex : Nat
  byteIndex : Nat
  line : Nat
  column : Nat

structure Lexer where
  cursor : Cursor
  /-- More than the number of characters to come, which bounds every loop over them. -/
  limit : Nat
  tokens : Array Token := #[]
  /-- The column of the innermost block; outside of all blocks it is negative. -/
  indent : Int := -1
  outerIndents : List Int := []
  keyAllowed : Bool := true
  /-- The place of a possible key, for each open flow collection and for the block around. -/
  keyPlace : Option KeyPlace := none
  outerKeyPlaces : List (Option KeyPlace) := []
  anchors : List (String × Nat) := []

namespace Lexer

def inFlow (lexer : Lexer) : Bool :=
  !lexer.outerKeyPlaces.isEmpty

def emit (lexer : Lexer) (token : Token) : Lexer :=
  { lexer with tokens := lexer.tokens.push token }

def insertToken (lexer : Lexer) (index : Nat) (token : Token) : Lexer :=
  { lexer with tokens := lexer.tokens.insertIdxIfInBounds index token }

/-- Gives up the possible key, which must not have been a required one. -/
def dropKey (lexer : Lexer) : Option Lexer :=
  match lexer.keyPlace with
  | some place => if place.isRequired then none else some { lexer with keyPlace := none }
  | none => some lexer

/-- Notes that the next token may be a key. -/
def markKey (lexer : Lexer) : Option Lexer :=
  if lexer.keyAllowed then do
    let cursor := lexer.cursor
    let isRequired := !lexer.inFlow && lexer.indent == (cursor.column : Int)
    let lexer ← lexer.dropKey
    some { lexer with
      keyPlace := some
        ⟨isRequired, lexer.tokens.size, cursor.byteIndex, cursor.line, cursor.column⟩ }
  else some lexer

/-- A key stays on one line and within 1024 bytes. -/
def isStale (cursor : Cursor) (place : KeyPlace) : Bool :=
  place.line < cursor.line || place.byteIndex + 1024 < cursor.byteIndex

def refreshKeyPlace (cursor : Cursor) : Option KeyPlace → Option (Option KeyPlace)
  | none => some none
  | some place =>
      if isStale cursor place then if place.isRequired then none else some none
      else some (some place)

def refreshKeys (lexer : Lexer) : Option Lexer := do
  let keyPlace ← refreshKeyPlace lexer.cursor lexer.keyPlace
  let outerKeyPlaces ← lexer.outerKeyPlaces.mapM (refreshKeyPlace lexer.cursor)
  some { lexer with keyPlace := keyPlace, outerKeyPlaces := outerKeyPlaces }

/-- Opens a block if the column lies beyond the innermost one. -/
def openBlock (lexer : Lexer) (column : Nat) (tokenIndex : Nat) (token : Token) : Lexer :=
  if lexer.inFlow || (column : Int) ≤ lexer.indent then lexer
  else
    { lexer.insertToken tokenIndex token with
      indent := column
      outerIndents := lexer.indent :: lexer.outerIndents }

def closeBlocksBeyond (column : Int) (indent : Int) :
    List Int → List Token → Int × List Int × List Token
  | [], closing => (indent, [], closing)
  | outer :: rest, closing =>
      if column < indent then closeBlocksBeyond column outer rest (.blockEnd :: closing)
      else (indent, outer :: rest, closing)

def closeBlocks (lexer : Lexer) (column : Int) : Lexer :=
  if lexer.inFlow then lexer
  else
    let (indent, outerIndents, closing) :=
      closeBlocksBeyond column lexer.indent lexer.outerIndents []
    { lexer with
      indent := indent
      outerIndents := outerIndents
      tokens := lexer.tokens ++ closing.toArray }

/-- Passes blanks, comments and breaks. A tab does not indent a line of a block. -/
def skipToToken : Nat → Lexer → Lexer
  | 0, lexer => lexer
  | fuel + 1, lexer =>
      let start := lexer.cursor
      let cursor := if start.column == 0 && start.nextIs '\ufeff' then start.skip else start
      let cursor := cursor.skipWhile fun character =>
        character = ' ' || (character = '\t' && (lexer.inFlow || !lexer.keyAllowed))
      let cursor := if cursor.nextIs '#' then cursor.restOfLine.2 else cursor
      if cursor.isAtBreak then
        skipToToken fuel { lexer with
          cursor := cursor.takeBreak.2
          keyAllowed := lexer.keyAllowed || !lexer.inFlow }
      else { lexer with cursor := cursor }

/-- A token of some characters that are passed. -/
def indicator (lexer : Lexer) (length : Nat) (token : Token) (keyAllowed : Bool) : Lexer :=
  { lexer.emit token with cursor := lexer.cursor.skipMany length, keyAllowed := keyAllowed }

def documentMark (lexer : Lexer) (token : Token) : Option Lexer := do
  let lexer ← (lexer.closeBlocks (-1)).dropKey
  some (lexer.indicator 3 token false)

def directive (lexer : Lexer) : Option Lexer := do
  let lexer ← (lexer.closeBlocks (-1)).dropKey
  let (token, cursor) ← directive? lexer.limit lexer.cursor.skip
  some { lexer.emit token with cursor := cursor, keyAllowed := false }

def flowStart (lexer : Lexer) (token : Token) : Option Lexer := do
  let lexer ← lexer.markKey
  some { lexer.indicator 1 token true with
    keyPlace := none
    outerKeyPlaces := lexer.keyPlace :: lexer.outerKeyPlaces }

def flowEnd (lexer : Lexer) (token : Token) : Option Lexer := do
  let lexer ← lexer.dropKey
  let lexer := lexer.indicator 1 token false
  match lexer.outerKeyPlaces with
  | [] => some lexer
  | keyPlace :: outer => some { lexer with keyPlace := keyPlace, outerKeyPlaces := outer }

def flowEntry (lexer : Lexer) : Option Lexer := do
  some ((← lexer.dropKey).indicator 1 .flowEntry true)

def blockEntry (lexer : Lexer) : Option Lexer := do
  if !lexer.inFlow && !lexer.keyAllowed then none
  else
    let lexer := lexer.openBlock lexer.cursor.column lexer.tokens.size .blockSequenceStart
    some ((← lexer.dropKey).indicator 1 .blockEntry true)

def explicitKey (lexer : Lexer) : Option Lexer := do
  if !lexer.inFlow && !lexer.keyAllowed then none
  else
    let lexer := lexer.openBlock lexer.cursor.column lexer.tokens.size .blockMappingStart
    some ((← lexer.dropKey).indicator 1 .key (!lexer.inFlow))

/-- A colon makes a key of the possible one before it. -/
def value (lexer : Lexer) : Option Lexer :=
  match lexer.keyPlace with
  | some place =>
      let lexer := { lexer.insertToken place.tokenIndex .key with keyPlace := none }
      let lexer := lexer.openBlock place.column place.tokenIndex .blockMappingStart
      some (lexer.indicator 1 .value false)
  | none =>
      if !lexer.inFlow && !lexer.keyAllowed then none
      else
        let lexer := lexer.openBlock lexer.cursor.column lexer.tokens.size .blockMappingStart
        some (lexer.indicator 1 .value (!lexer.inFlow))

def anchorName (cursor : Cursor) : Option (String × Cursor) :=
  let (name, after) := cursor.skip.takeWhile isNameChar
  let isEnded := isWordEnd after.next? ||
    after.next?.any ['?', ':', ',', ']', '\x7d', '%', '@', '\x60'].contains
  if name.isEmpty || !isEnded then none else some (String.ofList name, after)

/-- An anchor has as its number how many names are known before it. -/
def anchor (lexer : Lexer) : Option Lexer := do
  let lexer ← lexer.markKey
  let (name, cursor) ← anchorName lexer.cursor
  let number := lexer.anchors.length
  some { lexer.emit (.anchor number) with
    cursor := cursor
    keyAllowed := false
    anchors := Entries.put name number lexer.anchors }

def aliasToken (lexer : Lexer) : Option Lexer := do
  let lexer ← lexer.markKey
  let (name, cursor) ← anchorName lexer.cursor
  let number ← lexer.anchors.lookup name
  some { lexer.emit (.aliasOf number) with cursor := cursor, keyAllowed := false }

def tag (lexer : Lexer) : Option Lexer := do
  let lexer ← lexer.markKey
  let (token, cursor) ← tag? lexer.inFlow lexer.limit lexer.cursor
  some { lexer.emit token with cursor := cursor, keyAllowed := false }

def scalarToken (style : ScalarStyle) (content : List Char) : Token :=
  .scalar style (String.ofList content)

def block (lexer : Lexer) (style : ScalarStyle) : Option Lexer := do
  let lexer ← lexer.dropKey
  let (content, cursor) ← blockScalar (style == .folded) lexer.indent lexer.limit lexer.cursor.skip
  some { lexer.emit (scalarToken style content) with cursor := cursor, keyAllowed := true }

def quoted (lexer : Lexer) (quote : Char) (style : ScalarStyle) : Option Lexer := do
  let lexer ← lexer.markKey
  let (content, cursor) ← quotedScalar quote lexer.limit [] lexer.cursor.skip
  some { lexer.emit (scalarToken style content) with cursor := cursor, keyAllowed := false }

def plain (lexer : Lexer) : Option Lexer := do
  let lexer ← lexer.markKey
  let (content, isBroken, cursor) ←
    plainScalar lexer.inFlow (lexer.indent + 1).toNat lexer.limit [] {} lexer.cursor
  some { lexer.emit (scalarToken .plain content) with cursor := cursor, keyAllowed := isBroken }

/-- Characters that begin no plain scalar, unless something is joined to them. -/
def plainExcluded : List Char :=
  ['-', '?', ':', ',', '[', ']', '\x7b', '\x7d', '#', '&', '*', '!', '|', '>', '\'', '"', '%', '@',
    '\x60']

def startsPlain (inFlow : Bool) (first : Char) (second : Option Char) : Bool :=
  !(plainExcluded.contains first || isBlank first) ||
    (first = '-' && !second.any isBlank) ||
    (!inFlow && (first = '?' || first = ':') && !isWordEnd second)

def next (lexer : Lexer) (first : Char) : Option Lexer :=
  let cursor := lexer.cursor
  let second := cursor.characters[1]?
  let inFlow := lexer.inFlow
  if cursor.column == 0 && first = '%' then lexer.directive
  else if cursor.isAtMark '-' then lexer.documentMark .documentStart
  else if cursor.isAtMark '.' then lexer.documentMark .documentEnd
  else if first = '[' then lexer.flowStart .flowSequenceStart
  else if first = '\x7b' then lexer.flowStart .flowMappingStart
  else if first = ']' then lexer.flowEnd .flowSequenceEnd
  else if first = '\x7d' then lexer.flowEnd .flowMappingEnd
  else if first = ',' then lexer.flowEntry
  else if first = '-' && isWordEnd second then lexer.blockEntry
  else if first = '?' && (inFlow || isWordEnd second) then lexer.explicitKey
  else if first = ':' && (inFlow || isWordEnd second) then lexer.value
  else if first = '*' then lexer.aliasToken
  else if first = '&' then lexer.anchor
  else if first = '!' then lexer.tag
  else if first = '|' && !inFlow then lexer.block .literal
  else if first = '>' && !inFlow then lexer.block .folded
  else if first = '\'' then lexer.quoted '\'' .singleQuoted
  else if first = '"' then lexer.quoted '"' .doubleQuoted
  else if startsPlain inFlow first second then lexer.plain
  else none

/-- The tokens of what is left; each round passes at least one character. -/
def run : Nat → Lexer → Option (List Token)
  | 0, _ => none
  | fuel + 1, lexer =>
      match refreshKeys (skipToToken lexer.limit lexer) with
      | none => none
      | some lexer =>
          let lexer := lexer.closeBlocks lexer.cursor.column
          match lexer.cursor.next? with
          | none => (lexer.closeBlocks (-1)).dropKey.map (·.tokens.toList)
          | some first =>
              match next lexer first with
              | some lexer => run fuel lexer
              | none => none

end Lexer

def tokens? (text : String) : Option (List Token) :=
  let characters := text.toList
  let limit := characters.length + 1
  if characters.all isPermitted then
    Lexer.run limit { cursor := ⟨characters, 0, 0, 0⟩, limit := limit }
  else none

end Yaml
end DesignTokens
