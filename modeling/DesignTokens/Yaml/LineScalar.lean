import DesignTokens.Json.Literal
import DesignTokens.Yaml.Folding

/-!
Scalars whose lines are folded: plain scalars, and scalars in single or double quotes.
-/

namespace DesignTokens
namespace Yaml

def isFlowIndicator (character : Char) : Bool :=
  [',', '[', ']', '\x7b', '\x7d'].contains character

/-- A word of a plain scalar. In a flow collection a colon may not touch an indicator. -/
def plainWord (inFlow : Bool) : List Char → Option (List Char)
  | [] => some []
  | character :: rest =>
      if isWordEnd (some character) then some []
      else if inFlow && character = ':' &&
          rest.head?.any (fun next => isFlowIndicator next || next = '?') then none
      else if character = ':' && isWordEnd rest.head? then some []
      else if inFlow && isFlowIndicator character then some []
      else (plainWord inFlow rest).map (character :: ·)

/-- The content of a plain scalar, whether its last gap is broken, and what follows that gap.
Outside of flow collections the lines are indented to column `indent`. The fuel exceeds the number
of characters to come. -/
def plainScalar (inFlow : Bool) (indent : Nat) :
    Nat → List Char → Gap → Cursor → Option (List Char × Bool × Cursor)
  | 0, _, _, _ => none
  | fuel + 1, content, gap, cursor =>
      if cursor.isAtDocumentMark || cursor.nextIs '#' then some (content, gap.isBroken, cursor)
      else do
        let word ← plainWord inFlow cursor.characters
        let after := cursor.skipMany word.length
        let content := if word.isEmpty then content else content ++ gap.folded ++ word
        let gap := if word.isEmpty then gap else {}
        if after.isAtBlank || after.isAtBreak then
          let (gap, next) ← Gap.read indent fuel {} after
          if !inFlow && next.column < indent then some (content, gap.isBroken, next)
          else plainScalar inFlow indent fuel content gap next
        else some (content, gap.isBroken, after)

def simpleEscapes : List (Char × Char) :=
  [('0', '\x00'), ('a', '\x07'), ('b', '\x08'), ('t', '\t'), ('\t', '\t'), ('n', '\n'),
    ('v', '\x0b'), ('f', '\x0c'), ('r', '\r'), ('e', '\x1b'), (' ', ' '), ('"', '"'), ('/', '/'),
    ('\\', '\\'), ('N', '\u0085'), ('_', '\u00a0'), ('L', '\u2028'), ('P', '\u2029')]

/-- Escapes of a code point, with their number of digits. -/
def codeEscapes : List (Char × Nat) :=
  [('x', 2), ('u', 4), ('U', 8)]

def isScalarCode (code : Nat) : Bool :=
  code < 0xD800 || (0xDFFF < code && code ≤ 0x10FFFF)

/-- The character of an escape, given what follows the backslash, and how long the escape is. -/
def escape? : List Char → Option (Char × Nat)
  | [] => none
  | letter :: rest =>
      match simpleEscapes.lookup letter, codeEscapes.lookup letter with
      | some meant, _ => some (meant, 1)
      | none, some count => do
          let digits := rest.take count
          let code ← Json.hexNumber? digits
          if digits.length == count && isScalarCode code then some (Char.ofNat code, count + 1)
          else none
      | none, none => none

/-- The words of a quoted scalar up to a blank, a break or the closing quote, and whether they end
in an escaped break. -/
def quotedWord (quote : Char) : Nat → List Char → Cursor → Option (List Char × Bool × Cursor)
  | 0, reversed, cursor => some (reversed.reverse, false, cursor)
  | fuel + 1, reversed, cursor =>
      match cursor.characters with
      | [] => some (reversed.reverse, false, cursor)
      | character :: rest =>
          if isWordEnd (some character) then some (reversed.reverse, false, cursor)
          else if character = quote then
            if quote = '\'' && rest.head? == some '\'' then
              quotedWord quote fuel ('\'' :: reversed) (cursor.skipMany 2)
            else some (reversed.reverse, false, cursor)
          else if quote = '"' && character = '\\' then
            if rest.head?.any isBreak then some (reversed.reverse, true, cursor.skip.takeBreak.2)
            else
              match escape? rest with
              | some (meant, count) =>
                  quotedWord quote fuel (meant :: reversed) (cursor.skipMany (count + 1))
              | none => none
          else quotedWord quote fuel (character :: reversed) cursor.skip

/-- The content of a quoted scalar after its opening quote, and what follows its closing one. The
fuel exceeds the number of characters to come. -/
def quotedScalar (quote : Char) : Nat → List Char → Cursor → Option (List Char × Cursor)
  | 0, _, _ => none
  | fuel + 1, content, cursor =>
      if cursor.isAtDocumentMark || cursor.next?.isNone then none
      else do
        let (word, breakEscaped, cursor) ← quotedWord quote fuel [] cursor
        if cursor.nextIs quote then some (content ++ word, cursor.skip)
        else
          let (gap, cursor) ← Gap.read 0 fuel { isBroken := breakEscaped } cursor
          quotedScalar quote fuel (content ++ word ++ gap.folded) cursor

end Yaml
end DesignTokens
