import DesignTokens.Json.Literal
import DesignTokens.Yaml.Cursor
import DesignTokens.Yaml.Token

/-!
Tags and directives.
-/

namespace DesignTokens
namespace Yaml

/-- Characters of tags that stand for themselves. Only a tag in angle brackets and the directive
for handles may have commas and brackets. -/
def isTagChar (isDelimited : Bool) (character : Char) : Bool :=
  isNameChar character || ";/?:@&=+$.%!~*'()".toList.contains character ||
    (isDelimited && [',', '[', ']'].contains character)

/-- The bytes of one escaped character have as many high bits as the first byte says. -/
def escapedLength? (first : Nat) : Option Nat :=
  if first < 0x80 then some 1
  else if first / 0x20 = 6 then some 2
  else if first / 0x10 = 14 then some 3
  else if first / 0x08 = 30 then some 4
  else none

def escapedByte? : List Char → Option Nat
  | '%' :: high :: low :: _ => Json.hexNumber? [high, low]
  | _ => none

def isLaterByte (byte : Nat) : Bool :=
  byte / 0x40 = 2

/-- The bytes that percent signs with two digits each spell for one character. -/
def escapedBytes? (characters : List Char) : Option (List UInt8) := do
  let first ← escapedByte? characters
  let count ← escapedLength? first
  let later ← (List.range (count - 1)).mapM fun index =>
    (escapedByte? (characters.drop (3 * (index + 1)))).filter isLaterByte
  some ((first :: later).map Nat.toUInt8)

def tagBytes (isDelimited : Bool) : Nat → List UInt8 → Cursor → Option (List UInt8 × Cursor)
  | 0, reversed, cursor => some (reversed.reverse, cursor)
  | fuel + 1, reversed, cursor =>
      match cursor.next? with
      | none => some (reversed.reverse, cursor)
      | some character =>
          if !isTagChar isDelimited character then some (reversed.reverse, cursor)
          else if character = '%' then
            match escapedBytes? cursor.characters with
            | some bytes =>
                tagBytes isDelimited fuel (bytes.reverse ++ reversed)
                  (cursor.skipMany (3 * bytes.length))
            | none => none
          else tagBytes isDelimited fuel (character.toNat.toUInt8 :: reversed) cursor.skip

/-- The bytes that count: none from a NUL on. -/
def untilNul (bytes : List UInt8) : List UInt8 :=
  bytes.takeWhile (· != 0)

/-- An exclamation mark, a name, and perhaps a second mark. -/
def tagHandle? (cursor : Cursor) : Option (List Char × Cursor) :=
  if cursor.nextIs '!' then
    let (name, after) := cursor.skip.takeWhile isNameChar
    if after.nextIs '!' then some ('!' :: name ++ ['!'], after.skip)
    else some ('!' :: name, after)
  else none

/-- What may follow a tag. -/
def endsTag (inFlow : Bool) (cursor : Cursor) : Bool :=
  isWordEnd cursor.next? || (inFlow && cursor.nextIs ',')

/-- A tag: verbatim in angle brackets, or a suffix after the default, the secondary or a named
handle. A lone mark has no handle. The limit is no less than the number of characters to come. -/
def tag? (inFlow : Bool) (limit : Nat) (cursor : Cursor) : Option (Token × Cursor) :=
  if cursor.characters[1]? == some '<' then do
    let start := cursor.skipMany 2
    let (verbatim, after) ← tagBytes true limit [] start
    if verbatim.isEmpty || !after.nextIs '>' || !endsTag inFlow after.skip then none
    else some (.tag "" (untilNul verbatim), after.skip)
  else do
    let (handle, after) ← tagHandle? cursor
    let isHandle := 1 < handle.length && handle.getLast? == some '!'
    let (rest, finish) ← tagBytes false limit [] after
    let name := if isHandle then [] else handle.drop 1
    let suffix := untilNul (name.map (·.toNat.toUInt8) ++ rest)
    let lone := ['!'].map (·.toNat.toUInt8)
    if (isHandle && rest.isEmpty) || !endsTag inFlow finish then none
    else if isHandle then some (.tag (String.ofList handle) suffix, finish)
    else if suffix.isEmpty then some (.tag "" lone, finish)
    else some (.tag "!" suffix, finish)

def versionNumber? (cursor : Cursor) : Option (Nat × Cursor) :=
  let (digits, after) := cursor.takeWhile Char.isDigit
  if digits.isEmpty || 9 < digits.length then none else some (Json.digitsValue digits, after)

/-- A directive after its percent sign, with the break that ends its line. The limit is no less than
the number of characters to come. -/
def directive? (limit : Nat) (cursor : Cursor) : Option (Token × Cursor) :=
  let (name, after) := cursor.takeWhile isNameChar
  let start := after.skipBlanks
  if !isWordEnd after.next? then none
  else if name = "YAML".toList then do
    let (major, cursor) ← versionNumber? start
    if !cursor.nextIs '.' then none
    else
      let (minor, cursor) ← versionNumber? cursor.skip
      some (.version major minor, ← cursor.finishLine?)
  else if name = "TAG".toList then do
    let (handle, cursor) ← tagHandle? start
    if (handle.getLast? != some '!') || !cursor.isAtBlank then none
    else
      let cursor := cursor.skipBlanks
      let (tagStart, cursor) ← tagBytes true limit [] cursor
      if tagStart.isEmpty || !isWordEnd cursor.next? then none
      else some (.tagHandle (String.ofList handle) (untilNul tagStart), ← cursor.finishLine?)
  else none

end Yaml
end DesignTokens
