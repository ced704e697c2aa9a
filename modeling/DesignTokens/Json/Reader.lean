import DesignTokens.Json.Literal

/-!
Reading JSON texts. A text holds one value with blanks around it; a name that an object repeats
keeps its first place and takes the last value.
-/

namespace DesignTokens
namespace Json

/-- Lists and objects may be nested this deep in a document. -/
def documentDepth : Nat := 127

/-- The items of a list up to its closing bracket. Before the first item there is no comma. -/
def items (item : Rest → Except Failure (Value × Rest)) :
    Nat → List Value → Rest → Except Failure (List Value × Rest)
  | 0, _, rest => rest.failHere .unfinishedList
  | fuel + 1, reversed, before =>
      let rest := before.skipBlanks
      let readItem (rest : Rest) :=
        match item rest with
        | .ok (value, rest) => items item fuel (value :: reversed) rest
        | .error failure => .error failure
      match rest.characters with
      | [] => rest.failHere .unfinishedList
      | found :: _ =>
          if found = ']' then .ok (reversed.reverse, rest.advance)
          else if reversed.isEmpty then readItem rest
          else if found = ',' then
            let next := rest.advance.skipBlanks
            match next.characters with
            | [] => next.failHere .unfinishedValue
            | ']' :: _ => next.failAhead .trailingComma
            | _ :: _ => readItem next
          else rest.failAhead .expectedItemEnd

def field (content : Rest → Except Failure (Value × Rest)) (limit : Nat) (rest : Rest) :
    Except Failure ((String × Value) × Rest) := do
  let (name, rest) ← string limit [] rest.advance
  let colon := rest.skipBlanks
  match colon.characters with
  | [] => colon.failHere .unfinishedObject
  | ':' :: _ => do
      let (value, rest) ← content colon.advance
      .ok ((name, value), rest)
  | _ :: _ => colon.failAhead .expectedColon

/-- The fields of an object up to its closing brace. -/
def fields (content : Rest → Except Failure (Value × Rest)) :
    Nat → Bool → List (String × Value) → Rest → Except Failure (List (String × Value) × Rest)
  | 0, _, _, rest => rest.failHere .unfinishedObject
  | fuel + 1, isFirst, known, before =>
      let rest := before.skipBlanks
      let readField (rest : Rest) :=
        match field content fuel rest with
        | .ok ((name, value), rest) =>
            fields content fuel false (Entries.put name value known) rest
        | .error failure => .error failure
      match rest.characters with
      | [] => rest.failHere .unfinishedObject
      | found :: _ =>
          if found = '\x7d' then .ok (known, rest.advance)
          else if isFirst then
            if found = '"' then readField rest else rest.failAhead .nameNotQuoted
          else if found = ',' then
            let next := rest.advance.skipBlanks
            match next.characters with
            | [] => next.failHere .unfinishedValue
            | '"' :: _ => readField next
            | '\x7d' :: _ => next.failAhead .trailingComma
            | _ :: _ => next.failAhead .nameNotQuoted
          else rest.failAhead .expectedFieldEnd

/-- A value whose lists and objects are nested at most `depth` deep. The limit exceeds the number of
characters to come, and so of items, fields and the characters of a string. -/
def value (limit : Nat) : Nat → Rest → Except Failure (Value × Rest)
  | depth, before =>
      let rest := before.skipBlanks
      match rest.characters with
      | [] => rest.failHere .unfinishedValue
      | found :: _ =>
          let after := rest.advance
          if found = 'n' then do .ok (.null, ← word ['u', 'l', 'l'] after)
          else if found = 't' then do .ok (.boolean true, ← word ['r', 'u', 'e'] after)
          else if found = 'f' then do .ok (.boolean false, ← word ['a', 'l', 's', 'e'] after)
          else if found = '"' then do
            let (content, rest) ← string limit [] after
            .ok (.text content, rest)
          else if found = '-' then do
            let (number, rest) ← unsignedNumber true after
            .ok (.number number, rest)
          else if found.isDigit then do
            let (number, rest) ← unsignedNumber false rest
            .ok (.number number, rest)
          else if found = '[' then
            match depth with
            | 0 => rest.failAhead .tooDeep
            | depth + 1 => do
                let (found, rest) ← items (value limit depth) limit [] after
                .ok (.list found, rest)
          else if found = '\x7b' then
            match depth with
            | 0 => rest.failAhead .tooDeep
            | depth + 1 => do
                let (found, rest) ← fields (value limit depth) limit true [] after
                .ok (.object found, rest)
          else rest.failAhead .expectedValue

def read (depth : Nat) (text : String) : Except Failure Value := do
  let (value, rest) ← value (text.length + 1) depth (Rest.start text)
  let rest := rest.skipBlanks
  if rest.characters.isEmpty then .ok value else rest.failAhead .trailingText

end Json
end DesignTokens
