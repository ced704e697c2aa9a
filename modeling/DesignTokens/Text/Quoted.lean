import DesignTokens.Text.VisibilityTable

/-!
Quoted texts. A quoted text of a document escapes quotes, backslashes and control characters; a
quoted text of a message also escapes what cannot be seen.
-/

namespace DesignTokens
namespace Text

def hexDigits (code : Nat) : List Char :=
  Nat.toDigits 16 code

/-- A character between the quotes of a document's text. -/
def escapeChar (character : Char) : List Char :=
  if character = '"' then ['\\', '"']
  else if character = '\\' then ['\\', '\\']
  else if character = '\n' then ['\\', 'n']
  else if character = '\r' then ['\\', 'r']
  else if character = '\t' then ['\\', 't']
  else if character = '\x08' then ['\\', 'b']
  else if character = '\x0c' then ['\\', 'f']
  else if character.toNat < 0x10 then '\\' :: 'u' :: '0' :: '0' :: '0' :: hexDigits character.toNat
  else if character.toNat < 0x20 then '\\' :: 'u' :: '0' :: '0' :: hexDigits character.toNat
  else [character]

def quote (text : String) : String :=
  String.ofList ('"' :: text.toList.flatMap escapeChar ++ ['"'])

/-- Whether a character has no visible form of its own; a space counts as visible. -/
def isInvisible (character : Char) : Bool :=
  invisibleRanges.any fun range => range.1 ≤ character.toNat && character.toNat ≤ range.2

/-- A character between the quotes of a message. -/
def escapeVisibly (character : Char) : List Char :=
  if character = '"' then ['\\', '"']
  else if character = '\\' then ['\\', '\\']
  else if character = '\n' then ['\\', 'n']
  else if character = '\r' then ['\\', 'r']
  else if character = '\t' then ['\\', 't']
  else if character = '\x00' then ['\\', '0']
  else if isInvisible character then '\\' :: 'u' :: '\x7b' :: hexDigits character.toNat ++ ['\x7d']
  else [character]

def quoteVisibly (text : String) : String :=
  String.ofList ('"' :: text.toList.flatMap escapeVisibly ++ ['"'])

end Text
end DesignTokens
