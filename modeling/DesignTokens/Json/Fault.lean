/-!
What can be wrong with a JSON text, and where. A fault is placed by the number of bytes that were
read when it was found; its message gives that place as a line and a column of bytes.
-/

namespace DesignTokens
namespace Json

inductive Fault where
  | unfinishedValue
  | unfinishedList
  | unfinishedObject
  | unfinishedString
  | expectedValue
  | expectedWord
  | expectedColon
  | expectedItemEnd
  | expectedFieldEnd
  | nameNotQuoted
  | invalidNumber
  | numberOutOfRange
  | invalidEscape
  | unpairedSurrogate
  | surrogateEnd
  | controlCharacter
  | trailingComma
  | trailingText
  | tooDeep
  deriving DecidableEq, Repr

def Fault.message : Fault → String
  | unfinishedValue => "EOF while parsing a value"
  | unfinishedList => "EOF while parsing a list"
  | unfinishedObject => "EOF while parsing an object"
  | unfinishedString => "EOF while parsing a string"
  | expectedValue => "expected value"
  | expectedWord => "expected ident"
  | expectedColon => "expected `:`"
  | expectedItemEnd => "expected `,` or `]`"
  | expectedFieldEnd => "expected `,` or `\x7d`"
  | nameNotQuoted => "key must be a string"
  | invalidNumber => "invalid number"
  | numberOutOfRange => "number out of range"
  | invalidEscape => "invalid escape"
  | unpairedSurrogate => "lone leading surrogate in hex escape"
  | surrogateEnd => "unexpected end of hex escape"
  | controlCharacter => "control character (\\u0000-\\u001F) found while parsing a string"
  | trailingComma => "trailing comma"
  | trailingText => "trailing characters"
  | tooDeep => "recursion limit exceeded"

/-- Line and column after a number of bytes, counted from a given line and column. A newline begins
the next line at column zero. -/
def placeAfter : List Char → Nat → Nat → Nat → Nat × Nat
  | [], _, line, column => (line, column)
  | character :: rest, bytes, line, column =>
      if bytes = 0 then (line, column)
      else if character = '\n' then placeAfter rest (bytes - 1) (line + 1) 0
      else
        placeAfter rest (bytes - character.utf8Size) line (column + min bytes character.utf8Size)

structure Failure where
  fault : Fault
  offset : Nat
  deriving DecidableEq, Repr

def Failure.message (failure : Failure) (text : String) : String :=
  let place := placeAfter text.toList failure.offset 1 0
  failure.fault.message ++ " at line " ++ toString place.1 ++ " column " ++ toString place.2

end Json
end DesignTokens
