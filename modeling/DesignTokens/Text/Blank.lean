/-!
White space, and texts without it at both ends.
-/

namespace DesignTokens
namespace Text

/-- White space of the ASCII range, the vertical tab and the form feed included. -/
def isAsciiBlank (character : Char) : Bool :=
  character = ' ' || ('\t' ≤ character && character ≤ '\x0d')

def isBlank (character : Char) : Bool :=
  isAsciiBlank character ||
    ['\u0085', '\u00a0', '\u1680', '\u2028', '\u2029', '\u202f', '\u205f', '\u3000'].contains
      character ||
    ('\u2000' ≤ character && character ≤ '\u200a')

def trim (text : List Char) : List Char :=
  ((text.dropWhile isBlank).reverse.dropWhile isBlank).reverse

end Text
end DesignTokens
