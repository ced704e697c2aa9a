/-!
The tokens of YAML texts. Blocks, which a text shows by indentation, have opening and closing tokens
like flow collections.
-/

namespace DesignTokens
namespace Yaml

inductive ScalarStyle where
  | plain
  | singleQuoted
  | doubleQuoted
  | literal
  | folded
  deriving DecidableEq, Repr

inductive Token where
  | version (major minor : Nat)
  /-- What follows the handle of a tag is in bytes, which percent escapes may spell. -/
  | tagHandle (handle : String) (tagStart : List UInt8)
  | documentStart
  | documentEnd
  | blockSequenceStart
  | blockMappingStart
  | blockEnd
  | flowSequenceStart
  | flowSequenceEnd
  | flowMappingStart
  | flowMappingEnd
  | blockEntry
  | flowEntry
  | key
  | value
  /-- Anchors are numbered; an alias has the number of the anchor it stands for. -/
  | anchor (number : Nat)
  | aliasOf (number : Nat)
  | tag (handle : String) (suffix : List UInt8)
  | scalar (style : ScalarStyle) (content : String)
  deriving DecidableEq, Repr

end Yaml
end DesignTokens
