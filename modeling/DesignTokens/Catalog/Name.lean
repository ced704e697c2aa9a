/-!
Names of documents. A name may begin with a scheme and end in an extension; what is between them is
its base, which is all that counts.
-/

namespace DesignTokens
namespace Catalog

/-- Extensions in the order in which files are looked for. -/
def extensions : List String :=
  [".tokens.json", ".json", ".yaml", ".yml"]

def scheme : String := "tokens:"

/-- A text without a start that it may have. -/
def withoutStart (start text : List Char) : List Char :=
  if start.isPrefixOf text then text.drop start.length else text

/-- A text without an end, if it has that end. -/
def withoutEnd? (finish text : List Char) : Option (List Char) :=
  if finish.isSuffixOf text then some (text.take (text.length - finish.length)) else none

/-- The base of a name: the scheme is taken off once, then the first extension that fits. -/
def base (name : String) : String :=
  let bare := withoutStart scheme.toList name.toList
  String.ofList ((extensions.findSome? fun extension =>
    withoutEnd? extension.toList bare).getD bare)

end Catalog
end DesignTokens
