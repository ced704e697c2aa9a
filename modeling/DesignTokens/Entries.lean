/-!
Lists of keyed entries in the order in which their keys were first seen.
-/

namespace DesignTokens
namespace Entries

variable {Key Content : Type} [BEq Key]

/-- A known key keeps its place and takes the new content; a new key goes to the end. -/
def put (key : Key) (content : Content) : List (Key × Content) → List (Key × Content)
  | [] => [(key, content)]
  | (known, present) :: rest =>
      if known == key then (known, content) :: rest
      else (known, present) :: put key content rest

def erase (key : Key) (entries : List (Key × Content)) : List (Key × Content) :=
  entries.filter fun entry => !(entry.1 == key)

def contains (key : Key) (entries : List (Key × Content)) : Bool :=
  (entries.lookup key).isSome

end Entries
end DesignTokens
