import DesignTokens.Yaml.Token

/-!
The nodes of YAML documents.
-/

namespace DesignTokens
namespace Yaml

/-- A tag as it is meant. Its bytes need not be the bytes of a text. -/
structure Tag where
  bytes : List UInt8
  deriving DecidableEq

namespace Tag

def ofText (text : String) : Tag :=
  ⟨text.toUTF8.data.toList⟩

/-- A tag that values have a meaning for. -/
def core (name : String) : Tag :=
  ofText ("tag:yaml.org,2002:" ++ name)

/-- Whether a tag begins with an exclamation mark. -/
def isMarked (tag : Tag) : Bool :=
  tag.bytes.head? == some 0x21

/-- What follows the mark of an application's tag, if it is a text. -/
def localName? (tag : Tag) : Option String :=
  if tag.isMarked then String.fromUTF8? ⟨(tag.bytes.drop 1).toArray⟩ else none

end Tag

structure Properties where
  anchor : Option Nat := none
  tag : Option Tag := none

inductive Node where
  | aliasOf (number : Nat)
  | scalar (properties : Properties) (style : ScalarStyle) (content : String)
  | sequence (properties : Properties) (items : List Node)
  | mapping (properties : Properties) (entries : List (Node × Node))

namespace Node

/-- The node of what is left out. -/
def empty : Node :=
  scalar {} .plain ""

def properties : Node → Properties
  | aliasOf _ => {}
  | scalar properties _ _ => properties
  | sequence properties _ => properties
  | mapping properties _ => properties

mutual

/-- The nodes from the first to the last, each before what is inside it. -/
def all : Node → List Node
  | sequence properties items => sequence properties items :: allItems items
  | mapping properties entries => mapping properties entries :: allEntries entries
  | node => [node]

def allItems : List Node → List Node
  | [] => []
  | item :: rest => all item ++ allItems rest

def allEntries : List (Node × Node) → List Node
  | [] => []
  | (key, value) :: rest => all key ++ all value ++ allEntries rest

end

/-- The anchored nodes by their numbers, the last one first. -/
def anchored (node : Node) : List (Nat × Node) :=
  (node.all.filterMap fun found => found.properties.anchor.map fun number =>
    (number, found)).reverse

/-- How often aliases may be followed in a document: a hundred times for each of its nodes and
each end of a collection. -/
def aliasLimit (node : Node) : Nat :=
  let weight : Node → Nat
    | sequence _ _ | mapping _ _ => 2
    | _ => 1
  100 * (node.all.map weight).foldl (· + ·) 0

end Node
end Yaml
end DesignTokens
