import DesignTokens.Options.Basic
import DesignTokens.Yaml.Value

/-!
Settings given as a YAML document: a mapping of named fields, each of them at most once. A document
without content sets nothing.
-/

namespace DesignTokens
namespace Settings

open Yaml (Node)

/-- Whether an untagged plain scalar says that there is nothing. -/
def isNothing (content : String) : Bool :=
  content.isEmpty || Yaml.isNull content

/-- A choice is a scalar with its name, or its name as a local tag on nothing. -/
def readChoice? {Choice : Type} (choices : List (String × Choice)) : Node → Option Choice
  | .scalar properties style content =>
      match properties.tag.bind Yaml.Tag.localName? with
      | none => choices.lookup content
      | some name => if style = .plain && isNothing content then choices.lookup name else none
  | _ => none

def readOptional? {Choice : Type} (choices : List (String × Choice)) (node : Node) :
    Option (Option Choice) :=
  match node with
  | .scalar properties .plain content =>
      match properties.tag with
      | none => if isNothing content then some none else (readChoice? choices node).map some
      | some tag =>
          if tag = .core "null" then if Yaml.isNull content then some none else none
          else (readChoice? choices node).map some
  | node => (readChoice? choices node).map some

/-- A switch is a plain scalar, or a literal one with the tag of booleans. -/
def readSwitch? : Node → Option Bool
  | .scalar properties style content =>
      if style = .plain || (style = .literal && properties.tag == some (.core "bool")) then
        Yaml.boolean? content
      else none
  | _ => none

/-- The settings with one field given; fields of other names say nothing. -/
def readField? (settings : Settings) (name : String) (node : Node) : Option Settings :=
  if name = "output" then
    (readChoice? Options.styles node).map fun style => { settings with style := some style }
  else if name = "resolveAliases" then
    (readSwitch? node).map fun resolves => { settings with resolvesAliases := some resolves }
  else if name = "format" then
    (readOptional? Options.dialects node).map fun dialect =>
      { settings with dialect := some dialect }
  else some settings

def knownFields : List String :=
  ["output", "resolveAliases", "format"]

def readFields? (anchored : List (Nat × Node)) (limit : Nat) :
    List String → Settings → List (Node × Node) → Option Settings
  | _, settings, [] => some settings
  | seen, settings, (key, node) :: rest => do
      let (name, _) ← key.name? anchored limit
      if seen.contains name && knownFields.contains name then none
      else
        let settings ←
          if knownFields.contains name then do
            let (node, _) ← node.follow? anchored limit
            readField? settings name node
          else some settings
        readFields? anchored limit (name :: seen) settings rest

def ofNode? (node : Node) : Option Settings :=
  match node with
  | .mapping _ entries => readFields? node.anchored node.aliasLimit [] {} entries
  | .scalar _ .plain "" => some {}
  | _ => none

def read? (text : String) : Option Settings := do
  match ← Node.parse? text with
  | none => some {}
  | some node => ofNode? node

end Settings
end DesignTokens
