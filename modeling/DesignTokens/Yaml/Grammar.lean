import DesignTokens.Yaml.Lexer
import DesignTokens.Yaml.Node

/-!
From tokens to the node of a document. Where a node may be left out, an empty scalar stands for it.
-/

namespace DesignTokens
namespace Yaml

/-- The starts of tags that handles stand for. -/
abbrev Handles := List (String × List UInt8)

def defaultHandles : Handles :=
  [("!", (Tag.ofText "!").bytes), ("!!", (Tag.core "").bytes)]

abbrev NodeParser := List Token → Option (Node × List Token)

/-- A tag as it is meant; a tag without a handle stands for itself. -/
def resolveTag? (handles : Handles) (handle : String) (suffix : List UInt8) : Option Tag :=
  if handle.isEmpty then some ⟨suffix⟩
  else (handles.lookup handle).map fun start => ⟨start ++ suffix⟩

/-- An anchor and a tag in either order. -/
def properties? (handles : Handles) : List Token → Option (Properties × List Token)
  | .anchor number :: .tag handle suffix :: rest => do
      some (⟨some number, ← resolveTag? handles handle suffix⟩, rest)
  | .tag handle suffix :: .anchor number :: rest => do
      some (⟨some number, ← resolveTag? handles handle suffix⟩, rest)
  | .anchor number :: rest => some (⟨some number, none⟩, rest)
  | .tag handle suffix :: rest => do
      some (⟨none, ← resolveTag? handles handle suffix⟩, rest)
  | rest => some ({}, rest)

/-- A node, unless one of the given tokens shows that it is left out. -/
def nodeUnless (node : NodeParser) (absent : List Token) : NodeParser
  | [] => node []
  | next :: rest =>
      if absent.contains next then some (.empty, next :: rest) else node (next :: rest)

def blockItems (node : NodeParser) :
    Nat → List Node → List Token → Option (List Node × List Token)
  | fuel + 1, reversed, .blockEntry :: rest => do
      let (item, rest) ← nodeUnless node [.blockEntry, .blockEnd] rest
      blockItems node fuel (item :: reversed) rest
  | _, reversed, .blockEnd :: rest => some (reversed.reverse, rest)
  | _, _, _ => none

/-- The items of a sequence at the column of the mapping around it, which has no end of its own. -/
def indentlessItems (node : NodeParser) :
    Nat → List Node → List Token → Option (List Node × List Token)
  | fuel + 1, reversed, .blockEntry :: rest => do
      let (item, rest) ← nodeUnless node [.blockEntry, .key, .value, .blockEnd] rest
      indentlessItems node fuel (item :: reversed) rest
  | _, reversed, rest => some (reversed.reverse, rest)

/-- The value after a key, which is empty without a value token. -/
def valueAfterKey (node : NodeParser) (absent : List Token) : NodeParser
  | .value :: rest => nodeUnless node absent rest
  | rest => some (.empty, rest)

def blockEntries (node : NodeParser) :
    Nat → List (Node × Node) → List Token → Option (List (Node × Node) × List Token)
  | fuel + 1, reversed, .key :: rest => do
      let (key, rest) ← nodeUnless node [.key, .value, .blockEnd] rest
      let (value, rest) ← valueAfterKey node [.key, .value, .blockEnd] rest
      blockEntries node fuel ((key, value) :: reversed) rest
  | _, reversed, .blockEnd :: rest => some (reversed.reverse, rest)
  | _, _, _ => none

/-- The only entry of a mapping that stands as an item of a flow sequence, after its key token. A
missing key takes the next token with it. -/
def flowPair (node : NodeParser) : NodeParser := fun tokens => do
  let (key, rest) ←
    match tokens with
    | .value :: rest | .flowEntry :: rest | .flowSequenceEnd :: rest => some (Node.empty, rest)
    | rest => node rest
  let (value, rest) ← valueAfterKey node [.flowEntry, .flowSequenceEnd] rest
  some (.mapping {} [(key, value)], rest)

/-- The items of a flow sequence, with its closing bracket. A comma may follow the last item. -/
def flowItems (node : NodeParser) :
    Nat → List Node → List Token → Option (List Node × List Token)
  | 0, _, _ => none
  | fuel + 1, reversed, tokens => do
      let item (tokens : List Token) : Option (List Node × List Token) :=
        match tokens with
        | .flowSequenceEnd :: rest => some (reversed.reverse, rest)
        | .key :: rest => do
            let (pair, rest) ← flowPair node rest
            flowItems node fuel (pair :: reversed) rest
        | tokens => do
            let (found, rest) ← node tokens
            flowItems node fuel (found :: reversed) rest
      if reversed.isEmpty then item tokens
      else
        match tokens with
        | .flowSequenceEnd :: rest => some (reversed.reverse, rest)
        | .flowEntry :: rest => item rest
        | _ => none

/-- The entries of a flow mapping, with its closing brace. An entry without a key token is a key
alone. -/
def flowEntries (node : NodeParser) :
    Nat → List (Node × Node) → List Token → Option (List (Node × Node) × List Token)
  | 0, _, _ => none
  | fuel + 1, reversed, tokens => do
      let entry (tokens : List Token) : Option (List (Node × Node) × List Token) :=
        match tokens with
        | .flowMappingEnd :: rest => some (reversed.reverse, rest)
        | .key :: rest => do
            let (key, rest) ← nodeUnless node [.value, .flowEntry, .flowMappingEnd] rest
            let (value, rest) ← valueAfterKey node [.flowEntry, .flowMappingEnd] rest
            flowEntries node fuel ((key, value) :: reversed) rest
        | tokens => do
            let (key, rest) ← node tokens
            flowEntries node fuel ((key, .empty) :: reversed) rest
      if reversed.isEmpty then entry tokens
      else
        match tokens with
        | .flowMappingEnd :: rest => some (reversed.reverse, rest)
        | .flowEntry :: rest => entry rest
        | _ => none

/-- A node with its properties. Block collections are nodes only where `inBlock` holds, and a
sequence without a block of its own only where `indentless` does. The fuel exceeds the number of
tokens to come. -/
def nodeAt (handles : Handles) : Nat → Bool → Bool → NodeParser
  | 0, _, _, _ => none
  | _, _, _, .aliasOf number :: rest => some (.aliasOf number, rest)
  | fuel + 1, inBlock, indentless, tokens => do
      let (properties, rest) ← properties? handles tokens
      let blockNode := nodeAt handles fuel true false
      let entryNode := nodeAt handles fuel true true
      let flowNode := nodeAt handles fuel false false
      let sequence (found : Option (List Node × List Token)) : Option (Node × List Token) :=
        found.map fun (items, rest) => (.sequence properties items, rest)
      let mapping (found : Option (List (Node × Node) × List Token)) :
          Option (Node × List Token) :=
        found.map fun (entries, rest) => (.mapping properties entries, rest)
      let absent : Option (Node × List Token) :=
        if properties.anchor.isSome || properties.tag.isSome then
          some (.scalar properties .plain "", rest)
        else none
      match rest with
      | .scalar style content :: rest => some (.scalar properties style content, rest)
      | .flowSequenceStart :: rest => sequence (flowItems flowNode fuel [] rest)
      | .flowMappingStart :: rest => mapping (flowEntries flowNode fuel [] rest)
      | .blockEntry :: _ =>
          if indentless then sequence (indentlessItems blockNode fuel [] rest) else absent
      | .blockSequenceStart :: rest =>
          if inBlock then sequence (blockItems blockNode fuel [] rest) else absent
      | .blockMappingStart :: rest =>
          if inBlock then mapping (blockEntries entryNode fuel [] rest) else absent
      | _ => absent

/-- The directives before a document. There is at most one version, 1.1 or 1.2, and a handle is
declared at most once. -/
def directives? (isVersioned : Bool) (declared : Handles) :
    List Token → Option (Handles × List Token)
  | .version major minor :: rest =>
      if isVersioned || major != 1 || (minor != 1 && minor != 2) then none
      else directives? true declared rest
  | .tagHandle handle start :: rest =>
      if Entries.contains handle declared then none
      else directives? isVersioned ((handle, start) :: declared) rest
  | rest => some (declared ++ defaultHandles, rest)

def contentAfterMark (handles : Handles) (tokens : List Token) : Option (Node × List Token) :=
  match tokens with
  | [] | .version _ _ :: _ | .tagHandle _ _ :: _ | .documentStart :: _ | .documentEnd :: _ =>
      some (.empty, tokens)
  | tokens => nodeAt handles (tokens.length + 1) true false tokens

def documentNode (tokens : List Token) : Option (Node × List Token) :=
  match tokens with
  | .version _ _ :: _ | .tagHandle _ _ :: _ | .documentStart :: _ => do
      let (handles, rest) ← directives? false [] tokens
      match rest with
      | .documentStart :: rest => contentAfterMark handles rest
      | _ => none
  | tokens => nodeAt defaultHandles (tokens.length + 1) true false tokens

/-- The node of a text with at most one document, if there is one. -/
def Node.parse? (text : String) : Option (Option Node) := do
  let tokens ← tokens? text
  if tokens.isEmpty then some none
  else
    let (node, rest) ← documentNode tokens
    if rest.all (· == .documentEnd) then some (some node) else none

end Yaml
end DesignTokens
