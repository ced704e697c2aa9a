import DesignTokens.Entries
import DesignTokens.Failure
import DesignTokens.Reference.Basic

/-!
Replacing references by the values of the tokens they refer to. A value that is followed is
resolved first, so that chains collapse; of several tokens with one key the last one defines it.
References inside lists, and references to keys that no token has, stay as they are.
-/

namespace DesignTokens
namespace Reference

abbrev Definitions := List (String × Value)

/-- The values that are resolved already. -/
abbrev Resolved := List (String × Value)

/-- The keys of a walk that comes back to a key it is still resolving, that key last. -/
abbrev Cycle := List String

/-- The definitions of a list of tokens; the last token of a key comes first. -/
def definitions (tokens : List Token) : Definitions :=
  (tokens.map fun token => (token.key, token.value)).reverse

abbrev Lookup := String → Resolved → Except Cycle (Value × Resolved)

mutual

/-- The value with its references replaced, field by field. -/
def substitute (defined : Definitions) (lookup : Lookup) :
    Value → Resolved → Except Cycle (Value × Resolved)
  | .text content, resolved =>
      match target? content with
      | some key =>
          if Entries.contains key defined then lookup key resolved
          else .ok (.text content, resolved)
      | none => .ok (.text content, resolved)
  | .object fields, resolved =>
      match substituteFields defined lookup fields resolved with
      | .ok (fields, resolved) => .ok (.object fields, resolved)
      | .error cycle => .error cycle
  | value, resolved => .ok (value, resolved)

def substituteFields (defined : Definitions) (lookup : Lookup) :
    List (String × Value) → Resolved → Except Cycle (List (String × Value) × Resolved)
  | [], resolved => .ok ([], resolved)
  | (name, value) :: rest, resolved =>
      match substitute defined lookup value resolved with
      | .error cycle => .error cycle
      | .ok (value, resolved) =>
          match substituteFields defined lookup rest resolved with
          | .error cycle => .error cycle
          | .ok (rest, resolved) => .ok ((name, value) :: rest, resolved)

end

/-- The resolved value of a key. `visiting` lists the keys on the way here, and `remaining` bounds
how many more there can be. -/
def follow (defined : Definitions) : Nat → List String → Lookup
  | remaining, visiting, key, resolved =>
      match resolved.lookup key with
      | some value => .ok (value, resolved)
      | none =>
          if visiting.contains key then .error (visiting ++ [key])
          else
            match defined.lookup key with
            | none => .ok (.text ("\x7b" ++ key ++ "\x7d"), resolved)
            | some value =>
                match remaining with
                | 0 => .error (visiting ++ [key])
                | remaining + 1 =>
                    let lookup := follow defined remaining (visiting ++ [key])
                    match substitute defined lookup value resolved with
                    | .ok (value, resolved) => .ok (value, (key, value) :: resolved)
                    | .error cycle => .error cycle

/-- The resolved value of a token with later tokens after it. A token that does not define its key
is resolved on its own. -/
def resolveToken (defined : Definitions) (key : String) (token : Token)
    (later : List (String × Token)) : Resolved → Except Cycle (Value × Resolved) :=
  let lookup := follow defined defined.length []
  if Entries.contains key later then substitute defined lookup token.value else lookup key

def resolveKeyed (defined : Definitions) :
    List (String × Token) → Resolved → Except Cycle (List Token)
  | [], _ => .ok []
  | (key, token) :: rest, resolved =>
      match resolveToken defined key token rest resolved with
      | .error cycle => .error cycle
      | .ok (value, resolved) =>
          match resolveKeyed defined rest resolved with
          | .error cycle => .error cycle
          | .ok tokens => .ok ({ token with value := value } :: tokens)

def resolve (tokens : List Token) : Except Cycle (List Token) :=
  resolveKeyed (definitions tokens) (tokens.map fun token => (token.key, token)) []

/-- Resolves the tokens that a caller holds, with the tokens held afterwards. -/
def resolveHeld (held : List Token) : Except Failure Unit × List Token :=
  match resolve held with
  | .ok resolved => (.ok (), resolved)
  | .error cycle => (.error (.circularReference cycle), held)

end Reference
end DesignTokens
