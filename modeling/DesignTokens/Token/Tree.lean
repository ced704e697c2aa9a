import DesignTokens.Entries
import DesignTokens.Token.Basic

/-!
Tokens arranged by their paths. A token displaces whatever stands at its path, and a token on the
way to a longer path gives place to a group.
-/

namespace DesignTokens

inductive Tree where
  | leaf (token : Token)
  | group (entries : List (String × Tree))

namespace Tree

def entries : Tree → List (String × Tree)
  | group entries => entries
  | leaf _ => []

/-- Places a token at a path below the given entries. The empty path is no place. -/
def insert (token : Token) : List String → List (String × Tree) → List (String × Tree)
  | [], known => known
  | [name], known => Entries.put name (leaf token) known
  | name :: next :: rest, known =>
      let below := ((known.lookup name).map entries).getD []
      Entries.put name (group (insert token (next :: rest) below)) known

def ofTokens (tokens : List Token) : List (String × Tree) :=
  tokens.foldl (fun known token => insert token token.path known) []

mutual

def leaves : Tree → List Token
  | leaf token => [token]
  | group entries => leavesAmong entries

def leavesAmong : List (String × Tree) → List Token
  | [] => []
  | (_, tree) :: rest => leaves tree ++ leavesAmong rest

end

end Tree
end DesignTokens
