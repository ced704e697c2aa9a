import DesignTokens.Document.Tokens
import DesignTokens.Failure
import DesignTokens.Options.Basic
import DesignTokens.Reference.Resolution

/-!
Compiling a document: its tokens are found in the dialect that the options name or the document
shows, references are replaced unless the options say otherwise, and the tokens are written as a
stylesheet, with names in the given spelling.
-/

namespace DesignTokens

structure Compilation where
  contents : String
  dialect : Dialect
  tokenCount : Nat
  deriving DecidableEq

/-- The tokens of a document as they go into its stylesheet. -/
def Options.finalTokens (options : Options) (tokens : List Token) :
    Except Failure (List Token) :=
  if options.resolvesAliases then
    match Reference.resolveHeld tokens with
    | (.ok (), resolved) => .ok resolved
    | (.error failure, _) => .error failure
  else .ok tokens

def Options.dialectOf (options : Options) (document : Value) : Dialect :=
  options.dialect.getD (Document.detect document)

def compile (spell : List Char → List Char) (document : Value) (options : Options) :
    Except Failure Compilation :=
  let dialect := options.dialectOf document
  match options.finalTokens (Document.tokens document dialect) with
  | .ok tokens => .ok ⟨Scss.stylesheet spell options.style tokens, dialect, tokens.length⟩
  | .error failure => .error failure

end DesignTokens
