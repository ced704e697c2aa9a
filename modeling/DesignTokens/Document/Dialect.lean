import DesignTokens.Text.Blank
import DesignTokens.Text.Case
import DesignTokens.Value.Basic

/-!
The dialects of token documents and their detection. In the DTCG dialect a token has a `$value` and
names that start with `$` are metadata; in the Tokens Studio dialect a token has both a `value` and
a `type`.
-/

namespace DesignTokens

inductive Dialect where
  | dtcg
  | tokensStudio
  deriving DecidableEq, Repr

namespace Dialect

def name : Dialect → String
  | dtcg => "dtcg"
  | tokensStudio => "tokens-studio"

/-- The dialect that a person may call by one of several names, or why there is none. -/
def parse (text : String) : Except String Dialect :=
  let called := String.ofList (Text.lower (Text.trim text.toList))
  if ["dtcg", "w3c"].contains called then .ok dtcg
  else if ["tokens-studio", "tokens_studio", "studio"].contains called then .ok tokensStudio
  else .error
    ("unknown token format '" ++ called ++ "' (expected 'dtcg' or 'tokens-studio')")

end Dialect

namespace Document

def isMetadata (name : String) : Bool :=
  name.toList.head? == some '$'

/-- Objects with these fields are tokens of the DTCG dialect. -/
def isDtcgToken (fields : List (String × Value)) : Bool :=
  Entries.contains "$value" fields

/-- Objects with these fields are tokens of the Tokens Studio dialect. -/
def isStudioToken (fields : List (String × Value)) : Bool :=
  Entries.contains "value" fields && Entries.contains "type" fields

mutual

/-- Whether an object of the value passes a test. Metadata and lists are not searched. -/
def anyObject (test : List (String × Value) → Bool) : Value → Bool
  | .object fields => test fields || anyObjectAmong test fields
  | _ => false

def anyObjectAmong (test : List (String × Value) → Bool) : List (String × Value) → Bool
  | [] => false
  | (name, value) :: rest =>
      (!isMetadata name && anyObject test value) || anyObjectAmong test rest

end

/-- One token of the DTCG dialect decides; a document without tokens counts as DTCG. -/
def detect (document : Value) : Dialect :=
  if anyObject isDtcgToken document then .dtcg
  else if anyObject isStudioToken document then .tokensStudio
  else .dtcg

end Document
end DesignTokens
