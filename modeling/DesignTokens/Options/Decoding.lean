import DesignTokens.Options.Basic
import DesignTokens.Text.Quoted
import DesignTokens.Value.Compact

/-!
Options given as a value: an object of named fields, or a list of fields by position. Fields that
are missing keep their defaults, and the first field that does not fit is reported.
-/

namespace DesignTokens

inductive Mismatch where
  | invalidType (found : Value) (expected : String)
  | notOneField
  | unknownChoice (found : String) (choices : List String)
  | tooLong (length : Nat)

namespace Mismatch

def describe : Value → String
  | .null => "null"
  | .boolean truth => "boolean `" ++ toString truth ++ "`"
  | .number (.integer amount) => "integer `" ++ (Number.integer amount).written ++ "`"
  | .number amount => "floating point `" ++ amount.written ++ "`"
  | .text content => "string " ++ Text.quoteVisibly content
  | .list _ => "sequence"
  | .object _ => "map"

def message : Mismatch → String
  | invalidType found expected => "invalid type: " ++ describe found ++ ", expected " ++ expected
  | notOneField => "invalid value: map, expected map with a single key"
  | unknownChoice found choices =>
      "unknown variant `" ++ found ++ "`, expected " ++
        Text.joinWith " or " (choices.map fun choice => "`" ++ choice ++ "`")
  | tooLong length => "invalid length " ++ toString length ++ ", expected fewer elements in array"

end Mismatch

namespace Options

def choiceNamed {Choice : Type} (choices : List (String × Choice)) (name : String) :
    Except Mismatch Choice :=
  match choices.lookup name with
  | some choice => .ok choice
  | none => .error (.unknownChoice name (choices.map Prod.fst))

/-- A choice is its name, or an object with that name as its only field and null in it. -/
def decodeChoice {Choice : Type} (choices : List (String × Choice)) :
    Value → Except Mismatch Choice
  | .text name => choiceNamed choices name
  | .object [(name, content)] =>
      match choiceNamed choices name, content with
      | .error mismatch, _ => .error mismatch
      | .ok choice, .null => .ok choice
      | .ok _, content => .error (.invalidType content "unit")
  | .object _ => .error .notOneField
  | value => .error (.invalidType value "string or map")

def decodeSwitch : Value → Except Mismatch Bool
  | .boolean truth => .ok truth
  | value => .error (.invalidType value "a boolean")

/-- The options with one field set; fields of other names say nothing. -/
def decodeField (options : Options) (name : String) (value : Value) : Except Mismatch Options :=
  if name = "output" then do
    let style ← decodeChoice styles value
    .ok { options with style := style }
  else if name = "resolveAliases" then do
    let resolves ← decodeSwitch value
    .ok { options with resolvesAliases := resolves }
  else if name = "format" then
    match value with
    | .null => .ok { options with dialect := none }
    | value => do
        let dialect ← decodeChoice dialects value
        .ok { options with dialect := some dialect }
  else .ok options

def decodeFields (options : Options) : List (String × Value) → Except Mismatch Options
  | [] => .ok options
  | (name, value) :: rest => do
      let options ← decodeField options name value
      decodeFields options rest

def fieldNames : List String :=
  ["output", "resolveAliases", "format"]

def ofValue : Value → Except Mismatch Options
  | .object fields => decodeFields {} fields
  | .list items => do
      let options ← decodeFields {} (fieldNames.zip items)
      if fieldNames.length < items.length then .error (.tooLong items.length) else .ok options
  | value => .error (.invalidType value "struct Options")

end Options
end DesignTokens
