import DesignTokens.CommandLine.Run
import DesignTokens.Text.Terminal

/-!
The arguments of the command line, and what can be wrong with them.
-/

namespace DesignTokens
namespace CommandLine

def programName : String := "token-sass"

def version : String := "0.1.0"

/-- Arguments that take a value. -/
inductive Slot where
  | input
  | output
  | format
  | config
  | out
  deriving DecidableEq, Repr

def Slot.label : Slot → String
  | input => "<INPUT>"
  | output => "--output <STYLE>"
  | format => "--format <FORMAT>"
  | config => "--config <FILE>"
  | out => "--out <FILE>"

inductive UsageError where
  | missingInput
  | unexpectedArgument (argument : String)
  | invalidValue (value : String) (slot : Slot) (reason : String)
  | missingValue (slot : Slot)
  | repeated (label : String)
  | unneededValue (value : String) (label : String)
  deriving DecidableEq

/-- The text of a usage error. Arguments and their names are set off. -/
def UsageError.message : UsageError → String
  | missingInput =>
      "the following required arguments were not provided:\n  " ++ Text.emphasize "<INPUT>"
  | unexpectedArgument argument => "unexpected argument '" ++ Text.emphasize argument ++ "' found"
  | invalidValue value slot reason =>
      "invalid value '" ++ Text.emphasize value ++ "' for '" ++ Text.emphasize slot.label ++
        "': " ++ reason
  | missingValue slot =>
      "a value is required for '" ++ Text.emphasize slot.label ++ "' but none was supplied"
  | repeated label =>
      "the argument '" ++ Text.emphasize label ++ "' cannot be used multiple times"
  | unneededValue value label =>
      "unexpected value '" ++ Text.emphasize value ++ "' for '" ++ Text.emphasize label ++
        "' found; no more were expected"

/-- Whether the usage is shown with an error. It is not if a value is to blame. -/
def UsageError.showsUsage : UsageError → Bool
  | invalidValue _ _ _ | missingValue _ => false
  | _ => true

def usage : String :=
  "Usage: " ++ programName ++ " [OPTIONS] <INPUT>"

def help : String :=
  Text.joinWith "\n"
    ["Compile design tokens to SCSS",
      "",
      usage,
      "",
      "Arguments:",
      "  <INPUT>  Token document (.json, .yaml or .yml)",
      "",
      "Options:",
      "      --output <STYLE>   Output style: variables or map",
      "      --no-resolve       Leave \x7balias\x7d references unresolved",
      "      --format <FORMAT>  Input dialect; detected from the document when omitted",
      "      --config <FILE>    Options file (YAML or JSON)",
      "  -o, --out <FILE>       Write SCSS to this file instead of stdout",
      "  -v, --verbose...       Log progress to stderr (-v debug, -vv trace)",
      "  -h, --help             Print help",
      "  -V, --version          Print version",
      ""]

/-- A usage error is printed without control sequences, its own ones and those of arguments. -/
def Outcome.ofUsageError (error : UsageError) : Outcome :=
  let shownUsage := if error.showsUsage then "\n\n" ++ usage else ""
  { code := 2
    standardError := Text.withoutControls
      (Text.emphasize "error:" ++ " " ++ error.message ++ shownUsage ++
        "\n\nFor more information, try '" ++ Text.emphasize "--help" ++ "'.\n") }

end CommandLine
end DesignTokens
