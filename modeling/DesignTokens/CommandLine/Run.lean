import DesignTokens.Compilation
import DesignTokens.Files.Loading

/-!
Running the command line. A request is carried out as a whole or not at all: what it compiles goes
to the standard output or to a file, and a failure leaves both as they were. How arguments make a
request is a parameter.
-/

namespace DesignTokens
namespace CommandLine

structure Request where
  input : Path
  style : Option Style := none
  keepsReferences : Bool := false
  dialect : Option Dialect := none
  config : Option Path := none
  out : Option Path := none

inductive RunError where
  | invalidConfig (path : Path) (failure : Failure)
  | failed (failure : Failure)
  | notWritten (path : Path) (fault : FileFault)

def RunError.message : RunError → String
  | invalidConfig path failure => "invalid config " ++ path.text ++ ": " ++ failure.message
  | failed failure => failure.message
  | notWritten path fault => "failed to write " ++ path.text ++ ": " ++ fault.message

/-- The exit code of a run and what it prints, without what it logs. -/
structure Outcome where
  code : Nat := 0
  standardOutput : String := ""
  standardError : String := ""
  deriving DecidableEq

def Outcome.ofRunError (error : RunError) : Outcome :=
  { code := 1, standardError := "error: " ++ error.message ++ "\n" }

/-- The request that arguments make, or the outcome of a run that does not get to one. -/
abbrev ReadArguments := List String → Except Outcome Request

namespace Request

/-- What the arguments say about the options. -/
def settings (request : Request) : Settings :=
  { style := request.style
    resolvesAliases := if request.keepsReferences then some false else none
    dialect := request.dialect.map some }

section

variable (libraries : Libraries) (request : Request)

/-- The options of the config file, or the default ones. -/
def baseOptions (read : ReadText) : Except RunError Options :=
  match request.config with
  | none => .ok {}
  | some path =>
      match loadOptions libraries read path with
      | .ok options => .ok options
      | .error failure => .error (.invalidConfig path failure)

def compile (read : ReadText) : Except RunError Compilation := do
  let options ← request.baseOptions libraries read
  match (loadDocument libraries read request.input).bind
      (DesignTokens.compile libraries.spell · (options.updated request.settings)) with
  | .ok compilation => .ok compilation
  | .error failure => .error (.failed failure)

def run (store : FileStore) : Outcome × FileStore :=
  match request.compile libraries store.read with
  | .error error => (.ofRunError error, store)
  | .ok compilation =>
      match request.out with
      | none => ({ standardOutput := compilation.contents }, store)
      | some path =>
          match store.write path compilation.contents.toUTF8 with
          | .ok store => ({}, store)
          | .error fault => (.ofRunError (.notWritten path fault), store)

end

end Request

def run (readArguments : ReadArguments) (libraries : Libraries) (arguments : List String)
    (store : FileStore) : Outcome × FileStore :=
  match readArguments arguments with
  | .error outcome => (outcome, store)
  | .ok request => request.run libraries store

end CommandLine
end DesignTokens
