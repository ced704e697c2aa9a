import DesignTokens.CommandLine.Arguments
import DesignTokens.Libraries.BuiltIn
import DesignTokens.Text.Transliteration

/-!
The program: reads the files that its arguments name, compiles, and prints or writes the result.
-/

namespace DesignTokens
namespace CommandLine

/-- The number of a failed call, which may come with its sign turned. -/
def errorNumber (code : UInt32) : UInt32 :=
  if 0x80000000 ≤ code then 0 - code else code

def faultOf : IO.Error → FileFault
  | .noFileOrDirectory _ _ _ => .notFound
  | .inappropriateType _ code _ => if errorNumber code = 20 then .notDirectory else .isDirectory
  | .permissionDenied _ _ _ => .accessDenied
  | error => .other (toString error)

def readFile (path : Path) : IO (Except FileFault String) := do
  match ← (IO.FS.readBinFile path.text).toBaseIO with
  | .ok content => return FileStore.decode content
  | .error error => return .error (faultOf error)

def writeFile (path : Path) (content : ByteArray) : IO (Except FileFault Unit) := do
  match ← (IO.FS.writeBinFile path.text content).toBaseIO with
  | .ok _ => return .ok ()
  | .error error => return .error (faultOf error)

def print (outcome : Outcome) : IO UInt32 := do
  IO.print outcome.standardOutput
  IO.eprint outcome.standardError
  return outcome.code.toUInt32

def libraries : Libraries :=
  .builtIn Text.transliterate

def carryOut (request : Request) : IO UInt32 := do
  let paths := request.config.toList ++ [request.input]
  let texts ← paths.mapM fun path => do return (path.text, ← readFile path)
  let read : ReadText := fun path => (texts.lookup path.text).getD (.error .notFound)
  match request.compile libraries read with
  | .error error => print (.ofRunError error)
  | .ok compilation =>
    match request.out with
    | none => print { standardOutput := compilation.contents }
    | some path =>
      match ← writeFile path compilation.contents.toUTF8 with
      | .ok _ => return 0
      | .error fault => print (.ofRunError (.notWritten path fault))

end CommandLine
end DesignTokens

open DesignTokens CommandLine in
def main (arguments : List String) : IO UInt32 := do
  match readArguments arguments with
  | .ok request => carryOut request
  | .error outcome => print outcome
