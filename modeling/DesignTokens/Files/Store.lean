import DesignTokens.Entries
import DesignTokens.Files.Path

/-!
Files and directories below a root, and the directory that paths start from if no slash begins them.
There are no links. Who may use a file or a directory is told by the accesses that are refused.
-/

namespace DesignTokens

inductive FileFault where
  | notFound
  | accessDenied
  | notDirectory
  | isDirectory
  | nameTooLong
  | nameHasNul
  | notText
  | other (description : String)
  deriving DecidableEq, Repr

def FileFault.message : FileFault → String
  | notFound => "No such file or directory (os error 2)"
  | accessDenied => "Permission denied (os error 13)"
  | notDirectory => "Not a directory (os error 20)"
  | isDirectory => "Is a directory (os error 21)"
  | nameTooLong => "File name too long (os error 36)"
  | nameHasNul => "file name contained an unexpected NUL byte"
  | notText => "stream did not contain valid UTF-8"
  | other description => description

/-- The names on the way from the root to a file or directory. -/
abbrev Location := List String

/-- A directory is searched for a name, or gets one; a file is read or written. -/
inductive Access where
  | search
  | read
  | write
  deriving DecidableEq, Repr

structure FileStore where
  files : List (Location × ByteArray) := []
  directories : List Location := []
  workingDirectory : Location := []
  refusals : List ((Access × Location) × FileFault) := []

namespace FileStore

/-- Where a walk along a path has come to. -/
inductive Place where
  | directory (location : Location)
  | file (location : Location) (content : ByteArray)

/-- The working directory and those around it are always there. -/
def hasDirectory (store : FileStore) (location : Location) : Bool :=
  location.isPrefixOf store.workingDirectory || store.directories.contains location

def placeAt? (store : FileStore) (location : Location) : Option Place :=
  match store.files.lookup location with
  | some content => some (.file location content)
  | none => if store.hasDirectory location then some (.directory location) else none

def allow (store : FileStore) (access : Access) (location : Location) : Except FileFault Unit :=
  match store.refusals.lookup (access, location) with
  | some fault => .error fault
  | none => .ok ()

def longestName : Nat := 255

def longestPath : Nat := 4095

def entry (store : FileStore) (location : Location) (name : String) : Except FileFault Place :=
  if longestName < name.utf8ByteSize then .error .nameTooLong
  else
    match store.placeAt? (location ++ [name]) with
    | some place => .ok place
    | none => .error .notFound

/-- One step along a path. The directory above the root is the root. -/
def step (store : FileStore) (place : Place) (piece : List Char) : Except FileFault Place :=
  match place with
  | .file _ _ => .error .notDirectory
  | .directory location =>
      if piece = [] then .ok place
      else do
        store.allow .search location
        if piece = ['.'] then .ok place
        else if piece = ['.', '.'] then .ok (.directory location.dropLast)
        else store.entry location (String.ofList piece)

def start (store : FileStore) (path : Path) : Place :=
  .directory (if path.isAbsolute then [] else store.workingDirectory)

def walk (store : FileStore) (path : Path) (pieces : List (List Char)) : Except FileFault Place :=
  if path.text.isEmpty then .error .notFound
  else if path.text.toList.contains '\x00' then .error .nameHasNul
  else if longestPath < path.text.utf8ByteSize then .error .nameTooLong
  else pieces.foldlM store.step (store.start path)

def find (store : FileStore) (path : Path) : Except FileFault Place :=
  store.walk path (Path.pieces path.text.toList)

def isFile (store : FileStore) (path : Path) : Bool :=
  match store.find path with
  | .ok (.file _ _) => true
  | _ => false

def isDirectory (store : FileStore) (path : Path) : Bool :=
  match store.find path with
  | .ok (.directory _) => true
  | _ => false

/-- The bytes of a file. A directory can be opened, but has no bytes. -/
def readBytes (store : FileStore) (path : Path) : Except FileFault ByteArray := do
  match ← store.find path with
  | .file location content => do
      store.allow .read location
      .ok content
  | .directory location => do
      store.allow .read location
      .error .isDirectory

def decode (content : ByteArray) : Except FileFault String :=
  match String.fromUTF8? content with
  | some text => .ok text
  | none => .error .notText

def read (store : FileStore) (path : Path) : Except FileFault String :=
  match store.readBytes path with
  | .ok content => decode content
  | .error fault => .error fault

/-- The pieces of a path before its last name, that name, and whether slashes follow it. -/
def splitName (path : Path) : List (List Char) × Option (List Char) × Bool :=
  let reversed := (Path.pieces path.text.toList).reverse
  let names := reversed.dropWhile List.isEmpty
  (names.tail.reverse, names.head?, names.length < reversed.length)

/-- The location that a file written to a path gets. Its directory must be there already. -/
def target (store : FileStore) (path : Path) : Except FileFault Location := do
  let (parents, name?, hasSlash) := splitName path
  match ← store.walk path parents, name? with
  | _, none => .error .isDirectory
  | .file _ _, some _ => .error .notDirectory
  | .directory above, some name => do
      store.allow .search above
      let location := above ++ [String.ofList name]
      if hasSlash || name = ['.'] || name = ['.', '.'] then .error .isDirectory
      else if longestName < (String.ofList name).utf8ByteSize then .error .nameTooLong
      else
        match store.placeAt? location with
        | some (.directory _) => .error .isDirectory
        | some (.file _ _) => do
            store.allow .write location
            .ok location
        | none => do
            store.allow .write above
            .ok location

/-- Puts a file at a path, in place of one that is there. -/
def write (store : FileStore) (path : Path) (content : ByteArray) : Except FileFault FileStore :=
  match store.target path with
  | .ok location => .ok { store with files := Entries.put location content store.files }
  | .error fault => .error fault

/-- The store without a file, if its directory may be written; nothing else can be removed. -/
def remove? (store : FileStore) (path : Path) : Option FileStore :=
  match store.find path with
  | .ok (.file location _) =>
      match store.allow .write location.dropLast with
      | .ok _ => some { store with files := Entries.erase location store.files }
      | .error _ => none
  | _ => none

/-- The location of a path without regard to what is there; dots are left out. -/
def locationOf (store : FileStore) (path : Path) : Location :=
  (if path.isAbsolute then [] else store.workingDirectory) ++
    path.components.filterMap fun component =>
      match component with
      | .normal name => some name
      | _ => none

/-- The store with a directory and those around it. -/
def makeDirectory (store : FileStore) (location : Location) : FileStore :=
  let missing := (List.range location.length).filterMap fun index =>
    let prior := location.take (index + 1)
    if store.directories.contains prior then none else some prior
  { store with directories := store.directories ++ missing }

end FileStore
end DesignTokens
