import DesignTokens.Catalog.Name
import DesignTokens.Compilation
import DesignTokens.Files.Loading

/-!
Catalogs of named documents. A name stands for a document that was put into the catalog, or else for
the first file of its base in the directories of the catalog. Compiled files are kept until they are
dropped; documents in the catalog itself are compiled each time.
-/

namespace DesignTokens

structure Catalog where
  /-- The documents in the catalog, by their bases. -/
  documents : List (String × Value) := []
  directories : List Path := []
  /-- The compiled files, by the components of their paths. -/
  compiled : List (List Path.Component × Compilation) := []
  options : Options := {}

namespace Catalog

/-- The catalog with a document under a name, in place of one of the same base. -/
def addDocument (catalog : Catalog) (name : String) (document : Value) : Catalog :=
  { catalog with documents := Entries.put (base name) document catalog.documents }

def addText (libraries : Libraries) (catalog : Catalog) (name text : String)
    (encoding : Encoding) : Except Failure Catalog :=
  match Document.parse libraries encoding text with
  | .ok document => .ok (catalog.addDocument name document)
  | .error failure => .error failure

/-- The catalog with one more directory, which is searched after the others. -/
def addDirectory (catalog : Catalog) (store : FileStore) (path : Path) : Except Failure Catalog :=
  if store.isDirectory path then
    .ok { catalog with directories := catalog.directories ++ [path] }
  else .error (.unreadable (path.text ++ " is not a directory"))

/-- The paths at which the file of a base is looked for in a directory. -/
def candidates (directory : Path) (base : String) : List Path :=
  extensions.map fun extension => directory.join (base ++ extension)

def find? (catalog : Catalog) (store : FileStore) (name : String) : Option Path :=
  catalog.directories.findSome? fun directory =>
    (candidates directory (base name)).find? store.isFile

def contains (catalog : Catalog) (store : FileStore) (name : String) : Bool :=
  Entries.contains (base name) catalog.documents || (catalog.find? store name).isSome

section

variable (libraries : Libraries) (catalog : Catalog) (store : FileStore)

def document (name : String) : Except Failure Value :=
  match catalog.documents.lookup (base name) with
  | some document => .ok document
  | none =>
      match catalog.find? store name with
      | none => .error (.unknownDocument name)
      | some path => loadDocument libraries store.read path

/-- Compiles a file, unless its compilation is kept, and keeps the compilation. -/
def compileFile (path : Path) : Except Failure Compilation × Catalog :=
  match catalog.compiled.lookup path.components with
  | some compilation => (.ok compilation, catalog)
  | none =>
      match (loadDocument libraries store.read path).bind
          (DesignTokens.compile libraries.spell · catalog.options) with
      | .error failure => (.error failure, catalog)
      | .ok compilation =>
          (.ok compilation,
            { catalog with
              compiled := Entries.put path.components compilation catalog.compiled })

def compile (name : String) : Except Failure Compilation × Catalog :=
  match catalog.documents.lookup (base name) with
  | some document => (DesignTokens.compile libraries.spell document catalog.options, catalog)
  | none =>
      match catalog.find? store name with
      | none => (.error (.unknownDocument name), catalog)
      | some path => catalog.compileFile libraries store path

end

/-- Drops the compilation of a file, and tells whether there was one. -/
def drop (catalog : Catalog) (path : Path) : Bool × Catalog :=
  (Entries.contains path.components catalog.compiled,
    { catalog with compiled := Entries.erase path.components catalog.compiled })

def dropAll (catalog : Catalog) : Catalog :=
  { catalog with compiled := [] }

end Catalog
end DesignTokens
