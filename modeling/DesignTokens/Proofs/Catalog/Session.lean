import DesignTokens.Catalog.Basic
import DesignTokens.Proofs.Files.SameFile
import Mathlib.Data.List.Basic

/-!
A catalog in use: operations on it and changes of the files around it, one after the other. The
libraries stay the same.
-/

namespace DesignTokens

def FileStore.compilation (libraries : Libraries) (store : FileStore) (options : Options)
    (path : Path) : Except Failure Compilation :=
  (loadDocument libraries store.read path).bind (compile libraries.spell · options)

structure Session where
  libraries : Libraries
  catalog : Catalog
  store : FileStore

namespace Session

inductive Operation where
  | addDirectory (path : Path)
  | addText (name text : String) (encoding : Encoding)
  | addDocument (name : String) (document : Value)
  | find (name : String)
  | contains (name : String)
  | document (name : String)
  | compile (name : String)
  | drop (path : Path)
  | dropAll
  | write (path : Path) (content : ByteArray)
  | remove (path : Path)
  | makeDirectory (location : Location)
  /-- Any other change of the files, such as the removal of a directory. -/
  | replaceFiles (store : FileStore)

inductive Answer where
  | done
  | told (answer : Bool)
  | added (result : Except Failure Unit)
  | found (path : Option Path)
  | document (result : Except Failure Value)
  | compiled (result : Except Failure Compilation)
  | stored (result : Except FileFault Unit)

/-- The session with the catalog that an addition gives, if it gives one. -/
def adding (session : Session) : Except Failure Catalog → Answer × Session
  | .ok catalog => (.added (.ok ()), { session with catalog })
  | .error failure => (.added (.error failure), session)

def compiling (session : Session) (name : String) : Except Failure Compilation × Catalog :=
  session.catalog.compile session.libraries session.store name

def perform (session : Session) : Operation → Answer × Session
  | .addDirectory path => session.adding (session.catalog.addDirectory session.store path)
  | .addText name text encoding =>
      session.adding (session.catalog.addText session.libraries name text encoding)
  | .addDocument name document => session.adding (.ok (session.catalog.addDocument name document))
  | .find name => (.found (session.catalog.find? session.store name), session)
  | .contains name => (.told (session.catalog.contains session.store name), session)
  | .document name =>
      (.document (session.catalog.document session.libraries session.store name), session)
  | .compile name =>
      let (result, catalog) := session.compiling name
      (.compiled result, { session with catalog })
  | .drop path =>
      let (known, catalog) := session.catalog.drop path
      (.told known, { session with catalog })
  | .dropAll => (.done, { session with catalog := session.catalog.dropAll })
  | .write path content =>
      match session.store.write path content with
      | .ok store => (.stored (.ok ()), { session with store })
      | .error fault => (.stored (.error fault), session)
  | .remove path =>
      match session.store.remove? path with
      | some store => (.told true, { session with store })
      | none => (.told false, session)
  | .makeDirectory location =>
      (.done, { session with store := session.store.makeDirectory location })
  | .replaceFiles store => (.done, { session with store })

def answer (session : Session) (operation : Operation) : Answer :=
  (session.perform operation).1

def after (session : Session) (operation : Operation) : Session :=
  (session.perform operation).2

def start (libraries : Libraries) (options : Options) (files : FileStore) : Session :=
  ⟨libraries, { options := options }, files⟩

def run (session : Session) (history : List Operation) : Session :=
  history.foldl after session

@[simp] theorem run_nil (session : Session) : session.run [] = session := rfl

theorem run_append (session : Session) (before since : List Operation) :
    session.run (before ++ since) = (session.run before).run since :=
  List.foldl_append

@[simp] theorem run_concat (session : Session) (history : List Operation)
    (operation : Operation) :
    session.run (history ++ [operation]) = (session.run history).after operation := by
  simp [run]

/-- A name stands for a file, and no document of the catalog has its base. -/
structure Selects (session : Session) (name : String) (path : Path) : Prop where
  noDocument : session.catalog.documents.lookup (Catalog.base name) = none
  found : session.catalog.find? session.store name = some path

def kept? (session : Session) (path : Path) : Option Compilation :=
  session.catalog.compiled.lookup path.components

def afresh (session : Session) (path : Path) : Except Failure Compilation :=
  session.store.compilation session.libraries session.catalog.options path

/-- The ways in which a name is compiled, each with its result and the catalog after it. -/
inductive Compiles (session : Session) (name : String) :
    Except Failure Compilation × Catalog → Prop
  | ofDocument {document : Value}
      (present : session.catalog.documents.lookup (Catalog.base name) = some document) :
      Compiles session name
        (DesignTokens.compile session.libraries.spell document session.catalog.options,
          session.catalog)
  | unknown (noDocument : session.catalog.documents.lookup (Catalog.base name) = none)
      (noFile : session.catalog.find? session.store name = none) :
      Compiles session name (.error (.unknownDocument name), session.catalog)
  | ofKept {path : Path} {kept : Compilation} (selects : session.Selects name path)
      (present : session.kept? path = some kept) :
      Compiles session name (.ok kept, session.catalog)
  | failed {path : Path} {failure : Failure} (selects : session.Selects name path)
      (absent : session.kept? path = none) (fresh : session.afresh path = .error failure) :
      Compiles session name (.error failure, session.catalog)
  | compiled {path : Path} {result : Compilation} (selects : session.Selects name path)
      (absent : session.kept? path = none) (fresh : session.afresh path = .ok result) :
      Compiles session name (.ok result,
        { session.catalog with
          compiled := Entries.put path.components result session.catalog.compiled })

theorem Selects.unique {session : Session} {name : String} {path other : Path}
    (selects : session.Selects name path) (selectsOther : session.Selects name other) :
    path = other :=
  Option.some.inj (selects.found.symm.trans selectsOther.found)

theorem Selects.of_text {session : Session} {name : String} {path : Path}
    (noDocument : (session.catalog.documents.lookup (Catalog.base name)).isNone = true)
    (found : (session.catalog.find? session.store name).map Path.text = some path.text) :
    session.Selects name path := by
  obtain ⟨⟨text⟩, selected, sameText⟩ := Option.map_eq_some_iff.mp found
  dsimp only at sameText
  subst sameText
  exact ⟨Option.isNone_iff_eq_none.mp noDocument, selected⟩

theorem Selects.isFileName {session : Session} {name : String} {path : Path}
    (selects : session.Selects name path) : FileStore.IsFileName path := by
  obtain ⟨directory, -, found⟩ := List.exists_of_findSome?_eq_some selects.found
  exact FileStore.isFileName_of_isFile session.store (List.find?_some found)

theorem compile_of_selects {session : Session} {name : String} {path : Path}
    (selects : session.Selects name path) :
    session.compiling name =
      session.catalog.compileFile session.libraries session.store path := by
  simp only [compiling, Catalog.compile, selects.noDocument, selects.found]

theorem document_of_selects {session : Session} {name : String} {path : Path}
    (selects : session.Selects name path) :
    session.catalog.document session.libraries session.store name =
      loadDocument session.libraries session.store.read path := by
  simp only [Catalog.document, selects.noDocument, selects.found]

theorem compileFile_of_kept {session : Session} {path : Path} {kept : Compilation}
    (present : session.kept? path = some kept) :
    session.catalog.compileFile session.libraries session.store path =
      (.ok kept, session.catalog) := by
  unfold kept? at present
  simp only [Catalog.compileFile, present]

theorem compileFile_of_absent {session : Session} {path : Path}
    (absent : session.kept? path = none) :
    (session.catalog.compileFile session.libraries session.store path).1 = session.afresh path := by
  unfold kept? at absent
  simp only [Catalog.compileFile, absent, afresh, FileStore.compilation]
  split <;> simp_all

theorem compiles (session : Session) (name : String) :
    session.Compiles name (session.compiling name) := by
  cases present : session.catalog.documents.lookup (Catalog.base name) with
  | some document =>
      simp only [compiling, Catalog.compile, present]
      exact .ofDocument present
  | none =>
      cases found : session.catalog.find? session.store name with
      | none =>
          simp only [compiling, Catalog.compile, present, found]
          exact .unknown present found
      | some path =>
          have selects : session.Selects name path := ⟨present, found⟩
          rw [compile_of_selects selects]
          cases known : session.kept? path with
          | some kept =>
              rw [compileFile_of_kept known]
              exact .ofKept selects known
          | none =>
              have absent : session.catalog.compiled.lookup path.components = none := known
              simp only [Catalog.compileFile, absent]
              cases fresh : (loadDocument session.libraries session.store.read path).bind
                  (DesignTokens.compile session.libraries.spell · session.catalog.options) with
              | error failure => exact .failed selects known fresh
              | ok result => exact .compiled selects known fresh

theorem answer_compile_of_kept {session : Session} {name : String} {path : Path}
    {kept : Compilation} (selects : session.Selects name path)
    (present : session.kept? path = some kept) :
    session.answer (.compile name) = .compiled (.ok kept) := by
  change Answer.compiled (session.compiling name).1 = _
  rw [compile_of_selects selects, compileFile_of_kept present]

theorem answer_compile_of_absent {session : Session} {name : String} {path : Path}
    (selects : session.Selects name path) (absent : session.kept? path = none) :
    session.answer (.compile name) = .compiled (session.afresh path) := by
  change Answer.compiled (session.compiling name).1 = _
  rw [compile_of_selects selects, compileFile_of_absent absent]

theorem answer_document_of_selects {session : Session} {name : String} {path : Path}
    (selects : session.Selects name path) :
    session.answer (.document name) =
      .document (loadDocument session.libraries session.store.read path) :=
  congrArg Answer.document (document_of_selects selects)

theorem adding_options (session : Session) {result : Except Failure Catalog}
    (same : ∀ catalog, result = .ok catalog → catalog.options = session.catalog.options) :
    (session.adding result).2.catalog.options = session.catalog.options := by
  cases result with
  | error failure => rfl
  | ok catalog => exact same catalog rfl

theorem after_options (session : Session) (operation : Operation) :
    (session.after operation).catalog.options = session.catalog.options := by
  cases operation with
  | compile name =>
      have ways := session.compiles name
      change (session.compiling name).2.options = _
      generalize session.compiling name = outcome at ways ⊢
      cases ways <;> rfl
  | addDirectory path =>
      refine session.adding_options fun catalog added => ?_
      unfold Catalog.addDirectory at added
      split at added <;> cases added
      rfl
  | addText name text encoding =>
      refine session.adding_options fun catalog added => ?_
      unfold Catalog.addText at added
      split at added <;> cases added
      rfl
  | write path content =>
      unfold after perform
      dsimp only
      split <;> rfl
  | remove path =>
      unfold after perform
      dsimp only
      split <;> rfl
  | _ => rfl

theorem after_libraries (session : Session) (operation : Operation) :
    (session.after operation).libraries = session.libraries := by
  have ofAdding (result : Except Failure Catalog) :
      (session.adding result).2.libraries = session.libraries := by
    cases result <;> rfl
  cases operation with
  | addDirectory | addText => exact ofAdding _
  | write path content =>
      unfold after perform
      dsimp only
      split <;> rfl
  | remove path =>
      unfold after perform
      dsimp only
      split <;> rfl
  | _ => rfl

theorem run_options (session : Session) (history : List Operation) :
    (session.run history).catalog.options = session.catalog.options := by
  induction history generalizing session with
  | nil => rfl
  | cons operation rest ih => exact (ih _).trans (session.after_options operation)

theorem run_libraries (session : Session) (history : List Operation) :
    (session.run history).libraries = session.libraries := by
  induction history generalizing session with
  | nil => rfl
  | cons operation rest ih => exact (ih _).trans (session.after_libraries operation)

end Session
end DesignTokens
