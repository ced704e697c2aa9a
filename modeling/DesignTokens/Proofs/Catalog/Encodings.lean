import DesignTokens.Libraries.BuiltIn
import DesignTokens.Proofs.Catalog.Failing
import DesignTokens.Proofs.Files.Extension

/-!
The encodings of the files that names stand for. A file is found by an extension that is put after a
base, and read in the encoding of the extension that its path has. These agree, unless the name of
the file is an extension alone: its path has no extension then, and the file is taken for JSON.
-/

namespace DesignTokens

def loadDocumentAs (libraries : Libraries) (encoding : Encoding) (read : ReadText) (path : Path) :
    Except Failure Value :=
  match loadText read path with
  | .error failure => .error failure
  | .ok text =>
      match Document.parse libraries encoding text with
      | .ok document => .ok document
      | .error failure => .error (failure.inFile path.text)

theorem loadDocument_eq (libraries : Libraries) (read : ReadText) (path : Path) :
    loadDocument libraries read path =
      loadDocumentAs libraries (Encoding.ofPath path) read path :=
  rfl

namespace Encoding

def ofExtension? (extension : String) : Option Encoding :=
  let lowered := String.ofList (extension.toList.map Char.toLower)
  if lowered = "json" then some json
  else if lowered = "yaml" || lowered = "yml" then some yaml
  else none

theorem ofPath?_eq (path : Path) : ofPath? path = path.extension?.bind ofExtension? := rfl

end Encoding

namespace Catalog

def encodings : List (String × Encoding) :=
  [(".tokens.json", .json), (".json", .json), (".yaml", .yaml), (".yml", .yaml)]

theorem map_encodings : encodings.map Prod.fst = extensions := rfl

/-- The encoding in which a file is read that was found by a base and an extension. Where no name
comes before the extension, the file is taken for JSON. -/
def encodingAt (base : String) (encoding : Encoding) : Encoding :=
  if Path.BeforeName base.toList then .json else encoding

theorem exists_parts {extension : String} {encoding : Encoding}
    (known : (extension, encoding) ∈ encodings) :
    ∃ stem ending : List Char, extension.toList = stem ++ '.' :: ending ∧
      '/' ∉ extension.toList ∧ '.' ∉ ending ∧ ending ≠ [] ∧
      Encoding.ofExtension? (String.ofList ending) = some encoding ∧
      (stem ≠ [] → encoding = .json) := by
  simp only [encodings, List.mem_cons, List.not_mem_nil, or_false, Prod.mk.injEq] at known
  rcases known with ⟨rfl, rfl⟩ | ⟨rfl, rfl⟩ | ⟨rfl, rfl⟩ | ⟨rfl, rfl⟩
  · exact ⟨".tokens".toList, "json".toList, by decide⟩
  · exact ⟨[], "json".toList, by decide⟩
  · exact ⟨[], "yaml".toList, by decide⟩
  · exact ⟨[], "yml".toList, by decide⟩

theorem ofPath_join (directory : Path) (base : String) {extension : String} {encoding : Encoding}
    (known : (extension, encoding) ∈ encodings) :
    Encoding.ofPath (directory.join (base ++ extension)) = encodingAt base encoding := by
  obtain ⟨stem, ending, parts, noSlash, noDot, someEnding, stands, plain⟩ := exists_parts known
  rw [Encoding.ofPath, Encoding.ofPath?_eq,
    directory.extension?_join base parts noSlash noDot someEnding, encodingAt]
  by_cases alone : Path.BeforeName base.toList
  · by_cases noStem : stem = []
    · simp [alone, noStem]
    · simp [alone, noStem, stands, plain noStem]
  · simp [alone, stands]

theorem exists_encoding_of_find? {catalog : Catalog} {store : FileStore} {name : String}
    {path : Path} (found : catalog.find? store name = some path) :
    ∃ directory ∈ catalog.directories, ∃ extension encoding,
      (extension, encoding) ∈ encodings ∧ path = directory.join (base name ++ extension) := by
  obtain ⟨directory, member, first⟩ := List.exists_of_findSome?_eq_some found
  obtain ⟨extension, known, rfl⟩ := List.mem_map.mp (List.mem_of_find?_eq_some first)
  rw [← map_encodings] at known
  obtain ⟨⟨_, encoding⟩, listed, rfl⟩ := List.mem_map.mp known
  exact ⟨directory, member, _, encoding, listed, rfl⟩

end Catalog

namespace Session

/-- The file that a name stands for is read in the encoding that its extension stands for, but for
a file whose name is that extension alone. -/
theorem files_read_by_extension {session : Session} {name : String} {path : Path}
    (selects : session.Selects name path) :
    (∃ directory ∈ session.catalog.directories, ∃ extension encoding,
      (extension, encoding) ∈ Catalog.encodings ∧
        path = directory.join (Catalog.base name ++ extension)) ∧
    ∀ (directory : Path) extension encoding, (extension, encoding) ∈ Catalog.encodings →
      path = directory.join (Catalog.base name ++ extension) →
      let document := loadDocumentAs session.libraries
        (Catalog.encodingAt (Catalog.base name) encoding) session.store.read path
      session.answer (.document name) = .document document ∧
      (session.kept? path = none →
        session.answer (.compile name) = .compiled
          (document.bind (compile session.libraries.spell · session.catalog.options))) := by
  refine ⟨Catalog.exists_encoding_of_find? selects.found, ?_⟩
  rintro directory extension encoding known rfl document
  have sameDocument : loadDocument session.libraries session.store.read
      (directory.join (Catalog.base name ++ extension)) = document := by
    rw [loadDocument_eq, Catalog.ofPath_join directory _ known]
  constructor
  · rw [answer_document_of_selects selects, sameDocument]
  · intro absent
    rw [answer_compile_of_absent selects absent, afresh, FileStore.compilation, sameDocument]

/-- A document in YAML is written to a file in the only directory of the catalog. -/
def holding (path : Path) : List Operation :=
  [.makeDirectory ["tokens"], .write path "gap:\n  $value: 4px\n".toUTF8, .addDirectory ⟨"tokens"⟩]

def gapSheet : Compilation := ⟨"$gap: 4px;\n", .dtcg, 1⟩

theorem yaml_theme_read_as_yaml :
    let session := (start (.builtIn id) {} {}).run (holding ⟨"tokens/theme.yaml"⟩)
    session.Selects "theme" ⟨"tokens/theme.yaml"⟩ ∧
    session.kept? ⟨"tokens/theme.yaml"⟩ = none ∧
    session.answer (.document "theme") =
      .document
        (loadDocumentAs session.libraries .yaml session.store.read ⟨"tokens/theme.yaml"⟩) ∧
    session.answer (.compile "theme") = .compiled (.ok gapSheet) := by
  intro session
  have selects : session.Selects "theme" ⟨"tokens/theme.yaml"⟩ :=
    .of_text (by decide +kernel) (by decide +kernel)
  have absent : session.kept? ⟨"tokens/theme.yaml"⟩ = none := by decide +kernel
  have asTold : Catalog.encodingAt (Catalog.base "theme") .yaml = .yaml := by decide +kernel
  have compiled :
      (loadDocumentAs session.libraries .yaml session.store.read ⟨"tokens/theme.yaml"⟩).bind
        (compile session.libraries.spell · session.catalog.options) = .ok gapSheet := by
    decide +kernel
  have named : (⟨"tokens/theme.yaml"⟩ : Path) =
      Path.join ⟨"tokens"⟩ (Catalog.base "theme" ++ ".yaml") :=
    congrArg Path.mk (by decide +kernel)
  obtain ⟨document, compilation⟩ :=
    (files_read_by_extension selects).2 ⟨"tokens"⟩ ".yaml" .yaml (by decide) named
  rw [asTold] at document compilation
  refine ⟨selects, absent, document, ?_⟩
  rw [compilation absent, compiled]

/-- What is in a file of no other name than `.yaml` is YAML, and is not read as such. -/
theorem bare_yaml_read_as_json :
    let session := (start (.builtIn id) {} {}).run (holding ⟨"tokens/.yaml"⟩)
    let failure := Failure.malformed (some "tokens/.yaml") "expected value at line 1 column 1"
    session.Selects "tokens:.yaml" ⟨"tokens/.yaml"⟩ ∧
    (⟨"tokens/.yaml"⟩ : Path) = Path.join ⟨"tokens"⟩ (Catalog.base "tokens:.yaml" ++ ".yaml") ∧
    session.kept? ⟨"tokens/.yaml"⟩ = none ∧
    (loadDocumentAs session.libraries .yaml session.store.read ⟨"tokens/.yaml"⟩).bind
      (compile session.libraries.spell · session.catalog.options) = .ok gapSheet ∧
    session.answer (.document "tokens:.yaml") = .document (.error failure) ∧
    session.answer (.compile "tokens:.yaml") = .compiled (.error failure) := by
  intro session failure
  have selects : session.Selects "tokens:.yaml" ⟨"tokens/.yaml"⟩ :=
    .of_text (by decide +kernel) (by decide +kernel)
  have absent : session.kept? ⟨"tokens/.yaml"⟩ = none := by decide +kernel
  have fails :
      (loadDocument session.libraries session.store.read ⟨"tokens/.yaml"⟩).map (fun _ => ()) =
        .error failure := by
    decide +kernel
  have document :
      loadDocument session.libraries session.store.read ⟨"tokens/.yaml"⟩ = .error failure := by
    cases loaded : loadDocument session.libraries session.store.read ⟨"tokens/.yaml"⟩ with
    | ok document => simp [loaded, Except.map] at fails
    | error other => simpa [loaded, Except.map] using fails
  refine ⟨selects, congrArg Path.mk (by decide +kernel), absent, by decide +kernel, ?_, ?_⟩
  · rw [answer_document_of_selects selects, document]
  · rw [answer_compile_of_absent selects absent, afresh, FileStore.compilation, document,
      Except.bind]

end Session
end DesignTokens
