import DesignTokens.Catalog.Basic
import DesignTokens.Libraries.BuiltIn
import DesignTokens.Proofs.Catalog.Naming

/-!
What a name stands for depends on its base alone, whichever way the name is looked up. All ways
agree on whether there is a document, and only a name without one is reported as unknown.
-/

namespace DesignTokens

namespace Failure

def isUnknownDocument : Failure → Bool
  | unknownDocument _ => true
  | _ => false

/-- The same failure as it is reported of another name. -/
def echoing (name : String) : Failure → Failure
  | unknownDocument _ => unknownDocument name
  | failure => failure

theorem isUnknownDocument_inFile (failure : Failure) (path : String) :
    (failure.inFile path).isUnknownDocument = failure.isUnknownDocument := by
  cases failure <;> rfl

theorem echoing_of_known {failure : Failure} (known : failure.isUnknownDocument = false)
    (name : String) : failure.echoing name = failure := by
  cases failure with
  | unknownDocument => simp [isUnknownDocument] at known
  | _ => rfl

end Failure

/-- A result is no report of an unknown document. -/
def IsOfKnown {Content : Type} (result : Except Failure Content) : Prop :=
  ∀ failure, result = .error failure → failure.isUnknownDocument = false

variable {Content : Type} {result : Except Failure Content}

theorem IsOfKnown.mapError_echoing (known : IsOfKnown result) (name : String) :
    result.mapError (Failure.echoing name) = result := by
  cases result with
  | ok content => rfl
  | error failure =>
      exact congrArg Except.error (Failure.echoing_of_known (known failure rfl) name)

theorem IsOfKnown.ne_unknown (known : IsOfKnown result) (name : String) :
    result ≠ .error (.unknownDocument name) := by
  intro same
  have contradiction := known _ same
  simp [Failure.isUnknownDocument] at contradiction

theorem IsOfKnown.bind (known : IsOfKnown result) {Outcome : Type}
    {next : Content → Except Failure Outcome} (knownNext : ∀ content, IsOfKnown (next content)) :
    IsOfKnown (result.bind next) := by
  intro failure failed
  cases result with
  | error reason =>
      have same := Except.error.inj failed
      exact same ▸ known reason rfl
  | ok content => exact knownNext content failure failed

variable (libraries : Libraries)

theorem isOfKnown_parse (encoding : Encoding) (text : String) :
    IsOfKnown (Document.parse libraries encoding text) := by
  intro failure failed
  unfold Document.parse at failed
  split at failed <;> cases failed
  rfl

theorem isOfKnown_loadDocument (read : ReadText) (path : Path) :
    IsOfKnown (loadDocument libraries read path) := by
  intro failure failed
  unfold loadDocument loadText at failed
  cases readText : read path with
  | error fault =>
      simp only [readText] at failed
      cases failed
      rfl
  | ok text =>
      simp only [readText] at failed
      cases parsed : Document.parse libraries (Encoding.ofPath path) text with
      | ok document => simp [parsed] at failed
      | error reason =>
          simp only [parsed] at failed
          cases failed
          rw [Failure.isUnknownDocument_inFile]
          exact isOfKnown_parse libraries _ _ reason parsed

theorem isOfKnown_finalTokens (options : Options) (tokens : List Token) :
    IsOfKnown (options.finalTokens tokens) := by
  intro failure failed
  unfold Options.finalTokens Reference.resolveHeld at failed
  by_cases resolves : options.resolvesAliases = true
  · rw [if_pos resolves] at failed
    cases ran : Reference.resolve tokens with
    | ok resolved => simp [ran] at failed
    | error cycle =>
        simp only [ran] at failed
        cases failed
        rfl
  · rw [if_neg resolves] at failed
    cases failed

theorem isOfKnown_compile (spell : List Char → List Char) (document : Value)
    (options : Options) : IsOfKnown (compile spell document options) := by
  intro failure failed
  unfold compile at failed
  dsimp only at failed
  cases ran : options.finalTokens (Document.tokens document (options.dialectOf document)) with
  | ok tokens => simp [ran] at failed
  | error reason =>
      simp only [ran] at failed
      have same := Except.error.inj failed
      exact same ▸ isOfKnown_finalTokens options _ reason ran

namespace Catalog

variable (catalog : Catalog) (store : FileStore) {first second : String} (name : String)

theorem addDocument_of_base (same : base first = base second) (document : Value) :
    catalog.addDocument first document = catalog.addDocument second document := by
  unfold addDocument
  rw [same]

theorem find?_of_base (same : base first = base second) :
    catalog.find? store first = catalog.find? store second := by
  unfold find?
  rw [same]

theorem contains_of_base (same : base first = base second) :
    catalog.contains store first = catalog.contains store second := by
  unfold contains
  rw [same, find?_of_base catalog store same]

theorem document_of_base (same : base first = base second) :
    catalog.document libraries store second =
      (catalog.document libraries store first).mapError (Failure.echoing second) := by
  unfold document
  rw [same, find?_of_base catalog store same]
  cases catalog.documents.lookup (base second) with
  | some document => rfl
  | none =>
      cases catalog.find? store second with
      | none => rfl
      | some path =>
          have known := isOfKnown_loadDocument libraries store.read path
          exact (known.mapError_echoing second).symm

theorem isOfKnown_compileFile (path : Path) :
    IsOfKnown (catalog.compileFile libraries store path).1 := by
  intro failure failed
  unfold compileFile at failed
  cases present : catalog.compiled.lookup path.components with
  | some compilation => simp [present] at failed
  | none =>
      have known := (isOfKnown_loadDocument libraries store.read path).bind fun document =>
        isOfKnown_compile libraries.spell document catalog.options
      cases fresh : (loadDocument libraries store.read path).bind
          (DesignTokens.compile libraries.spell · catalog.options) with
      | ok compilation => simp [present, fresh] at failed
      | error reason =>
          simp only [present, fresh] at failed
          have same := Except.error.inj failed
          exact same ▸ known reason fresh

theorem compile_of_base (same : base first = base second) :
    catalog.compile libraries store second =
      ((catalog.compile libraries store first).1.mapError (Failure.echoing second),
        (catalog.compile libraries store first).2) := by
  unfold compile
  rw [same, find?_of_base catalog store same]
  cases catalog.documents.lookup (base second) with
  | some document =>
      have known := isOfKnown_compile libraries.spell document catalog.options
      rw [known.mapError_echoing second]
  | none =>
      cases catalog.find? store second with
      | none => rfl
      | some path =>
          have known := isOfKnown_compileFile libraries catalog store path
          rw [known.mapError_echoing second]

theorem contains_eq_false_iff :
    catalog.contains store name = false ↔
      catalog.documents.lookup (base name) = none ∧ catalog.find? store name = none := by
  simp [contains, Entries.contains]

theorem document_unknown_iff :
    (∃ echoed, catalog.document libraries store name = .error (.unknownDocument echoed)) ↔
      catalog.documents.lookup (base name) = none ∧ catalog.find? store name = none := by
  unfold document
  cases catalog.documents.lookup (base name) with
  | some document => simp
  | none =>
      cases catalog.find? store name with
      | none => simp
      | some path => simp [(isOfKnown_loadDocument libraries store.read path).ne_unknown]

theorem compile_unknown_iff :
    (∃ echoed, (catalog.compile libraries store name).1 = .error (.unknownDocument echoed)) ↔
      catalog.documents.lookup (base name) = none ∧ catalog.find? store name = none := by
  unfold compile
  cases catalog.documents.lookup (base name) with
  | some document => simp [(isOfKnown_compile libraries.spell document catalog.options).ne_unknown]
  | none =>
      cases catalog.find? store name with
      | none => simp
      | some path => simp [(isOfKnown_compileFile libraries catalog store path).ne_unknown]

/-- All spellings of a base are the same name, but for the name that a failure echoes; and of any
name all lookups tell alike whether there is a document. -/
theorem names_agree (libraries : Libraries) (catalog : Catalog) (store : FileStore) :
    (∀ text, IsBase text → ∀ first ∈ spellings text, ∀ second ∈ spellings text,
      (∀ document, catalog.addDocument first document = catalog.addDocument second document) ∧
      catalog.find? store first = catalog.find? store second ∧
      catalog.contains store first = catalog.contains store second ∧
      catalog.document libraries store second =
        (catalog.document libraries store first).mapError (Failure.echoing second) ∧
      catalog.compile libraries store second =
        ((catalog.compile libraries store first).1.mapError (Failure.echoing second),
          (catalog.compile libraries store first).2)) ∧
    ∀ name,
      (catalog.contains store name = false ↔
        ∃ echoed, catalog.document libraries store name = .error (.unknownDocument echoed)) ∧
      ((∃ echoed, catalog.document libraries store name = .error (.unknownDocument echoed)) ↔
        ∃ echoed, (catalog.compile libraries store name).1 = .error (.unknownDocument echoed)) ∧
      ((∃ echoed, (catalog.compile libraries store name).1 = .error (.unknownDocument echoed)) ↔
        catalog.documents.lookup (base name) = none ∧ catalog.find? store name = none) := by
  constructor
  · intro text isBase first firstSpelled second secondSpelled
    have same : base first = base second := by
      rw [isBase.base_of_spelling firstSpelled, isBase.base_of_spelling secondSpelled]
    refine ⟨addDocument_of_base catalog same, find?_of_base catalog store same,
      contains_of_base catalog store same, document_of_base libraries catalog store same, ?_⟩
    exact compile_of_base libraries catalog store same
  · intro name
    have ofContains := contains_eq_false_iff catalog store name
    have ofDocument := document_unknown_iff libraries catalog store name
    have ofCompile := compile_unknown_iff libraries catalog store name
    exact ⟨ofContains.trans ofDocument.symm, ofDocument.trans ofCompile.symm, ofCompile⟩

def darkNames : List String :=
  ["tokens:theme.tokens.dark.tokens.json", "theme.tokens.dark.yml"]

/-- A directory away from home with a file of the base. -/
def darkFiles : FileStore :=
  { files := [(["themes", "theme.tokens.dark.yml"], "".toUTF8)]
    directories := [["themes"]]
    workingDirectory := ["home"] }

theorem darkNames_agree :
    IsBase "theme.tokens.dark" ∧ (∀ name ∈ darkNames, name ∈ spellings "theme.tokens.dark") ∧
    ∀ first ∈ darkNames, ∀ second ∈ darkNames,
      let catalog := Catalog.addDocument {} first (.object [])
      catalog.contains {} second = true ∧
      (catalog.compile (.builtIn id) {} second).1 = .ok ⟨"", .dtcg, 0⟩ ∧
      (Catalog.compile (.builtIn id) {} {} second).1 = .error (.unknownDocument second) ∧
      (Catalog.find? { directories := [⟨"/themes"⟩] } darkFiles second).map Path.text =
        some "/themes/theme.tokens.dark.yml" := by
  have isBase : IsBase "theme.tokens.dark" := by
    refine ⟨?_, ?_, ?_⟩ <;> decide +kernel
  have spelled : ∀ name ∈ darkNames, name ∈ spellings "theme.tokens.dark" := by decide +kernel
  refine ⟨isBase, spelled, ?_⟩
  intro first firstMember second secondMember catalog
  have known : ∀ name ∈ darkNames,
      (Catalog.addDocument {} name (.object [])).contains {} name = true ∧
      ((Catalog.addDocument {} name (.object [])).compile (.builtIn id) {} name).1 =
        .ok ⟨"", .dtcg, 0⟩ ∧
      (Catalog.compile (.builtIn id) {} {} name).1 = .error (.unknownDocument name) ∧
      (Catalog.find? { directories := [⟨"/themes"⟩] } darkFiles name).map Path.text =
        some "/themes/theme.tokens.dark.yml" := by
    decide +kernel
  obtain ⟨contained, compiled, unknown, found⟩ := known first firstMember
  have agree (catalog : Catalog) (store : FileStore) :=
    (names_agree (.builtIn id) catalog store).1 _ isBase first (spelled first firstMember) second
      (spelled second secondMember)
  obtain ⟨-, -, sameContains, -, sameCompile⟩ := agree catalog {}
  obtain ⟨-, -, -, -, sameEmpty⟩ := agree {} {}
  obtain ⟨-, sameFile, -⟩ := agree { directories := [⟨"/themes"⟩] } darkFiles
  refine ⟨sameContains ▸ contained, ?_, ?_, sameFile ▸ found⟩
  · rw [sameCompile, compiled]
    rfl
  · rw [sameEmpty, unknown]
    rfl

end Catalog

end DesignTokens
