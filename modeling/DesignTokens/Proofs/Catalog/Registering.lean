import DesignTokens.Libraries.BuiltIn
import DesignTokens.Proofs.Catalog.Uncached
import DesignTokens.Proofs.Entries

/-!
What registering a directory or a document changes. A name keeps what it stands for unless a
document is put under its base; and what is read, compiled or dropped has no part in it.
-/

namespace DesignTokens
namespace Session

/-- A document of the catalog has the base of the name, or a file is found for it. -/
def Knows (session : Session) (name : String) : Prop :=
  (∃ document, session.catalog.documents.lookup (Catalog.base name) = some document) ∨
    ∃ path, session.catalog.find? session.store name = some path

/-- The base and the document that an operation puts into the catalog. -/
def Operation.addition? (libraries : Libraries) : Operation → Option (String × Value)
  | .addDocument name added => some (Catalog.base name, added)
  | .addText name text encoding =>
      match Document.parse libraries encoding text with
      | .ok added => some (Catalog.base name, added)
      | .error _ => none
  | _ => none

/-- A name stands for the same document or file in both sessions, and is compiled alike. -/
structure Agree (name : String) (first second : Session) : Prop where
  documents : first.catalog.documents.lookup (Catalog.base name) =
    second.catalog.documents.lookup (Catalog.base name)
  found : first.catalog.documents.lookup (Catalog.base name) = none →
    first.catalog.find? first.store name = second.catalog.find? second.store name
  compiled : first.catalog.compiled = second.catalog.compiled
  options : first.catalog.options = second.catalog.options
  store : first.store = second.store
  libraries : first.libraries = second.libraries

namespace Agree

variable {name : String} {first second : Session}

theorem answer_contains (agree : Agree name first second) :
    first.answer (.contains name) = second.answer (.contains name) := by
  have sameDocuments := agree.documents
  have sameFile := agree.found
  change Answer.told (first.catalog.contains first.store name) =
    .told (second.catalog.contains second.store name)
  unfold Catalog.contains Entries.contains
  cases present : first.catalog.documents.lookup (Catalog.base name) with
  | none => rw [← sameDocuments, present, sameFile present]
  | some document => rw [← sameDocuments, present, Option.isSome_some, Bool.true_or, Bool.true_or]

theorem answer_document (agree : Agree name first second) :
    first.answer (.document name) = second.answer (.document name) := by
  have sameDocuments := agree.documents
  have sameFile := agree.found
  change Answer.document (first.catalog.document first.libraries first.store name) =
    .document (second.catalog.document second.libraries second.store name)
  unfold Catalog.document
  cases present : first.catalog.documents.lookup (Catalog.base name) with
  | none => rw [← sameDocuments, present, sameFile present, agree.store, agree.libraries]
  | some document => rw [← sameDocuments, present]

theorem answer_compile (agree : Agree name first second) :
    first.answer (.compile name) = second.answer (.compile name) := by
  have sameDocuments := agree.documents
  have sameFile := agree.found
  change Answer.compiled (first.compiling name).1 = .compiled (second.compiling name).1
  unfold compiling Catalog.compile
  cases present : first.catalog.documents.lookup (Catalog.base name) with
  | some document => rw [← sameDocuments, present, agree.options, agree.libraries]
  | none =>
      rw [← sameDocuments, present, sameFile present]
      cases second.catalog.find? second.store name with
      | none => rfl
      | some path =>
          unfold Catalog.compileFile
          dsimp only
          rw [agree.compiled, agree.options, agree.store, agree.libraries]
          split
          · rfl
          · split <;> rfl

end Agree

theorem after_addDirectory (session : Session) (directory : Path) :
    ∃ added, session.after (.addDirectory directory) =
      { session with catalog :=
        { session.catalog with directories := session.catalog.directories ++ added } } := by
  unfold after perform Catalog.addDirectory
  dsimp only
  split
  · exact ⟨[directory], rfl⟩
  · exact ⟨[], by simp [adding]⟩

theorem run_addDirectory (session : Session) (directories : List Path) :
    ∃ added, session.run (directories.map .addDirectory) =
      { session with catalog :=
        { session.catalog with directories := session.catalog.directories ++ added } } := by
  induction directories generalizing session with
  | nil => exact ⟨[], by simp⟩
  | cons directory rest ih =>
      obtain ⟨first, afterFirst⟩ := session.after_addDirectory directory
      obtain ⟨others, afterOthers⟩ := ih (session.after (.addDirectory directory))
      refine ⟨first ++ others, afterOthers.trans ?_⟩
      rw [afterFirst]
      simp [List.append_assoc]

theorem find?_append_directories (catalog : Catalog) (store : FileStore) (name : String)
    (added : List Path) {path : Path} (found : catalog.find? store name = some path) :
    Catalog.find? { catalog with directories := catalog.directories ++ added } store name =
      some path := by
  unfold Catalog.find? at found ⊢
  rw [List.findSome?_append, found]
  rfl

theorem agree_addDirectory {session : Session} {name : String} (known : session.Knows name)
    (directories : List Path) :
    Agree name (session.run (directories.map .addDirectory)) session := by
  obtain ⟨added, afterwards⟩ := session.run_addDirectory directories
  rw [afterwards]
  refine ⟨rfl, fun noDocument => ?_, rfl, rfl, rfl, rfl⟩
  obtain ⟨document, present⟩ | ⟨path, found⟩ := known
  · cases noDocument.symm.trans present
  · rw [found]
    exact find?_append_directories session.catalog session.store name added found

theorem after_of_addition (session : Session) {operation : Operation} {base : String}
    {document : Value} (adds : operation.addition? session.libraries = some (base, document)) :
    session.answer operation = .added (.ok ()) ∧
      session.after operation = { session with catalog :=
        { session.catalog with
          documents := Entries.put base document session.catalog.documents } } := by
  cases operation with
  | addDocument name added =>
      cases adds
      exact ⟨rfl, rfl⟩
  | addText name text encoding =>
      change (session.adding (session.catalog.addText session.libraries name text encoding)).1 = _ ∧
        (session.adding (session.catalog.addText session.libraries name text encoding)).2 = _
      rw [Operation.addition?] at adds
      rw [Catalog.addText]
      cases parsed : Document.parse session.libraries encoding text with
      | error failure => simp [parsed] at adds
      | ok added =>
          simp only [parsed] at adds
          cases adds
          exact ⟨rfl, rfl⟩
  | _ => cases adds

theorem after_documents_of_no_addition (session : Session) {operation : Operation}
    (adds : operation.addition? session.libraries = none) :
    (session.after operation).catalog.documents = session.catalog.documents := by
  cases operation with
  | addDocument name added => cases adds
  | addText name text encoding =>
      change (session.adding
        (session.catalog.addText session.libraries name text encoding)).2.catalog.documents = _
      rw [Operation.addition?] at adds
      rw [Catalog.addText]
      cases parsed : Document.parse session.libraries encoding text with
      | error failure => rfl
      | ok added => simp [parsed] at adds
  | addDirectory directory =>
      obtain ⟨added, afterwards⟩ := session.after_addDirectory directory
      rw [afterwards]
  | compile name =>
      have ways := session.compiles name
      change (session.compiling name).2.documents = _
      generalize session.compiling name = outcome at ways ⊢
      cases ways <;> rfl
  | write path content =>
      unfold after perform
      dsimp only
      split <;> rfl
  | remove path =>
      unfold after perform
      dsimp only
      split <;> rfl
  | _ => rfl

theorem after_lookup_of_other (session : Session) {operation : Operation} {base : String}
    (others : ∀ document, operation.addition? session.libraries ≠ some (base, document)) :
    (session.after operation).catalog.documents.lookup base =
      session.catalog.documents.lookup base := by
  cases adds : operation.addition? session.libraries with
  | none => rw [session.after_documents_of_no_addition adds]
  | some addition =>
      obtain ⟨other, document⟩ := addition
      have different : base ≠ other := by
        rintro rfl
        exact others document adds
      rw [(session.after_of_addition adds).2]
      exact Entries.lookup_put_of_ne different document _

theorem run_lookup_of_others (session : Session) {history : List Operation} {base : String}
    (others : ∀ operation ∈ history, ∀ document,
      operation.addition? session.libraries ≠ some (base, document)) :
    (session.run history).catalog.documents.lookup base =
      session.catalog.documents.lookup base := by
  induction history generalizing session with
  | nil => rfl
  | cons operation rest ih =>
      rw [List.forall_mem_cons] at others
      obtain ⟨other, othersLater⟩ := others
      rw [← session.after_libraries operation] at othersLater
      exact (ih (session.after operation) othersLater).trans (session.after_lookup_of_other other)

theorem agree_addition {session : Session} {operation : Operation} {base name : String}
    {document : Value} (adds : operation.addition? session.libraries = some (base, document))
    (different : Catalog.base name ≠ base) : Agree name (session.after operation) session := by
  rw [(session.after_of_addition adds).2]
  exact ⟨Entries.lookup_put_of_ne different document _, fun _ => rfl, rfl, rfl, rfl, rfl⟩

theorem answers_of_document {session : Session} {name : String} {document : Value}
    (present : session.catalog.documents.lookup (Catalog.base name) = some document) :
    session.answer (.contains name) = .told true ∧
    session.answer (.document name) = .document (.ok document) ∧
    session.answer (.compile name) = .compiled
      (DesignTokens.compile session.libraries.spell document session.catalog.options) := by
  refine ⟨?_, ?_, ?_⟩
  · change Answer.told (Entries.contains (Catalog.base name) session.catalog.documents || _) = _
    rw [Entries.contains, present, Option.isSome_some, Bool.true_or]
  · change Answer.document (session.catalog.document session.libraries session.store name) = _
    rw [Catalog.document, present]
  · change Answer.compiled (session.compiling name).1 = _
    rw [compiling, Catalog.compile, present]

theorem answer_withKept (session : Session)
    (compiled : List (List Path.Component × Compilation)) {operation : Operation}
    (other : operation.isOnKept = false) :
    (session.withKept compiled).answer operation = session.answer operation := by
  rw [answer, session.perform_withKept compiled other]
  rfl

theorem after_withKept_nil (session : Session) {operation : Operation} (name : String)
    (path : Path)
    (noRegistration : operation ∈ [.compile name, .document name, .drop path, .dropAll]) :
    (session.after operation).withKept [] = session.withKept [] := by
  simp only [List.mem_cons, List.not_mem_nil, or_false] at noRegistration
  rcases noRegistration with rfl | rfl | rfl | rfl
  · rw [← session.performUncached_withKept_nil]
    rfl
  · rfl
  · rfl
  · rfl

theorem answer_run_of_withKept {first second : Session}
    (same : first.withKept [] = second.withKept []) (history : List Operation)
    {operation : Operation} (other : operation.isOnKept = false) :
    (first.run history).answer operation = (second.run history).answer operation := by
  -- But for what is kept, a run is the uncached one, which starts alike in both sessions.
  have later : (first.run history).withKept [] = (second.run history).withKept [] := by
    rw [← runUncached_withKept_nil, ← runUncached_withKept_nil, same]
  rw [← (first.run history).answer_withKept [] other, later, answer_withKept _ [] other]

/-- Directories change nothing for a name that is known. A document changes its own names only, and
stays what they stand for until another one takes its place. Reading, compiling and dropping change
nothing that is found or read later. -/
theorem registering_is_conservative (session : Session) :
    (∀ (directories : List Path) (name : String), session.Knows name →
      let later := session.run (directories.map .addDirectory)
      (∀ lookup ∈ [.contains name, .document name, .compile name],
        later.answer lookup = session.answer lookup) ∧
      ∀ path, session.answer (.find name) = .found (some path) →
        later.answer (.find name) = .found (some path)) ∧
    (∀ operation base document, operation.addition? session.libraries = some (base, document) →
      let later := session.after operation
      session.answer operation = .added (.ok ()) ∧
      (∀ name, later.answer (.find name) = session.answer (.find name)) ∧
      (∀ name, Catalog.base name ≠ base →
        ∀ lookup ∈ [.contains name, .document name, .compile name],
          later.answer lookup = session.answer lookup) ∧
      ∀ history : List Operation,
        (∀ other ∈ history, ∀ replaced, other.addition? session.libraries ≠ some (base, replaced)) →
        ∀ name, Catalog.base name = base →
          (later.run history).answer (.contains name) = .told true ∧
          (later.run history).answer (.document name) = .document (.ok document) ∧
          (later.run history).answer (.compile name) = .compiled
            (DesignTokens.compile session.libraries.spell document session.catalog.options)) ∧
    ∀ operation other path, operation ∈ [.compile other, .document other, .drop path, .dropAll] →
      ∀ history name, ∀ lookup ∈ [.find name, .contains name, .document name],
        ((session.after operation).run history).answer lookup =
          (session.run history).answer lookup := by
  have ofAgree {first second : Session} {name : String} (agree : Agree name first second) :
      ∀ lookup ∈ [.contains name, .document name, .compile name],
        first.answer lookup = second.answer lookup := by
    simp only [List.forall_mem_cons, List.not_mem_nil, false_implies, implies_true, and_true]
    exact ⟨agree.answer_contains, agree.answer_document, agree.answer_compile⟩
  refine ⟨?_, ?_, ?_⟩
  · intro directories name known later
    refine ⟨ofAgree (agree_addDirectory known directories), ?_⟩
    intro path answered
    have found : session.catalog.find? session.store name = some path :=
      Answer.found.inj answered
    obtain ⟨added, afterwards⟩ := session.run_addDirectory directories
    change (session.run (directories.map .addDirectory)).answer (.find name) = _
    rw [afterwards]
    exact congrArg Answer.found
      (find?_append_directories session.catalog session.store name added found)
  · intro operation base document adds later
    obtain ⟨answered, afterwards⟩ := session.after_of_addition adds
    refine ⟨answered, ?_, fun name different => ofAgree (agree_addition adds different), ?_⟩
    · intro name
      change (session.after operation).answer (.find name) = _
      rw [afterwards]
      rfl
    · rintro history others name rfl
      rw [← session.after_libraries operation] at others
      have present : (later.run history).catalog.documents.lookup (Catalog.base name) =
          some document := by
        rw [later.run_lookup_of_others others]
        change (session.after operation).catalog.documents.lookup _ = _
        rw [afterwards]
        exact Entries.lookup_put_self (Catalog.base name) document _
      have sameOptions : (later.run history).catalog.options = session.catalog.options :=
        (later.run_options history).trans (session.after_options operation)
      have sameLibraries : (later.run history).libraries = session.libraries :=
        (later.run_libraries history).trans (session.after_libraries operation)
      rw [← sameOptions, ← sameLibraries]
      exact answers_of_document present
  · intro operation other path noRegistration history name lookup isLookup
    apply answer_run_of_withKept (session.after_withKept_nil other path noRegistration) history
    simp only [List.mem_cons, List.not_mem_nil, or_false] at isLookup
    rcases isLookup with rfl | rfl | rfl <;> rfl

def atDesk : FileStore := { workingDirectory := ["home", "desk"] }

/-- Two directories, one near and one far, have a file of the base `theme`, the second one with an
earlier extension. -/
def twoShelves : List Operation :=
  [.makeDirectory ["home", "shelf"], .makeDirectory ["shelf"],
    .write ⟨"../shelf/theme.yml"⟩ "\x7b\x7d".toUTF8, .write ⟨"/shelf/theme.json"⟩ "[]".toUTF8,
    .addDirectory ⟨"../shelf"⟩, .compile "theme"]

def gapDocument : Value := .object [("gap", .object [("$value", .number (.integer 4))])]

theorem document_hides_both_shelves :
    let session := (start (.builtIn id) {} atDesk).run twoShelves
    let later := session.after (.addDocument "tokens:theme.json" gapDocument)
    session.Knows "theme" ∧
    (session.run [.addDirectory ⟨"/shelf"⟩]).answer (.document "theme") =
      session.answer (.document "theme") ∧
    (session.run [.addDirectory ⟨"/shelf"⟩]).answer (.find "theme") =
      session.answer (.find "theme") ∧
    later.answer (.document "spacing") = session.answer (.document "spacing") ∧
    (later.run [.dropAll, .addDocument "spacing" (.object [])]).answer (.compile "theme.yaml") =
      .compiled (.ok ⟨"$gap: 4;\n", .dtcg, 1⟩) ∧
    ((session.after .dropAll).run [.addDirectory ⟨"/shelf"⟩]).answer (.find "theme") =
      (session.run [.addDirectory ⟨"/shelf"⟩]).answer (.find "theme") := by
  intro session later
  have isFound : (session.catalog.find? session.store "theme").isSome = true := by decide +kernel
  obtain ⟨path, found⟩ := Option.isSome_iff_exists.mp isFound
  have answered : session.answer (.find "theme") = .found (some path) :=
    congrArg Answer.found found
  have known : session.Knows "theme" := .inr ⟨path, found⟩
  have sameBase : Catalog.base "theme.yaml" = "theme" := by decide +kernel
  have addedBase : Catalog.base "tokens:theme.json" = "theme" := by decide +kernel
  have otherBase : Catalog.base "spacing" ≠ "theme" := by decide +kernel
  have adds : (Operation.addDocument "tokens:theme.json" gapDocument).addition?
      session.libraries = some ("theme", gapDocument) := by
    rw [Operation.addition?, addedBase]
  have others : ∀ other ∈ [Operation.dropAll, .addDocument "spacing" (.object [])], ∀ replaced,
      other.addition? session.libraries ≠ some ("theme", replaced) := by
    simp [Operation.addition?, otherBase]
  have compiled : DesignTokens.compile session.libraries.spell gapDocument
      session.catalog.options = .ok ⟨"$gap: 4;\n", .dtcg, 1⟩ := by
    decide +kernel
  obtain ⟨ofDirectories, ofDocuments, ofQueries⟩ := registering_is_conservative session
  obtain ⟨sameAnswers, sameFile⟩ := ofDirectories [⟨"/shelf"⟩] "theme" known
  obtain ⟨-, -, sameOthers, hides⟩ := ofDocuments _ "theme" gapDocument adds
  obtain ⟨-, -, nowCompiled⟩ := hides _ others "theme.yaml" sameBase
  refine ⟨known, sameAnswers _ (by simp), ?_, sameOthers "spacing" otherBase _ (by simp), ?_, ?_⟩
  · exact (sameFile path answered).trans answered.symm
  · exact nowCompiled.trans (congrArg Answer.compiled compiled)
  · exact ofQueries .dropAll "theme" ⟨""⟩ (by simp) _ "theme" _ (by simp)

end Session
end DesignTokens
