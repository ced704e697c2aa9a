import DesignTokens.Libraries.BuiltIn
import DesignTokens.Proofs.Catalog.Uncached
import DesignTokens.Proofs.Entries

/-!
Operations that fail. They change nothing, so that a file that was mended is compiled as it is then,
and a compilation that succeeds adds nothing but itself to what is kept.
-/

namespace DesignTokens
namespace Session

def Answer.failure? : Answer → Option Failure
  | .added (.error failure) | .document (.error failure) | .compiled (.error failure) =>
      some failure
  | _ => none

/-- Whether an operation changes the files around the catalog. -/
def Operation.isOnFiles : Operation → Bool
  | .write _ _ | .remove _ | .makeDirectory _ | .replaceFiles _ => true
  | _ => false

theorem adding_of_failure (session : Session) {result : Except Failure Catalog} {failure : Failure}
    (failed : (session.adding result).1.failure? = some failure) :
    (session.adding result).2 = session := by
  cases result with
  | error => rfl
  | ok catalog => simp [adding, Answer.failure?] at failed

theorem after_compile_of_failure {session : Session} {name : String} {failure : Failure}
    (failed : session.answer (.compile name) = .compiled (.error failure)) :
    session.after (.compile name) = session := by
  have ways := session.compiles name
  change Answer.compiled (session.compiling name).1 = _ at failed
  change { session with catalog := (session.compiling name).2 } = session
  generalize session.compiling name = outcome at ways failed ⊢
  cases ways with
  | ofDocument | unknown | failed | ofKept => rfl
  | compiled => simp at failed

theorem after_of_failure {session : Session} {operation : Operation} {failure : Failure}
    (failed : (session.answer operation).failure? = some failure) :
    session.after operation = session := by
  cases operation with
  | addDirectory path => exact session.adding_of_failure failed
  | addText name text encoding => exact session.adding_of_failure failed
  | addDocument name document => exact session.adding_of_failure failed
  | compile name =>
      cases result : (session.compiling name).1 with
      | error other =>
          apply after_compile_of_failure
          exact congrArg Answer.compiled result
      | ok compilation => simp [answer, perform, result, Answer.failure?] at failed
  | write path content =>
      unfold answer perform at failed
      dsimp only at failed
      split at failed <;> simp [Answer.failure?] at failed
  | remove path =>
      unfold answer perform at failed
      dsimp only at failed
      split at failed <;> simp [Answer.failure?] at failed
  | document name => rfl
  | _ => simp [answer, perform, Answer.failure?] at failed

theorem after_catalog_of_files (session : Session) {operation : Operation}
    (onFiles : operation.isOnFiles = true) :
    (session.after operation).catalog = session.catalog := by
  cases operation with
  | write path content =>
      unfold after perform
      dsimp only
      split <;> rfl
  | remove path =>
      unfold after perform
      dsimp only
      split <;> rfl
  | makeDirectory | replaceFiles => rfl
  | _ => simp [Operation.isOnFiles] at onFiles

theorem run_catalog_of_files (session : Session) {changes : List Operation}
    (onFiles : ∀ change ∈ changes, change.isOnFiles = true) :
    (session.run changes).catalog = session.catalog := by
  induction changes generalizing session with
  | nil => rfl
  | cons change rest ih =>
      have first := session.after_catalog_of_files (onFiles change List.mem_cons_self)
      have later := ih (session.after change) fun other member =>
        onFiles other (List.mem_cons_of_mem _ member)
      exact later.trans first

theorem kept?_of_failure {session : Session} {name : String} {path : Path} {failure : Failure}
    (selects : session.Selects name path)
    (failed : session.answer (.compile name) = .compiled (.error failure)) :
    session.kept? path = none := by
  cases known : session.kept? path with
  | none => rfl
  | some kept =>
      rw [answer_compile_of_kept selects known] at failed
      simp at failed

theorem put_compiled_of_absent {session : Session} {path : Path}
    (absent : session.kept? path = none) (compilation : Compilation) :
    Entries.put path.components compilation session.catalog.compiled =
      session.catalog.compiled ++ [(path.components, compilation)] := by
  apply Entries.put_of_not_mem
  rw [← Entries.lookup_eq_none_iff_not_mem]
  exact absent

theorem after_compile_of_success {session : Session} {name : String} {compilation : Compilation}
    (succeeded : session.answer (.compile name) = .compiled (.ok compilation)) :
    (session.after (.compile name) = session ∧
      ((∃ document, session.catalog.documents.lookup (Catalog.base name) = some document) ∨
        ∃ path, session.Selects name path ∧ session.kept? path = some compilation)) ∨
    ∃ path, session.Selects name path ∧ session.kept? path = none ∧
      session.after (.compile name) =
        session.withKept (session.catalog.compiled ++ [(path.components, compilation)]) := by
  have ways := session.compiles name
  change Answer.compiled (session.compiling name).1 = _ at succeeded
  have afterwards : session.after (.compile name) =
      { session with catalog := (session.compiling name).2 } := rfl
  rw [afterwards]
  generalize session.compiling name = outcome at ways succeeded ⊢
  cases ways with
  | ofDocument present => exact .inl ⟨rfl, .inl ⟨_, present⟩⟩
  | unknown | failed => simp at succeeded
  | ofKept selects present =>
      obtain rfl := Except.ok.inj (Answer.compiled.inj succeeded)
      exact .inl ⟨rfl, .inr ⟨_, selects, present⟩⟩
  | compiled selects absent =>
      obtain rfl := Except.ok.inj (Answer.compiled.inj succeeded)
      refine .inr ⟨_, selects, absent, ?_⟩
      rw [put_compiled_of_absent absent, withKept]

/-- An operation that fails leaves the catalog as it was. A name that failed to compile is compiled
afresh when its files have changed, unless the file it then stands for was compiled before the
failure and is still kept. A name that compiles adds at most one entry, of a file not kept yet. -/
theorem failures_change_nothing (session : Session) :
    (∀ operation failure, (session.answer operation).failure? = some failure →
      session.after operation = session) ∧
    (∀ name failure, session.answer (.compile name) = .compiled (.error failure) →
      ∀ changes : List Operation, (∀ change ∈ changes, change.isOnFiles = true) →
      let later := (session.after (.compile name)).run changes
      later.catalog = session.catalog ∧
      (∀ path, later.Selects name path →
        session.Selects name path ∨ session.kept? path = none →
        later.answer (.compile name) = .compiled (later.afresh path)) ∧
      ∀ path kept, later.Selects name path → session.kept? path = some kept →
        later.answer (.compile name) = .compiled (.ok kept)) ∧
    ∀ name compilation, session.answer (.compile name) = .compiled (.ok compilation) →
      (session.after (.compile name) = session ∧
        ((∃ document, session.catalog.documents.lookup (Catalog.base name) = some document) ∨
          ∃ path, session.Selects name path ∧ session.kept? path = some compilation)) ∨
      ∃ path, session.Selects name path ∧ session.kept? path = none ∧
        session.after (.compile name) =
          session.withKept (session.catalog.compiled ++ [(path.components, compilation)]) := by
  refine ⟨fun _ _ => after_of_failure, ?_, fun _ _ => after_compile_of_success⟩
  intro name failure failed changes onFiles later
  have sameCatalog : later.catalog = session.catalog := by
    have before := after_compile_of_failure failed
    have since := run_catalog_of_files (session.after (.compile name)) onFiles
    rw [before] at since
    exact (congrArg (fun middle => (middle.run changes).catalog) before).trans since
  have sameKept : ∀ path, later.kept? path = session.kept? path := by
    intro path
    unfold kept?
    rw [sameCatalog]
  refine ⟨sameCatalog, ?_, ?_⟩
  · intro path selects known
    have absent : session.kept? path = none := by
      rcases known with before | absent
      · exact kept?_of_failure before failed
      · exact absent
    apply answer_compile_of_absent selects
    rw [sameKept]
    exact absent
  · intro path kept selects present
    apply answer_compile_of_kept selects
    rw [sameKept]
    exact present

def themeFile : Path := ⟨"tokens/theme.json"⟩

def fullTheme : Operation :=
  .write themeFile "\x7b\"gap\":\x7b\"$value\":4\x7d\x7d".toUTF8

/-- A file holds half a document. -/
def breaking : List Operation :=
  [.makeDirectory ["tokens"], .write themeFile "\x7b".toUTF8, .addDirectory ⟨"tokens"⟩]

def brokenTheme : Failure :=
  .malformed (some themeFile.text) "EOF while parsing an object at line 1 column 1"

theorem mended_theme_compiles :
    let session := (start (.builtIn id) {} {}).run breaking
    let later := (session.after (.compile "theme")).run [fullTheme]
    session.Selects "theme" themeFile ∧
    session.answer (.compile "theme") = .compiled (.error brokenTheme) ∧
    later.Selects "theme" themeFile ∧
    later.answer (.compile "theme") = .compiled (.ok ⟨"$gap: 4;\n", .dtcg, 1⟩) ∧
    later.after (.compile "theme") =
      later.withKept [(themeFile.components, ⟨"$gap: 4;\n", .dtcg, 1⟩)] := by
  intro session later
  have selectsBefore : session.Selects "theme" themeFile :=
    .of_text (by decide +kernel) (by decide +kernel)
  have result : (session.compiling "theme").1 = .error brokenTheme := by
    decide +kernel
  have failed : session.answer (.compile "theme") = .compiled (.error brokenTheme) :=
    congrArg Answer.compiled result
  have selects : later.Selects "theme" themeFile :=
    .of_text (by decide +kernel) (by decide +kernel)
  have fresh : later.afresh themeFile = .ok ⟨"$gap: 4;\n", .dtcg, 1⟩ := by decide +kernel
  obtain ⟨-, afterFailure, -⟩ := failures_change_nothing session
  obtain ⟨sameCatalog, mended, -⟩ :=
    afterFailure "theme" brokenTheme failed [fullTheme] (by simp [fullTheme, Operation.isOnFiles])
  have compiled := mended themeFile selects (.inl selectsBefore)
  rw [fresh] at compiled
  have nothingKept : later.catalog.compiled = [] := by
    rw [sameCatalog]
    decide +kernel
  refine ⟨selectsBefore, failed, selects, compiled, ?_⟩
  obtain ⟨-, -, adds⟩ := failures_change_nothing later
  rcases adds "theme" _ compiled with ⟨-, known⟩ | ⟨path, selectsPath, -, afterwards⟩
  · rcases known with ⟨document, present⟩ | ⟨path, -, present⟩
    · simp [selects.noDocument] at present
    · simp [kept?, nothingKept] at present
  · rw [afterwards, nothingKept, selectsPath.unique selects]
    rfl

/-- A file is compiled and removed, so that its name stands for nothing. -/
def removing : List Operation :=
  [.makeDirectory ["tokens"], .write themeFile "\x7b\x7d".toUTF8, .addDirectory ⟨"tokens"⟩,
    .compile "theme", .remove themeFile]

theorem restored_answered_as_before_removal :
    let session := (start (.builtIn id) {} {}).run removing
    let later := (session.after (.compile "theme")).run [fullTheme]
    session.answer (.compile "theme") = .compiled (.error (.unknownDocument "theme")) ∧
    later.Selects "theme" themeFile ∧
    later.afresh themeFile = .ok ⟨"$gap: 4;\n", .dtcg, 1⟩ ∧
    later.answer (.compile "theme") = .compiled (.ok ⟨"", .dtcg, 0⟩) := by
  intro session later
  have selects : later.Selects "theme" themeFile :=
    .of_text (by decide +kernel) (by decide +kernel)
  have result : (session.compiling "theme").1 =
      .error (.unknownDocument "theme") := by
    decide +kernel
  have kept : later.kept? themeFile = some ⟨"", .dtcg, 0⟩ := by decide +kernel
  refine ⟨congrArg Answer.compiled result, selects, by decide +kernel, ?_⟩
  exact answer_compile_of_kept selects kept

end Session
end DesignTokens
