import DesignTokens.Libraries.BuiltIn
import DesignTokens.Proofs.Catalog.Uncached
import DesignTokens.Proofs.Entries
import Mathlib.Data.List.Induction

/-!
Where a kept compilation comes from. It was made from the same file, as it was at that time; neither
the compilation of that file nor all of them were dropped since; and the file was not compiled anew
since. So a session answers as one that keeps nothing, up to changes of files.
-/

namespace DesignTokens
namespace Session

/-- A history in which a name was compiled from a file, with what led there and what came after. -/
structure Origin (start : Session) (history : List Operation) (path : Path) (kept : Compilation)
    (before : List Operation) (name : String) (since : List Operation) : Prop where
  history_eq : history = before ++ .compile name :: since
  selected : ∃ found, (start.run before).Selects name found ∧ found.components = path.components
  notKept : (start.run before).kept? path = none
  compiled : (start.run before).answer (.compile name) = .compiled (.ok kept)
  notDropped : ∀ dropped, .drop dropped ∈ since → dropped.components ≠ path.components
  notAllDropped : .dropAll ∉ since
  last : ∀ earlier other later found, since = earlier ++ .compile other :: later →
    (start.run (before ++ .compile name :: earlier)).Selects other found →
    found.components = path.components →
    (start.run (before ++ .compile name :: earlier)).kept? path ≠ none

theorem kept?_of_components {path other : Path} (same : path.components = other.components)
    (session : Session) : session.kept? path = session.kept? other := by
  unfold kept?
  rw [same]

theorem kept?_of_compiled {session later : Session}
    (same : later.catalog.compiled = session.catalog.compiled) (path : Path) :
    later.kept? path = session.kept? path :=
  congrArg (List.lookup path.components) same

theorem kept?_after_drop_self (session : Session) {dropped path : Path}
    (same : dropped.components = path.components) :
    (session.after (.drop dropped)).kept? path = none := by
  rw [← kept?_of_components same]
  exact Entries.lookup_erase_self dropped.components session.catalog.compiled

theorem kept?_after_drop_of_ne (session : Session) {dropped path : Path}
    (different : dropped.components ≠ path.components) :
    (session.after (.drop dropped)).kept? path = session.kept? path :=
  Entries.lookup_erase_of_ne (Ne.symm different) session.catalog.compiled

theorem kept?_after_compile {session : Session} {name : String} {path : Path} {kept : Compilation}
    (present : (session.after (.compile name)).kept? path = some kept) :
    session.kept? path = some kept ∨
    ∃ found, session.Selects name found ∧ found.components = path.components ∧
      session.kept? path = none ∧ session.answer (.compile name) = .compiled (.ok kept) := by
  have ways := session.compiles name
  change (session.compiling name).2.compiled.lookup path.components =
    some kept at present
  change _ ∨ ∃ found, _ ∧ _ ∧ _ ∧
    Answer.compiled (session.compiling name).1 = _
  generalize session.compiling name = outcome at ways present ⊢
  cases ways with
  | ofDocument | unknown | ofKept | failed => exact .inl present
  | @compiled found made selects absent =>
      dsimp only at present
      by_cases same : found.components = path.components
      · rw [same, Entries.lookup_put_self] at present
        cases present
        rw [kept?_of_components same] at absent
        exact .inr ⟨found, selects, same, absent, rfl⟩
      · rw [Entries.lookup_put_of_ne (Ne.symm same)] at present
        exact .inl present

/-- What is kept after an operation was kept before, or the operation has compiled it. -/
theorem kept?_after {session : Session} {operation : Operation} {path : Path} {kept : Compilation}
    (present : (session.after operation).kept? path = some kept) :
    (session.kept? path = some kept ∧ operation ≠ .dropAll ∧
      ∀ dropped, operation = .drop dropped → dropped.components ≠ path.components) ∨
    ∃ name found, operation = .compile name ∧ session.Selects name found ∧
      found.components = path.components ∧ session.kept? path = none ∧
      session.answer operation = .compiled (.ok kept) := by
  cases operation with
  | dropAll => cases present
  | drop dropped =>
      have different : dropped.components ≠ path.components := by
        intro same
        cases (session.kept?_after_drop_self same).symm.trans present
      rw [session.kept?_after_drop_of_ne different] at present
      refine .inl ⟨present, by simp, ?_⟩
      rintro _ ⟨⟩
      exact different
  | compile name =>
      obtain before | ⟨found, made⟩ := kept?_after_compile present
      · exact .inl ⟨before, by simp, by simp⟩
      · exact .inr ⟨name, found, rfl, made⟩
  | _ =>
      rw [kept?_of_compiled (session.after_compiled rfl)] at present
      exact .inl ⟨present, by simp, by simp⟩

/-- Only drops end what is kept. -/
theorem kept?_after_of_kept {session : Session} {operation : Operation} {path : Path}
    {kept : Compilation} (present : session.kept? path = some kept)
    (notAll : operation ≠ .dropAll)
    (notThis : ∀ dropped, operation = .drop dropped → dropped.components ≠ path.components) :
    (session.after operation).kept? path = some kept := by
  cases operation with
  | dropAll => exact absurd rfl notAll
  | drop dropped =>
      rw [session.kept?_after_drop_of_ne (notThis dropped rfl)]
      exact present
  | compile name =>
      have ways := session.compiles name
      change (session.compiling name).2.compiled.lookup path.components = _
      generalize session.compiling name = outcome at ways ⊢
      cases ways with
      | ofDocument | unknown | ofKept | failed => exact present
      | @compiled found made selects absent =>
          have different : path.components ≠ found.components := by
            intro same
            rw [← kept?_of_components same, present] at absent
            cases absent
          exact (Entries.lookup_put_of_ne different made _).trans present
  | _ =>
      rw [kept?_of_compiled (session.after_compiled rfl)]
      exact present

theorem kept?_run_of_kept {session : Session} {path : Path} {kept : Compilation}
    {since : List Operation} (present : session.kept? path = some kept)
    (notAll : .dropAll ∉ since)
    (notThis : ∀ dropped, .drop dropped ∈ since → dropped.components ≠ path.components) :
    (session.run since).kept? path = some kept := by
  induction since generalizing session with
  | nil => exact present
  | cons operation rest ih =>
      rw [List.mem_cons, not_or] at notAll
      have stays := kept?_after_of_kept present (Ne.symm notAll.1) fun dropped here =>
        notThis dropped (here ▸ List.mem_cons_self)
      exact ih stays notAll.2 fun dropped later => notThis dropped (List.mem_cons_of_mem _ later)

theorem kept?_after_compile_of_absent {session : Session} {name : String} {path : Path}
    {kept : Compilation} (selects : session.Selects name path)
    (absent : session.kept? path = none)
    (answered : session.answer (.compile name) = .compiled (.ok kept)) :
    (session.after (.compile name)).kept? path = some kept := by
  rw [answer_compile_of_absent selects absent] at answered
  have fresh := Answer.compiled.inj answered
  unfold afresh FileStore.compilation at fresh
  unfold kept? at absent
  change (session.compiling name).2.compiled.lookup path.components = _
  rw [compile_of_selects selects]
  simp only [Catalog.compileFile, absent, fresh]
  exact Entries.lookup_put_self path.components kept session.catalog.compiled

namespace Origin

variable {start : Session} {history before since : List Operation} {path : Path}
  {kept : Compilation} {name : String}

theorem here {found : Path} (selects : (start.run history).Selects name found)
    (same : found.components = path.components) (absent : (start.run history).kept? path = none)
    (answered : (start.run history).answer (.compile name) = .compiled (.ok kept)) :
    Origin start (history ++ [.compile name]) path kept history name [] where
  history_eq := rfl
  selected := ⟨found, selects, same⟩
  notKept := absent
  compiled := answered
  notDropped := by simp
  notAllDropped := by simp
  last := by simp

theorem extend (origin : Origin start history path kept before name since)
    {operation : Operation} (present : (start.run history).kept? path = some kept)
    (notAll : operation ≠ .dropAll)
    (notThis : ∀ dropped, operation = .drop dropped → dropped.components ≠ path.components) :
    Origin start (history ++ [operation]) path kept before name (since ++ [operation]) where
  history_eq := by simp [origin.history_eq]
  selected := origin.selected
  notKept := origin.notKept
  compiled := origin.compiled
  notDropped := by
    intro dropped member
    rw [List.mem_append, List.mem_singleton] at member
    obtain earlier | now := member
    · exact origin.notDropped dropped earlier
    · exact notThis dropped now.symm
  notAllDropped := by
    intro member
    rw [List.mem_append, List.mem_singleton] at member
    exact member.elim origin.notAllDropped fun now => notAll now.symm
  last := by
    intro earlier other later found whole selects same
    obtain rfl | ⟨later, final, rfl⟩ := List.eq_nil_or_concat' later
    · obtain ⟨rfl, -⟩ := List.append_inj' whole rfl
      rw [← origin.history_eq, present]
      simp
    · rw [← List.cons_append, ← List.append_assoc] at whole
      exact origin.last earlier other later found (List.append_inj' whole rfl).1 selects same

theorem kept?_eq (origin : Origin start history path kept before name since) :
    (start.run history).kept? path = some kept := by
  obtain ⟨found, selects, same⟩ := origin.selected
  have absent : (start.run before).kept? found = none := by
    rw [kept?_of_components same, origin.notKept]
  have present := kept?_after_compile_of_absent selects absent origin.compiled
  rw [kept?_of_components same] at present
  have later := kept?_run_of_kept present origin.notAllDropped origin.notDropped
  rw [origin.history_eq, run_append]
  exact later

/-- The options stay, so that a compilation depends on what the file holds only. -/
theorem afresh (origin : Origin start history path kept before name since)
    (isFileName : FileStore.IsFileName path) :
    (start.run before).afresh path = .ok kept := by
  obtain ⟨found, selects, same⟩ := origin.selected
  have absent : (start.run before).kept? found = none := by
    rw [kept?_of_components same, origin.notKept]
  have made : (start.run before).afresh found = .ok kept := by
    have answered := origin.compiled
    rw [answer_compile_of_absent selects absent] at answered
    exact Answer.compiled.inj answered
  unfold Session.afresh FileStore.compilation at made ⊢
  cases loaded : loadDocument (start.run before).libraries (start.run before).store.read found with
  | error failure =>
      rw [loaded] at made
      cases made
  | ok document =>
      rw [loaded] at made
      rw [(loadDocument_of_components _ _ selects.isFileName isFileName same document).mp loaded]
      exact made

end Origin

theorem exists_origin (libraries : Libraries) (options : Options) (files : FileStore)
    (history : List Operation) {path : Path} {kept : Compilation}
    (present : ((start libraries options files).run history).kept? path = some kept) :
    ∃ before name since,
      Origin (start libraries options files) history path kept before name since := by
  induction history using List.reverseRecOn with
  | nil => cases present
  | append_singleton history operation ih =>
      rw [run_concat] at present
      obtain ⟨presentBefore, notAll, notThis⟩ |
          ⟨name, found, rfl, selects, same, absent, answered⟩ :=
        kept?_after present
      · obtain ⟨before, name, since, origin⟩ := ih presentBefore
        exact ⟨before, name, since ++ [operation], origin.extend presentBefore notAll notThis⟩
      · exact ⟨history, name, [], .here selects same absent answered⟩

theorem compilation_of_read {store other : FileStore} {path : Path}
    (sameText : store.read path = other.read path) (libraries : Libraries) (options : Options) :
    store.compilation libraries options path = other.compilation libraries options path := by
  unfold FileStore.compilation loadDocument loadText
  rw [sameText]

theorem answer_drop_eq_true_iff (session : Session) (path : Path) :
    session.answer (.drop path) = .told true ↔ ∃ kept, session.kept? path = some kept := by
  change Answer.told (session.kept? path).isSome = _ ↔ _
  rw [Answer.told.injEq, Option.isSome_iff_exists]

/-- Whatever happened to a catalog and to the files around it: what is kept of a file is what it was
last compiled to; a name is answered with that, or else with a compilation of the file as it is; all
other answers are those of a catalog that keeps nothing; and a drop concerns one file. -/
theorem answers_as_uncached (libraries : Libraries) (options : Options) (files : FileStore)
    (history : List Operation) :
    let start := start libraries options files
    let now := start.run history
    let uncached := start.runUncached history
    (∀ path kept, now.kept? path = some kept ↔
      ∃ before other since, Origin start history path kept before other since) ∧
    (∀ name path, now.Selects name path →
      (now.kept? path = none →
        now.answer (.compile name) = .compiled (now.store.compilation libraries options path)) ∧
      ∀ kept before other since, Origin start history path kept before other since →
        now.answer (.compile name) = .compiled (.ok kept) ∧
        (start.run before).store.compilation libraries options path = .ok kept ∧
        ((start.run before).store.read path = now.store.read path →
          now.answer (.compile name) = uncached.answerUncached (.compile name))) ∧
    (∀ operation, (∀ path, operation ≠ .drop path) →
      (∀ name path, operation = .compile name → now.Selects name path →
        now.kept? path = none) →
      now.answer operation = uncached.answerUncached operation) ∧
    ∀ path,
      (now.answer (.drop path) = .told true ↔ ∃ kept, now.kept? path = some kept) ∧
      (now.after (.drop path)).kept? path = none ∧
      (∀ other, path.components ≠ other.components →
        (now.after (.drop path)).kept? other = now.kept? other) ∧
      (now.after (.drop path)).withKept now.catalog.compiled = now := by
  intro start now uncached
  have sameButKept : uncached = now.withKept [] := runUncached_withKept_nil start history
  have optionsStay : ∀ history, (start.run history).catalog.options = options :=
    start.run_options
  have librariesStay : ∀ history, (start.run history).libraries = libraries :=
    start.run_libraries
  have afreshOf : ∀ history path, (start.run history).afresh path =
      (start.run history).store.compilation libraries options path := by
    intro history path
    unfold afresh
    rw [optionsStay, librariesStay]
  refine ⟨?_, ?_, ?_, ?_⟩
  · intro path kept
    constructor
    · exact exists_origin libraries options files history
    · rintro ⟨before, other, since, origin⟩
      exact origin.kept?_eq
  · intro name path selects
    constructor
    · intro absent
      rw [answer_compile_of_absent selects absent, afreshOf]
    intro kept before other since origin
    have answered := answer_compile_of_kept selects origin.kept?_eq
    have made : (start.run before).store.compilation libraries options path = .ok kept := by
      rw [← afreshOf]
      exact origin.afresh selects.isFileName
    refine ⟨answered, made, ?_⟩
    intro sameText
    rw [answered, sameButKept, answerUncached_compile_of_selects selects, afreshOf,
      ← compilation_of_read sameText, made]
  · intro operation notDrop notKept
    rw [sameButKept]
    exact now.answer_eq_answerUncached notDrop notKept
  · intro path
    exact ⟨now.answer_drop_eq_true_iff path, now.kept?_after_drop_self rfl,
      fun other => now.kept?_after_drop_of_ne, rfl⟩

def gapFile : Path := ⟨"/tokens/gap.json"⟩

def atHome : FileStore := { workingDirectory := ["home"] }

/-- A file far from home is compiled, and then what is in it is replaced by half a document. -/
def overwriting : List Operation :=
  [.makeDirectory ["tokens"], .write gapFile "\x7b\x7d".toUTF8, .addDirectory ⟨"/tokens"⟩,
    .compile "gap", .write gapFile "\x7b".toUTF8]

theorem overwriting_answers :
    let start := start (.builtIn id) {} atHome
    let now := start.run overwriting
    now.Selects "gap" gapFile ∧
      now.store.compilation (.builtIn id) {} gapFile ≠ .ok ⟨"", .dtcg, 0⟩ ∧
      ∃ before other since,
        Origin start overwriting gapFile ⟨"", .dtcg, 0⟩ before other since ∧
        now.answer (.compile "gap") = .compiled (.ok ⟨"", .dtcg, 0⟩) ∧
        (start.run before).store.compilation (.builtIn id) {} gapFile = .ok ⟨"", .dtcg, 0⟩ := by
  intro start now
  have selects : now.Selects "gap" gapFile := .of_text (by decide +kernel) (by decide +kernel)
  have present : now.kept? gapFile = some ⟨"", .dtcg, 0⟩ := by decide +kernel
  have changed : now.store.compilation (.builtIn id) {} gapFile ≠ .ok ⟨"", .dtcg, 0⟩ := by
    decide +kernel
  obtain ⟨originOf, answerOf, -, -⟩ := answers_as_uncached (.builtIn id) {} atHome overwriting
  obtain ⟨before, other, since, origin⟩ := (originOf gapFile _).mp present
  obtain ⟨answered, made, -⟩ :=
    (answerOf "gap" gapFile selects).2 _ before other since origin
  exact ⟨selects, changed, before, other, since, origin, answered, made⟩

end Session
end DesignTokens
