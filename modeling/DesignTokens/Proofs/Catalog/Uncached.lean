import DesignTokens.Proofs.Catalog.Session

/-!
Sessions that keep no compilations, and how far they go together with those that do. Apart from the
three operations on what is kept, an operation neither reads nor changes it.
-/

namespace DesignTokens
namespace Session

/-- The session with other compilations kept. -/
def withKept (compiled : List (List Path.Component × Compilation)) (session : Session) : Session :=
  { session with catalog := { session.catalog with compiled } }

def Operation.isOnKept : Operation → Bool
  | .compile _ | .drop _ | .dropAll => true
  | _ => false

/-- The operations of a session that keeps nothing: every name is compiled from its document. -/
def performUncached (session : Session) : Operation → Answer × Session
  | .compile name =>
      (.compiled ((session.catalog.document session.libraries session.store name).bind
        (DesignTokens.compile session.libraries.spell · session.catalog.options)), session)
  | .drop _ => (.told false, session)
  | operation => session.perform operation

def answerUncached (session : Session) (operation : Operation) : Answer :=
  (session.performUncached operation).1

def runUncached (session : Session) (history : List Operation) : Session :=
  history.foldl (fun session operation => (session.performUncached operation).2) session

theorem adding_withKept (session : Session) (compiled : List (List Path.Component × Compilation))
    (result : Except Failure Catalog) :
    (session.withKept compiled).adding (result.map ({ · with compiled })) =
      (session.adding result).map id (withKept compiled) := by
  cases result <;> rfl

theorem perform_withKept (session : Session) (compiled : List (List Path.Component × Compilation))
    {operation : Operation} (other : operation.isOnKept = false) :
    (session.withKept compiled).perform operation =
      (session.perform operation).map id (withKept compiled) := by
  cases operation with
  | compile | drop | dropAll => cases other
  | addDirectory path =>
      have added : (session.withKept compiled).catalog.addDirectory session.store path =
          (session.catalog.addDirectory session.store path).map ({ · with compiled }) := by
        unfold Catalog.addDirectory
        split <;> rfl
      exact (congrArg _ added).trans (session.adding_withKept compiled _)
  | addText name text encoding =>
      have added :
          (session.withKept compiled).catalog.addText session.libraries name text encoding =
            (session.catalog.addText session.libraries name text encoding).map
              ({ · with compiled }) := by
        unfold Catalog.addText
        split <;> rfl
      exact (congrArg _ added).trans (session.adding_withKept compiled _)
  | write path content =>
      unfold perform
      dsimp only [withKept]
      split <;> rfl
  | remove path =>
      unfold perform
      dsimp only [withKept]
      split <;> rfl
  | _ => rfl

theorem after_compiled (session : Session) {operation : Operation}
    (other : operation.isOnKept = false) :
    (session.after operation).catalog.compiled = session.catalog.compiled :=
  congrArg (·.2.catalog.compiled) (session.perform_withKept session.catalog.compiled other)

theorem performUncached_of_other (session : Session) {operation : Operation}
    (other : operation.isOnKept = false) :
    session.performUncached operation = session.perform operation := by
  cases operation with
  | compile | drop | dropAll => cases other
  | _ => rfl

theorem performUncached_withKept_nil (session : Session) (operation : Operation) :
    ((session.withKept []).performUncached operation).2 =
      (session.after operation).withKept [] := by
  cases on : operation.isOnKept with
  | false =>
      rw [performUncached_of_other _ on, perform_withKept session [] on]
      rfl
  | true =>
      cases operation with
      | compile name =>
          have ways := session.compiles name
          change session.withKept [] =
            withKept [] { session with catalog := (session.compiling name).2 }
          generalize session.compiling name = outcome at ways ⊢
          cases ways <;> rfl
      | drop | dropAll => rfl
      | _ => cases on

/-- A session that keeps nothing is at every time as one that does, but for what is kept. -/
theorem runUncached_withKept_nil (session : Session) (history : List Operation) :
    (session.withKept []).runUncached history = (session.run history).withKept [] := by
  induction history generalizing session with
  | nil => rfl
  | cons operation rest ih =>
      have step := session.performUncached_withKept_nil operation
      exact (congrArg (runUncached · rest) step).trans (ih _)

theorem answerUncached_compile_of_selects {session : Session} {name : String} {path : Path}
    (selects : session.Selects name path) :
    (session.withKept []).answerUncached (.compile name) = .compiled (session.afresh path) := by
  have document := document_of_selects selects
  exact congrArg (fun document => Answer.compiled (document.bind
    (DesignTokens.compile session.libraries.spell · session.catalog.options))) document

/-- The answers are those of a session that keeps nothing, unless they tell of what is kept. -/
theorem answer_eq_answerUncached (session : Session) {operation : Operation}
    (notDrop : ∀ path, operation ≠ .drop path)
    (notKept : ∀ name path, operation = .compile name → session.Selects name path →
      session.kept? path = none) :
    session.answer operation = (session.withKept []).answerUncached operation := by
  cases on : operation.isOnKept with
  | false =>
      unfold answerUncached
      rw [performUncached_of_other _ on, perform_withKept session [] on]
      rfl
  | true =>
      cases operation with
      | compile name =>
          have ways := session.compiles name
          change Answer.compiled (session.compiling name).1 =
            .compiled ((session.catalog.document session.libraries session.store name).bind
              (DesignTokens.compile session.libraries.spell · session.catalog.options))
          generalize session.compiling name = outcome at ways ⊢
          cases ways with
          | ofDocument present => simp only [Catalog.document, present, Except.bind]
          | unknown noDocument noFile =>
              simp only [Catalog.document, noDocument, noFile, Except.bind]
          | ofKept selects present =>
              cases (notKept name _ rfl selects).symm.trans present
          | failed selects absent fresh =>
              exact (congrArg Answer.compiled fresh).symm.trans
                (answerUncached_compile_of_selects selects).symm
          | compiled selects absent fresh =>
              exact (congrArg Answer.compiled fresh).symm.trans
                (answerUncached_compile_of_selects selects).symm
      | drop path => exact absurd rfl (notDrop path)
      | dropAll => rfl
      | _ => cases on

end Session
end DesignTokens
