import DesignTokens.Proofs.Document.DtcgTokens

/-!
Detection against the two searches. Detection looks at every object that names without metadata
lead to, a search stops at the first token; they agree on whether there is one.
-/

namespace DesignTokens
namespace Document

/-- A node below a value, with no metadata on the way. -/
inductive Reaches : Value → Value → Prop
  | root {value} : Reaches value value
  | field {fields name child node} : (name, child) ∈ fields → ¬ ['$'] <+: name.toList →
      Reaches child node → Reaches (.object fields) node

/-- The node has the fields of a token in one of the dialects. -/
def IsMarked (node : Value) : Prop :=
  node.hasField "$value" ∨ (node.hasField "value" ∧ node.hasField "type")

theorem isMarked_object_iff (fields : Fields) :
    IsMarked (.object fields) ↔ isDtcgToken fields = true ∨ isStudioToken fields = true := by
  simp only [IsMarked, Value.hasField, Value.field?, Value.fields, isDtcgToken, isStudioToken,
    Entries.contains, Bool.and_eq_true]

theorem exists_fields_of_isMarked {node : Value} (marked : IsMarked node) :
    ∃ fields, node = .object fields := by
  cases node with
  | object fields => exact ⟨fields, rfl⟩
  | null | boolean | number | text | list =>
      simp [IsMarked, Value.hasField, Value.field?, Value.fields] at marked

theorem anyObject_of_reaches {test : Fields → Bool} {value : Value} {fields : Fields}
    (reaches : Reaches value (.object fields)) (passes : test fields = true) :
    anyObject test value = true := by
  have among {name : String} {child : Value} (plain : ¬ ['$'] <+: name.toList)
      (found : anyObject test child = true) : ∀ group : Fields, (name, child) ∈ group →
      anyObjectAmong test group = true := by
    intro group member
    induction group with
    | nil => simp at member
    | cons entry rest ih =>
        obtain ⟨other, otherChild⟩ := entry
        rw [anyObjectAmong]
        rcases List.mem_cons.mp member with first | later
        · cases first
          simp [(isMetadata_eq_false_iff name).mpr plain, found]
        · simp [ih later]
  generalize target : Value.object fields = node at reaches
  induction reaches with
  | root =>
      subst target
      simp [anyObject, passes]
  | @field group _ _ _ member plain _ ih => simp [anyObject, among plain (ih target) group member]

mutual

theorem reaches_of_anyObject {test : Fields → Bool} : ∀ value : Value,
    anyObject test value = true →
    ∃ fields, Reaches value (.object fields) ∧ test fields = true
  | .object fields, found => by
      rw [anyObject, Bool.or_eq_true] at found
      rcases found with passes | found
      · exact ⟨fields, .root, passes⟩
      · obtain ⟨name, child, member, plain, found⟩ := exists_reaches_of_anyObjectAmong fields found
        obtain ⟨inner, reaches, passes⟩ := found
        exact ⟨inner, .field member plain reaches, passes⟩
  | .null, found | .boolean _, found | .number _, found | .text _, found | .list _, found => by
      simp [anyObject] at found

theorem exists_reaches_of_anyObjectAmong {test : Fields → Bool} : ∀ fields : Fields,
    anyObjectAmong test fields = true →
    ∃ name child, (name, child) ∈ fields ∧ ¬ ['$'] <+: name.toList ∧
      ∃ inner, Reaches child (.object inner) ∧ test inner = true
  | [], found => by simp [anyObjectAmong] at found
  | (name, child) :: rest, found => by
      rw [anyObjectAmong, Bool.or_eq_true, Bool.and_eq_true, Bool.not_eq_true'] at found
      rcases found with ⟨plain, found⟩ | found
      · exact ⟨name, child, List.mem_cons_self, (isMetadata_eq_false_iff name).mp plain,
          reaches_of_anyObject child found⟩
      · obtain ⟨other, otherChild, member, remaining⟩ := exists_reaches_of_anyObjectAmong rest found
        exact ⟨other, otherChild, List.mem_cons_of_mem _ member, remaining⟩

end

variable {Context : Type} {search : Search Context}

/-- A search that skips nothing but metadata finds a token where there is one: the first on the way
to it, if not that one. -/
theorem exists_finds_of_reaches (thorough : ∀ name, isMetadata name = false →
    search.skips name = false) {value : Value} {fields : Fields}
    (reaches : Reaches value (.object fields)) (isToken : search.isToken fields = true)
    (context : Context) : ∃ leaf, search.Finds context value leaf := by
  generalize target : Value.object fields = node at reaches
  induction reaches generalizing context with
  | root =>
      subst target
      exact ⟨_, .here isToken⟩
  | @field group name _ _ member plain _ ih =>
      cases outer : search.isToken group with
      | true => exact ⟨_, .here outer⟩
      | false =>
          obtain ⟨leaf, finds⟩ := ih (search.extend group context) target
          have searched := thorough name ((isMetadata_eq_false_iff name).mpr plain)
          exact ⟨_, .field outer member searched finds⟩

theorem below_ne_nil_of_anyObject (thorough : ∀ name, isMetadata name = false →
    search.skips name = false)
    (marks : ∀ fields, search.isToken fields = true → IsMarked (.object fields))
    {document : Value} (root : ¬ IsMarked document)
    (found : anyObject search.isToken document = true) (context : Context) :
    search.below context document ≠ [] := by
  obtain ⟨fields, reaches, isToken⟩ := reaches_of_anyObject document found
  obtain ⟨leaf, finds⟩ := exists_finds_of_reaches thorough reaches isToken context
  have named : leaf.path ≠ [] := by
    cases finds with
    | here rootIsToken => exact absurd (marks _ rootIsToken) root
    | field => simp
  exact List.ne_nil_of_mem ((Search.mem_below_iff context document leaf).mpr ⟨finds, named⟩)

theorem reaches_of_finds_dtcg {inherited : Option String} {value : Value}
    {leaf : Leaf (Option String)} (finds : dtcgSearch.Finds inherited value leaf) :
    Reaches value (.object leaf.fields) ∧ isDtcgToken leaf.fields = true := by
  induction finds with
  | here isToken => exact ⟨.root, isToken⟩
  | @field _ _ name _ _ _ member searched _ ih =>
      exact ⟨.field member ((isMetadata_eq_false_iff name).mp searched) ih.1, ih.2⟩

theorem anyObject_of_tokens_dtcg {document : Value} (found : tokens document .dtcg ≠ []) :
    anyObject isDtcgToken document = true := by
  rw [tokens_dtcg, ne_eq, List.map_eq_nil_iff] at found
  obtain ⟨leaf, member⟩ := List.exists_mem_of_ne_nil _ found
  obtain ⟨finds, _⟩ := (Search.mem_below_iff none document leaf).mp member
  obtain ⟨reaches, isToken⟩ := reaches_of_finds_dtcg finds
  exact anyObject_of_reaches reaches isToken

theorem tokens_dtcg_ne_nil {document : Value} (root : ¬ IsMarked document)
    (found : anyObject isDtcgToken document = true) : tokens document .dtcg ≠ [] := by
  rw [tokens_dtcg, ne_eq, List.map_eq_nil_iff]
  exact below_ne_nil_of_anyObject (fun _ plain => plain)
    (fun fields isToken => (isMarked_object_iff fields).mpr (.inl isToken)) root found none

theorem tokens_studio_ne_nil {document : Value} (root : ¬ IsMarked document)
    (found : anyObject isStudioToken document = true) : tokens document .tokensStudio ≠ [] := by
  rw [tokens_studio, ne_eq, List.map_eq_nil_iff]
  exact below_ne_nil_of_anyObject (fun _ _ => rfl)
    (fun fields isToken => (isMarked_object_iff fields).mpr (.inr isToken)) root found ()

/-- A document that is no token itself has tokens in its own dialect if any node has the fields of
one, and never loses tokens of the DTCG dialect to the other. -/
theorem detect_agrees_with_tokens (document : Value) :
    (¬ IsMarked document → (tokens document (detect document) = [] ↔
      ∀ node, Reaches document node → ¬ IsMarked node)) ∧
    (tokens document .dtcg ≠ [] → detect document = .dtcg) := by
  refine ⟨?_, ?_⟩
  · intro root
    constructor
    · intro empty node reaches marked
      obtain ⟨fields, rfl⟩ := exists_fields_of_isMarked marked
      by_cases hasDtcg : anyObject isDtcgToken document = true
      · rw [detect, if_pos hasDtcg] at empty
        exact tokens_dtcg_ne_nil root hasDtcg empty
      · rcases (isMarked_object_iff fields).mp marked with isToken | isToken
        · exact hasDtcg (anyObject_of_reaches reaches isToken)
        · have hasStudio := anyObject_of_reaches reaches isToken
          rw [detect, if_neg hasDtcg, if_pos hasStudio] at empty
          exact tokens_studio_ne_nil root hasStudio empty
    · intro unmarked
      have hasNone (test : Fields → Bool)
          (marks : ∀ fields, test fields = true → IsMarked (.object fields)) :
          ¬ anyObject test document = true := by
        intro found
        obtain ⟨fields, reaches, passes⟩ := reaches_of_anyObject document found
        exact unmarked _ reaches (marks fields passes)
      have hasNoDtcg := hasNone isDtcgToken fun fields isToken =>
        (isMarked_object_iff fields).mpr (Or.inl isToken)
      have hasNoStudio := hasNone isStudioToken fun fields isToken =>
        (isMarked_object_iff fields).mpr (Or.inr isToken)
      rw [detect, if_neg hasNoDtcg, if_neg hasNoStudio]
      by_contra found
      exact hasNoDtcg (anyObject_of_tokens_dtcg found)
  · intro found
    rw [detect, if_pos (anyObject_of_tokens_dtcg found)]

def mixedDocument : Value :=
  .object [("$extensions", .object [("$value", .null)]),
    ("old", .object [("value", .text "1px"), ("type", .text "spacing"),
      ("new", .object [("$value", .text "2px")])])]

theorem mixedDocument_detected :
    ¬ IsMarked mixedDocument ∧
    (∃ node, Reaches mixedDocument node ∧ IsMarked node) ∧
    tokens mixedDocument .dtcg ≠ [] ∧ detect mixedDocument = .dtcg := by
  have root : ¬ IsMarked mixedDocument := by
    simp [IsMarked, mixedDocument, Value.hasField, Value.field?, Value.fields, List.lookup_cons]
  have found : tokens mixedDocument .dtcg = [⟨["old", "new"], .unknown, .text "2px"⟩] := by rfl
  obtain ⟨agrees, keeps⟩ := detect_agrees_with_tokens mixedDocument
  have isDtcg := keeps (by simp [found])
  refine ⟨root, ?_, by simp [found], isDtcg⟩
  by_contra unmarked
  have empty := (agrees root).mpr fun node reaches marked => unmarked ⟨node, reaches, marked⟩
  rw [isDtcg, found] at empty
  simp at empty

end Document
end DesignTokens
