import DesignTokens.Proofs.Document.Node
import DesignTokens.Proofs.Document.Search

/-!
Where a search finds tokens, said of paths: at the objects that pass the test and have none above
them that does. It finds them in document order, each once.
-/

namespace DesignTokens
namespace Document
namespace Search

variable {Context : Type} {search : Search Context}

/-- The object with these fields is a token, and no object on the way to it is one. -/
structure Topmost (search : Search Context) (document : Value) (path : List String)
    (fields : Fields) : Prop where
  reached : document.node? path = some (.object fields)
  isToken : search.isToken fields = true
  searched : ∀ name ∈ path, search.skips name = false
  topmost : ∀ before, before <+: path → before ≠ path →
    ∀ group, document.node? before = some (.object group) → search.isToken group = false

/-- What the objects on a path, with its end, say of a token there. -/
def contextAt (search : Search Context) : Context → Value → List String → Context
  | context, value, [] => search.extend value.fields context
  | context, value, name :: rest =>
      match value.field? name with
      | some child => search.contextAt (search.extend value.fields context) child rest
      | none => search.extend value.fields context

theorem topmost_nil (document : Value) (fields : Fields) :
    search.Topmost document [] fields ↔
      document = .object fields ∧ search.isToken fields = true := by
  constructor
  · intro found
    exact ⟨Option.some.inj found.reached, found.isToken⟩
  · rintro ⟨rfl, isToken⟩
    refine ⟨rfl, isToken, by simp, ?_⟩
    intro before isPrefix different
    exact absurd (List.prefix_nil.mp isPrefix) different

theorem topmost_cons (document : Value) (name : String) (rest : List String) (fields : Fields) :
    search.Topmost document (name :: rest) fields ↔
      ∃ group child, document = .object group ∧ search.isToken group = false ∧
        search.skips name = false ∧ group.lookup name = some child ∧
        search.Topmost child rest fields := by
  constructor
  · intro found
    obtain ⟨child, isChild, reached⟩ := Option.bind_eq_some_iff.mp found.reached
    cases document with
    | object group =>
        have isGroup := found.topmost [] List.nil_prefix (by simp) group rfl
        have searched := found.searched name List.mem_cons_self
        refine ⟨group, child, rfl, isGroup, searched, isChild, reached, found.isToken, ?_, ?_⟩
        · intro other member
          exact found.searched other (List.mem_cons_of_mem _ member)
        · intro before isPrefix different inner innerReached
          refine found.topmost (name :: before) ?_ (by simpa using different) inner ?_
          · exact List.cons_prefix_cons.mpr ⟨rfl, isPrefix⟩
          · rw [Value.node?_cons, isChild]
            exact innerReached
    | null | boolean | number | text | list => simp [Value.field?, Value.fields] at isChild
  · rintro ⟨group, child, rfl, isGroup, searched, isChild, found⟩
    have step (path : List String) :
        (Value.object group).node? (name :: path) = child.node? path := by
      simp [Value.node?_cons, Value.field?, Value.fields, isChild]
    refine ⟨(step rest).trans found.reached, found.isToken, ?_, ?_⟩
    · intro other member
      rcases List.mem_cons.mp member with rfl | member
      · exact searched
      · exact found.searched other member
    · intro before isPrefix different inner innerReached
      cases before with
      | nil =>
          obtain rfl : group = inner := Value.object.inj (Option.some.inj innerReached)
          exact isGroup
      | cons first before =>
          obtain ⟨rfl, isPrefixOfRest⟩ := List.cons_prefix_cons.mp isPrefix
          rw [step] at innerReached
          exact found.topmost before isPrefixOfRest (by simpa using different) inner innerReached

theorem topmost_of_finds {context : Context} {document : Value} {leaf : Leaf Context}
    (wellFormed : document.WellFormed) (finds : search.Finds context document leaf) :
    search.Topmost document leaf.path leaf.fields ∧
      leaf.context = search.contextAt context document leaf.path := by
  induction finds with
  | here isToken => exact ⟨(topmost_nil _ _).mpr ⟨rfl, isToken⟩, rfl⟩
  | @field context fields name child leaf isGroup member searched _ ih =>
      have known := (Entries.lookup_eq_some_iff_mem wellFormed.1 name child).mpr member
      obtain ⟨found, sameContext⟩ := ih (Value.wellFormed_of_mem wellFormed.2 member)
      refine ⟨(topmost_cons _ _ _ _).mpr ⟨fields, child, rfl, isGroup, searched, known, found⟩, ?_⟩
      simpa [contextAt, Value.field?, Value.fields, known] using sameContext

theorem finds_of_topmost (context : Context) {document : Value} {path : List String}
    {fields : Fields} (wellFormed : document.WellFormed)
    (found : search.Topmost document path fields) :
    search.Finds context document ⟨path, search.contextAt context document path, fields⟩ := by
  induction path generalizing context document with
  | nil =>
      obtain ⟨rfl, isToken⟩ := (topmost_nil _ _).mp found
      exact .here isToken
  | cons name rest ih =>
      obtain ⟨group, child, rfl, isGroup, searched, known, inner⟩ :=
        (topmost_cons _ _ _ _).mp found
      have member := (Entries.lookup_eq_some_iff_mem wellFormed.1 name child).mp known
      have finds := ih (search.extend group context)
        (Value.wellFormed_of_mem wellFormed.2 member) inner
      simpa [contextAt, Value.field?, Value.fields, known, Leaf.under] using
        Finds.field isGroup member searched finds

theorem finds_iff (context : Context) {document : Value} (wellFormed : document.WellFormed)
    (leaf : Leaf Context) :
    search.Finds context document leaf ↔
      search.Topmost document leaf.path leaf.fields ∧
        leaf.context = search.contextAt context document leaf.path := by
  constructor
  · exact topmost_of_finds wellFormed
  · rintro ⟨found, sameContext⟩
    have finds := finds_of_topmost context wellFormed found
    rwa [← sameContext] at finds

theorem amongFields_head {context : Context} {fields : Fields} {leaf : Leaf Context}
    (found : leaf ∈ search.amongFields context fields) :
    ∃ name rest, leaf.path = name :: rest ∧ name ∈ fields.map Prod.fst := by
  obtain ⟨name, child, inner, member, _, _, rfl⟩ :=
    exists_finds_of_mem_amongFields context fields leaf found
  exact ⟨name, inner.path, rfl, List.mem_map_of_mem member⟩

mutual

theorem atNode_pairwise_precedes : ∀ (context : Context) (value : Value),
    (search.atNode context value).Pairwise fun first second =>
      value.Precedes first.path second.path
  | context, .object fields => by
      rw [atNode]
      split
      · exact List.pairwise_singleton _ _
      · exact amongFields_pairwise_precedes _ fields
  | _, .null | _, .boolean _ | _, .number _ | _, .text _ | _, .list _ => List.Pairwise.nil

theorem amongFields_pairwise_precedes : ∀ (context : Context) (fields : Fields),
    (search.amongFields context fields).Pairwise fun first second =>
      (Value.object fields).Precedes first.path second.path
  | _, [] => List.Pairwise.nil
  | context, (name, child) :: rest => by
      have later := (amongFields_pairwise_precedes context rest).imp fun precedes =>
        Value.Precedes.cons (name, child) precedes
      rw [amongFields]
      split
      · exact later
      · refine List.pairwise_append.mpr ⟨?_, later, ?_⟩
        · rw [List.pairwise_map]
          exact (atNode_pairwise_precedes context child).imp fun precedes =>
            .within List.mem_cons_self precedes
        · intro first firstFound second secondFound
          obtain ⟨inner, _, rfl⟩ := List.mem_map.mp firstFound
          obtain ⟨other, path, samePath, member⟩ := amongFields_head secondFound
          rw [samePath]
          exact .apart ((List.singleton_sublist.mpr member).cons_cons name)

end

theorem below_pairwise_precedes (context : Context) (document : Value) :
    (search.below context document).Pairwise fun first second =>
      document.Precedes first.path second.path := by
  cases document with
  | object fields =>
      rw [below]
      split
      · exact List.Pairwise.nil
      · exact amongFields_pairwise_precedes _ fields
  | null | boolean | number | text | list => exact List.Pairwise.nil

theorem mem_below_iff_topmost (context : Context) {document : Value}
    (wellFormed : document.WellFormed) (leaf : Leaf Context) :
    leaf ∈ search.below context document ↔
      leaf.path ≠ [] ∧ search.Topmost document leaf.path leaf.fields ∧
        leaf.context = search.contextAt context document leaf.path := by
  rw [mem_below_iff, finds_iff context wellFormed, and_comm]

end Search
end Document
end DesignTokens
