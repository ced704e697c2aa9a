import DesignTokens.Proofs.Document.Detection

/-!
Tokens below metadata. The search for tokens of the DTCG dialect leaves metadata out as detection
does; the one for the Tokens Studio dialect goes through it. Both find the same elsewhere, whatever
objects the metadata holds.
-/

namespace DesignTokens
namespace Document

/-- No name on the path is one of metadata. -/
def AvoidsMetadata (path : List String) : Prop :=
  ∀ name ∈ path, ¬ ['$'] <+: name.toList

instance (path : List String) : Decidable (AvoidsMetadata path) :=
  inferInstanceAs (Decidable (∀ name ∈ path, ¬ ['$'] <+: name.toList))

theorem avoidsMetadata_cons_iff (name : String) (rest : List String) :
    AvoidsMetadata (name :: rest) ↔ isMetadata name = false ∧ AvoidsMetadata rest := by
  rw [AvoidsMetadata, List.forall_mem_cons, isMetadata_eq_false_iff]
  rfl

/-- A node that detection looks at, and the names that lead to it. -/
inductive ReachesAt : Value → List String → Value → Prop
  | root {value} : ReachesAt value [] value
  | field {fields name child path node} : (name, child) ∈ fields → ¬ ['$'] <+: name.toList →
      ReachesAt child path node → ReachesAt (.object fields) (name :: path) node

theorem ReachesAt.reaches {value node : Value} {path : List String}
    (reaches : ReachesAt value path node) : Reaches value node := by
  induction reaches with
  | root => exact .root
  | field member plain _ ih => exact .field member plain ih

theorem ReachesAt.avoidsMetadata {value node : Value} {path : List String}
    (reaches : ReachesAt value path node) : AvoidsMetadata path := by
  induction reaches with
  | root => simp [AvoidsMetadata]
  | field _ plain _ ih => exact List.forall_mem_cons.mpr ⟨plain, ih⟩

def nullForObject : Value → Value
  | .object _ => .null
  | value => value

mutual

/-- The document with null for each object under metadata, outside its tokens. -/
def withoutMetadata (isToken : Fields → Bool) : Value → Value
  | .object fields =>
      if isToken fields then .object fields
      else .object (fieldsWithoutMetadata isToken fields)
  | value => value

def fieldsWithoutMetadata (isToken : Fields → Bool) : Fields → Fields
  | [] => []
  | (name, child) :: rest =>
      (name, if isMetadata name then nullForObject child else withoutMetadata isToken child) ::
        fieldsWithoutMetadata isToken rest

end

theorem lookup_fieldsWithoutMetadata (isToken : Fields → Bool) (name : String) (fields : Fields) :
    (fieldsWithoutMetadata isToken fields).lookup name = (fields.lookup name).map fun child =>
      if isMetadata name then nullForObject child else withoutMetadata isToken child := by
  induction fields with
  | nil => rfl
  | cons entry rest ih =>
      obtain ⟨other, child⟩ := entry
      rw [fieldsWithoutMetadata, List.lookup_cons, List.lookup_cons]
      by_cases same : name = other
      · simp [same]
      · have apart : (name == other) = false := by simpa using same
        rw [apart]
        exact ih

theorem contains_fieldsWithoutMetadata (isToken : Fields → Bool) (name : String)
    (fields : Fields) :
    Entries.contains name (fieldsWithoutMetadata isToken fields) =
      Entries.contains name fields := by
  rw [Entries.contains, lookup_fieldsWithoutMetadata, Option.isSome_map]
  rfl

namespace Search

variable {Context : Type} {search : Search Context}

theorem avoidsMetadata_of_finds (skipsMetadata : ∀ name, isMetadata name = true →
    search.skips name = true) {context : Context} {value : Value} {leaf : Leaf Context}
    (finds : search.Finds context value leaf) : AvoidsMetadata leaf.path := by
  induction finds with
  | here => simp [AvoidsMetadata]
  | @field _ _ name _ _ _ _ searched _ ih =>
      rw [Leaf.under_path, avoidsMetadata_cons_iff]
      refine ⟨?_, ih⟩
      by_contra metadata
      rw [Bool.not_eq_false] at metadata
      rw [skipsMetadata name metadata] at searched
      cases searched

theorem reachesAt_of_finds {context : Context} {value : Value} {leaf : Leaf Context}
    (finds : search.Finds context value leaf) (avoids : AvoidsMetadata leaf.path) :
    ReachesAt value leaf.path (.object leaf.fields) ∧ search.isToken leaf.fields = true := by
  induction finds with
  | here isToken => exact ⟨.root, isToken⟩
  | field _ member _ _ ih =>
      obtain ⟨plain, below⟩ := List.forall_mem_cons.mp avoids
      obtain ⟨reaches, isToken⟩ := ih below
      exact ⟨.field member plain reaches, isToken⟩

/-- What the search reads of an object that is no token does not change with its metadata. -/
structure IsBlindToMetadata (search : Search Context) : Prop where
  isToken : ∀ fields, search.isToken (fieldsWithoutMetadata search.isToken fields) =
    search.isToken fields
  extend : ∀ fields context, search.extend (fieldsWithoutMetadata search.isToken fields) context =
    search.extend fields context

theorem filter_under_metadata {name : String} (metadata : isMetadata name = true)
    (leaves : List (Leaf Context)) :
    (leaves.map (Leaf.under name)).filter (fun leaf => AvoidsMetadata leaf.path) = [] := by
  rw [List.filter_eq_nil_iff, List.forall_mem_map]
  intro leaf _
  simp [avoidsMetadata_cons_iff, metadata]

theorem filter_under_plain {name : String} (plain : isMetadata name = false)
    (leaves : List (Leaf Context)) :
    (leaves.map (Leaf.under name)).filter (fun leaf => AvoidsMetadata leaf.path) =
      (leaves.filter fun leaf => AvoidsMetadata leaf.path).map (Leaf.under name) := by
  rw [List.filter_map]
  congr 2
  funext leaf
  simp [avoidsMetadata_cons_iff, plain]

mutual

theorem atNode_withoutMetadata (blind : search.IsBlindToMetadata) :
    ∀ (context : Context) (value : Value),
    search.atNode context (withoutMetadata search.isToken value) =
      (search.atNode context value).filter fun leaf => AvoidsMetadata leaf.path
  | context, .object fields => by
      rw [withoutMetadata]
      by_cases isToken : search.isToken fields = true
      · simp [atNode, isToken, AvoidsMetadata]
      · rw [if_neg isToken, atNode, atNode, blind.isToken, blind.extend, if_neg isToken,
          if_neg isToken]
        exact amongFields_withoutMetadata blind _ fields
  | _, .null | _, .boolean _ | _, .number _ | _, .text _ | _, .list _ => rfl

theorem amongFields_withoutMetadata (blind : search.IsBlindToMetadata) :
    ∀ (context : Context) (fields : Fields),
    search.amongFields context (fieldsWithoutMetadata search.isToken fields) =
      (search.amongFields context fields).filter fun leaf => AvoidsMetadata leaf.path
  | _, [] => rfl
  | context, (name, child) :: rest => by
      have others := amongFields_withoutMetadata blind context rest
      rw [fieldsWithoutMetadata, amongFields, amongFields]
      split
      · exact others
      · rw [List.filter_append, others]
        by_cases metadata : isMetadata name = true
        · have noNode : search.atNode context (nullForObject child) = [] := by
            cases child <;> rfl
          rw [if_pos metadata, noNode, filter_under_metadata metadata]
          rfl
        · have plain : isMetadata name = false := by simpa using metadata
          rw [if_neg metadata, atNode_withoutMetadata blind context child, filter_under_plain plain]

end

theorem below_withoutMetadata (blind : search.IsBlindToMetadata) (context : Context)
    (document : Value) :
    search.below context (withoutMetadata search.isToken document) =
      (search.below context document).filter fun leaf => AvoidsMetadata leaf.path := by
  cases document with
  | object fields =>
      rw [withoutMetadata]
      by_cases isToken : search.isToken fields = true
      · simp [below, isToken]
      · rw [if_neg isToken, below, below, blind.isToken, blind.extend, if_neg isToken,
          if_neg isToken]
        exact amongFields_withoutMetadata blind _ fields
  | null | boolean | number | text | list => rfl

end Search

theorem dtcgSearch_isBlindToMetadata : dtcgSearch.IsBlindToMetadata where
  isToken fields := contains_fieldsWithoutMetadata isDtcgToken "$value" fields
  extend fields inherited := by
    -- The inherited tag is itself metadata, but a text.
    have sameText (child : Value) : (nullForObject child).text? = child.text? := by
      cases child <;> rfl
    have isMetadataName : isMetadata "$type" = true := by decide +kernel
    have sameTag : ((fieldsWithoutMetadata isDtcgToken fields).lookup "$type").bind Value.text? =
        (fields.lookup "$type").bind Value.text? := by
      rw [lookup_fieldsWithoutMetadata, Option.bind_map]
      simp only [isMetadataName, Function.comp_def, if_true, sameText]
    exact (tagBelow_eq_or _ inherited).trans (sameTag ▸ (tagBelow_eq_or fields inherited).symm)

theorem studioSearch_isBlindToMetadata : studioSearch.IsBlindToMetadata where
  isToken fields := by
    simp only [studioSearch, isStudioToken, contains_fieldsWithoutMetadata]
  extend _ _ := rfl

theorem avoidsMetadata_of_mem_tokens_dtcg {document : Value} {token : Token}
    (member : token ∈ tokens document .dtcg) : AvoidsMetadata token.path := by
  rw [tokens_dtcg] at member
  obtain ⟨leaf, found, rfl⟩ := List.mem_map.mp member
  obtain ⟨finds, -⟩ := (Search.mem_below_iff none document leaf).mp found
  exact Search.avoidsMetadata_of_finds (fun _ metadata => metadata) finds

def isTokenOf : Dialect → Fields → Bool
  | .dtcg => isDtcgToken
  | .tokensStudio => isStudioToken

theorem tokens_withoutMetadata (document : Value) (dialect : Dialect) :
    tokens (withoutMetadata (isTokenOf dialect) document) dialect =
      (tokens document dialect).filter fun token => AvoidsMetadata token.path := by
  cases dialect with
  | dtcg =>
      rw [tokens_dtcg, tokens_dtcg, List.filter_map]
      exact congrArg _ (Search.below_withoutMetadata dtcgSearch_isBlindToMetadata none document)
  | tokensStudio =>
      rw [tokens_studio, tokens_studio, List.filter_map]
      exact congrArg _ (Search.below_withoutMetadata studioSearch_isBlindToMetadata () document)

theorem reachesAt_of_mem_tokens {document : Value} {dialect : Dialect} {token : Token}
    (member : token ∈ tokens document dialect) (avoids : AvoidsMetadata token.path) :
    ∃ fields, ReachesAt document token.path (.object fields) ∧ isTokenOf dialect fields = true := by
  cases dialect with
  | dtcg =>
      rw [tokens_dtcg] at member
      obtain ⟨leaf, found, rfl⟩ := List.mem_map.mp member
      obtain ⟨finds, -⟩ := (Search.mem_below_iff none document leaf).mp found
      exact ⟨leaf.fields, Search.reachesAt_of_finds finds avoids⟩
  | tokensStudio =>
      rw [tokens_studio] at member
      obtain ⟨leaf, found, rfl⟩ := List.mem_map.mp member
      obtain ⟨finds, -⟩ := (Search.mem_below_iff () document leaf).mp found
      exact ⟨leaf.fields, Search.reachesAt_of_finds finds avoids⟩

/-- No token of the DTCG dialect has metadata on its path. In both dialects the tokens that have
none lie at objects that detection looks at, and are the tokens of the document when there is no
object under its metadata. -/
theorem tokens_beside_metadata (document : Value) :
    (∀ token ∈ tokens document .dtcg, AvoidsMetadata token.path) ∧
    tokens (withoutMetadata isDtcgToken document) .dtcg = tokens document .dtcg ∧
    ∀ dialect,
      tokens (withoutMetadata (isTokenOf dialect) document) dialect =
        (tokens document dialect).filter (fun token => AvoidsMetadata token.path) ∧
      ∀ token ∈ tokens document dialect,
        (AvoidsMetadata token.path ↔ ∃ node, ReachesAt document token.path node) ∧
        (AvoidsMetadata token.path → ∃ fields, ReachesAt document token.path (.object fields) ∧
          isTokenOf dialect fields = true ∧ anyObject (isTokenOf dialect) document = true) := by
  have avoids : ∀ token ∈ tokens document .dtcg, AvoidsMetadata token.path :=
    fun _ => avoidsMetadata_of_mem_tokens_dtcg
  refine ⟨avoids, ?_, ?_⟩
  · rw [← isTokenOf, tokens_withoutMetadata, List.filter_eq_self]
    intro token member
    simpa using avoids token member
  · intro dialect
    refine ⟨tokens_withoutMetadata document dialect, ?_⟩
    intro token member
    refine ⟨⟨?_, ?_⟩, ?_⟩
    · intro avoids
      obtain ⟨fields, reaches, -⟩ := reachesAt_of_mem_tokens member avoids
      exact ⟨.object fields, reaches⟩
    · rintro ⟨node, reaches⟩
      exact reaches.avoidsMetadata
    · intro avoids
      obtain ⟨fields, reaches, isToken⟩ := reachesAt_of_mem_tokens member avoids
      exact ⟨fields, reaches, isToken, anyObject_of_reaches reaches.reaches isToken⟩

/-- A theme of the Tokens Studio dialect with the shape of a token. -/
def themedDocument : Value :=
  .object [("$themes", .object [("light", .object [("value", .text "#fff"),
      ("type", .text "color")])]),
    ("ink", .object [("value", .text "#00f"), ("type", .text "color")])]

theorem metadata_of_themedDocument_among_tokens :
    detect themedDocument = .tokensStudio ∧
    tokens themedDocument .tokensStudio =
      [⟨["$themes", "light"], .color, .text "#fff"⟩, ⟨["ink"], .color, .text "#00f"⟩] ∧
    ¬ ∀ document dialect, ∀ token ∈ tokens document dialect, AvoidsMetadata token.path := by
  have found : tokens themedDocument .tokensStudio =
      [⟨["$themes", "light"], .color, .text "#fff"⟩, ⟨["ink"], .color, .text "#00f"⟩] := by rfl
  refine ⟨by rfl, found, ?_⟩
  intro allAvoid
  have avoids := allAvoid themedDocument .tokensStudio ⟨["$themes", "light"], .color, .text "#fff"⟩
    (by simp [found])
  exact absurd avoids (by decide +kernel)

end Document
end DesignTokens
