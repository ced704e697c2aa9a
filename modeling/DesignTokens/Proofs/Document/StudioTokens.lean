import DesignTokens.Proofs.Document.Topmost

/-!
The tokens of the Tokens Studio dialect as a list that its members and their order determine. An
object with only one of the two fields of a token is a group, and these fields may be groups too.
-/

namespace DesignTokens
namespace Document

/-- The object at a path lacks one of the two fields of a token. -/
def LacksStudioField (document : Value) (path : List String) : Prop :=
  document.fieldAt? path "value" = none ∨ document.fieldAt? path "type" = none

structure IsStudioToken (document : Value) (token : Token) : Prop where
  named : token.path ≠ []
  value : document.fieldAt? token.path "value" = some token.value
  category : ∃ tag, document.fieldAt? token.path "type" = some tag ∧
    token.category = (tag.text?.map Category.ofStudioTag).getD .unknown
  topmost : ∀ before, before <+: token.path → before ≠ token.path →
    LacksStudioField document before

theorem isStudioToken_eq_true_iff (fields : Fields) :
    isStudioToken fields = true ↔
      ∃ value tag, fields.lookup "value" = some value ∧ fields.lookup "type" = some tag := by
  simp [isStudioToken, Entries.contains, Option.isSome_iff_exists]

theorem isStudioToken_eq_false_iff (fields : Fields) :
    isStudioToken fields = false ↔
      fields.lookup "value" = none ∨ fields.lookup "type" = none := by
  rw [← Bool.not_eq_true, isStudioToken, Bool.and_eq_true, not_and_or]
  simp only [Entries.contains, Bool.not_eq_true, Option.isSome_eq_false_iff,
    Option.isNone_iff_eq_none]

theorem topmost_studio_iff (document : Value) (path : List String) (value tag : Value) :
    (∃ fields, studioSearch.Topmost document path fields ∧ fields.lookup "value" = some value ∧
        fields.lookup "type" = some tag) ↔
      document.fieldAt? path "value" = some value ∧ document.fieldAt? path "type" = some tag ∧
        ∀ before, before <+: path → before ≠ path → LacksStudioField document before := by
  constructor
  · rintro ⟨fields, found, holdsValue, holdsTag⟩
    have atEnd (name : String) : document.fieldAt? path name = fields.lookup name := by
      rw [Value.fieldAt?, found.reached]
      rfl
    refine ⟨(atEnd "value").trans holdsValue, (atEnd "type").trans holdsTag, ?_⟩
    intro before isPrefix different
    cases reached : document.node? before with
    | none => simp [LacksStudioField, Value.fieldAt?, reached]
    | some node =>
        rw [LacksStudioField, Value.fieldAt?, Value.fieldAt?, reached]
        cases node with
        | object group =>
            exact (isStudioToken_eq_false_iff group).mp
              (found.topmost before isPrefix different group reached)
        | null | boolean | number | text | list => exact Or.inl rfl
  · rintro ⟨holdsValue, holdsTag, above⟩
    obtain ⟨node, reached, isValue⟩ := Option.bind_eq_some_iff.mp holdsValue
    rw [Value.fieldAt?, reached] at holdsTag
    cases node with
    | object fields =>
        refine ⟨fields, ⟨reached, ?_, by simp [studioSearch], ?_⟩, isValue, holdsTag⟩
        · exact (isStudioToken_eq_true_iff fields).mpr ⟨value, tag, isValue, holdsTag⟩
        · intro before isPrefix different group groupReached
          have lacks := above before isPrefix different
          rw [LacksStudioField, Value.fieldAt?, Value.fieldAt?, groupReached] at lacks
          exact (isStudioToken_eq_false_iff group).mpr lacks
    | null | boolean | number | text | list => simp [Value.field?, Value.fields] at isValue

theorem studioCategory_eq {fields : Fields} {tag : Value}
    (declared : fields.lookup "type" = some tag) :
    studioCategory fields = (tag.text?.map Category.ofStudioTag).getD .unknown := by
  rw [studioCategory, declared, Option.bind_some]
  cases tag.text? <;> rfl

theorem mem_tokens_studio_iff {document : Value} (wellFormed : document.WellFormed)
    (token : Token) : token ∈ tokens document .tokensStudio ↔ IsStudioToken document token := by
  rw [tokens_studio, List.mem_map]
  constructor
  · rintro ⟨leaf, member, rfl⟩
    obtain ⟨named, found, -⟩ := (Search.mem_below_iff_topmost () wellFormed leaf).mp member
    obtain ⟨value, tag, holdsValue, holdsTag⟩ :=
      (isStudioToken_eq_true_iff leaf.fields).mp found.isToken
    obtain ⟨valueAt, tagAt, above⟩ := (topmost_studio_iff document leaf.path value tag).mp
      ⟨leaf.fields, found, holdsValue, holdsTag⟩
    refine ⟨named, ?_, ⟨tag, tagAt, studioCategory_eq holdsTag⟩, above⟩
    simpa [studioToken, holdsValue] using valueAt
  · intro isToken
    obtain ⟨tag, tagAt, sameCategory⟩ := isToken.category
    obtain ⟨fields, found, holdsValue, holdsTag⟩ :=
      (topmost_studio_iff document token.path token.value tag).mpr
        ⟨isToken.value, tagAt, isToken.topmost⟩
    refine ⟨⟨token.path, (), fields⟩, ?_, ?_⟩
    · rw [Search.mem_below_iff_topmost () wellFormed]
      exact ⟨isToken.named, found, rfl⟩
    · simp [studioToken, holdsValue, studioCategory_eq holdsTag, ← sameCategory]

theorem tokens_studio_pairwise_precedes (document : Value) :
    (tokens document .tokensStudio).Pairwise fun earlier later =>
      document.Precedes earlier.path later.path := by
  rw [tokens_studio, List.pairwise_map]
  exact Search.below_pairwise_precedes () document

/-- A token of a group is one of the document, with the names of the groups put before its path. -/
theorem isStudioToken_append {document group : Value} {groups : List String}
    (reached : document.node? groups = some group)
    (lacks : ∀ before, before <+: groups → LacksStudioField document before) (token : Token) :
    IsStudioToken document { token with path := groups ++ token.path } ↔
      IsStudioToken group token := by
  have below := Value.fieldAt?_append reached
  constructor
  · intro isToken
    have value := isToken.value
    obtain ⟨tag, tagAt, sameCategory⟩ := isToken.category
    refine ⟨?_, below _ _ ▸ value, ⟨tag, below _ _ ▸ tagAt, sameCategory⟩, ?_⟩
    · intro atGroup
      rw [atGroup, List.append_nil] at value tagAt
      rcases lacks groups List.prefix_rfl with noValue | noTag
      · rw [noValue] at value
        cases value
      · rw [noTag] at tagAt
        cases tagAt
    · intro before isPrefix different
      have above := isToken.topmost (groups ++ before)
        ((List.prefix_append_right_inj groups).mpr isPrefix) (by simpa using different)
      rwa [LacksStudioField, below, below] at above
  · intro isToken
    obtain ⟨tag, tagAt, sameCategory⟩ := isToken.category
    refine ⟨?_, (below _ _).trans isToken.value, ⟨tag, (below _ _).trans tagAt, sameCategory⟩, ?_⟩
    · simp [isToken.named]
    · intro before isPrefix different
      rcases List.prefix_or_prefix_of_prefix isPrefix (List.prefix_append groups token.path)
        with around | ⟨rest, rfl⟩
      · exact lacks before around
      · rw [LacksStudioField, below, below]
        exact isToken.topmost rest ((List.prefix_append_right_inj groups).mp isPrefix)
          fun same => different (by rw [same])

/-- The tokens of the Tokens Studio dialect are the only list of them in document order. What lacks
one of the two fields of a token is a group, whatever its name, with the tokens below it. -/
theorem tokens_studio_exact {document : Value} (wellFormed : document.WellFormed) :
    (∀ found, found = tokens document .tokensStudio ↔ found.Nodup ∧
      (found.Pairwise fun earlier later => document.Precedes earlier.path later.path) ∧
      ∀ token, token ∈ found ↔ IsStudioToken document token) ∧
    ∀ groups group, document.node? groups = some group →
      (∀ before, before <+: groups → LacksStudioField document before) →
      ∀ token, { token with path := groups ++ token.path } ∈ tokens document .tokensStudio ↔
        token ∈ tokens group .tokensStudio := by
  constructor
  · intro found
    rw [Value.eq_iff_of_precedes wellFormed (tokens_studio_pairwise_precedes document)]
    simp only [mem_tokens_studio_iff wellFormed]
  · intro groups group reached lacks token
    have wellFormedGroup := Value.wellFormed_of_node? wellFormed reached
    rw [mem_tokens_studio_iff wellFormed, mem_tokens_studio_iff wellFormedGroup]
    exact isStudioToken_append reached lacks token

/-- The group of sizes has a `value` and no `type`, and the document has it the other way round. -/
def layeredDocument : Value :=
  .object [("type", .object [("gap", .object [("value", .text "4px"), ("type", .boolean true)])]),
    ("size", .object [("value", .object [
      ("sm", .object [("value", .text "2px"), ("type", .text "spacing")])])]),
    ("$line", .object [("type", .text "border"), ("value", .object [
      ("ink", .object [("value", .text "#00f"), ("type", .text "color")])])])]

def layeredTokens : List Token :=
  [⟨["type", "gap"], .unknown, .text "4px"⟩, ⟨["size", "value", "sm"], .dimension, .text "2px"⟩,
    ⟨["$line"], .border, .object [
      ("ink", .object [("value", .text "#00f"), ("type", .text "color")])]⟩]

theorem layeredDocument_tokens :
    layeredDocument.WellFormed ∧ tokens layeredDocument .tokensStudio = layeredTokens ∧
    layeredTokens.Nodup ∧
    (layeredTokens.Pairwise fun earlier later =>
      layeredDocument.Precedes earlier.path later.path) ∧
    (∀ token, token ∈ layeredTokens ↔ IsStudioToken layeredDocument token) ∧
    ∃ group, layeredDocument.node? ["size"] = some group ∧
      (∀ before, before <+: ["size"] → LacksStudioField layeredDocument before) ∧
      ⟨["value", "sm"], .dimension, .text "2px"⟩ ∈ tokens group .tokensStudio := by
  have wellFormed : layeredDocument.WellFormed := by
    simp [layeredDocument, Value.WellFormed, Value.WellFormedFields]
  obtain ⟨characterized, belowGroup⟩ := tokens_studio_exact wellFormed
  have found : layeredTokens = tokens layeredDocument .tokensStudio := by rfl
  obtain ⟨distinct, ordered, members⟩ := (characterized layeredTokens).mp found
  have lacks : ∀ before, before <+: ["size"] → LacksStudioField layeredDocument before := by
    intro before isPrefix
    rcases List.prefix_cons_iff.mp isPrefix with rfl | ⟨rest, rfl, isNil⟩
    · exact Or.inl rfl
    · obtain rfl := List.prefix_nil.mp isNil
      exact Or.inr rfl
  refine ⟨wellFormed, found.symm, distinct, ordered, members, _, rfl, lacks, ?_⟩
  rw [← belowGroup ["size"] _ rfl lacks, ← found]
  simp [layeredTokens]

end Document
end DesignTokens
