import DesignTokens.Proofs.Document.Topmost

/-!
The tokens of the DTCG dialect as a list that its members and their order determine. The tag that
counts for a token is the nearest one, from the token back to the document.
-/

namespace DesignTokens

namespace Document

/-- The tag that the object at a path declares; what is no text is no tag. -/
def declaredTag (document : Value) (path : List String) : Option String :=
  (document.fieldAt? path "$type").bind Value.text?

/-- The first tag on the way from the end of a path back to the document. -/
def nearestTag (document : Value) (path : List String) : Option String :=
  path.inits.reverse.findSome? (declaredTag document)

structure IsDtcgToken (document : Value) (token : Token) : Prop where
  named : token.path ≠ []
  noMetadata : ∀ name ∈ token.path, ¬ ['$'] <+: name.toList
  value : document.fieldAt? token.path "$value" = some token.value
  topmost : ∀ before, before <+: token.path → before ≠ token.path →
    document.fieldAt? before "$value" = none
  category : token.category = ((nearestTag document token.path).map Category.ofTag).getD .unknown

theorem isMetadata_eq_false_iff (name : String) :
    isMetadata name = false ↔ ¬ ['$'] <+: name.toList := by
  rw [isMetadata]
  cases name.toList with
  | nil => simp
  | cons first rest =>
      have sameFirst : '$' = first ↔ first = '$' := eq_comm
      simp [List.cons_prefix_cons, sameFirst]

theorem isDtcgToken_eq_false_iff (fields : Fields) :
    isDtcgToken fields = false ↔ fields.lookup "$value" = none := by
  simp [isDtcgToken, Entries.contains]

theorem tagBelow_eq_or (fields : Fields) (inherited : Option String) :
    tagBelow fields inherited = ((fields.lookup "$type").bind Value.text?).or inherited := by
  rw [tagBelow]
  cases (fields.lookup "$type").bind Value.text? <;> rfl

theorem nearestTag_nil (document : Value) :
    nearestTag document [] = (document.field? "$type").bind Value.text? := by
  simp [nearestTag, declaredTag, Value.fieldAt?]

theorem nearestTag_cons (document : Value) (name : String) (rest : List String) :
    nearestTag document (name :: rest) =
      ((document.field? name).bind fun child => nearestTag child rest).or
        (nearestTag document []) := by
  have step (before : List String) : declaredTag document (name :: before) =
      (document.field? name).bind fun child => declaredTag child before := by
    cases known : document.field? name <;>
      simp [declaredTag, Value.fieldAt?, Value.node?_cons, known]
  have inner : (rest.inits.reverse.map (name :: ·)).findSome? (declaredTag document) =
      (document.field? name).bind fun child => nearestTag child rest := by
    rw [List.findSome?_map]
    cases known : document.field? name with
    | none => simp [Function.comp_def, step, known]
    | some child => simp [Function.comp_def, step, known, nearestTag]
  rw [nearestTag, List.inits_cons, List.reverse_cons, ← List.map_reverse, List.findSome?_append,
    inner]
  simp [nearestTag]

theorem contextAt_dtcg (inherited : Option String) (document : Value) (path : List String) :
    dtcgSearch.contextAt inherited document path =
      (nearestTag document path).or inherited := by
  induction path generalizing inherited document with
  | nil =>
      rw [nearestTag_nil]
      exact tagBelow_eq_or document.fields inherited
  | cons name rest ih =>
      have own : dtcgSearch.extend document.fields inherited =
          (nearestTag document []).or inherited := by
        rw [nearestTag_nil]
        exact tagBelow_eq_or document.fields inherited
      rw [Search.contextAt, nearestTag_cons]
      cases known : document.field? name with
      | none => simpa using own
      | some child => simp [ih, own, Option.or_assoc]

theorem topmost_dtcg_iff (document : Value) (path : List String) (value : Value) :
    (∃ fields, dtcgSearch.Topmost document path fields ∧ fields.lookup "$value" = some value) ↔
      (∀ name ∈ path, ¬ ['$'] <+: name.toList) ∧ document.fieldAt? path "$value" = some value ∧
        ∀ before, before <+: path → before ≠ path → document.fieldAt? before "$value" = none := by
  constructor
  · rintro ⟨fields, found, holds⟩
    refine ⟨?_, ?_, ?_⟩
    · intro name member
      exact (isMetadata_eq_false_iff name).mp (found.searched name member)
    · rw [Value.fieldAt?, found.reached]
      exact holds
    · intro before isPrefix different
      cases reached : document.node? before with
      | none => simp [Value.fieldAt?, reached]
      | some node =>
          rw [Value.fieldAt?, reached]
          cases node with
          | object group =>
              exact (isDtcgToken_eq_false_iff group).mp
                (found.topmost before isPrefix different group reached)
          | null | boolean | number | text | list => rfl
  · rintro ⟨plain, holds, above⟩
    obtain ⟨node, reached, isField⟩ := Option.bind_eq_some_iff.mp holds
    cases node with
    | object fields =>
        refine ⟨fields, ⟨reached, ?_, ?_, ?_⟩, isField⟩
        · exact Option.isSome_iff_exists.mpr ⟨value, isField⟩
        · intro name member
          exact (isMetadata_eq_false_iff name).mpr (plain name member)
        · intro before isPrefix different group groupReached
          have absent := above before isPrefix different
          rw [Value.fieldAt?, groupReached] at absent
          exact (isDtcgToken_eq_false_iff group).mpr absent
    | null | boolean | number | text | list => simp [Value.field?, Value.fields] at isField

theorem mem_tokens_dtcg_iff {document : Value} (wellFormed : document.WellFormed) (token : Token) :
    token ∈ tokens document .dtcg ↔ IsDtcgToken document token := by
  have sameContext (path : List String) :
      dtcgSearch.contextAt none document path = nearestTag document path := by
    simp [contextAt_dtcg]
  have sameCategory (tag : Option String) :
      categoryOfTag tag = (tag.map Category.ofTag).getD .unknown := by
    cases tag <;> rfl
  rw [tokens_dtcg, List.mem_map]
  constructor
  · rintro ⟨leaf, member, rfl⟩
    obtain ⟨named, found, context⟩ := (Search.mem_below_iff_topmost none wellFormed leaf).mp member
    have isToken : isDtcgToken leaf.fields = true := found.isToken
    obtain ⟨value, holds⟩ := Option.isSome_iff_exists.mp isToken
    obtain ⟨plain, fieldAt, above⟩ :=
      (topmost_dtcg_iff document leaf.path value).mp ⟨leaf.fields, found, holds⟩
    refine ⟨named, plain, ?_, above, ?_⟩
    · simpa [dtcgToken, holds] using fieldAt
    · simp [dtcgToken, context, sameContext, sameCategory]
  · intro isToken
    obtain ⟨fields, found, holds⟩ := (topmost_dtcg_iff document token.path token.value).mpr
      ⟨isToken.noMetadata, isToken.value, isToken.topmost⟩
    refine ⟨⟨token.path, nearestTag document token.path, fields⟩, ?_, ?_⟩
    · rw [Search.mem_below_iff_topmost none wellFormed]
      exact ⟨isToken.named, found, (sameContext token.path).symm⟩
    · simp [dtcgToken, holds, sameCategory, ← isToken.category]

theorem tokens_dtcg_pairwise_precedes (document : Value) :
    (tokens document .dtcg).Pairwise fun earlier later =>
      document.Precedes earlier.path later.path := by
  rw [tokens_dtcg, List.pairwise_map]
  exact Search.below_pairwise_precedes none document

/-- The tokens of the DTCG dialect are the only list of them in document order. -/
theorem eq_tokens_dtcg_iff {document : Value} (wellFormed : document.WellFormed)
    (found : List Token) :
    found = tokens document .dtcg ↔ found.Nodup ∧
      (found.Pairwise fun earlier later => document.Precedes earlier.path later.path) ∧
      ∀ token, token ∈ found ↔ IsDtcgToken document token := by
  rw [Value.eq_iff_of_precedes wellFormed (tokens_dtcg_pairwise_precedes document)]
  simp only [mem_tokens_dtcg_iff wellFormed]

def inheritingDocument : Value :=
  .object [("$type", .text "color"),
    ("brand", .object [("$type", .boolean true),
      ("$extensions", .object [("draft", .object [("$value", .text "#000")])]),
      ("blue", .object [("$value", .text "#00f"), ("dark", .object [("$value", .text "#009")])]),
      ("note", .list [.object [("$value", .null)]]),
      ("gap", .object [("$value", .text "4px"), ("$type", .text "dimension")])]),
    ("red", .object [("$value", .text "#f00")])]

def inheritingTokens : List Token :=
  [⟨["brand", "blue"], .color, .text "#00f"⟩, ⟨["brand", "gap"], .dimension, .text "4px"⟩,
    ⟨["red"], .color, .text "#f00"⟩]

theorem inheritingDocument_tokens :
    inheritingDocument.WellFormed ∧ tokens inheritingDocument .dtcg = inheritingTokens ∧
    inheritingTokens.Nodup ∧
    (inheritingTokens.Pairwise fun earlier later =>
      inheritingDocument.Precedes earlier.path later.path) ∧
    ∀ token, token ∈ inheritingTokens ↔ IsDtcgToken inheritingDocument token := by
  have wellFormed : inheritingDocument.WellFormed := by
    simp [inheritingDocument, Value.WellFormed, Value.WellFormedFields, Value.WellFormedItems]
  have found : inheritingTokens = tokens inheritingDocument .dtcg := by rfl
  exact ⟨wellFormed, found.symm, (eq_tokens_dtcg_iff wellFormed inheritingTokens).mp found⟩

end Document
end DesignTokens
