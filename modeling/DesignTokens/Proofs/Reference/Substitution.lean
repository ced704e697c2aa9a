import DesignTokens.Proofs.Reference.Resolution

/-!
Resolved tokens as the only solution of the equations that substitution gives, one for each token,
and as what another resolution leaves alone.
-/

namespace DesignTokens
namespace Reference

variable {tokens results : List Token} {values : List Value}

/-- The value at the last token that a text refers to. -/
def referent? (tokens : List Token) (values : List Value) (content : String) : Option Value :=
  ((tokens.zip values).reverse.find? fun entry => RefersTo content entry.1.key).map Prod.snd

/-- Each value is the value of its token with the references replaced by values of the same list. -/
def Solves (tokens : List Token) (values : List Value) : Prop :=
  values = tokens.map fun token => replaceReferences (referent? tokens values) token.value

theorem referent?_of_unknown {content : String}
    (unknown : ∀ key, RefersTo content key → meaningIn tokens key = none) :
    referent? tokens values content = none := by
  simp only [referent?, Option.map_eq_none_iff, List.find?_eq_none, List.mem_reverse,
    decide_eq_true_eq]
  rintro ⟨token, value⟩ member refers
  have isKnown := (meaningIn_isSome_iff tokens token.key).mpr
    ⟨token, (List.of_mem_zip member).1, rfl⟩
  simp [unknown _ refers] at isKnown

theorem referent?_of_owner {content key : String} {owner : Token}
    (sameLength : values.length = tokens.length) (refers : RefersTo content key)
    (owns : owner? tokens key = some owner) :
    ∃ value, referent? tokens values content = some value ∧ (owner, value) ∈ tokens.zip values := by
  have onlyKey : ∀ other, RefersTo content other ↔ other = key :=
    fun other => ⟨fun refersOther => refersOther.unique refers, fun same => same ▸ refers⟩
  have tokensOf : (tokens.zip values).map Prod.fst = tokens := List.map_fst_zip sameLength.ge
  rw [← tokensOf, owner?, ← List.map_reverse, List.find?_map, Option.map_eq_some_iff] at owns
  obtain ⟨⟨token, value⟩, found, rfl⟩ := owns
  refine ⟨value, ?_, by simpa using List.mem_of_find?_eq_some found⟩
  simp only [referent?, onlyKey]
  simpa using ⟨token, found⟩

theorem replaceReferences_eq_of_resolves (sameLength : values.length = tokens.length)
    (agrees : ∀ owner value result, (owner, value) ∈ tokens.zip values →
      Resolves (meaningIn tokens) owner.value result →
      replaceReferences (referent? tokens values) owner.value = result → value = result)
    {value result : Value} (resolves : Resolves (meaningIn tokens) value result) :
    replaceReferences (referent? tokens values) value = result := by
  refine resolves.replaceReferences_eq (fun content => referent?_of_unknown) ?_
  intro content key source result refers known resolvesSource replaced
  obtain ⟨owner, owns, rfl⟩ := (meaningIn_eq_some_iff _ _ _).mp known
  obtain ⟨found, refersTo, member⟩ := referent?_of_owner sameLength refers owns
  rw [refersTo, agrees owner found result member resolvesSource replaced]

theorem solves_results
    (matched : List.Forall₂ (ResolvesTo (meaningIn tokens)) tokens results) :
    Solves tokens (results.map Token.value) := by
  have sameLength : (results.map Token.value).length = tokens.length := by
    simpa using matched.length_eq.symm
  refine map_eq_map_of_related matched fun token result resolves =>
    (replaceReferences_eq_of_resolves sameLength ?_ resolves.value).symm
  intro owner value result member resolves _
  rw [List.zip_map_right] at member
  obtain ⟨⟨token, found⟩, foundMember, same⟩ := List.mem_map.mp member
  cases same
  exact (List.forall₂_zip matched foundMember).value.functional resolves

theorem eq_results_of_solves
    (matched : List.Forall₂ (ResolvesTo (meaningIn tokens)) tokens results)
    (solves : Solves tokens values) : values = results.map Token.value := by
  have sameLength : values.length = tokens.length := by
    rw [solves, List.length_map]
  refine solves.trans (map_eq_map_of_related matched fun token result resolves =>
    (replaceReferences_eq_of_resolves sameLength ?_ resolves.value).symm).symm
  intro owner value result member _ replaced
  obtain ⟨position, found⟩ := List.mem_iff_getElem?.mp member
  obtain ⟨ownerAt, valueAt⟩ := List.getElem?_zip_eq_some.mp found
  rw [solves, List.getElem?_map, ownerAt] at valueAt
  exact (Option.some.inj valueAt).symm.trans replaced

/-- Where resolving succeeds, only values change, and the new ones are the only solution of the
equations of substitution. -/
theorem resolveHeld_solves_uniquely (ran : resolveHeld tokens = (.ok (), results)) :
    results.length = tokens.length ∧
      results.map Token.path = tokens.map Token.path ∧
      results.map Token.category = tokens.map Token.category ∧
      ∀ values, Solves tokens values ↔ values = results.map Token.value := by
  have matched := (resolveHeld_eq_ok_iff tokens results).mp ran
  have samePaths : results.map Token.path = tokens.map Token.path :=
    map_eq_map_of_related matched fun _ _ resolves => resolves.path
  have sameCategories : results.map Token.category = tokens.map Token.category :=
    map_eq_map_of_related matched fun _ _ resolves => resolves.category
  refine ⟨matched.length_eq.symm, samePaths, sameCategories, fun values => ?_⟩
  constructor
  · exact eq_results_of_solves matched
  · rintro rfl
    exact solves_results matched

def palette : List Token :=
  [⟨["accent"], .border, .text "\x7bbrand.line\x7d"⟩,
    ⟨["brand", "line"], .border, .text "\x7bbrand.line\x7d"⟩,
    ⟨["base"], .color, .text "#06c"⟩,
    ⟨["brand.line"], .border, .object [("color", .text "\x7bbase\x7d"),
      ("style", .text "\x7bghost\x7d"), ("dash", .list [.text "\x7bbase\x7d"])]⟩]

def resolvedPalette : List Token :=
  let line := .object [("color", .text "#06c"), ("style", .text "\x7bghost\x7d"),
    ("dash", .list [.text "\x7bbase\x7d"])]
  [⟨["accent"], .border, line⟩, ⟨["brand", "line"], .border, line⟩,
    ⟨["base"], .color, .text "#06c"⟩, ⟨["brand.line"], .border, line⟩]

theorem resolveHeld_palette : resolveHeld palette = (.ok (), resolvedPalette) := by
  simp [palette, resolvedPalette, resolveHeld, resolve, definitions, resolveKeyed, resolveToken,
    follow, substitute, substituteFields, target?, isBrace, Token.key, Text.joinWith,
    Entries.contains, List.lookup_cons]

theorem resolvedPalette_solves_uniquely : resolveHeld palette = (.ok (), resolvedPalette) ∧
    ∀ values, Solves palette values ↔ values = resolvedPalette.map Token.value :=
  ⟨resolveHeld_palette, (resolveHeld_solves_uniquely resolveHeld_palette).2.2.2⟩

/-- After resolving, no reference outside lists is left to a key of a token, and resolving again
changes nothing. -/
theorem resolveHeld_settles (ran : resolveHeld tokens = (.ok (), results)) :
    (∀ result ∈ results, ∀ key, Mentions result.value key →
      ∀ other ∈ results, other.key ≠ key) ∧
    resolveHeld results = (.ok (), results) := by
  have matched := (resolveHeld_eq_ok_iff tokens results).mp ran
  have sameKeys : results.map Token.key = tokens.map Token.key :=
    map_eq_map_of_related matched fun _ _ resolves => resolves.key
  have settled : ∀ result ∈ results, ∀ key, Mentions result.value key →
      meaningIn results key = none := by
    intro result member key mentions
    obtain ⟨token, _, resolves⟩ := exists_related matched.flip member
    have unknown := resolves.value.settled mentions
    rwa [meaningIn_eq_none_iff, sameKeys, ← meaningIn_eq_none_iff]
  refine ⟨?_, ?_⟩
  · intro result member key mentions other otherMember same
    have absent := (meaningIn_eq_none_iff results key).mp (settled result member key mentions)
    exact absent (List.mem_map.mpr ⟨other, otherMember, same⟩)
  · rw [resolveHeld_eq_ok_iff, List.forall₂_same]
    intro result member
    exact ⟨rfl, rfl, resolves_self result.value (settled result member)⟩

theorem resolvedPalette_settled : resolveHeld palette = (.ok (), resolvedPalette) ∧
    resolveHeld resolvedPalette = (.ok (), resolvedPalette) :=
  ⟨resolveHeld_palette, (resolveHeld_settles resolveHeld_palette).2⟩

end Reference
end DesignTokens
