import DesignTokens.Proofs.Document.FieldOrder

/-!
The tokens of documents that differ in the order of fields. A search finds the same places in both,
and what a token takes from its fields is the same where the value of the token is.
-/

namespace DesignTokens

def Dialect.valueName : Dialect → String
  | dtcg => "$value"
  | tokensStudio => "value"

namespace Document

open Value (Reordered)

/-- The place is that of the value of a token, in one of the dialects. -/
def HoldsTokenValue (document : Value) (path : List String) : Prop :=
  ∃ dialect, ∃ token ∈ tokens document dialect, path = token.path ++ [dialect.valueName]

instance (document : Value) (path : List String) : Decidable (HoldsTokenValue document path) :=
  decidable_of_iff (∃ dialect ∈ [Dialect.dtcg, .tokensStudio], ∃ token ∈ tokens document dialect,
    path = token.path ++ [dialect.valueName]) <| by
      constructor
      · rintro ⟨dialect, -, holds⟩
        exact ⟨dialect, holds⟩
      · rintro ⟨dialect, holds⟩
        exact ⟨dialect, by cases dialect <;> decide, holds⟩

variable {fixed : List String → Prop} {document other : Value}
variable {Context : Type} {search : Search Context} {context : Context} {leaf : Leaf Context}

/-- What a search asks of an object does not depend on the order of the fields. -/
structure Search.IsOrderFree (search : Search Context) : Prop where
  isToken_eq : IgnoresOrder search.isToken
  extend_eq : ∀ {fixed fields others}, (Value.object fields).WellFormed →
    Reordered fixed (.object fields) (.object others) →
    ∀ context, search.extend fields context = search.extend others context

theorem dtcgSearch_isOrderFree : dtcgSearch.IsOrderFree where
  isToken_eq := isDtcgToken_ignoresOrder
  extend_eq := by
    intro fixed fields others wellFormed reordered context
    have sameTag := reordered.text_lookup_eq wellFormed "$type"
    change tagBelow fields context = tagBelow others context
    rw [tagBelow, sameTag, tagBelow]

theorem studioSearch_isOrderFree : studioSearch.IsOrderFree where
  isToken_eq := isStudioToken_ignoresOrder
  extend_eq := by
    intros
    rfl

theorem Search.finds_of_reordered (orderFree : search.IsOrderFree)
    (reordered : Reordered fixed document other) (wellFormed : document.WellFormed)
    (finds : search.Finds context document leaf) :
    ∃ others, search.Finds context other { leaf with fields := others } ∧
      (Value.object leaf.fields).WellFormed ∧
      Reordered (fun rest => fixed (leaf.path ++ rest)) (.object leaf.fields) (.object others) := by
  induction finds generalizing fixed other with
  | @here context fields isToken =>
      obtain ⟨others, rfl⟩ := reordered.exists_fields
      have isTokenOther : search.isToken others = true :=
        orderFree.isToken_eq _ _ _ reordered ▸ isToken
      refine ⟨others, ?_, wellFormed, reordered⟩
      rw [orderFree.extend_eq wellFormed reordered context]
      exact .here isTokenOther
  | @field context fields name child inner isGroup member searched _ ih =>
      obtain ⟨group, rfl⟩ := reordered.exists_fields
      have isGroupOther : search.isToken group = false :=
        orderFree.isToken_eq _ _ _ reordered ▸ isGroup
      obtain ⟨otherChild, memberOther, reorderedChild⟩ := reordered.exists_of_mem member
      obtain ⟨others, findsOther, leafWellFormed, reorderedLeaf⟩ :=
        ih reorderedChild (Value.wellFormed_of_mem wellFormed.2 member)
      rw [orderFree.extend_eq wellFormed reordered context] at findsOther
      exact ⟨others, .field isGroupOther memberOther searched findsOther, leafWellFormed,
        reorderedLeaf⟩

/-- A token is made of what a search finds and of the value in a field of this name. -/
def TakesValueAt (toToken : Leaf Context → Token) (valueName : String) : Prop :=
  ∀ {fixed : List String → Prop} {leaf others}, (Value.object leaf.fields).WellFormed →
    Reordered fixed (.object leaf.fields) (.object others) → fixed [valueName] →
    toToken { leaf with fields := others } = toToken leaf

theorem dtcgToken_takesValueAt : TakesValueAt (dtcgToken []) "$value" := by
  intro fixed leaf others wellFormed reordered isFixed
  simp only [dtcgToken, reordered.lookup_eq_of_fixed wellFormed isFixed]

theorem studioToken_takesValueAt : TakesValueAt (studioToken []) "value" := by
  intro fixed leaf others wellFormed reordered isFixed
  have sameTag := reordered.text_lookup_eq wellFormed "type"
  have sameCategory : studioCategory others = studioCategory leaf.fields := by
    rw [studioCategory, ← sameTag, studioCategory]
  simp only [studioToken, sameCategory, reordered.lookup_eq_of_fixed wellFormed isFixed]

theorem Search.mem_map_below_of_reordered {toToken : Leaf Context → Token} {valueName : String}
    (orderFree : search.IsOrderFree) (takes : TakesValueAt toToken valueName)
    (reordered : Reordered fixed document other) (wellFormed : document.WellFormed)
    (fixedValues : ∀ leaf ∈ search.below context document, fixed (leaf.path ++ [valueName]))
    (token : Token) :
    token ∈ (search.below context document).map toToken ↔
      token ∈ (search.below context other).map toToken := by
  simp only [List.mem_map]
  constructor
  · rintro ⟨leaf, member, rfl⟩
    obtain ⟨finds, named⟩ := (Search.mem_below_iff context document leaf).mp member
    obtain ⟨others, findsOther, leafWellFormed, reorderedLeaf⟩ :=
      Search.finds_of_reordered orderFree reordered wellFormed finds
    refine ⟨_, (Search.mem_below_iff context other _).mpr ⟨findsOther, named⟩, ?_⟩
    exact takes leafWellFormed reorderedLeaf (fixedValues leaf member)
  · rintro ⟨leaf, member, rfl⟩
    obtain ⟨finds, named⟩ := (Search.mem_below_iff context other leaf).mp member
    obtain ⟨fields, findsHere, leafWellFormed, reorderedLeaf⟩ :=
      Search.finds_of_reordered orderFree reordered.symm (reordered.wellFormed wellFormed) finds
    have memberHere := (Search.mem_below_iff context document _).mpr ⟨findsHere, named⟩
    have isFixed := fixedValues _ memberHere
    refine ⟨_, memberHere, ?_⟩
    exact takes leafWellFormed reorderedLeaf isFixed

theorem nodup_tokens (wellFormed : document.WellFormed) (dialect : Dialect) :
    (tokens document dialect).Nodup := by
  have apart := (tokens_depthFirst wellFormed dialect).pairwise_apart
  have distinctPaths : ((tokens document dialect).map Token.path).Nodup :=
    apart.imp Tree.Apart.ne
  exact distinctPaths.of_map _

theorem tokens_perm_of_reordered (wellFormed : document.WellFormed)
    (reordered : Reordered (HoldsTokenValue document) document other) (dialect : Dialect) :
    (tokens document dialect).Perm (tokens other dialect) := by
  have distinct := nodup_tokens wellFormed dialect
  have distinctOther := nodup_tokens (reordered.wellFormed wellFormed) dialect
  apply (List.perm_ext_iff_of_nodup distinct distinctOther).mpr
  cases dialect with
  | dtcg =>
      rw [tokens_dtcg, tokens_dtcg]
      apply Search.mem_map_below_of_reordered dtcgSearch_isOrderFree dtcgToken_takesValueAt
        reordered wellFormed
      intro leaf member
      refine ⟨.dtcg, dtcgToken [] leaf, ?_, rfl⟩
      rw [tokens_dtcg]
      exact List.mem_map_of_mem member
  | tokensStudio =>
      rw [tokens_studio, tokens_studio]
      apply Search.mem_map_below_of_reordered studioSearch_isOrderFree studioToken_takesValueAt
        reordered wellFormed
      intro leaf member
      refine ⟨.tokensStudio, studioToken [] leaf, ?_, rfl⟩
      rw [tokens_studio]
      exact List.mem_map_of_mem member

end Document
end DesignTokens
