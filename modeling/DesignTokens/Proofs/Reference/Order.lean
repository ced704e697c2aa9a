import DesignTokens.Proofs.Reference.Substitution
import Mathlib.Data.List.Nodup
import Mathlib.Logic.Equiv.Basic
import Mathlib.Order.Fin.Basic

/-!
Resolving does not depend on the order of the tokens, as long as those of one key keep theirs.
-/

namespace DesignTokens
namespace Reference

variable {tokens shuffled : List Token} {order : Fin shuffled.length ≃ Fin tokens.length}

theorem owner?_eq_some_iff_position (tokens : List Token) (key : String) (owner : Token) :
    owner? tokens key = some owner ↔ ∃ position, tokens.get position = owner ∧ owner.key = key ∧
      ∀ later, position < later → (tokens.get later).key ≠ key := by
  rw [owner?_eq_some_iff]
  constructor
  · rintro ⟨before, after, rfl, ownKey, unlike⟩
    refine ⟨⟨before.length, by simp⟩, by simp, ownKey, ?_⟩
    rintro ⟨later, within⟩ below
    have beyond : before.length + 1 ≤ later := below
    have inside : (before ++ owner :: after)[later] ∈
        (before ++ owner :: after).drop (before.length + 1) := by
      rw [List.mem_drop_iff_getElem]
      exact ⟨later - (before.length + 1), by omega, by simp [Nat.add_sub_cancel' beyond]⟩
    have dropped : (before ++ owner :: after).drop (before.length + 1) = after := by simp
    rw [dropped] at inside
    exact unlike _ inside
  · rintro ⟨position, rfl, ownKey, unlike⟩
    refine ⟨tokens.take position, tokens.drop (position + 1), by simp, ownKey, ?_⟩
    intro later member
    obtain ⟨offset, within, rfl⟩ := List.mem_drop_iff_getElem.mp member
    have below : position.val < position.val + 1 + offset := by omega
    exact unlike ⟨position.val + 1 + offset, by omega⟩ below

/-- The second list is the first one in another order, but for tokens of one key. -/
structure Rearranges (tokens shuffled : List Token)
    (order : Fin shuffled.length ≃ Fin tokens.length) : Prop where
  moved : ∀ position, shuffled.get position = tokens.get (order position)
  stable : ∀ earlier later, earlier < later →
    (shuffled.get earlier).key = (shuffled.get later).key → order earlier < order later

theorem rearranges_of_distinct
    (moved : ∀ position, shuffled.get position = tokens.get (order position))
    (distinct : (tokens.map Token.key).Nodup) : Rearranges tokens shuffled order := by
  refine ⟨moved, ?_⟩
  intro earlier later below sameKey
  rw [moved, moved] at sameKey
  have sameToken := List.inj_on_of_nodup_map distinct (List.get_mem _ _) (List.get_mem _ _) sameKey
  have samePosition := List.nodup_iff_injective_get.mp (distinct.of_map _) sameToken
  exact absurd (order.injective samePosition) below.ne

theorem Rearranges.moved_symm (arranged : Rearranges tokens shuffled order)
    (position : Fin tokens.length) : tokens.get position = shuffled.get (order.symm position) := by
  rw [arranged.moved, order.apply_symm_apply]

theorem Rearranges.symm (arranged : Rearranges tokens shuffled order) :
    Rearranges shuffled tokens order.symm := by
  refine ⟨arranged.moved_symm, ?_⟩
  intro earlier later below sameKey
  rw [arranged.moved_symm, arranged.moved_symm] at sameKey
  rcases lt_trichotomy (order.symm earlier) (order.symm later) with kept | same | reversed
  · exact kept
  · exact absurd (order.symm.injective same) below.ne
  · have above := arranged.stable _ _ reversed sameKey.symm
    rw [order.apply_symm_apply, order.apply_symm_apply] at above
    exact absurd above below.asymm

theorem Rearranges.owns (arranged : Rearranges tokens shuffled order) {key : String}
    {owner : Token} (owns : owner? shuffled key = some owner) :
    owner? tokens key = some owner := by
  rw [owner?_eq_some_iff_position] at owns ⊢
  obtain ⟨position, rfl, ownKey, unlike⟩ := owns
  refine ⟨order position, (arranged.moved position).symm, ownKey, ?_⟩
  intro later below sameKey
  rw [arranged.moved_symm] at sameKey
  rcases lt_trichotomy position (order.symm later) with after | same | before
  · exact unlike _ after sameKey
  · rw [same, order.apply_symm_apply] at below
    exact lt_irrefl _ below
  · have reversed := arranged.stable _ _ before (sameKey.trans ownKey.symm)
    rw [order.apply_symm_apply] at reversed
    exact lt_asymm below reversed

theorem Rearranges.meaningIn_eq (arranged : Rearranges tokens shuffled order) :
    meaningIn shuffled = meaningIn tokens := by
  funext key
  have sameOwner : owner? shuffled key = owner? tokens key := by
    ext owner
    exact ⟨arranged.owns, arranged.symm.owns⟩
  rw [meaningIn, sameOwner, ← meaningIn]

theorem Rearranges.mem (arranged : Rearranges tokens shuffled order) {token : Token}
    (member : token ∈ shuffled) : token ∈ tokens := by
  obtain ⟨position, rfl⟩ := List.mem_iff_get.mp member
  rw [arranged.moved]
  exact List.get_mem _ _

theorem Rearranges.succeeds (arranged : Rearranges tokens shuffled order)
    (succeeds : ∃ results, resolve tokens = .ok results) :
    ∃ results, resolve shuffled = .ok results := by
  rw [resolve_succeeds_iff] at succeeds ⊢
  rw [arranged.meaningIn_eq]
  intro token member
  exact succeeds token (arranged.mem member)

theorem Rearranges.results_eq {results others : List Token}
    (arranged : Rearranges tokens shuffled order)
    (matched : List.Forall₂ (ResolvesTo (meaningIn tokens)) tokens results)
    (matchedOthers : List.Forall₂ (ResolvesTo (meaningIn shuffled)) shuffled others)
    (position : Fin shuffled.length) :
    ∃ result, results[(order position).val]? = some result ∧
      others[position.val]? = some result := by
  rw [arranged.meaningIn_eq] at matchedOthers
  have within : (order position).val < results.length := matched.length_eq ▸ (order position).isLt
  have withinOthers : position.val < others.length := matchedOthers.length_eq ▸ position.isLt
  have resolves := matched.get (order position).isLt within
  have resolvesOther := matchedOthers.get position.isLt withinOthers
  rw [Fin.eta, arranged.moved] at resolvesOther
  have same := resolves.functional resolvesOther
  refine ⟨_, List.getElem?_eq_getElem within, ?_⟩
  rw [List.getElem?_eq_getElem withinOthers]
  exact congrArg some same.symm

theorem owner?_eq_some_iff_of_distinct (distinct : (tokens.map Token.key).Nodup) (key : String)
    (owner : Token) : owner? tokens key = some owner ↔ owner ∈ tokens ∧ owner.key = key := by
  constructor
  · intro owns
    obtain ⟨_, _, _, ownKey, _⟩ := (owner?_eq_some_iff _ _ _).mp owns
    exact ⟨owner?_mem owns, ownKey⟩
  · rintro ⟨member, rfl⟩
    obtain ⟨before, after, rfl⟩ := List.append_of_mem member
    refine (owner?_eq_some_iff _ _ _).mpr ⟨before, after, rfl, rfl, ?_⟩
    intro later memberLater sameKey
    rw [List.map_append, List.map_cons] at distinct
    have unlike := (List.nodup_cons.mp distinct.of_append_right).1
    exact unlike (List.mem_map.mpr ⟨later, memberLater, sameKey⟩)

theorem meaningIn_of_perm (permuted : tokens.Perm shuffled)
    (distinct : (tokens.map Token.key).Nodup) : meaningIn shuffled = meaningIn tokens := by
  have distinctShuffled := (permuted.map Token.key).nodup_iff.mp distinct
  funext key
  have sameOwner : owner? shuffled key = owner? tokens key := by
    ext owner
    rw [owner?_eq_some_iff_of_distinct distinctShuffled, owner?_eq_some_iff_of_distinct distinct,
      permuted.mem_iff]
  rw [meaningIn, sameOwner, ← meaningIn]

theorem resolveHeld_of_perm {results : List Token} (permuted : tokens.Perm shuffled)
    (distinct : (tokens.map Token.key).Nodup) (ran : resolveHeld tokens = (.ok (), results)) :
    ∃ others, resolveHeld shuffled = (.ok (), others) ∧ results.Perm others := by
  have matched := (resolveHeld_eq_ok_iff _ _).mp ran
  obtain ⟨others, matchedOthers, permutedResults⟩ := List.perm_comp_forall₂ permuted.symm matched
  refine ⟨others, (resolveHeld_eq_ok_iff _ _).mpr ?_, permutedResults.symm⟩
  rw [meaningIn_of_perm permuted distinct]
  exact matchedOthers

/-- Lists that differ in the order of their tokens, but not of tokens of one key, both resolve or
both fail, and each token gets the same value in both. -/
theorem resolveHeld_order_independent (order : Fin shuffled.length ≃ Fin tokens.length)
    (moved : ∀ position, shuffled.get position = tokens.get (order position))
    (stable : (tokens.map Token.key).Nodup ∨ ∀ earlier later, earlier < later →
      (shuffled.get earlier).key = (shuffled.get later).key → order earlier < order later) :
    ((∃ results, resolveHeld tokens = (.ok (), results)) ↔
      ∃ others, resolveHeld shuffled = (.ok (), others)) ∧
    ∀ results others, resolveHeld tokens = (.ok (), results) →
      resolveHeld shuffled = (.ok (), others) → ∀ position : Fin shuffled.length,
        ∃ result, results[(order position).val]? = some result ∧
          others[position.val]? = some result := by
  have arranged : Rearranges tokens shuffled order := by
    rcases stable with distinct | stable
    · exact rearranges_of_distinct moved distinct
    · exact ⟨moved, stable⟩
  refine ⟨?_, ?_⟩
  · simp only [resolveHeld_eq_ok_iff, ← resolve_eq_ok_iff]
    exact ⟨arranged.succeeds, arranged.symm.succeeds⟩
  · intro results others ran ranOther
    rw [resolveHeld_eq_ok_iff] at ran ranOther
    exact arranged.results_eq ran ranOther

def shuffledPalette : List Token :=
  [⟨["base"], .color, .text "#06c"⟩,
    ⟨["brand", "line"], .border, .text "\x7bbrand.line\x7d"⟩,
    ⟨["accent"], .border, .text "\x7bbrand.line\x7d"⟩,
    ⟨["brand.line"], .border, .object [("color", .text "\x7bbase\x7d"),
      ("style", .text "\x7bghost\x7d"), ("dash", .list [.text "\x7bbase\x7d"])]⟩]

def paletteOrder : Fin shuffledPalette.length ≃ Fin palette.length :=
  (Equiv.swap 0 2 : Equiv.Perm (Fin 4))

theorem resolveHeld_shuffledPalette : ∃ others,
    resolveHeld shuffledPalette = (.ok (), others) ∧
    ∀ position : Fin shuffledPalette.length, ∃ result,
      resolvedPalette[(paletteOrder position).val]? = some result ∧
        others[position.val]? = some result := by
  have moved : ∀ position, shuffledPalette.get position = palette.get (paletteOrder position) := by
    change ∀ position : Fin 4, shuffledPalette.get position = palette.get (paletteOrder position)
    intro position
    match position with
    | 0 | 1 | 2 | 3 => rfl
  have stable : ∀ earlier later, earlier < later →
      (shuffledPalette.get earlier).key = (shuffledPalette.get later).key →
      paletteOrder earlier < paletteOrder later := by
    decide +kernel
  have independent := resolveHeld_order_independent paletteOrder moved (Or.inr stable)
  obtain ⟨others, ran⟩ := independent.1.mp ⟨_, resolveHeld_palette⟩
  exact ⟨others, ran, independent.2 _ _ resolveHeld_palette ran⟩

end Reference
end DesignTokens
