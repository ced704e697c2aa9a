import DesignTokens.Proofs.Reference.Resolution
import Mathlib.Data.List.Dedup

/-!
Cycles of references as the only cause of failure, and what a failure says about them.
-/

namespace DesignTokens
namespace Reference

/-- The token that defines a key mentions a key of some token. -/
def Edge (tokens : List Token) (key next : String) : Prop :=
  ∃ owner, owner? tokens key = some owner ∧ Mentions owner.value next ∧
    ∃ token ∈ tokens, token.key = next

theorem leads_meaningIn (tokens : List Token) : Leads (meaningIn tokens) = Edge tokens := by
  funext key next
  simp only [Leads, Edge, meaningIn_eq_some_iff, meaningIn_isSome_iff, eq_iff_iff]
  constructor
  · rintro ⟨_, ⟨owner, owns, rfl⟩, mentions, known⟩
    exact ⟨owner, owns, mentions, known⟩
  · rintro ⟨owner, owns, mentions, known⟩
    exact ⟨owner.value, ⟨owner, owns, rfl⟩, mentions, known⟩

/-- Resolving fails exactly on cycles. A failure reports a walk that ends in the first key to come
twice, and leaves the tokens as they were. -/
theorem resolveHeld_reports_cycles (held : List Token) :
    ((∃ failure afterwards, resolveHeld held = (.error failure, afterwards)) ↔
      ∃ key, Relation.TransGen (Edge held) key key) ∧
    ∀ failure afterwards, resolveHeld held = (.error failure, afterwards) →
      afterwards = held ∧
      ∃ visited key, failure = .circularReference (visited ++ [key]) ∧
        failure.repeatedKey? = some key ∧ key ∈ visited ∧ visited.Nodup ∧
        (visited ++ [key]).IsChain (Edge held) ∧ 2 ≤ (visited ++ [key]).length ∧
        (visited ++ [key]).length ≤ (held.map Token.key).dedup.length + 1 := by
  refine ⟨?_, ?_⟩
  · rw [← leads_meaningIn, ← resolve_fails_iff_cyclic]
    simp [resolveHeld_eq_error_iff]
  · intro failure afterwards ran
    obtain ⟨cycle, failed, rfl, same⟩ := (resolveHeld_eq_error_iff _ _ _).mp ran
    obtain ⟨visiting, key, rfl, walk, closed⟩ := resolve_error failed
    have repeated : (Failure.circularReference (visiting ++ [key])).repeatedKey? = some key := by
      simp [Failure.repeatedKey?]
    refine ⟨same, visiting, key, rfl, repeated, closed, walk.distinct, ?_, ?_, ?_⟩
    · rw [← leads_meaningIn]
      exact walk.chain
    · have someKey := List.length_pos_of_mem closed
      simp only [List.length_append, List.length_singleton]
      omega
    · have bound := length_le_of_known walk.distinct walk.known fun key known =>
        List.mem_dedup.mpr (List.mem_map.mpr ((meaningIn_isSome_iff held key).mp known))
      simp only [List.length_append, List.length_singleton]
      omega

def loopingTokens : List Token :=
  [⟨["start"], .color, .text "\x7bfirst\x7d"⟩,
    ⟨["first"], .border, .object [("color", .text "\x7bsecond\x7d")]⟩,
    ⟨["second"], .color, .text "\x7bfirst\x7d"⟩]

theorem resolveHeld_reports_loop :
    resolveHeld loopingTokens =
      (.error (.circularReference ["start", "first", "second", "first"]), loopingTokens) ∧
    ∃ key, Relation.TransGen (Edge loopingTokens) key key := by
  have failed : resolveHeld loopingTokens =
      (.error (.circularReference ["start", "first", "second", "first"]), loopingTokens) := by
    simp [loopingTokens, resolveHeld, resolve, definitions, resolveKeyed, resolveToken, follow,
      substitute, substituteFields, target?, isBrace, Token.key, Text.joinWith, Entries.contains,
      List.lookup_cons]
  exact ⟨failed, (resolveHeld_reports_cycles loopingTokens).1.mp ⟨_, _, failed⟩⟩

end Reference
end DesignTokens
