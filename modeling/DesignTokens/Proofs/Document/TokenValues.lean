import DesignTokens.Compilation
import DesignTokens.Proofs.Document.Topmost
import DesignTokens.Proofs.Reference.Resolution

/-!
The values of a document's tokens. No object in them names a field twice, and none does after
references are replaced.
-/

namespace DesignTokens

namespace Reference

variable {meaning : Meaning} {value result : Value}

theorem Resolves.exists_results {fields : List (String × Value)}
    (resolves : Resolves meaning (.object fields) result) :
    ∃ results, result = .object results ∧ results.map Prod.fst = fields.map Prod.fst := by
  induction fields generalizing result with
  | nil =>
      cases resolves
      exact ⟨[], rfl, rfl⟩
  | cons field rest ih =>
      cases resolves with
      | @field name _ fieldResult _ results _ others =>
          obtain ⟨_, same, names⟩ := ih others
          cases same
          exact ⟨_, rfl, congrArg (name :: ·) names⟩

theorem Resolves.wellFormed (sources : ∀ key source, meaning key = some source → source.WellFormed)
    (resolves : Resolves meaning value result) (wellFormed : value.WellFormed) :
    result.WellFormed := by
  induction resolves with
  | reference _ known _ ih => exact ih (sources _ _ known)
  | text | noFields | null | boolean | number | list => exact wellFormed
  | field _ others ihValue ihFields =>
      obtain ⟨distinct, wellFormedValue, wellFormedFields⟩ := wellFormed
      obtain ⟨_, same, names⟩ := others.exists_results
      cases same
      have below := ihFields ⟨(List.nodup_cons.mp distinct).2, wellFormedFields⟩
      refine ⟨?_, ihValue wellFormedValue, below.2⟩
      rwa [List.map_cons, names]

theorem resolveHeld_wellFormed {tokens resolved : List Token}
    (ran : resolveHeld tokens = (.ok (), resolved))
    (wellFormed : ∀ token ∈ tokens, token.value.WellFormed) :
    ∀ result ∈ resolved, result.value.WellFormed := by
  have matched := (resolveHeld_eq_ok_iff tokens resolved).mp ran
  have sources : ∀ key source, meaningIn tokens key = some source → source.WellFormed := by
    intro key source known
    obtain ⟨owner, owns, rfl⟩ := (meaningIn_eq_some_iff _ _ _).mp known
    exact wellFormed owner (owner?_mem owns)
  intro result member
  obtain ⟨token, isToken, resolves⟩ := exists_related matched.flip member
  exact resolves.value.wellFormed sources (wellFormed token isToken)

end Reference

theorem Options.finalTokens_wellFormed {options : Options} {tokens final : List Token}
    (ran : options.finalTokens tokens = .ok final)
    (wellFormed : ∀ token ∈ tokens, token.value.WellFormed) :
    ∀ token ∈ final, token.value.WellFormed := by
  rw [Options.finalTokens] at ran
  split at ran
  · split at ran
    · rename_i resolves
      cases ran
      exact Reference.resolveHeld_wellFormed resolves wellFormed
    · cases ran
  · cases ran
    exact wellFormed

namespace Document

theorem wellFormed_of_lookup {fields : Fields} (wellFormed : Value.WellFormedFields fields)
    (name : String) : ((fields.lookup name).getD .null).WellFormed := by
  induction fields with
  | nil => exact trivial
  | cons field rest ih =>
      rw [List.lookup_cons]
      split
      · exact wellFormed.1
      · exact ih wellFormed.2

theorem wellFormed_of_mem_below {Context : Type} {search : Search Context} {context : Context}
    {document : Value} (wellFormed : document.WellFormed) {leaf : Leaf Context}
    (found : leaf ∈ search.below context document) : Value.WellFormedFields leaf.fields := by
  obtain ⟨-, topmost, -⟩ := (Search.mem_below_iff_topmost context wellFormed leaf).mp found
  exact (Value.wellFormed_of_node? wellFormed topmost.reached).2

theorem tokens_wellFormed {document : Value} (wellFormed : document.WellFormed)
    (dialect : Dialect) : ∀ token ∈ tokens document dialect, token.value.WellFormed := by
  intro token member
  cases dialect with
  | dtcg =>
      rw [tokens_dtcg] at member
      obtain ⟨leaf, found, rfl⟩ := List.mem_map.mp member
      exact wellFormed_of_lookup (wellFormed_of_mem_below wellFormed found) "$value"
  | tokensStudio =>
      rw [tokens_studio] at member
      obtain ⟨leaf, found, rfl⟩ := List.mem_map.mp member
      exact wellFormed_of_lookup (wellFormed_of_mem_below wellFormed found) "value"

end Document
end DesignTokens
