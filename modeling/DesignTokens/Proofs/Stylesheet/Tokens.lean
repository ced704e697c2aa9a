import DesignTokens.Compilation
import DesignTokens.Proofs.Document.Groups
import DesignTokens.Proofs.Reference.Resolution
import DesignTokens.Proofs.Stylesheet.Outline

/-!
From the tokens of a document to its stylesheet: none is lost or written twice, and they keep their
order and their paths, in both styles.
-/

namespace DesignTokens

theorem compile_eq_ok_iff (spell : List Char → List Char) (document : Value) (options : Options)
    (compilation : Compilation) :
    compile spell document options = .ok compilation ↔
      ∃ final, options.finalTokens
          (Document.tokens document (options.dialectOf document)) = .ok final ∧
        compilation = ⟨Scss.stylesheet spell options.style final, options.dialectOf document,
          final.length⟩ := by
  rw [compile]
  cases options.finalTokens (Document.tokens document (options.dialectOf document)) <;>
    simp [eq_comm]

namespace Reference

theorem resolveHeld_paths {tokens resolved : List Token}
    (ran : resolveHeld tokens = (.ok (), resolved)) :
    resolved.map Token.path = tokens.map Token.path :=
  map_eq_map_of_related ((resolveHeld_eq_ok_iff tokens resolved).mp ran) fun _ _ resolves =>
    resolves.path

end Reference

theorem Options.finalTokens_paths {options : Options} {tokens final : List Token}
    (ran : options.finalTokens tokens = .ok final) :
    final.map Token.path = tokens.map Token.path := by
  rw [Options.finalTokens] at ran
  split at ran
  · split at ran
    · rename_i resolved resolves
      cases ran
      exact Reference.resolveHeld_paths resolves
    · cases ran
  · cases ran
    rfl

namespace Scss

/-- One line for each token, in their order. -/
def FlatSheet (spell : List Char → List Char) (tokens : List Token) (contents : String) : Prop :=
  contents = String.join (tokens.map fun token =>
    "$" ++ Identifier.variableNameBy spell token.path ++ ": " ++
      render token.category token.value ++ ";\n")

/-- Nested maps with one entry for each token, at its path and in the order of the tokens. The maps
at the top come in the order in which their names are first seen. -/
structure NestedSheet (spell : List Char → List Char) (tokens : List Token) (contents : String) :
    Prop where
  lines : contents = Text.joinWith "\n\n" ((Tree.ofTokens tokens).map fun entry =>
    written spell (linesOf [] entry.1 entry.2)) ++ "\n"
  entries : (linesAmong [] (Tree.ofTokens tokens)).filterMap Line.entry? =
    tokens.map fun token => (token.path, token)
  tops : (Tree.ofTokens tokens).map Prod.fst =
    (tokens.filterMap fun token => token.path.head?).eraseDups

theorem nestedSheet_stylesheet (spell : List Char → List Char) {tokens : List Token}
    (someToken : tokens ≠ [])
    (depthFirst : Tree.DepthFirst (tokens.map Token.path)) :
    NestedSheet spell tokens (stylesheet spell .nested tokens) := by
  refine ⟨stylesheet_nested someToken, ?_, Tree.keys_ofTokens tokens⟩
  rw [entries_linesAmong, Tree.positionsAmong_ofTokens depthFirst]
  simp

end Scss

/-- The paths of a document's tokens lie apart, so that the tree of the tokens, with references
replaced or not, has them as its leaves in their order; and a stylesheet has each of them once. -/
theorem compile_keeps_tokens (spell : List Char → List Char) {document : Value}
    (wellFormed : document.WellFormed) :
    (∀ dialect, let found := Document.tokens document dialect
      (∀ token ∈ found, token.path ≠ []) ∧ (found.map Token.path).Nodup ∧
      (found.map Token.path).Pairwise Tree.Apart ∧
      Tree.leavesAmong (Tree.ofTokens found) = found ∧
      ∀ resolved, Reference.resolveHeld found = (.ok (), resolved) →
        resolved.map Token.path = found.map Token.path ∧
        Tree.leavesAmong (Tree.ofTokens resolved) = resolved) ∧
    ∀ options compilation, compile spell document options = .ok compilation →
      let found := Document.tokens document (options.dialectOf document)
      ∃ final, options.finalTokens found = .ok final ∧
        final.map Token.path = found.map Token.path ∧
        compilation.tokenCount = final.length ∧
        (options.style = .flat → Scss.FlatSheet spell final compilation.contents) ∧
        (options.style = .nested → final ≠ [] →
          Scss.NestedSheet spell final compilation.contents) ∧
        (compilation.contents = "" ↔ compilation.tokenCount = 0) ∧
        (compilation.tokenCount ≠ 0 → ∃ text, compilation.contents = text ++ "\n") := by
  refine ⟨?_, ?_⟩
  · intro dialect
    have depthFirst := Document.tokens_depthFirst wellFormed dialect
    have apart := depthFirst.pairwise_apart
    refine ⟨?_, ?_, apart, Tree.leavesAmong_ofTokens depthFirst, ?_⟩
    · intro token member
      exact depthFirst.ne_nil _ (List.mem_map_of_mem member)
    · exact apart.imp Tree.Apart.ne
    · intro resolved ran
      have samePaths := Reference.resolveHeld_paths ran
      exact ⟨samePaths, Tree.leavesAmong_ofTokens (samePaths ▸ depthFirst)⟩
  · intro options compilation compiled
    obtain ⟨final, finished, rfl⟩ := (compile_eq_ok_iff _ _ _ _).mp compiled
    have samePaths := Options.finalTokens_paths finished
    have depthFirst :=
      samePaths ▸ Document.tokens_depthFirst wellFormed (options.dialectOf document)
    refine ⟨final, finished, samePaths, rfl, ?_, ?_, ?_, ?_⟩
    · intro isFlat
      rw [isFlat]
      exact Scss.stylesheet_flat final
    · intro isNested someToken
      rw [isNested]
      exact Scss.nestedSheet_stylesheet spell someToken depthFirst
    · rw [Scss.stylesheet_eq_empty_iff, List.length_eq_zero_iff]
    · intro someToken
      exact Scss.stylesheet_ends options.style fun empty => someToken (by simp [empty])

def groupedDocument : Value :=
  .object [("size", .object [("sm", .object [("$value", .text "4px")])]),
    ("gap", .object [("$value", .text "\x7bsize.sm\x7d")]),
    ("brand", .object [("line", .object [("thin", .object [("$value", .text "1px")])]),
      ("ink", .object [("$value", .text "#00f")])])]

def groupedSheet : String :=
  "$size: (\n  sm: 4px,\n);\n\n$gap: 4px;\n\n$brand: (\n  line: (\n    thin: 1px,\n  ),\n  ink: #00f,\n);\n"

set_option maxRecDepth 4000 in
theorem compile_groupedDocument :
    compile id groupedDocument { style := .nested } = .ok ⟨groupedSheet, .dtcg, 4⟩ := by
  rfl

theorem groupedDocument_keeps_tokens :
    groupedDocument.WellFormed ∧
    compile id groupedDocument { style := .nested } = .ok ⟨groupedSheet, .dtcg, 4⟩ ∧
    ∃ final, final.map Token.path = [["size", "sm"], ["gap"], ["brand", "line", "thin"],
      ["brand", "ink"]] ∧ Scss.NestedSheet id final groupedSheet := by
  have wellFormed : groupedDocument.WellFormed := by
    simp [groupedDocument, Value.WellFormed, Value.WellFormedFields]
  obtain ⟨final, _, samePaths, _, _, isNested, _⟩ :=
    (compile_keeps_tokens id wellFormed).2 { style := .nested } _ compile_groupedDocument
  have paths : final.map Token.path =
      [["size", "sm"], ["gap"], ["brand", "line", "thin"], ["brand", "ink"]] :=
    samePaths.trans (by rfl)
  have someToken : final ≠ [] := by
    rintro rfl
    simp at paths
  exact ⟨wellFormed, compile_groupedDocument, final, paths, isNested rfl someToken⟩

end DesignTokens
