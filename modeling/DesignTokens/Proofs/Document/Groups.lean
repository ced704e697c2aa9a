import DesignTokens.Proofs.Document.Topmost
import DesignTokens.Proofs.Tree.DepthFirst

/-!
The paths of a document's tokens, in both dialects: they come in the order in which a tree is read.
-/

namespace DesignTokens
namespace Document

variable {Context : Type} {search : Search Context}

mutual

theorem atNode_paths : ∀ (context : Context) (value : Value), value.WellFormed →
    (search.atNode context value).map Leaf.path = [[]] ∨
      Tree.DepthFirst ((search.atNode context value).map Leaf.path)
  | context, .object fields, wellFormed => by
      rw [Search.atNode]
      split
      · exact Or.inl rfl
      · exact Or.inr (amongFields_depthFirst _ fields wellFormed.1 wellFormed.2)
  | _, .null, _ | _, .boolean _, _ | _, .number _, _ | _, .text _, _ | _, .list _, _ =>
      Or.inr .nil

theorem amongFields_depthFirst : ∀ (context : Context) (fields : Fields),
    (fields.map Prod.fst).Nodup → Value.WellFormedFields fields →
    Tree.DepthFirst ((search.amongFields context fields).map Leaf.path)
  | _, [], _, _ => .nil
  | context, (name, child) :: rest, distinct, wellFormed => by
      obtain ⟨fresh, distinctRest⟩ := List.nodup_cons.mp distinct
      have later := amongFields_depthFirst context rest distinctRest wellFormed.2
      have others : ∀ path ∈ (search.amongFields context rest).map Leaf.path,
          path.head? ≠ some name := by
        intro path member same
        obtain ⟨leaf, found, rfl⟩ := List.mem_map.mp member
        obtain ⟨other, inner, samePath, isName⟩ := Search.amongFields_head found
        obtain rfl : other = name := by simpa [samePath] using same
        exact fresh isName
      have underName : ((search.atNode context child).map (Leaf.under name)).map Leaf.path =
          ((search.atNode context child).map Leaf.path).map (name :: ·) := by
        simp
      rw [Search.amongFields]
      split
      · exact later
      · rw [List.map_append, underName]
        rcases atNode_paths context child wellFormed.1 with single | below
        · rw [single]
          exact .leaf later others
        · by_cases empty : (search.atNode context child).map Leaf.path = []
          · rw [empty]
            exact later
          · exact .group empty below later others

end

theorem below_depthFirst (context : Context) {document : Value}
    (wellFormed : document.WellFormed) :
    Tree.DepthFirst ((search.below context document).map Leaf.path) := by
  cases document with
  | object fields =>
      rw [Search.below]
      split
      · exact .nil
      · exact amongFields_depthFirst _ fields wellFormed.1 wellFormed.2
  | null | boolean | number | text | list => exact .nil

theorem tokens_depthFirst {document : Value} (wellFormed : document.WellFormed)
    (dialect : Dialect) : Tree.DepthFirst ((tokens document dialect).map Token.path) := by
  cases dialect with
  | dtcg =>
      rw [tokens_dtcg, List.map_map]
      exact below_depthFirst none wellFormed
  | tokensStudio =>
      rw [tokens_studio, List.map_map]
      exact below_depthFirst () wellFormed

end Document
end DesignTokens
