import Mathlib.Data.List.Infix

/-!
Lists of paths in the order in which the leaves of a tree are read.
-/

namespace DesignTokens
namespace Tree

/-- Paths that begin with the same name stand together, and one that is just this name stands
alone. -/
inductive DepthFirst : List (List String) → Prop
  | nil : DepthFirst []
  | leaf {name rest} : DepthFirst rest → (∀ path ∈ rest, path.head? ≠ some name) →
      DepthFirst ([name] :: rest)
  | group {name below rest} : below ≠ [] → DepthFirst below → DepthFirst rest →
      (∀ path ∈ rest, path.head? ≠ some name) →
      DepthFirst (below.map (name :: ·) ++ rest)

variable {paths : List (List String)}

theorem DepthFirst.ne_nil (depthFirst : DepthFirst paths) : ∀ path ∈ paths, path ≠ [] := by
  induction depthFirst with
  | nil => simp
  | leaf _ _ ih => simpa using ih
  | group _ _ _ _ _ ih =>
      intro path member
      rcases List.mem_append.mp member with inside | later
      · obtain ⟨inner, _, rfl⟩ := List.mem_map.mp inside
        exact List.cons_ne_nil _ _
      · exact ih path later

/-- Neither path leads through the end of the other. -/
def Apart (first second : List String) : Prop :=
  ¬ first <+: second ∧ ¬ second <+: first

theorem Apart.ne {first second : List String} (apart : Apart first second) : first ≠ second := by
  rintro rfl
  exact apart.1 List.prefix_rfl

theorem Apart.symm {first second : List String} (apart : Apart first second) :
    Apart second first :=
  ⟨apart.2, apart.1⟩

theorem Apart.ne_nil {first second : List String} (apart : Apart first second) : first ≠ [] := by
  rintro rfl
  exact apart.1 List.nil_prefix

theorem apart_cons_iff (name : String) (first second : List String) :
    Apart (name :: first) (name :: second) ↔ Apart first second := by
  simp [Apart, List.cons_prefix_cons]

theorem apart_of_head?_ne {name : String} {rest path : List String} (named : path ≠ [])
    (other : path.head? ≠ some name) : Apart (name :: rest) path := by
  obtain ⟨first, later, rfl⟩ := List.exists_cons_of_ne_nil named
  have different : first ≠ name := by simpa using other
  simp [Apart, List.cons_prefix_cons, different, Ne.symm different]

theorem DepthFirst.pairwise_apart (depthFirst : DepthFirst paths) : paths.Pairwise Apart := by
  induction depthFirst with
  | nil => exact List.Pairwise.nil
  | leaf later others ih =>
      refine List.pairwise_cons.mpr ⟨?_, ih⟩
      intro path member
      exact apart_of_head?_ne (later.ne_nil path member) (others path member)
  | group _ _ later others ihBelow ihLater =>
      refine List.pairwise_append.mpr ⟨?_, ihLater, ?_⟩
      · rw [List.pairwise_map]
        exact ihBelow.imp fun apart => (apart_cons_iff _ _ _).mpr apart
      · intro path inside other member
        obtain ⟨inner, _, rfl⟩ := List.mem_map.mp inside
        exact apart_of_head?_ne (later.ne_nil other member) (others other member)

end Tree
end DesignTokens
