import DesignTokens.Proofs.Tree.Placement
import Mathlib.Data.List.Induction

/-!
The tree of any tokens, in whatever order their paths come. A token stays where it was placed until
another one is placed there, on the way there or further below.
-/

namespace DesignTokens
namespace Tree

/-- At every level the names beside each other differ, and no group is empty. -/
inductive WellFormed : Tree → Prop
  | leaf {token} : WellFormed (leaf token)
  | group {entries} : entries ≠ [] → (entries.map Prod.fst).Nodup →
      (∀ entry ∈ entries, WellFormed entry.2) → WellFormed (group entries)

structure WellFormedAmong (entries : List (String × Tree)) : Prop where
  distinct : (entries.map Prod.fst).Nodup
  trees : ∀ entry ∈ entries, entry.2.WellFormed

theorem wellFormedAmong_nil : WellFormedAmong [] := ⟨by simp, by simp⟩

theorem wellFormed_group_iff (entries : List (String × Tree)) :
    (group entries).WellFormed ↔ entries ≠ [] ∧ WellFormedAmong entries := by
  constructor
  · intro wellFormed
    cases wellFormed with
    | group someEntry distinct trees => exact ⟨someEntry, distinct, trees⟩
  · rintro ⟨someEntry, distinct, trees⟩
    exact .group someEntry distinct trees

variable {known : List (String × Tree)}

theorem WellFormedAmong.of_lookup (wellFormed : WellFormedAmong known) {name : String}
    {tree : Tree} (found : known.lookup name = some tree) : tree.WellFormed :=
  wellFormed.trees (name, tree)
    ((Entries.lookup_eq_some_iff_mem wellFormed.distinct name tree).mp found)

theorem WellFormedAmong.below (wellFormed : WellFormedAmong known) (name : String) :
    WellFormedAmong (((known.lookup name).map entries).getD []) := by
  cases found : known.lookup name with
  | none => exact wellFormedAmong_nil
  | some tree =>
      have wellFormedTree := wellFormed.of_lookup found
      cases tree with
      | leaf token => exact wellFormedAmong_nil
      | group below => exact ((wellFormed_group_iff below).mp wellFormedTree).2

theorem insert_ne_nil (token : Token) {path : List String} (named : path ≠ [])
    (known : List (String × Tree)) : insert token path known ≠ [] := by
  obtain ⟨name, rest, rfl⟩ := List.exists_cons_of_ne_nil named
  rw [insert_cons]
  exact Entries.put_ne_nil name _ known

theorem WellFormedAmong.insert (wellFormed : WellFormedAmong known) (token : Token)
    (path : List String) : WellFormedAmong (insert token path known) := by
  induction path generalizing known with
  | nil => exact wellFormed
  | cons name rest ih =>
      have wellFormedGrown : (grown token rest (known.lookup name)).WellFormed := by
        rw [grown]
        split
        · exact .leaf
        · rename_i named
          exact (wellFormed_group_iff _).mpr
            ⟨insert_ne_nil token named _, ih (wellFormed.below name)⟩
      rw [insert_cons]
      refine ⟨Entries.nodup_keys_put wellFormed.distinct name _, ?_⟩
      intro entry member
      rcases Entries.mem_put member with rfl | member
      · exact wellFormedGrown
      · exact wellFormed.trees entry member

theorem wellFormedAmong_ofTokens (tokens : List Token) : WellFormedAmong (ofTokens tokens) := by
  induction tokens using List.reverseRecOn with
  | nil => exact wellFormedAmong_nil
  | append_singleton tokens token ih =>
      rw [ofTokens_concat]
      exact ih.insert token token.path

theorem positionsAmong_eq_flatMap (entries : List (String × Tree)) :
    positionsAmong entries = entries.flatMap fun entry =>
      (positions entry.2).map (under entry.1) := by
  induction entries with
  | nil => rfl
  | cons entry rest ih => rw [positionsAmong, ih, List.flatMap_cons]

theorem nil_not_mem_positionsAmong (entries : List (String × Tree)) (token : Token) :
    ([], token) ∉ positionsAmong entries := by
  simp [positionsAmong_eq_flatMap, under]

theorem mem_positionsAmong_cons_iff {entries : List (String × Tree)}
    (distinct : (entries.map Prod.fst).Nodup) (name : String) (rest : List String)
    (token : Token) :
    (name :: rest, token) ∈ positionsAmong entries ↔
      ∃ tree, entries.lookup name = some tree ∧ (rest, token) ∈ positions tree := by
  simp only [Entries.lookup_eq_some_iff_mem distinct, positionsAmong_eq_flatMap,
    List.mem_flatMap, List.mem_map, under]
  constructor
  · rintro ⟨⟨_, tree⟩, member, ⟨_, _⟩, inside, ⟨⟩⟩
    exact ⟨tree, member, inside⟩
  · rintro ⟨tree, member, inside⟩
    exact ⟨(name, tree), member, (rest, token), inside, rfl⟩

theorem mem_positionsAmong_below_iff (present : Option Tree) {path : List String}
    (named : path ≠ []) (token : Token) :
    (path, token) ∈ positionsAmong ((present.map entries).getD []) ↔
      ∃ tree, present = some tree ∧ (path, token) ∈ positions tree := by
  cases present with
  | none => simp [positionsAmong]
  | some tree => cases tree <;> simp [entries, positionsAmong, positions, named]

/-- What an insertion does: the token takes its place, and what is apart from it stays. -/
theorem mem_positionsAmong_insert_iff (wellFormed : WellFormedAmong known) (token : Token)
    (path place : List String) (held : Token) :
    (place, held) ∈ positionsAmong (insert token path known) ↔
      (path ≠ [] ∧ place = path ∧ held = token) ∨
        ((path ≠ [] → Apart path place) ∧ (place, held) ∈ positionsAmong known) := by
  induction path generalizing known place with
  | nil => simp [insert]
  | cons name rest ih =>
      cases place with
      | nil => simp [nil_not_mem_positionsAmong]
      | cons other below =>
          have distinct := wellFormed.distinct
          rw [insert_cons, mem_positionsAmong_cons_iff (Entries.nodup_keys_put distinct name _),
            mem_positionsAmong_cons_iff distinct]
          by_cases same : other = name
          · subst same
            rw [Entries.lookup_put_self]
            simp only [Option.some.injEq, exists_eq_left', List.cons.injEq, true_and, ne_eq,
              reduceCtorEq, not_false_eq_true, true_implies, apart_cons_iff]
            by_cases last : rest = []
            · simp [grown, last, positions, Apart]
            · rw [grown, if_neg last, positions, ih (wellFormed.below other) below]
              simp only [ne_eq, last, not_false_eq_true, true_implies, true_and]
              refine or_congr Iff.rfl (and_congr_right fun apart => ?_)
              exact mem_positionsAmong_below_iff _ apart.symm.ne_nil held
          · have apart : Apart (name :: rest) (other :: below) := by
              simp [Apart, List.cons_prefix_cons, same, Ne.symm same]
            rw [Entries.lookup_put_of_ne same]
            simp [apart, same]

theorem exists_split_concat (tokens : List Token) (token last : Token) (yields : Token → Prop) :
    (∃ before later, tokens ++ [last] = before ++ token :: later ∧ ∀ other ∈ later, yields other) ↔
      token = last ∨ yields last ∧
        ∃ before later, tokens = before ++ token :: later ∧ ∀ other ∈ later, yields other := by
  constructor
  · rintro ⟨before, later, whole, all⟩
    obtain rfl | ⟨later, final, rfl⟩ := List.eq_nil_or_concat' later
    · exact Or.inl (List.singleton_inj.mp (List.append_inj' whole rfl).2).symm
    · rw [← List.cons_append, ← List.append_assoc] at whole
      obtain ⟨same, isFinal⟩ := List.append_inj' whole rfl
      obtain rfl := List.singleton_inj.mp isFinal
      exact Or.inr ⟨all last (by simp), before, later, same,
        fun other member => all other (by simp [member])⟩
  · rintro (rfl | ⟨lastYields, before, later, rfl, all⟩)
    · exact ⟨tokens, [], rfl, by simp⟩
    · refine ⟨before, later ++ [last], by simp, ?_⟩
      intro other member
      rcases List.mem_append.mp member with earlier | isLast
      · exact all other earlier
      · exact List.mem_singleton.mp isLast ▸ lastYields

theorem mem_positionsAmong_ofTokens_iff (tokens : List Token) (path : List String)
    (token : Token) :
    (path, token) ∈ positionsAmong (ofTokens tokens) ↔
      path ≠ [] ∧ token.path = path ∧ ∃ before later, tokens = before ++ token :: later ∧
        ∀ other ∈ later, other.path ≠ [] → Apart other.path path := by
  induction tokens using List.reverseRecOn with
  | nil => simp [ofTokens, positionsAmong]
  | append_singleton tokens last ih =>
      rw [ofTokens_concat, mem_positionsAmong_insert_iff (wellFormedAmong_ofTokens tokens), ih,
        exists_split_concat]
      constructor
      · rintro (⟨named, rfl, rfl⟩ | ⟨yields, named, samePath, split⟩)
        · exact ⟨named, rfl, Or.inl rfl⟩
        · exact ⟨named, samePath, Or.inr ⟨yields, split⟩⟩
      · rintro ⟨named, rfl, rfl | ⟨yields, split⟩⟩
        · exact Or.inl ⟨named, rfl, rfl⟩
        · exact Or.inr ⟨yields, named, rfl, split⟩

theorem leaves_subset {entries : List (String × Tree)} {name : String} {tree : Tree}
    (member : (name, tree) ∈ entries) : leaves tree ⊆ leavesAmong entries := by
  induction entries with
  | nil => cases member
  | cons entry rest ih =>
      rw [leavesAmong]
      rcases List.mem_cons.mp member with rfl | later
      · exact List.subset_append_left _ _
      · exact List.Subset.trans (ih later) (List.subset_append_right _ _)

theorem mem_of_mem_leavesAmong_ofTokens {tokens : List Token} {token : Token}
    (member : token ∈ leavesAmong (ofTokens tokens)) : token ∈ tokens := by
  rw [leavesAmong_eq] at member
  obtain ⟨⟨path, held⟩, position, rfl⟩ := List.mem_map.mp member
  obtain ⟨-, -, before, later, whole, -⟩ :=
    (mem_positionsAmong_ofTokens_iff tokens path held).mp position
  simp [whole]

/-- Whatever the paths are, the names at each level are distinct and no group is empty. At a path
stands the last token that has it, unless a later one has a path through it or on the way to it; a
token without a path is placed nowhere and displaces nothing. -/
theorem ofTokens_keeps_last_writes (tokens : List Token) :
    WellFormedAmong (ofTokens tokens) ∧
    (ofTokens tokens).map Prod.fst =
      (tokens.filterMap fun token => token.path.head?).eraseDups ∧
    ∀ path token, (path, token) ∈ positionsAmong (ofTokens tokens) ↔
      path ≠ [] ∧ ∃ before later, tokens = before ++ token :: later ∧ token.path = path ∧
        (∀ other ∈ later, other.path ≠ path) ∧
        ∀ other ∈ later, other.path ≠ [] → other.path ≠ path → Apart other.path path := by
  refine ⟨wellFormedAmong_ofTokens tokens, keys_ofTokens tokens, ?_⟩
  intro path token
  rw [mem_positionsAmong_ofTokens_iff]
  refine and_congr_right fun named => ?_
  constructor
  · rintro ⟨samePath, before, later, whole, yields⟩
    refine ⟨before, later, whole, samePath, ?_, ?_⟩
    · intro other member same
      exact (yields other member (same ▸ named)).ne same
    · intro other member otherNamed _
      exact yields other member otherNamed
  · rintro ⟨before, later, whole, samePath, last, yields⟩
    refine ⟨samePath, before, later, whole, ?_⟩
    intro other member otherNamed
    exact yields other member otherNamed (last other member)

/-- A group gives place to a token, and a token to a group, where the first of them stood. -/
example (value : Value) :
    positionsAmong (ofTokens [⟨["size", "sm"], .unknown, value⟩, ⟨["gap"], .unknown, value⟩,
      ⟨["size"], .number, value⟩, ⟨["gap", "row"], .number, value⟩]) =
      [(["size"], ⟨["size"], .number, value⟩),
        (["gap", "row"], ⟨["gap", "row"], .number, value⟩)] :=
  rfl

/-- The empty path is on the way to every other one, and yet a token with it displaces nothing. -/
theorem pathless_token_displaces_nothing :
    let small : Token := ⟨["space", "sm"], .dimension, .text "4px"⟩
    let pathless : Token := ⟨[], .dimension, .text "0"⟩
    let medium : Token := ⟨["space", "md"], .dimension, .text "8px"⟩
    (small.path, small) ∈ positionsAmong (ofTokens [small, pathless, medium]) ∧
    ¬ ∃ before later, [small, pathless, medium] = before ++ small :: later ∧
      (∀ other ∈ later, other.path ≠ small.path) ∧
      ∀ other ∈ later, other.path ≠ small.path → Apart other.path small.path := by
  intro small pathless medium
  refine ⟨List.mem_cons_self, ?_⟩
  rintro ⟨before, later, whole, -, yields⟩
  cases before with
  | nil =>
      obtain rfl : [pathless, medium] = later := (List.cons.inj whole).2
      exact (yields pathless List.mem_cons_self (by simp [pathless, small])).1 List.nil_prefix
  | cons first rest =>
      have among : small ∈ [pathless, medium] := by simp [(List.cons.inj whole).2]
      simp [small, pathless, medium] at among

end Tree
end DesignTokens
