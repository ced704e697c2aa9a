import DesignTokens.Proofs.Stylesheet.Outline
import DesignTokens.Proofs.Tree.Grafting

/-!
Stylesheets of tokens that are put together. Variables stand line after line, and groups at the top
stand side by side, so that what is written for a group is told from its own tokens.
-/

namespace DesignTokens
namespace Tree

theorem insert_append {known : List (String × Tree)} {path : List String}
    (apart : ∀ name ∈ known.map Prod.fst, path.head? ≠ some name) (token : Token)
    (later : List (String × Tree)) :
    insert token path (known ++ later) = known ++ insert token path later := by
  cases path with
  | nil => rfl
  | cons name rest =>
      have fresh : name ∉ known.map Prod.fst := fun member => apart name member rfl
      have absent := (Entries.lookup_eq_none_iff_not_mem name known).mpr fresh
      rw [insert_cons, insert_cons, List.lookup_append, absent, Option.none_or]
      exact Entries.put_append_of_not_mem fresh _ later

theorem mem_keys_ofTokens_iff (tokens : List Token) (name : String) :
    name ∈ (ofTokens tokens).map Prod.fst ↔ ∃ token ∈ tokens, token.path.head? = some name := by
  rw [keys_ofTokens, List.mem_eraseDups, List.mem_filterMap]

theorem ofTokens_ne_nil {tokens : List Token} (someToken : tokens ≠ [])
    (named : ∀ token ∈ tokens, token.path ≠ []) : ofTokens tokens ≠ [] := by
  obtain ⟨first, rest, rfl⟩ := List.exists_cons_of_ne_nil someToken
  obtain ⟨name, below, path⟩ := List.exists_cons_of_ne_nil (named first List.mem_cons_self)
  have known : name ∈ (ofTokens (first :: rest)).map Prod.fst :=
    (mem_keys_ofTokens_iff _ name).mpr ⟨first, List.mem_cons_self, by simp [path]⟩
  intro empty
  simp [empty] at known

/-- Tokens of other groups leave the groups before them as they are. -/
theorem ofTokens_append_of_apart {first second : List Token}
    (apart : ∀ token ∈ first, ∀ other ∈ second, token.path.head? ≠ other.path.head?) :
    ofTokens (first ++ second) = ofTokens first ++ ofTokens second := by
  induction second using List.reverseRecOn with
  | nil => simp [ofTokens]
  | append_singleton second last ih =>
      have others := ih fun token member other among =>
        apart token member other (List.mem_append_left _ among)
      have apartLast : ∀ name ∈ (ofTokens first).map Prod.fst, last.path.head? ≠ some name := by
        intro name known isFirst
        obtain ⟨token, member, sameName⟩ := (mem_keys_ofTokens_iff first name).mp known
        exact apart token member last (by simp) (sameName.trans isFirst.symm)
      rw [← List.append_assoc, ofTokens_concat, others, ofTokens_concat]
      exact insert_append apartLast last _

/-- The tokens of the group of a name at the top. -/
def tokensIn (name : String) (tokens : List Token) : List Token :=
  tokens.filter fun token => token.path.head? == some name

theorem lookup_insert_congr (token : Token) (path : List String) {name : String}
    {known other : List (String × Tree)} (alike : known.lookup name = other.lookup name) :
    (insert token path known).lookup name = (insert token path other).lookup name := by
  cases path with
  | nil => exact alike
  | cons first rest =>
      rw [insert_cons, insert_cons]
      by_cases same : name = first
      · rw [same] at alike ⊢
        rw [Entries.lookup_put_self, Entries.lookup_put_self, alike]
      · rw [Entries.lookup_put_of_ne same, Entries.lookup_put_of_ne same, alike]

theorem lookup_insert_of_head?_ne (token : Token) {path : List String} {name : String}
    (other : path.head? ≠ some name) (known : List (String × Tree)) :
    (insert token path known).lookup name = known.lookup name := by
  cases path with
  | nil => rfl
  | cons first rest =>
      have different : name ≠ first := by
        rintro rfl
        exact other rfl
      rw [insert_cons, Entries.lookup_put_of_ne different]

theorem lookup_ofTokens_tokensIn (name : String) (tokens : List Token) :
    (ofTokens (tokensIn name tokens)).lookup name = (ofTokens tokens).lookup name := by
  induction tokens using List.reverseRecOn with
  | nil => rfl
  | append_singleton tokens last ih =>
      rw [ofTokens_concat, tokensIn, List.filter_append, ← tokensIn]
      by_cases inside : last.path.head? = some name
      · rw [List.filter_cons_of_pos (by simpa using inside), List.filter_nil, ofTokens_concat]
        exact lookup_insert_congr last last.path ih
      · rw [List.filter_cons_of_neg (by simpa using inside), List.filter_nil, List.append_nil, ih,
          lookup_insert_of_head?_ne last inside]

theorem ofTokens_tokensIn {tokens : List Token} {name : String} {tree : Tree}
    (found : (ofTokens tokens).lookup name = some tree) :
    ofTokens (tokensIn name tokens) = [(name, tree)] := by
  have distinct := (wellFormedAmong_ofTokens (tokensIn name tokens)).distinct
  have only : ∀ other ∈ (ofTokens (tokensIn name tokens)).map Prod.fst, other = name := by
    intro other known
    obtain ⟨token, member, first⟩ := (mem_keys_ofTokens_iff _ other).mp known
    have inside : token.path.head? = some name := by simpa using List.of_mem_filter member
    exact Option.some.inj (first.symm.trans inside)
  rw [← lookup_ofTokens_tokensIn] at found
  obtain ⟨before, later, whole, -⟩ := Entries.exists_first_of_lookup found
  -- A second entry would have the same name.
  rw [whole, List.map_append, List.map_cons] at only distinct
  have noneBefore : before = [] := by
    by_contra someBefore
    obtain ⟨entry, rest, rfl⟩ := List.exists_cons_of_ne_nil someBefore
    have same := only entry.1 (by simp)
    simp [same] at distinct
  have noneLater : later = [] := by
    by_contra someLater
    obtain ⟨entry, rest, rfl⟩ := List.exists_cons_of_ne_nil someLater
    have same := only entry.1 (by simp)
    simp [noneBefore, same] at distinct
  rw [whole, noneBefore, noneLater, List.nil_append]

end Tree

namespace Scss

variable {spell : List Char → List Char}

theorem stylesheet_flat_append (first second : List Token) :
    stylesheet spell .flat (first ++ second) =
      stylesheet spell .flat first ++ stylesheet spell .flat second := by
  simp only [stylesheet_flat, List.map_append, String.join_append]

theorem stylesheet_nested_append {first second : List Token} (someFirst : first ≠ [])
    (someSecond : second ≠ []) (named : ∀ token ∈ first ++ second, token.path ≠ [])
    (apart : ∀ token ∈ first, ∀ other ∈ second, token.path.head? ≠ other.path.head?) :
    stylesheet spell .nested (first ++ second) =
      stylesheet spell .nested first ++ "\n" ++ stylesheet spell .nested second := by
  have blankLine : "\n\n" = "\n" ++ "\n" := rfl
  have someDeclaration {tokens : List Token} (someToken : tokens ≠ [])
      (among : ∀ token ∈ tokens, token ∈ first ++ second) :
      ((Tree.ofTokens tokens).map fun entry => mapDeclaration spell entry.1 entry.2) ≠ [] := by
    rw [ne_eq, List.map_eq_nil_iff]
    exact Tree.ofTokens_ne_nil someToken fun token member => named token (among token member)
  rw [stylesheet_nested_eq (List.append_ne_nil_of_left_ne_nil someFirst second),
    stylesheet_nested_eq someFirst, stylesheet_nested_eq someSecond,
    Tree.ofTokens_append_of_apart apart, List.map_append,
    Text.joinWith_append "\n\n" (someDeclaration someFirst fun _ => List.mem_append_left second)
      (someDeclaration someSecond fun _ => List.mem_append_right first), blankLine]
  simp only [String.append_assoc]

theorem stylesheet_tokensIn {tokens : List Token} {name : String} {tree : Tree}
    (found : (Tree.ofTokens tokens).lookup name = some tree) :
    stylesheet spell .nested (Tree.tokensIn name tokens) =
      mapDeclaration spell name tree ++ "\n" := by
  have alone := Tree.ofTokens_tokensIn found
  have someToken : Tree.tokensIn name tokens ≠ [] := by
    intro empty
    simp [empty, Tree.ofTokens] at alone
  rw [stylesheet_nested_eq someToken, alone]
  rfl

/-- What is written for tokens is told from what is written for their parts: variables follow one
another, groups at the top have a blank line between them, and each group is written as if its
tokens were the only ones. -/
theorem stylesheet_of_parts (spell : List Char → List Char) :
    (∀ first second : List Token,
      stylesheet spell .flat (first ++ second) =
        stylesheet spell .flat first ++ stylesheet spell .flat second) ∧
    (∀ first second : List Token, first ≠ [] → second ≠ [] →
      (∀ token ∈ first ++ second, token.path ≠ []) →
      (∀ token ∈ first, ∀ other ∈ second, token.path.head? ≠ other.path.head?) →
      stylesheet spell .nested (first ++ second) =
        stylesheet spell .nested first ++ "\n" ++ stylesheet spell .nested second) ∧
    ∀ tokens : List Token, tokens ≠ [] → (∀ token ∈ tokens, token.path ≠ []) →
      stylesheet spell .nested tokens =
        Text.joinWith "\n" ((tokens.filterMap fun token => token.path.head?).eraseDups.map
          fun name => stylesheet spell .nested (Tree.tokensIn name tokens)) := by
  refine ⟨stylesheet_flat_append, fun _ _ => stylesheet_nested_append, ?_⟩
  intro tokens someToken named
  have distinct := (Tree.wellFormedAmong_ofTokens tokens).distinct
  have eachGroup : ∀ entry ∈ Tree.ofTokens tokens,
      mapDeclaration spell entry.1 entry.2 ++ "\n" =
        stylesheet spell .nested (Tree.tokensIn entry.1 tokens) := by
    intro entry member
    exact (stylesheet_tokensIn ((Entries.lookup_eq_some_iff_mem distinct _ _).mpr member)).symm
  rw [stylesheet_nested_eq someToken,
    Text.joinWith_blankLine_append (by simpa using Tree.ofTokens_ne_nil someToken named),
    List.map_map, ← Tree.keys_ofTokens, List.map_map]
  exact congrArg (Text.joinWith "\n") (List.map_congr_left eachGroup)

def gridTokens : List Token :=
  [⟨["grid", "sm"], .dimension, .text "4px"⟩, ⟨["gap"], .dimension, .text "2px"⟩,
    ⟨["grid"], .dimension, .text "1fr"⟩, ⟨["grid", "md"], .dimension, .text "8px"⟩]

def inkTokens : List Token :=
  [⟨["ink", "dark"], .color, .text "#009"⟩, ⟨["ink", "dark"], .color, .text "#006"⟩]

/-- In each part a token gives place to a later one, and its group has the same text beside the
other part as alone. -/
theorem stylesheet_of_grid_and_ink :
    (∀ token ∈ gridTokens ++ inkTokens, token.path ≠ []) ∧
    (∀ token ∈ gridTokens, ∀ other ∈ inkTokens, token.path.head? ≠ other.path.head?) ∧
    stylesheet id .nested (gridTokens ++ inkTokens) =
      "$grid: (\n  md: 8px,\n);\n\n$gap: 2px;\n" ++ "\n" ++ "$ink: (\n  dark: #006,\n);\n" ∧
    stylesheet id .nested (gridTokens ++ inkTokens) =
      Text.joinWith "\n" (["grid", "gap", "ink"].map fun name =>
        stylesheet id .nested (Tree.tokensIn name (gridTokens ++ inkTokens))) := by
  have named : ∀ token ∈ gridTokens ++ inkTokens, token.path ≠ [] := by
    simp [gridTokens, inkTokens]
  have apart : ∀ token ∈ gridTokens, ∀ other ∈ inkTokens,
      token.path.head? ≠ other.path.head? := by
    simp [gridTokens, inkTokens]
  obtain ⟨-, beside, grouped⟩ := stylesheet_of_parts id
  have parts :=
    beside gridTokens inkTokens (List.cons_ne_nil _ _) (List.cons_ne_nil _ _) named apart
  have grid : stylesheet id .nested gridTokens =
      "$grid: (\n  md: 8px,\n);\n\n$gap: 2px;\n" := by rfl
  have ink : stylesheet id .nested inkTokens = "$ink: (\n  dark: #006,\n);\n" := by rfl
  rw [grid, ink] at parts
  exact ⟨named, apart, parts, grouped (gridTokens ++ inkTokens) (List.cons_ne_nil _ _) named⟩

end Scss
end DesignTokens
