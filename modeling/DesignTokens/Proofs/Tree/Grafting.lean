import DesignTokens.Proofs.Tree.LastWrite

/-!
Trees grafted at a path. Placing one token is grafting a leaf, placing several tokens below a path
that is free is grafting their group, and what is placed apart from the path leaves the graft alone.
-/

namespace DesignTokens
namespace Tree

/-- Places a tree at a path, in place of what stands there. -/
def graft (tree : Tree) : List String → List (String × Tree) → List (String × Tree)
  | [], known => known
  | name :: rest, known =>
      let below := ((known.lookup name).map entries).getD []
      Entries.put name (if rest = [] then tree else group (graft tree rest below)) known

theorem insert_eq_graft (token : Token) (path : List String) (known : List (String × Tree)) :
    insert token path known = graft (leaf token) path known := by
  induction path generalizing known with
  | nil => rfl
  | cons name rest ih => rw [insert_cons, grown, ih, graft]

theorem graft_graft_self (tree old : Tree) (path : List String) (known : List (String × Tree)) :
    graft tree path (graft old path known) = graft tree path known := by
  induction path generalizing known with
  | nil => rfl
  | cons name rest ih =>
      by_cases last : rest = []
      · simp only [graft, if_pos last, Entries.put_put_self]
      · simp only [graft, if_neg last, Entries.lookup_put_self, Entries.put_put_self,
          Option.map_some, Option.getD_some, entries, ih]

theorem graft_graft_of_apart (added tree old : Tree) {path other : List String}
    (apart : Apart other path) (known : List (String × Tree)) :
    graft added other (graft tree path known) =
      graft tree path (graft added other (graft old path known)) := by
  induction path generalizing other known with
  | nil => exact absurd rfl apart.symm.ne_nil
  | cons name rest ih =>
      cases other with
      | nil => exact absurd rfl apart.ne_nil
      | cons first later =>
          by_cases same : first = name
          · subst same
            rw [apart_cons_iff] at apart
            simp only [graft, if_neg apart.ne_nil, if_neg apart.symm.ne_nil,
              Entries.lookup_put_self, Entries.put_put_self, Option.map_some, Option.getD_some,
              entries, ih apart]
          · -- Two entries of this level: the one that is there already keeps its place.
            have self := graft_graft_self tree old (name :: rest) known
            simp only [graft, Entries.lookup_put_self, Entries.put_put_self] at self
            simp only [graft, Entries.lookup_put_of_ne same,
              Entries.lookup_put_of_ne (Ne.symm same), Entries.lookup_put_self,
              Entries.put_put_put_of_ne same]
            rw [self]

theorem place_graft (tree old : Tree) {path : List String} {placed : List (List String × Token)}
    (apart : ∀ entry ∈ placed, Apart entry.1 path) (known : List (String × Tree)) :
    place (graft tree path known) placed =
      graft tree path (place (graft old path known) placed) := by
  induction placed generalizing known with
  | nil => exact (graft_graft_self tree old path known).symm
  | cons entry rest ih =>
      rw [List.forall_mem_cons] at apart
      have replaced := graft_graft_of_apart (leaf entry.2) tree old apart.1 known
      have kept := graft_graft_of_apart (leaf entry.2) old old apart.1 known
      have others := ih apart.2 (graft (leaf entry.2) entry.1 (graft old path known))
      rw [← replaced, ← kept] at others
      simp only [place, List.foldl_cons, insert_eq_graft] at others ⊢
      exact others

theorem WellFormed.exists_position {tree : Tree} (wellFormed : tree.WellFormed) :
    ∃ entry, entry ∈ positions tree := by
  induction wellFormed with
  | @leaf token => exact ⟨([], token), List.mem_cons_self⟩
  | @group entries someEntry _ _ ih =>
      obtain ⟨first, rest, rfl⟩ := List.exists_cons_of_ne_nil someEntry
      obtain ⟨inner, inside⟩ := ih first List.mem_cons_self
      exact ⟨under first.1 inner, List.mem_append_left _ (List.mem_map_of_mem inside)⟩

/-- No token stands at a path, on the way there or further below. -/
def IsFree (path : List String) (known : List (String × Tree)) : Prop :=
  ∀ entry ∈ positionsAmong known, Apart entry.1 path

section

variable {known : List (String × Tree)} {name : String} {rest : List String}

theorem IsFree.inside (free : IsFree (name :: rest) known)
    (distinct : (known.map Prod.fst).Nodup) {tree : Tree}
    (found : known.lookup name = some tree) : ∀ entry ∈ positions tree, Apart entry.1 rest := by
  intro entry member
  rw [← apart_cons_iff name]
  apply free (name :: entry.1, entry.2)
  exact (mem_positionsAmong_cons_iff distinct name entry.1 entry.2).mpr ⟨tree, found, member⟩

theorem IsFree.below (free : IsFree (name :: rest) known)
    (distinct : (known.map Prod.fst).Nodup) :
    IsFree rest (((known.lookup name).map entries).getD []) := by
  rintro ⟨path, token⟩ member
  have named : path ≠ [] := by
    rintro rfl
    exact nil_not_mem_positionsAmong _ token member
  obtain ⟨tree, found, inside⟩ := (mem_positionsAmong_below_iff _ named token).mp member
  exact free.inside distinct found (path, token) inside

theorem IsFree.lookup_ne_leaf (free : IsFree (name :: rest) known)
    (distinct : (known.map Prod.fst).Nodup) (token : Token) :
    known.lookup name ≠ some (leaf token) := by
  intro found
  exact (free.inside distinct found ([], token) List.mem_cons_self).ne_nil rfl

theorem IsFree.lookup_eq_none (free : IsFree [name] known) (wellFormed : WellFormedAmong known) :
    known.lookup name = none := by
  cases found : known.lookup name with
  | none => rfl
  | some tree =>
      obtain ⟨entry, member⟩ := (wellFormed.of_lookup found).exists_position
      exact absurd List.nil_prefix (free.inside wellFormed.distinct found entry member).2

end

variable {placed : List (List String × Token)}

theorem place_under {known : List (String × Tree)} {name : String}
    (noLeaf : ∀ token, known.lookup name ≠ some (leaf token)) (someToken : placed ≠ [])
    (named : ∀ entry ∈ placed, entry.1 ≠ []) :
    place known (placed.map (under name)) =
      Entries.put name
        (group (place (((known.lookup name).map entries).getD []) placed)) known := by
  cases found : known.lookup name with
  | none =>
      have fresh := (Entries.lookup_eq_none_iff_not_mem name known).mp found
      rw [place_fresh_group fresh someToken named, Entries.put_of_not_mem fresh]
      rfl
  | some tree =>
      cases tree with
      | leaf token => exact absurd found (noLeaf token)
      | group below =>
          obtain ⟨before, later, rfl, fresh⟩ := Entries.exists_first_of_lookup found
          rw [place_group fresh below later named, Entries.put_of_first fresh]
          rfl

theorem place_below {known : List (String × Tree)} (wellFormed : WellFormedAmong known)
    {path : List String} (someName : path ≠ []) (free : IsFree path known)
    (someToken : placed ≠ []) (named : ∀ entry ∈ placed, entry.1 ≠ []) :
    place known (placed.map fun entry => (path ++ entry.1, entry.2)) =
      graft (group (place [] placed)) path known := by
  induction path generalizing known with
  | nil => exact absurd rfl someName
  | cons name rest ih =>
      have throughName : (placed.map fun entry => (name :: rest ++ entry.1, entry.2)) =
          (placed.map fun entry => (rest ++ entry.1, entry.2)).map (under name) := by
        simp [under, Function.comp_def]
      have namedLater : ∀ entry ∈ placed.map fun entry => (rest ++ entry.1, entry.2),
          entry.1 ≠ [] := by
        intro entry member
        obtain ⟨inner, isPlaced, rfl⟩ := List.mem_map.mp member
        exact List.append_ne_nil_of_right_ne_nil rest (named inner isPlaced)
      rw [throughName, graft, place_under (free.lookup_ne_leaf wellFormed.distinct)
        (by simpa using someToken) namedLater]
      split
      · -- Nothing stands at the free name, so its group begins without entries.
        rename_i last
        subst last
        rw [free.lookup_eq_none wellFormed]
        simp
      · rename_i someRest
        rw [ih (wellFormed.below name) someRest (free.below wellFormed.distinct)]

theorem place_leaves {known : List (String × Tree)} {tokens : List (String × Token)}
    (distinct : (known.map Prod.fst ++ tokens.map Prod.fst).Nodup) :
    place known (tokens.map fun entry => ([entry.1], entry.2)) =
      known ++ tokens.map fun entry => (entry.1, leaf entry.2) := by
  induction tokens generalizing known with
  | nil => simp [place]
  | cons entry rest ih =>
      obtain ⟨name, token⟩ := entry
      have fresh : name ∉ known.map Prod.fst := by
        rw [List.map_cons, List.nodup_middle, List.nodup_cons] at distinct
        exact fun member => distinct.1 (List.mem_append_left _ member)
      have step : insert token [name] known = known ++ [(name, leaf token)] :=
        Entries.put_of_not_mem fresh _
      have distinctLater :
          ((known ++ [(name, leaf token)]).map Prod.fst ++ rest.map Prod.fst).Nodup := by
        simpa using distinct
      have others := ih distinctLater
      simp only [place, List.map_cons, List.foldl_cons] at others ⊢
      rw [step, others]
      simp

theorem ofTokens_append (first second : List Token) :
    ofTokens (first ++ second) =
      place (ofTokens first) (second.map fun token => (token.path, token)) := by
  rw [ofTokens_eq_place, ofTokens_eq_place, List.map_append, place_append]

theorem isFree_ofTokens {tokens : List Token} {path : List String}
    (apart : ∀ token ∈ tokens, Apart token.path path) : IsFree path (ofTokens tokens) := by
  rintro ⟨place, token⟩ member
  obtain ⟨-, rfl, before, later, rfl, -⟩ := (mem_positionsAmong_ofTokens_iff _ _ _).mp member
  exact apart token (by simp)

/-- A token that stands apart from all others, and tokens in its place with one more name each, make
trees that differ in what is grafted at its path. -/
theorem exists_graft {before after : List Token} {token : Token} (someName : token.path ≠ [])
    (apart : ∀ other ∈ before ++ after, Apart other.path token.path)
    {parts : List (String × Token)} (somePart : parts ≠ [])
    (distinct : (parts.map Prod.fst).Nodup)
    (paths : ∀ part ∈ parts, part.2.path = token.path ++ [part.1]) :
    ∃ known, ofTokens (before ++ token :: after) = graft (leaf token) token.path known ∧
      ofTokens (before ++ parts.map Prod.snd ++ after) =
        graft (group (parts.map fun part => (part.1, leaf part.2))) token.path known := by
  have apartBefore : ∀ other ∈ before, Apart other.path token.path :=
    fun other member => apart other (List.mem_append_left after member)
  have apartAfter : ∀ entry ∈ after.map fun other => (other.path, other),
      Apart entry.1 token.path := by
    intro entry member
    obtain ⟨other, isAfter, rfl⟩ := List.mem_map.mp member
    exact apart other (List.mem_append_right before isAfter)
  have whole : ofTokens (before ++ [token]) =
      graft (leaf token) token.path (ofTokens before) := by
    rw [ofTokens_append, ← insert_eq_graft]
    rfl
  have samePaths : (parts.map Prod.snd).map (fun other => (other.path, other)) =
      (parts.map fun part => ([part.1], part.2)).map fun entry =>
        (token.path ++ entry.1, entry.2) := by
    simpa using paths
  have named : ∀ entry ∈ parts.map fun part => ([part.1], part.2), entry.1 ≠ [] := by
    intro entry member
    obtain ⟨part, -, rfl⟩ := List.mem_map.mp member
    exact List.cons_ne_nil part.1 []
  have inParts : ofTokens (before ++ parts.map Prod.snd) =
      graft (group (parts.map fun part => (part.1, leaf part.2))) token.path (ofTokens before) := by
    rw [ofTokens_append, samePaths, place_below (wellFormedAmong_ofTokens before) someName
      (isFree_ofTokens apartBefore) (by simpa using somePart) named,
      place_leaves (by simpa using distinct), List.nil_append]
  refine ⟨place (graft (leaf token) token.path (ofTokens before))
    (after.map fun other => (other.path, other)), ?_, ?_⟩
  · rw [← List.singleton_append, ← List.append_assoc, ofTokens_append, whole]
    exact place_graft (leaf token) (leaf token) apartAfter (ofTokens before)
  · rw [ofTokens_append, inParts]
    exact place_graft _ (leaf token) apartAfter (ofTokens before)

end Tree
end DesignTokens
