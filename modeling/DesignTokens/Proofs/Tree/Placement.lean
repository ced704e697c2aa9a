import DesignTokens.Proofs.Entries
import DesignTokens.Proofs.Tree.DepthFirst
import DesignTokens.Token.Tree

/-!
Tokens placed one after the other. If their paths come in the order in which a tree is read, the
tree holds each token at its path, and is read in the order of the tokens.
-/

namespace DesignTokens
namespace Tree

/-- Whatever stands at a path, with a name put before the path. -/
def under {Content : Type} (name : String) (entry : List String × Content) :
    List String × Content :=
  (name :: entry.1, entry.2)

mutual

/-- The tokens of a tree with the names on the way to them. -/
def positions : Tree → List (List String × Token)
  | leaf token => [([], token)]
  | group entries => positionsAmong entries

def positionsAmong : List (String × Tree) → List (List String × Token)
  | [] => []
  | (name, tree) :: rest => (positions tree).map (under name) ++ positionsAmong rest

end

mutual

theorem leaves_eq : ∀ tree, leaves tree = (positions tree).map Prod.snd
  | leaf token => rfl
  | group entries => by rw [leaves, positions, leavesAmong_eq]

theorem leavesAmong_eq : ∀ entries, leavesAmong entries = (positionsAmong entries).map Prod.snd
  | [] => rfl
  | (name, tree) :: rest => by
      rw [leavesAmong, positionsAmong, leaves_eq, leavesAmong_eq, List.map_append, List.map_map]
      rfl

end

@[simp] theorem positionsAmong_append (first second : List (String × Tree)) :
    positionsAmong (first ++ second) = positionsAmong first ++ positionsAmong second := by
  induction first with
  | nil => rfl
  | cons entry rest ih => simp [positionsAmong, ih]

/-- Tokens placed at paths of their own. -/
def place (known : List (String × Tree)) (placed : List (List String × Token)) :
    List (String × Tree) :=
  placed.foldl (fun known entry => insert entry.2 entry.1 known) known

theorem ofTokens_eq_place (tokens : List Token) :
    ofTokens tokens = place [] (tokens.map fun token => (token.path, token)) := by
  rw [ofTokens, place, List.foldl_map]

theorem place_append (known : List (String × Tree)) (first second : List (List String × Token)) :
    place known (first ++ second) = place (place known first) second := by
  rw [place, List.foldl_append]
  rfl

/-- What stands at a name once a token is placed there or further below. -/
def grown (token : Token) (rest : List String) (present : Option Tree) : Tree :=
  if rest = [] then leaf token
  else group (insert token rest ((present.map entries).getD []))

theorem insert_cons (token : Token) (name : String) (rest : List String)
    (known : List (String × Tree)) :
    insert token (name :: rest) known =
      Entries.put name (grown token rest (known.lookup name)) known := by
  cases rest <;> rfl

theorem grown_group {rest : List String} (named : rest ≠ []) (token : Token)
    (below : List (String × Tree)) :
    grown token rest (some (group below)) = group (insert token rest below) := by
  rw [grown, if_neg named]
  rfl

theorem insert_fresh_group {known : List (String × Tree)} {name : String}
    (fresh : name ∉ known.map Prod.fst) {path : List String} (named : path ≠ []) (token : Token) :
    insert token (name :: path) known = known ++ [(name, group (insert token path []))] := by
  rw [insert_cons, (Entries.lookup_eq_none_iff_not_mem name known).mpr fresh, grown,
    if_neg named]
  exact Entries.put_of_not_mem fresh _

theorem insert_group {before : List (String × Tree)} {name : String}
    (fresh : name ∉ before.map Prod.fst) {path : List String} (named : path ≠ []) (token : Token)
    (below later : List (String × Tree)) :
    insert token (name :: path) (before ++ (name, group below) :: later) =
      before ++ (name, group (insert token path below)) :: later := by
  rw [insert_cons, Entries.lookup_of_first fresh, grown_group named]
  exact Entries.put_of_first fresh _ _ later

theorem place_group {before : List (String × Tree)} {name : String}
    (fresh : name ∉ before.map Prod.fst) (below later : List (String × Tree))
    {placed : List (List String × Token)} (named : ∀ entry ∈ placed, entry.1 ≠ []) :
    place (before ++ (name, group below) :: later) (placed.map (under name)) =
      before ++ (name, group (place below placed)) :: later := by
  induction placed generalizing below with
  | nil => rfl
  | cons entry rest ih =>
      have step := insert_group fresh (named entry List.mem_cons_self) entry.2 below later
      have others := ih (insert entry.2 entry.1 below)
        fun other member => named other (List.mem_cons_of_mem _ member)
      simp only [place, List.map_cons, List.foldl_cons, under] at others ⊢
      rw [step, others]

theorem place_fresh_group {known : List (String × Tree)} {name : String}
    (fresh : name ∉ known.map Prod.fst) {placed : List (List String × Token)}
    (someToken : placed ≠ []) (named : ∀ entry ∈ placed, entry.1 ≠ []) :
    place known (placed.map (under name)) = known ++ [(name, group (place [] placed))] := by
  obtain ⟨entry, rest, rfl⟩ := List.exists_cons_of_ne_nil someToken
  have first := insert_fresh_group fresh (named entry List.mem_cons_self) entry.2
  have others := place_group fresh (insert entry.2 entry.1 []) []
    fun other member => named other (List.mem_cons_of_mem _ member)
  simp only [place, List.map_cons, List.foldl_cons, under] at others ⊢
  rw [first, others]

theorem exists_map_under {name : String} {placed : List (List String × Token)}
    {below : List (List String)} (same : placed.map Prod.fst = below.map (name :: ·)) :
    ∃ inner : List (List String × Token),
      placed = inner.map (under name) ∧ inner.map Prod.fst = below := by
  induction below generalizing placed with
  | nil => exact ⟨[], by simpa using same, rfl⟩
  | cons path rest ih =>
      obtain ⟨⟨entryPath, token⟩, later, rfl, rfl, sameLater⟩ := List.map_eq_cons_iff.mp same
      obtain ⟨inner, rfl, sameInner⟩ := ih sameLater
      exact ⟨(path, token) :: inner, rfl, by simp [sameInner]⟩

theorem positionsAmong_place {paths : List (List String)} (depthFirst : DepthFirst paths)
    {placed : List (List String × Token)} (samePaths : placed.map Prod.fst = paths)
    {known : List (String × Tree)}
    (fresh : ∀ path ∈ paths, ∀ name ∈ known.map Prod.fst, path.head? ≠ some name) :
    positionsAmong (place known placed) = positionsAmong known ++ placed := by
  induction depthFirst generalizing placed known with
  | nil =>
      obtain rfl : placed = [] := by simpa using samePaths
      simp [place]
  | @leaf name rest _ others ih =>
      obtain ⟨⟨path, token⟩, later, rfl, rfl, sameLater⟩ := List.map_eq_cons_iff.mp samePaths
      have freshName : name ∉ known.map Prod.fst := fun member =>
        fresh [name] List.mem_cons_self name member rfl
      have first : insert token [name] known = known ++ [(name, leaf token)] :=
        Entries.put_of_not_mem freshName _
      have freshLater : ∀ path ∈ rest, ∀ other ∈ (known ++ [(name, leaf token)]).map Prod.fst,
          path.head? ≠ some other := by
        intro path member other isKnown
        rw [List.map_append, List.mem_append] at isKnown
        rcases isKnown with isKnown | isNew
        · exact fresh path (List.mem_cons_of_mem _ member) other isKnown
        · rw [List.mem_singleton.mp isNew]
          exact others path member
      have placedLater := ih sameLater freshLater
      simp only [place, List.foldl_cons] at placedLater ⊢
      rw [first, placedLater]
      simp [positionsAmong, positions, under]
  | @group name below rest someBelow below_depthFirst _ others ihBelow ih =>
      obtain ⟨front, later, rfl, sameFront, sameLater⟩ := List.map_eq_append_iff.mp samePaths
      obtain ⟨inner, rfl, sameInner⟩ := exists_map_under sameFront
      have freshName : name ∉ known.map Prod.fst := by
        intro member
        obtain ⟨path, tail, rfl⟩ := List.exists_cons_of_ne_nil someBelow
        exact fresh (name :: path) (by simp) name member rfl
      have someInner : inner ≠ [] := by
        rintro rfl
        exact someBelow sameInner.symm
      have named : ∀ entry ∈ inner, entry.1 ≠ [] := by
        intro entry member
        exact below_depthFirst.ne_nil _ (sameInner ▸ List.mem_map_of_mem member)
      have freshLater : ∀ path ∈ rest,
          ∀ other ∈ (known ++ [(name, Tree.group (place [] inner))]).map Prod.fst,
          path.head? ≠ some other := by
        intro path member other isKnown
        rw [List.map_append, List.mem_append] at isKnown
        rcases isKnown with isKnown | isNew
        · exact fresh path (List.mem_append_right _ member) other isKnown
        · rw [List.mem_singleton.mp isNew]
          exact others path member
      have placedBelow : positionsAmong (place [] inner) = positionsAmong [] ++ inner :=
        ihBelow sameInner (by simp)
      rw [place_append, place_fresh_group freshName someInner named, ih sameLater freshLater]
      simp [positionsAmong, positions, placedBelow]

/-- Each token stands at its own path, and the tokens are read in their order. -/
theorem positionsAmong_ofTokens {tokens : List Token}
    (depthFirst : DepthFirst (tokens.map Token.path)) :
    positionsAmong (ofTokens tokens) = tokens.map fun token => (token.path, token) := by
  have samePaths : (tokens.map fun token => (token.path, token)).map Prod.fst =
      tokens.map Token.path := by
    simp
  rw [ofTokens_eq_place, positionsAmong_place depthFirst samePaths (by simp)]
  rfl

theorem leavesAmong_ofTokens {tokens : List Token}
    (depthFirst : DepthFirst (tokens.map Token.path)) :
    leavesAmong (ofTokens tokens) = tokens := by
  rw [leavesAmong_eq, positionsAmong_ofTokens depthFirst, List.map_map]
  exact List.map_id tokens

theorem ofTokens_concat (tokens : List Token) (last : Token) :
    ofTokens (tokens ++ [last]) = insert last last.path (ofTokens tokens) := by
  simp [ofTokens]

theorem keys_insert (token : Token) {path : List String} {name : String}
    (first : path.head? = some name) (known : List (String × Tree)) :
    (insert token path known).map Prod.fst =
      if name ∈ known.map Prod.fst then known.map Prod.fst else known.map Prod.fst ++ [name] := by
  obtain ⟨rest, rfl⟩ := List.head?_eq_some_iff.mp first
  rw [insert_cons]
  split
  · rename_i isKnown
    exact Entries.keys_put_of_mem isKnown _
  · rename_i isNew
    rw [Entries.put_of_not_mem isNew, List.map_append]
    rfl

theorem eraseDups_append_singleton (names : List String) (name : String) :
    (names ++ [name]).eraseDups =
      if name ∈ names then names.eraseDups else names.eraseDups ++ [name] := by
  rw [List.eraseDups_append, List.removeAll]
  by_cases isKnown : name ∈ names
  · simp [isKnown]
  · simp [isKnown, List.eraseDups_cons]

/-- The names at the top are the first names of the paths, each where it is first seen. -/
theorem keys_ofTokens (tokens : List Token) :
    (ofTokens tokens).map Prod.fst =
      (tokens.filterMap fun token => token.path.head?).eraseDups := by
  induction tokens using List.reverseRecOn with
  | nil => rfl
  | append_singleton tokens token ih =>
      rw [ofTokens_concat, List.filterMap_append]
      cases first : token.path.head? with
      | none =>
          have empty : token.path = [] := List.head?_eq_none_iff.mp first
          simp [empty, insert, ih]
      | some name =>
          rw [keys_insert token first, ih]
          simp [first, eraseDups_append_singleton]

end Tree
end DesignTokens
