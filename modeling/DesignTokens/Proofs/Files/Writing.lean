import DesignTokens.Proofs.Entries
import DesignTokens.Proofs.Files.SameFile

/-!
Writing a file. The directories on the way to it stay what they were, so that the path leads to the
new content afterwards, and no other file changes.
-/

namespace DesignTokens

theorem bind_eq_ok_iff {Fault First Second : Type} (result : Except Fault First)
    (next : First → Except Fault Second) (second : Second) :
    result >>= next = .ok second ↔ ∃ first, result = .ok first ∧ next first = .ok second := by
  cases result with
  | error fault => simp [bind, Except.bind]
  | ok first => simp [bind, Except.bind]

namespace FileStore

open DesignTokens.Path

variable {store other after : FileStore} {place : Place} {path : Path} {location : Location}
variable {content : ByteArray} {pieces : List (List Char)}

theorem placeAt?_cases (found : store.placeAt? location = some place) :
    place = .directory location ∨ ∃ content, place = .file location content := by
  unfold placeAt? at found
  split at found
  · cases found
    exact .inr ⟨_, rfl⟩
  · split at found
    · cases found
      exact .inl rfl
    · cases found

/-- The pieces of a path that name nothing. -/
def dots : List (List Char) :=
  [[], ['.'], ['.', '.']]

/-- A step from a directory, and where it leads. -/
inductive Steps (store : FileStore) (above : Location) : List Char → Place → Prop
  | stays : Steps store above [] (.directory above)
  | current (allowed : store.allow .search above = .ok ()) :
      Steps store above ['.'] (.directory above)
  | parent (allowed : store.allow .search above = .ok ()) :
      Steps store above ['.', '.'] (.directory above.dropLast)
  | named {piece : List Char} {place : Place} (unlike : piece ∉ dots)
      (allowed : store.allow .search above = .ok ())
      (short : (String.ofList piece).utf8ByteSize ≤ longestName)
      (found : store.placeAt? (above ++ [String.ofList piece]) = some place) :
      Steps store above piece place

theorem entry_eq_ok_iff (above : Location) (name : String) :
    store.entry above name = .ok place ↔
      name.utf8ByteSize ≤ longestName ∧ store.placeAt? (above ++ [name]) = some place := by
  unfold entry
  by_cases long : longestName < name.utf8ByteSize
  · simp [long, Nat.not_le.mpr long]
  · rw [if_neg long]
    cases store.placeAt? (above ++ [name]) <;> simp [Nat.not_lt.mp long]

theorem step_eq_ok_iff (above : Location) (piece : List Char) :
    store.step (.directory above) piece = .ok place ↔ Steps store above piece place := by
  constructor
  · intro stepped
    unfold step at stepped
    dsimp only at stepped
    by_cases empty : piece = []
    · rw [if_pos empty] at stepped
      cases stepped
      exact empty ▸ .stays
    rw [if_neg empty] at stepped
    obtain ⟨⟨⟩, allowed, stepped⟩ := (bind_eq_ok_iff _ _ _).mp stepped
    by_cases dot : piece = ['.']
    · rw [if_pos dot] at stepped
      cases stepped
      exact dot ▸ .current allowed
    by_cases twoDots : piece = ['.', '.']
    · rw [if_neg dot, if_pos twoDots] at stepped
      cases stepped
      exact twoDots ▸ .parent allowed
    rw [if_neg dot, if_neg twoDots, entry_eq_ok_iff] at stepped
    exact .named (by simp [dots, empty, dot, twoDots]) allowed stepped.1 stepped.2
  · intro steps
    cases steps with
    | stays => rfl
    | current allowed => simp [step, allowed, bind, Except.bind]
    | parent allowed => simp [step, allowed, bind, Except.bind]
    | named unlike allowed short found =>
        simp only [dots, List.mem_cons, List.not_mem_nil, or_false, not_or] at unlike
        have entered := (entry_eq_ok_iff above _).mpr ⟨short, found⟩
        simp [step, unlike, allowed, entered, bind, Except.bind]

/-- Directories stay what they are and are used as before. -/
structure KeepsDirectories (store other : FileStore) : Prop where
  refusals : other.refusals = store.refusals
  directories : ∀ location, store.placeAt? location = some (.directory location) →
    other.placeAt? location = some (.directory location)

theorem KeepsDirectories.allow_eq (keeps : KeepsDirectories store other) (access : Access)
    (location : Location) : other.allow access location = store.allow access location := by
  rw [allow, allow, keeps.refusals]

/-- If the place is a file, the store has it. -/
def HasFileOf (store : FileStore) (place : Place) : Prop :=
  ∀ location content, place = .file location content → store.placeAt? location = some place

theorem hasFileOf_of_placeAt? (found : store.placeAt? location = some place) :
    store.HasFileOf place := by
  rintro there content rfl
  obtain isDirectory | ⟨_, isFile⟩ := placeAt?_cases found
  · cases isDirectory
  · cases isFile
    exact found

theorem placeAt?_kept (keeps : KeepsDirectories store other)
    (found : store.placeAt? location = some place) (kept : other.HasFileOf place) :
    other.placeAt? location = some place := by
  obtain rfl | ⟨content, rfl⟩ := placeAt?_cases found
  · exact keeps.directories location found
  · exact kept location content rfl

theorem Steps.kept (keeps : KeepsDirectories store other) {above : Location} {piece : List Char}
    (steps : Steps store above piece place) (kept : other.HasFileOf place) :
    Steps other above piece place := by
  cases steps with
  | stays => exact .stays
  | current allowed => exact .current ((keeps.allow_eq _ _).trans allowed)
  | parent allowed => exact .parent ((keeps.allow_eq _ _).trans allowed)
  | named unlike allowed short found =>
      exact .named unlike ((keeps.allow_eq _ _).trans allowed) short
        (placeAt?_kept keeps found kept)

theorem step_kept (keeps : KeepsDirectories store other) {piece : List Char} {next : Place}
    (stepped : store.step place piece = .ok next) (kept : other.HasFileOf next) :
    other.step place piece = .ok next := by
  cases place with
  | file => cases stepped
  | directory above =>
      rw [step_eq_ok_iff] at stepped ⊢
      exact stepped.kept keeps kept

theorem hasFileOf_of_step {piece : List Char} {next : Place}
    (stepped : store.step place piece = .ok next) : store.HasFileOf next := by
  cases place with
  | file => cases stepped
  | directory above =>
      rw [step_eq_ok_iff] at stepped
      cases stepped with
      | named _ _ _ found => exact hasFileOf_of_placeAt? found
      | _ => rintro _ _ ⟨⟩

theorem hasFileOf_of_walk {reached : Place} (start : store.HasFileOf place)
    (walked : pieces.foldlM store.step place = .ok reached) : store.HasFileOf reached := by
  induction pieces generalizing place with
  | nil =>
      cases walked
      exact start
  | cons piece rest ih =>
      rw [List.foldlM_cons] at walked
      obtain ⟨next, stepped, walkedRest⟩ := (bind_eq_ok_iff _ _ _).mp walked
      exact ih (hasFileOf_of_step stepped) walkedRest

theorem walk_kept (keeps : KeepsDirectories store other) {reached : Place}
    (walked : pieces.foldlM store.step place = .ok reached) (kept : other.HasFileOf reached) :
    pieces.foldlM other.step place = .ok reached := by
  induction pieces generalizing place with
  | nil => exact walked
  | cons piece rest ih =>
      rw [List.foldlM_cons] at walked ⊢
      obtain ⟨next, stepped, walkedRest⟩ := (bind_eq_ok_iff _ _ _).mp walked
      have keptNext : other.HasFileOf next := by
        rintro location content rfl
        -- no step leads on from a file, so that it ends the walk
        cases rest with
        | nil =>
            cases walkedRest
            exact kept location content rfl
        | cons => cases walkedRest
      rw [step_kept keeps stepped keptNext]
      exact ih walkedRest

theorem pieces_of_splitName {parents : List (List Char)} {name : List Char}
    (split : splitName path = (parents, some name, false)) :
    Path.pieces path.text.toList = parents ++ [name] ∧ name ≠ [] := by
  simp only [splitName, Prod.mk.injEq, decide_eq_false_iff_not, Nat.not_lt] at split
  obtain ⟨rfl, named, noSlash⟩ := split
  have whole := (List.dropWhile_suffix List.isEmpty).eq_of_length_le noSlash
  have notEmpty := List.head?_dropWhile_not List.isEmpty (Path.pieces path.text.toList).reverse
  rw [named] at notEmpty
  rw [whole] at named ⊢
  obtain ⟨before, reversed⟩ := List.head?_eq_some_iff.mp named
  refine ⟨?_, by simpa using notEmpty⟩
  rw [reversed, List.tail_cons, ← List.reverse_cons, ← reversed, List.reverse_reverse]

/-- A file gets its location by a name in a directory, which no directory has yet. -/
structure Lands (store : FileStore) (path : Path) (location : Location) : Prop where
  notDirectory : ∀ above, store.placeAt? location ≠ some (.directory above)
  reached : ∃ parents name above, Path.pieces path.text.toList = parents ++ [name] ∧
    location = above ++ [String.ofList name] ∧
    store.walk path parents = .ok (.directory above) ∧
    name ∉ dots ∧ store.allow .search above = .ok () ∧
    (String.ofList name).utf8ByteSize ≤ longestName

theorem lands_of_target (found : store.target path = .ok location) :
    Lands store path location := by
  unfold target at found
  obtain ⟨parents, name?, hasSlash, split⟩ :
      ∃ parents name? hasSlash, splitName path = (parents, name?, hasSlash) := ⟨_, _, _, rfl⟩
  rw [split] at found
  dsimp only at found
  obtain ⟨place, walked, named⟩ := (bind_eq_ok_iff _ _ _).mp found
  cases name? with
  | none => cases named
  | some name =>
      cases place with
      | file => cases named
      | directory above =>
          dsimp only at named
          obtain ⟨⟨⟩, allowed, chosen⟩ := (bind_eq_ok_iff _ _ _).mp named
          by_cases refused : (hasSlash || name = ['.'] || name = ['.', '.']) = true
          · rw [if_pos refused] at chosen
            cases chosen
          by_cases long : longestName < (String.ofList name).utf8ByteSize
          · rw [if_neg refused, if_pos long] at chosen
            cases chosen
          rw [if_neg refused, if_neg long] at chosen
          simp only [Bool.or_eq_true, decide_eq_true_eq, not_or, Bool.not_eq_true] at refused
          obtain ⟨⟨noSlash, noDot⟩, noDots⟩ := refused
          subst noSlash
          obtain ⟨whole, notEmpty⟩ := pieces_of_splitName split
          have lands (isLocation : above ++ [String.ofList name] = location)
              (notDirectory : ∀ other, store.placeAt? location ≠ some (.directory other)) :
              Lands store path location :=
            ⟨notDirectory, parents, name, above, whole, isLocation.symm, walked,
              by simp [dots, notEmpty, noDot, noDots], allowed, Nat.not_lt.mp long⟩
          cases there : store.placeAt? (above ++ [String.ofList name]) with
          | none =>
              rw [there] at chosen
              obtain ⟨-, -, isLocation⟩ := (bind_eq_ok_iff _ _ _).mp chosen
              cases isLocation
              exact lands rfl (by simp [there])
          | some found =>
              rw [there] at chosen
              cases found with
              | directory => cases chosen
              | file =>
                  obtain ⟨-, -, isLocation⟩ := (bind_eq_ok_iff _ _ _).mp chosen
                  cases isLocation
                  exact lands rfl (by simp [there])

def withFile (store : FileStore) (location : Location) (content : ByteArray) : FileStore :=
  { store with files := Entries.put location content store.files }

theorem write_eq_ok_iff (store : FileStore) (path : Path) (content : ByteArray)
    (after : FileStore) :
    store.write path content = .ok after ↔
      ∃ location, store.target path = .ok location ∧ after = store.withFile location content := by
  unfold write
  cases store.target path <;> simp [withFile, eq_comm]

theorem placeAt?_withFile_self (store : FileStore) (location : Location) (content : ByteArray) :
    (store.withFile location content).placeAt? location = some (.file location content) := by
  simp [placeAt?, withFile, Entries.lookup_put_self]

theorem placeAt?_withFile_of_ne {there : Location} (different : there ≠ location)
    (store : FileStore) (content : ByteArray) :
    (store.withFile location content).placeAt? there = store.placeAt? there := by
  unfold placeAt? withFile
  rw [Entries.lookup_put_of_ne different]
  rfl

theorem keepsDirectories_withFile (content : ByteArray)
    (notDirectory : ∀ above, store.placeAt? location ≠ some (.directory above)) :
    KeepsDirectories store (store.withFile location content) := by
  refine ⟨rfl, ?_⟩
  intro kept isDirectory
  have different : kept ≠ location := by
    rintro rfl
    exact notDirectory _ isDirectory
  rw [placeAt?_withFile_of_ne different]
  exact isDirectory

theorem find_eq_of_walked {reached : Place} (walked : store.walk path pieces = .ok reached) :
    other.find path = (Path.pieces path.text.toList).foldlM other.step (other.start path) := by
  obtain ⟨nonempty, hasNoNul, notLong, -⟩ := store.walk_eq_ok walked
  unfold find walk
  simp only [nonempty, hasNoNul, Nat.not_lt.mpr notLong, if_false, Bool.false_eq_true]

/-- After writing, a path leads to what it led to, unless that was the file replaced. -/
theorem find_of_write {reached : Place} {elsewhere : Path}
    (found : store.target path = .ok location) (wrote : store.write path content = .ok after)
    (before : store.find elsewhere = .ok reached)
    (different : ∀ previous, reached ≠ .file location previous) :
    after.find elsewhere = .ok reached := by
  obtain ⟨same, foundSame, rfl⟩ := (write_eq_ok_iff _ _ _ _).mp wrote
  cases found.symm.trans foundSame
  have keeps := keepsDirectories_withFile content (lands_of_target found).notDirectory
  obtain ⟨-, -, -, walked⟩ := store.walk_eq_ok before
  have present : store.HasFileOf reached := hasFileOf_of_walk (by rintro _ _ ⟨⟩) walked
  have kept : (store.withFile location content).HasFileOf reached := by
    rintro there previous rfl
    have apart : there ≠ location := by
      rintro rfl
      exact different previous rfl
    rw [placeAt?_withFile_of_ne apart]
    exact present there previous rfl
  rw [find_eq_of_walked before]
  exact walk_kept keeps walked kept

/-- The path written to leads to the new content, at the location that it had. -/
theorem exists_find_of_write (wrote : store.write path content = .ok after) :
    ∃ location, store.target path = .ok location ∧
      after.find path = .ok (.file location content) := by
  obtain ⟨location, found, rfl⟩ := (write_eq_ok_iff _ _ _ _).mp wrote
  refine ⟨location, found, ?_⟩
  obtain ⟨notDirectory, parents, name, above, whole, rfl, walked, unlike, allowed, short⟩ :=
    lands_of_target found
  have keeps := keepsDirectories_withFile content notDirectory
  obtain ⟨-, -, -, walkedParents⟩ := store.walk_eq_ok walked
  have walkedAfter := walk_kept keeps walkedParents (by rintro _ _ ⟨⟩)
  have there := placeAt?_withFile_self store (above ++ [String.ofList name]) content
  have leads := (step_eq_ok_iff above name).mpr
    (.named unlike ((keeps.allow_eq _ _).trans allowed) short there)
  have sameStart : (store.withFile (above ++ [String.ofList name]) content).start path =
      store.start path := rfl
  rw [find_eq_of_walked walked, whole, List.foldlM_append, sameStart, walkedAfter]
  change ([name].foldlM _ (Place.directory above) : Except FileFault Place) = _
  rw [List.foldlM_cons, leads]
  rfl

end FileStore
end DesignTokens
