import DesignTokens.Files.Loading
import Mathlib.Data.List.Basic

/-!
Paths with the same components name the same file in every store. A path that ends in a slash or a
dot has the components of one that does not, so this holds of paths that end in a name.
-/

namespace DesignTokens

namespace Path

/-- What a component looks like between two slashes. -/
def Component.piece : Component → List Char
  | .root => []
  | .current => ['.']
  | .parent => ['.', '.']
  | .normal name => name.toList

/-- The components of a path that its walk goes through: no dot and no slash at the start. -/
def steps (path : Path) : List Component :=
  (pieces path.text.toList).filterMap componentOf?

theorem componentOf?_eq_none_iff (piece : List Char) :
    componentOf? piece = none ↔ piece = [] ∨ piece = ['.'] := by
  unfold componentOf?
  by_cases skipped : piece = [] ∨ piece = ['.']
  · simp [skipped]
  · simp only [Bool.or_eq_true, decide_eq_true_eq, skipped, if_false, iff_false]
    split <;> simp

theorem piece_of_componentOf? {piece : List Char} {component : Component}
    (named : componentOf? piece = some component) : component.piece = piece := by
  unfold componentOf? at named
  split at named
  · cases named
  split at named
  · rename_i dots
    cases named
    exact dots.symm
  · cases named
    exact String.toList_ofList

theorem not_mem_steps {component : Component} (first : component ∈ [.root, .current])
    (path : Path) : component ∉ path.steps := by
  intro member
  obtain ⟨piece, -, named⟩ := List.mem_filterMap.mp member
  unfold componentOf? at named
  split at named
  · cases named
  split at named <;> cases named <;> simp at first

/-- What stands before the steps of a path: a slash or a dot that the path begins with. -/
theorem components_eq (path : Path) :
    ∃ start, path.components = start ++ path.steps ∧
      (path.isAbsolute = true ∧ start = [.root] ∨
        path.isAbsolute = false ∧ (start = [.current] ∨ start = [])) := by
  refine ⟨_, rfl, ?_⟩
  cases path.isAbsolute with
  | true => exact .inl ⟨rfl, rfl⟩
  | false =>
      refine .inr ⟨rfl, ?_⟩
      by_cases dot : (pieces path.text.toList).head? == some ['.']
      · exact .inl (by simp [dot])
      · exact .inr (by simp [dot])

theorem isAbsolute_and_steps_of_components {path other : Path}
    (same : path.components = other.components) :
    path.isAbsolute = other.isAbsolute ∧ path.steps = other.steps := by
  obtain ⟨start, whole, shape⟩ := components_eq path
  obtain ⟨start', whole', shape'⟩ := components_eq other
  rw [whole, whole'] at same
  -- the steps hold neither a slash nor a dot, so that what stands before them shows
  have sameRoot : (.root ∈ start ++ path.steps) = (.root ∈ start' ++ other.steps) := by rw [same]
  have sameDot : (.current ∈ start ++ path.steps) = (.current ∈ start' ++ other.steps) := by
    rw [same]
  simp only [List.mem_append, not_mem_steps, List.mem_cons, true_or, or_true, or_false]
    at sameRoot sameDot
  obtain ⟨absolute, rfl⟩ | ⟨relative, rfl | rfl⟩ := shape <;>
    obtain ⟨absolute', rfl⟩ | ⟨relative', rfl | rfl⟩ := shape' <;> simp_all

end Path

theorem Encoding.ofPath_of_components {path other : Path}
    (same : path.components = other.components) :
    Encoding.ofPath path = Encoding.ofPath other := by
  unfold Encoding.ofPath Encoding.ofPath? Path.extension? Path.fileName?
  rw [same]

namespace FileStore

open DesignTokens.Path

variable (store : FileStore)

/-- A path of the lengths that a file's path may have, with a name at its end. -/
structure IsFileName (path : Path) : Prop where
  nonempty : path.text.isEmpty = false
  hasNoNul : path.text.toList.contains '\x00' = false
  notLong : path.text.utf8ByteSize ≤ longestPath
  ends : ((pieces path.text.toList).getLast?.bind componentOf?).isSome = true

/-- An empty piece or a dot leaves a walk where it is, unless the directory may not be searched. -/
theorem step_of_componentOf?_none {piece : List Char} (skipped : componentOf? piece = none)
    (location : Location) :
    store.step (.directory location) piece = .ok (.directory location) ∨
      ∃ fault, store.allow .search location = .error fault ∧
        store.step (.directory location) piece = .error fault := by
  rw [componentOf?_eq_none_iff] at skipped
  obtain rfl | rfl := skipped
  · exact .inl rfl
  · cases allowed : store.allow .search location with
    | ok => exact .inl (by simp [step, allowed, bind, Except.bind])
    | error fault => exact .inr ⟨fault, rfl, by simp [step, allowed, bind, Except.bind]⟩

theorem step_of_refused {location : Location} {fault : FileFault}
    (refused : store.allow .search location = .error fault) {piece : List Char}
    (nonempty : piece ≠ []) : store.step (.directory location) piece = .error fault := by
  simp [step, nonempty, refused, bind, Except.bind]

theorem walk_from_file (location : Location) (content : ByteArray) {pieces : List (List Char)}
    (further : pieces ≠ []) :
    pieces.foldlM store.step (.file location content) = .error .notDirectory := by
  cases pieces with
  | nil => exact absurd rfl further
  | cons piece rest => rfl

theorem walk_of_refused {location : Location} {fault : FileFault}
    (refused : store.allow .search location = .error fault) {pieces : List (List Char)}
    (further : pieces.filterMap componentOf? ≠ []) :
    ((pieces.filterMap componentOf?).map Component.piece).foldlM store.step
      (.directory location) = .error fault := by
  obtain ⟨component, others, whole⟩ := List.exists_cons_of_ne_nil further
  have member : component ∈ pieces.filterMap componentOf? := whole ▸ List.mem_cons_self
  obtain ⟨piece, -, named⟩ := List.mem_filterMap.mp member
  have nonempty : component.piece ≠ [] := by
    rw [piece_of_componentOf? named]
    rintro rfl
    cases named
  rw [whole, List.map_cons, List.foldlM_cons, store.step_of_refused refused nonempty]
  rfl

/-- Empty pieces and dots make no difference to a walk that ends in a name. -/
theorem walk_eq_steps (pieces : List (List Char)) (place : Place)
    (ends : (pieces.getLast?.bind componentOf?).isSome = true) :
    pieces.foldlM store.step place =
      ((pieces.filterMap componentOf?).map Component.piece).foldlM store.step place := by
  induction pieces generalizing place with
  | nil => rfl
  | cons piece rest ih =>
      cases named : componentOf? piece with
      | some component =>
          rw [List.filterMap_cons_some named, List.map_cons, piece_of_componentOf? named,
            List.foldlM_cons, List.foldlM_cons]
          cases rest with
          | nil => rfl
          | cons next others =>
              rw [List.getLast?_cons_cons] at ends
              exact congrArg _ (funext fun place => ih place ends)
      | none =>
          have endsLater : (rest.getLast?.bind componentOf?).isSome = true := by
            cases rest with
            | nil => simp [named] at ends
            | cons next others => rwa [List.getLast?_cons_cons] at ends
          have further : rest.filterMap componentOf? ≠ [] := by
            intro nothing
            rw [List.filterMap_eq_nil_iff] at nothing
            obtain ⟨component, last⟩ := Option.isSome_iff_exists.mp endsLater
            obtain ⟨piece, isLast, named⟩ := Option.bind_eq_some_iff.mp last
            rw [nothing piece (List.mem_of_getLast? isLast)] at named
            cases named
          rw [List.filterMap_cons_none named, List.foldlM_cons]
          cases place with
          | file location content =>
              rw [walk_from_file store location content (by simpa using further)]
              rfl
          | directory location =>
              -- a directory that may not be searched refuses the next name as well as the dot
              obtain stays | ⟨fault, refused, fails⟩ :=
                store.step_of_componentOf?_none named location
              · rw [stays]
                exact ih _ endsLater
              · rw [fails, store.walk_of_refused refused further]
                rfl

theorem find_eq_steps {path : Path} (isName : IsFileName path) :
    store.find path = (path.steps.map Component.piece).foldlM store.step (store.start path) := by
  unfold find walk
  simp only [isName.nonempty, isName.hasNoNul, Nat.not_lt.mpr isName.notLong, if_false,
    Bool.false_eq_true]
  exact walk_eq_steps store _ _ isName.ends

theorem find_of_components {path other : Path} (isName : IsFileName path)
    (isName' : IsFileName other) (same : path.components = other.components) :
    store.find path = store.find other := by
  obtain ⟨sameStart, sameSteps⟩ := isAbsolute_and_steps_of_components same
  rw [find_eq_steps store isName, find_eq_steps store isName', start, start, sameStart, sameSteps]

theorem read_of_components {path other : Path} (isName : IsFileName path)
    (isName' : IsFileName other) (same : path.components = other.components) :
    store.read path = store.read other := by
  unfold read readBytes
  rw [find_of_components store isName isName' same]

theorem isFile_iff (path : Path) :
    store.isFile path = true ↔
      ∃ location content, store.find path = .ok (.file location content) := by
  unfold isFile
  split
  · rename_i location content found
    exact iff_of_true rfl ⟨location, content, found⟩
  · rename_i other
    refine iff_of_false Bool.false_ne_true ?_
    rintro ⟨location, content, found⟩
    exact other location content found

theorem walk_eq_ok {path : Path} {pieces : List (List Char)} {place : Place}
    (walked : store.walk path pieces = .ok place) :
    path.text.isEmpty = false ∧ path.text.toList.contains '\x00' = false ∧
      path.text.utf8ByteSize ≤ longestPath ∧
      pieces.foldlM store.step (store.start path) = .ok place := by
  unfold walk at walked
  by_cases empty : path.text.isEmpty = true
  · rw [if_pos empty] at walked
    cases walked
  by_cases nul : path.text.toList.contains '\x00' = true
  · rw [if_neg empty, if_pos nul] at walked
    cases walked
  by_cases long : longestPath < path.text.utf8ByteSize
  · rw [if_neg empty, if_neg nul, if_pos long] at walked
    cases walked
  rw [if_neg empty, if_neg nul, if_neg long] at walked
  exact ⟨Bool.eq_false_iff.mpr empty, Bool.eq_false_iff.mpr nul,
    Nat.not_lt.mp long, walked⟩

theorem ends_of_step_eq_file {place : Place} {piece : List Char} {location : Location}
    {content : ByteArray} (came : store.step place piece = .ok (.file location content)) :
    (componentOf? piece).isSome = true := by
  rw [Option.isSome_iff_ne_none]
  intro skipped
  cases place with
  | file => cases came
  | directory location =>
      obtain stays | ⟨fault, -, fails⟩ := store.step_of_componentOf?_none skipped location
      · simp [stays] at came
      · simp [fails] at came

theorem isFileName_of_isFile {path : Path} (isFile : store.isFile path = true) :
    IsFileName path := by
  obtain ⟨location, content, found⟩ := (store.isFile_iff path).mp isFile
  obtain ⟨nonempty, hasNoNul, notLong, walked⟩ := store.walk_eq_ok found
  refine ⟨nonempty, hasNoNul, notLong, ?_⟩
  obtain none | ⟨before, last, whole⟩ := List.eq_nil_or_concat' (pieces path.text.toList)
  · rw [none, List.foldlM_nil] at walked
    cases walked
  · rw [whole, List.foldlM_append] at walked
    rw [whole, List.getLast?_concat]
    cases reached : before.foldlM store.step (store.start path) with
    | error fault =>
        rw [reached] at walked
        cases walked
    | ok place =>
        rw [reached] at walked
        have came : (store.step place last >>= pure) = .ok (.file location content) := walked
        rw [bind_pure] at came
        exact ends_of_step_eq_file store came

end FileStore

theorem loadDocument_eq_ok_iff (libraries : Libraries) (read : ReadText) (path : Path)
    (document : Value) :
    loadDocument libraries read path = .ok document ↔
      ∃ text, read path = .ok text ∧
        Document.parse libraries (Encoding.ofPath path) text = .ok document := by
  unfold loadDocument loadText
  cases read path with
  | error fault => simp
  | ok text =>
      simp only [Except.ok.injEq, exists_eq_left']
      cases Document.parse libraries (Encoding.ofPath path) text <;> simp

theorem loadDocument_of_components (libraries : Libraries) (store : FileStore)
    {path other : Path} (isName : FileStore.IsFileName path)
    (isName' : FileStore.IsFileName other) (same : path.components = other.components)
    (document : Value) :
    loadDocument libraries store.read path = .ok document ↔
      loadDocument libraries store.read other = .ok document := by
  rw [loadDocument_eq_ok_iff, loadDocument_eq_ok_iff,
    FileStore.read_of_components store isName isName' same, Encoding.ofPath_of_components same]

end DesignTokens
