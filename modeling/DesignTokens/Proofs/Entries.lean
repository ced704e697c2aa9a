import DesignTokens.Entries
import Mathlib.Data.List.Basic
import Mathlib.Data.List.Nodup

/-!
What putting and erasing an entry do to the keys of a list and to what is found in it.
-/

namespace DesignTokens
namespace Entries

variable {Key Content : Type} [BEq Key]

theorem put_ne_nil (key : Key) (content : Content) (entries : List (Key × Content)) :
    put key content entries ≠ [] := by
  cases entries with
  | nil => simp [put]
  | cons entry rest =>
      rw [put]
      split <;> simp

variable [LawfulBEq Key]

theorem lookup_eq_none_iff_not_mem (key : Key) (entries : List (Key × Content)) :
    entries.lookup key = none ↔ key ∉ entries.map Prod.fst := by
  rw [List.lookup_eq_none_iff, List.mem_map, not_exists]
  refine forall_congr' fun entry => ?_
  rw [not_and, bne_iff_ne, ne_comm]

theorem put_append_of_not_mem {key : Key} {entries : List (Key × Content)}
    (fresh : key ∉ entries.map Prod.fst) (content : Content) (later : List (Key × Content)) :
    put key content (entries ++ later) = entries ++ put key content later := by
  induction entries with
  | nil => rfl
  | cons entry rest ih =>
      obtain ⟨known, present⟩ := entry
      rw [List.map_cons, List.mem_cons, not_or] at fresh
      have different : (known == key) = false := by simpa using Ne.symm fresh.1
      simp [put, different, ih fresh.2]

theorem put_of_not_mem {key : Key} {entries : List (Key × Content)}
    (fresh : key ∉ entries.map Prod.fst) (content : Content) :
    put key content entries = entries ++ [(key, content)] := by
  simpa [put] using put_append_of_not_mem fresh content []

theorem put_of_first {key : Key} {before : List (Key × Content)}
    (fresh : key ∉ before.map Prod.fst) (present content : Content)
    (later : List (Key × Content)) :
    put key content (before ++ (key, present) :: later) = before ++ (key, content) :: later := by
  rw [put_append_of_not_mem fresh]
  simp [put]

theorem lookup_of_first {key : Key} {before : List (Key × Content)}
    (fresh : key ∉ before.map Prod.fst) (content : Content) (later : List (Key × Content)) :
    (before ++ (key, content) :: later).lookup key = some content := by
  rw [List.lookup_append, (lookup_eq_none_iff_not_mem key before).mpr fresh]
  simp

theorem exists_first_of_lookup {key : Key} {content : Content} {entries : List (Key × Content)}
    (found : entries.lookup key = some content) :
    ∃ before later, entries = before ++ (key, content) :: later ∧ key ∉ before.map Prod.fst := by
  obtain ⟨before, later, rfl, others⟩ := List.lookup_eq_some_iff.mp found
  refine ⟨before, later, rfl, ?_⟩
  rw [← lookup_eq_none_iff_not_mem, List.lookup_eq_none_iff]
  exact others

theorem lookup_eq_some_iff_mem {entries : List (Key × Content)}
    (distinct : (entries.map Prod.fst).Nodup) (key : Key) (content : Content) :
    entries.lookup key = some content ↔ (key, content) ∈ entries := by
  constructor
  · intro found
    obtain ⟨before, later, rfl, -⟩ := exists_first_of_lookup found
    simp
  · intro member
    obtain ⟨before, later, rfl⟩ := List.append_of_mem member
    rw [List.map_append, List.map_cons, List.nodup_middle, List.nodup_cons] at distinct
    apply lookup_of_first
    exact fun known => distinct.1 (List.mem_append_left _ known)

theorem keys_put_of_mem {key : Key} {entries : List (Key × Content)}
    (known : key ∈ entries.map Prod.fst) (content : Content) :
    (put key content entries).map Prod.fst = entries.map Prod.fst := by
  induction entries with
  | nil => simp at known
  | cons entry rest ih =>
      obtain ⟨other, present⟩ := entry
      by_cases same : other = key
      · simp [put, same]
      · have later : key ∈ rest.map Prod.fst := by
          rw [List.map_cons, List.mem_cons] at known
          exact known.resolve_left (Ne.symm same)
        have different : (other == key) = false := by simpa using same
        simp only [put, different, List.map_cons]
        exact congrArg (other :: ·) (ih later)

theorem nodup_keys_put {entries : List (Key × Content)} (distinct : (entries.map Prod.fst).Nodup)
    (key : Key) (content : Content) : ((put key content entries).map Prod.fst).Nodup := by
  by_cases known : key ∈ entries.map Prod.fst
  · rwa [keys_put_of_mem known]
  · rw [put_of_not_mem known, List.map_append]
    refine List.nodup_append.mpr ⟨distinct, List.nodup_cons.mpr ⟨List.not_mem_nil, .nil⟩, ?_⟩
    rintro other member _ last rfl
    rw [List.map_singleton, List.mem_singleton] at last
    rw [last] at member
    exact known member

theorem mem_put {key : Key} {content : Content} {entries : List (Key × Content)}
    {entry : Key × Content} (member : entry ∈ put key content entries) :
    entry = (key, content) ∨ entry ∈ entries := by
  induction entries with
  | nil => exact .inl (List.mem_singleton.mp member)
  | cons first rest ih =>
      obtain ⟨known, present⟩ := first
      rw [put] at member
      split at member
      · rename_i same
        rcases List.mem_cons.mp member with here | later
        · rw [eq_of_beq same] at here
          exact .inl here
        · exact .inr (List.mem_cons_of_mem _ later)
      · rcases List.mem_cons.mp member with here | later
        · exact .inr (here ▸ List.mem_cons_self)
        · exact (ih later).imp_right (List.mem_cons_of_mem _)

theorem lookup_put_self (key : Key) (content : Content) (entries : List (Key × Content)) :
    (put key content entries).lookup key = some content := by
  induction entries with
  | nil => simp [put]
  | cons entry rest ih =>
      obtain ⟨known, present⟩ := entry
      by_cases same : known = key
      · simp [put, same]
      · have different : (known == key) = false := by simpa using same
        have reversed : (key == known) = false := by simpa using Ne.symm same
        simp [put, different, List.lookup_cons, reversed, ih]

theorem lookup_put_of_ne {key other : Key} (different : other ≠ key) (content : Content)
    (entries : List (Key × Content)) :
    (put key content entries).lookup other = entries.lookup other := by
  induction entries with
  | nil =>
      have unequal : (other == key) = false := by simpa using different
      simp [put, List.lookup_cons, unequal]
  | cons entry rest ih =>
      obtain ⟨known, present⟩ := entry
      by_cases same : known = key
      · subst same
        have unequal : (other == known) = false := by simpa using different
        simp [put, List.lookup_cons, unequal]
      · have unequal : (known == key) = false := by simpa using same
        simp [put, unequal, List.lookup_cons, ih]

theorem put_put_self (key : Key) (first second : Content) (entries : List (Key × Content)) :
    put key second (put key first entries) = put key second entries := by
  induction entries with
  | nil => simp [put]
  | cons entry rest ih =>
      obtain ⟨known, present⟩ := entry
      by_cases same : known = key
      · simp [put, same]
      · have different : (known == key) = false := by simpa using same
        simp [put, different, ih]

/-- A key that is there keeps its place, so that it may take its content before another key does. -/
theorem put_put_put_of_ne {key other : Key} (different : other ≠ key)
    (first second content : Content) (entries : List (Key × Content)) :
    put key second (put other content (put key first entries)) =
      put other content (put key second entries) := by
  have unequal : (key == other) = false := by simpa using Ne.symm different
  induction entries with
  | nil => simp [put, unequal]
  | cons entry rest ih =>
      obtain ⟨known, present⟩ := entry
      by_cases sameKey : known = key
      · simp [put, sameKey, unequal]
      · have otherKey : (known == key) = false := by simpa using sameKey
        by_cases sameOther : known = other
        · have reversed : (other == key) = false := by simpa using different
          simp [put, sameOther, reversed, put_put_self]
        · have otherOther : (known == other) = false := by simpa using sameOther
          simp [put, otherKey, otherOther, ih]

theorem map_put_congr {Image : Type} {image : Key × Content → Image} {key : Key}
    {first second : Content} (alike : image (key, first) = image (key, second))
    (entries : List (Key × Content)) :
    (put key first entries).map image = (put key second entries).map image := by
  induction entries with
  | nil => simp [put, alike]
  | cons entry rest ih =>
      obtain ⟨known, present⟩ := entry
      by_cases same : known = key
      · simp [put, same, alike]
      · have different : (known == key) = false := by simpa using same
        simp [put, different, ih]

theorem lookup_erase_self (key : Key) (entries : List (Key × Content)) :
    (erase key entries).lookup key = none := by
  rw [lookup_eq_none_iff_not_mem]
  simp [erase]

theorem lookup_erase_of_ne {key other : Key} (different : other ≠ key)
    (entries : List (Key × Content)) :
    (erase key entries).lookup other = entries.lookup other := by
  induction entries with
  | nil => rfl
  | cons entry rest ih =>
      obtain ⟨known, present⟩ := entry
      rw [erase] at ih ⊢
      by_cases same : known = key
      · subst same
        have unequal : (other == known) = false := by simpa using different
        simp [List.lookup_cons, unequal, ih]
      · have unequal : (known == key) = false := by simpa using same
        simp [unequal, List.lookup_cons, ih]

end Entries
end DesignTokens
