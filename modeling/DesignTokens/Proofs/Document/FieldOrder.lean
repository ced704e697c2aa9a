import DesignTokens.Proofs.Document.Detection
import DesignTokens.Proofs.Document.Groups
import DesignTokens.Proofs.Entries

/-!
Documents that differ in the order of fields only. The order may differ in every object but those
that are the value of a token, or part of one. Such documents are of one dialect.
-/

namespace DesignTokens

open Document (Fields)

namespace Value

/-- Two values with the same fields in objects, in whatever order. At the places in `fixed`, and
below them, the order is the same. A place is told by the names that lead to it from here. -/
inductive Reordered : (List String → Prop) → Value → Value → Prop
  | same {fixed value} : Reordered fixed value value
  | object {fixed} {fields others : Fields} : ¬ fixed [] →
      (fields.map Prod.fst).Perm (others.map Prod.fst) →
      (∀ name child other, (name, child) ∈ fields → (name, other) ∈ others →
        Reordered (fun path => fixed (name :: path)) child other) →
      Reordered fixed (.object fields) (.object others)
  | list {fixed} {items others : List Value} : ¬ fixed [] → items.length = others.length →
      (∀ (index : Nat) item other, items[index]? = some item → others[index]? = some other →
        Reordered (fun _ => False) item other) →
      Reordered fixed (.list items) (.list others)

variable {fixed : List String → Prop} {value other : Value} {fields others : Fields}

theorem Reordered.symm (reordered : Reordered fixed value other) :
    Reordered fixed other value := by
  induction reordered with
  | same => exact .same
  | object free sameNames _ ih =>
      apply Reordered.object free sameNames.symm
      intro name child otherChild member memberOther
      exact ih name otherChild child memberOther member
  | list free sameLength _ ih =>
      apply Reordered.list free sameLength.symm
      intro index item otherItem here hereOther
      exact ih index otherItem item hereOther here

theorem Reordered.eq_of_fixed (reordered : Reordered fixed value other) (isFixed : fixed []) :
    value = other := by
  cases reordered with
  | same => rfl
  | object free => exact absurd isFixed free
  | list free => exact absurd isFixed free

theorem Reordered.text?_eq (reordered : Reordered fixed value other) :
    value.text? = other.text? := by
  cases reordered <;> rfl

theorem Reordered.exists_fields (reordered : Reordered fixed (.object fields) other) :
    ∃ others, other = .object others := by
  cases reordered with
  | same => exact ⟨fields, rfl⟩
  | object => exact ⟨_, rfl⟩

theorem Reordered.names_perm (reordered : Reordered fixed (.object fields) (.object others)) :
    (fields.map Prod.fst).Perm (others.map Prod.fst) := by
  cases reordered with
  | same => exact .rfl
  | object _ sameNames => exact sameNames

theorem exists_entry_of_name {name : String} (known : name ∈ fields.map Prod.fst) :
    ∃ child, (name, child) ∈ fields := by
  obtain ⟨⟨same, child⟩, member, rfl⟩ := List.mem_map.mp known
  exact ⟨child, member⟩

theorem Reordered.exists_of_mem {name : String} {child : Value}
    (reordered : Reordered fixed (.object fields) (.object others))
    (member : (name, child) ∈ fields) :
    ∃ otherChild, (name, otherChild) ∈ others ∧
      Reordered (fun path => fixed (name :: path)) child otherChild := by
  cases reordered with
  | same => exact ⟨child, member, .same⟩
  | object _ sameNames children =>
      have known := sameNames.subset (List.mem_map_of_mem member)
      obtain ⟨otherChild, memberOther⟩ := exists_entry_of_name known
      exact ⟨otherChild, memberOther, children name child otherChild member memberOther⟩

theorem Reordered.of_lookup (free : ¬ fixed [])
    (sameNames : (fields.map Prod.fst).Perm (others.map Prod.fst))
    (distinct : (others.map Prod.fst).Nodup)
    (children : ∀ entry ∈ fields, ∃ other, others.lookup entry.1 = some other ∧
      Reordered (fun path => fixed (entry.1 :: path)) entry.2 other) :
    Reordered fixed (.object fields) (.object others) := by
  apply Reordered.object free sameNames
  intro name child other member memberOther
  obtain ⟨found, known, reordered⟩ := children (name, child) member
  rw [(Entries.lookup_eq_some_iff_mem distinct name other).mpr memberOther] at known
  cases known
  exact reordered

theorem Reordered.wellFormed (reordered : Reordered fixed value other)
    (wellFormed : value.WellFormed) : other.WellFormed := by
  induction reordered with
  | same => exact wellFormed
  | @object _ fields others _ sameNames _ ih =>
      obtain ⟨distinct, children⟩ := wellFormed
      refine ⟨sameNames.nodup_iff.mp distinct, (wellFormedFields_iff others).mpr ?_⟩
      rintro ⟨name, otherChild⟩ memberOther
      have known := sameNames.symm.subset (List.mem_map_of_mem memberOther)
      obtain ⟨child, member⟩ := exists_entry_of_name known
      exact ih name child otherChild member memberOther (wellFormed_of_mem children member)
  | @list _ items others _ sameLength _ ih =>
      apply (wellFormedItems_iff others).mpr
      intro otherItem member
      obtain ⟨index, within, rfl⟩ := List.mem_iff_getElem.mp member
      have withinItems : index < items.length := sameLength ▸ within
      have itemWellFormed := (wellFormedItems_iff items).mp wellFormed _
        (List.getElem_mem withinItems)
      exact ih index items[index] others[index] (List.getElem?_eq_getElem withinItems)
        (List.getElem?_eq_getElem within) itemWellFormed

theorem Reordered.contains_eq (reordered : Reordered fixed (.object fields) (.object others))
    (name : String) : Entries.contains name fields = Entries.contains name others := by
  have sameNames : name ∈ fields.map Prod.fst ↔ name ∈ others.map Prod.fst :=
    reordered.names_perm.mem_iff
  rw [Bool.eq_iff_iff, Entries.contains, Entries.contains, Option.isSome_iff_ne_none,
    Option.isSome_iff_ne_none, ne_eq, ne_eq, Entries.lookup_eq_none_iff_not_mem,
    Entries.lookup_eq_none_iff_not_mem, sameNames]

theorem Reordered.lookup {name : String} {child : Value}
    (reordered : Reordered fixed (.object fields) (.object others))
    (wellFormed : (Value.object fields).WellFormed) (known : fields.lookup name = some child) :
    ∃ otherChild, others.lookup name = some otherChild ∧
      Reordered (fun path => fixed (name :: path)) child otherChild := by
  have distinctOthers := (reordered.wellFormed wellFormed).1
  have member := (Entries.lookup_eq_some_iff_mem wellFormed.1 name child).mp known
  obtain ⟨otherChild, memberOther, reorderedChild⟩ := reordered.exists_of_mem member
  have knownOther := (Entries.lookup_eq_some_iff_mem distinctOthers name otherChild).mpr memberOther
  exact ⟨otherChild, knownOther, reorderedChild⟩

theorem Reordered.lookup_eq_none (reordered : Reordered fixed (.object fields) (.object others))
    {name : String} (absent : fields.lookup name = none) : others.lookup name = none := by
  have notContained : Entries.contains name others = false := by
    rw [← reordered.contains_eq name, Entries.contains, absent, Option.isSome_none]
  simpa [Entries.contains] using notContained

theorem Reordered.lookup_eq_of_fixed {name : String}
    (reordered : Reordered fixed (.object fields) (.object others))
    (wellFormed : (Value.object fields).WellFormed) (isFixed : fixed [name]) :
    others.lookup name = fields.lookup name := by
  cases known : fields.lookup name with
  | some child =>
      obtain ⟨otherChild, knownOther, reorderedChild⟩ := reordered.lookup wellFormed known
      rw [knownOther, reorderedChild.eq_of_fixed isFixed]
  | none => exact reordered.lookup_eq_none known

theorem Reordered.text_lookup_eq (reordered : Reordered fixed (.object fields) (.object others))
    (wellFormed : (Value.object fields).WellFormed) (name : String) :
    (fields.lookup name).bind text? = (others.lookup name).bind text? := by
  cases known : fields.lookup name with
  | some child =>
      obtain ⟨otherChild, knownOther, reorderedChild⟩ := reordered.lookup wellFormed known
      rw [knownOther]
      exact reorderedChild.text?_eq
  | none => rw [reordered.lookup_eq_none known]

end Value

namespace Document

open Value (Reordered)

variable {fixed : List String → Prop} {document other : Value}

theorem exists_reaches_of_reordered {fields : Fields} (reordered : Reordered fixed document other)
    (reaches : Reaches document (.object fields)) :
    ∃ others free, Reaches other (.object others) ∧
      Reordered free (.object fields) (.object others) := by
  generalize target : Value.object fields = node at reaches
  induction reaches generalizing fixed other with
  | root =>
      subst target
      obtain ⟨others, rfl⟩ := reordered.exists_fields
      exact ⟨others, fixed, .root, reordered⟩
  | field member plain _ ih =>
      obtain ⟨group, rfl⟩ := reordered.exists_fields
      obtain ⟨child, memberOther, reorderedChild⟩ := reordered.exists_of_mem member
      obtain ⟨others, free, reachesOther, reorderedNode⟩ := ih reorderedChild target
      exact ⟨others, free, .field memberOther plain reachesOther, reorderedNode⟩

/-- A test of objects that asks for names of fields only. -/
def IgnoresOrder (test : Fields → Bool) : Prop :=
  ∀ fixed fields others, Reordered fixed (.object fields) (.object others) →
    test fields = test others

theorem isDtcgToken_ignoresOrder : IgnoresOrder isDtcgToken := by
  intro fixed fields others reordered
  exact reordered.contains_eq "$value"

theorem isStudioToken_ignoresOrder : IgnoresOrder isStudioToken := by
  intro fixed fields others reordered
  rw [isStudioToken, reordered.contains_eq "value", reordered.contains_eq "type", isStudioToken]

theorem anyObject_of_reordered {test : Fields → Bool} (ignores : IgnoresOrder test)
    (reordered : Reordered fixed document other) :
    anyObject test document = anyObject test other := by
  have onward {document other : Value} (reordered : Reordered fixed document other)
      (found : anyObject test document = true) : anyObject test other = true := by
    obtain ⟨fields, reaches, passes⟩ := reaches_of_anyObject document found
    obtain ⟨others, free, reachesOther, reorderedNode⟩ :=
      exists_reaches_of_reordered reordered reaches
    have passesOther : test others = true := ignores _ _ _ reorderedNode ▸ passes
    exact anyObject_of_reaches reachesOther passesOther
  rw [Bool.eq_iff_iff]
  exact ⟨onward reordered, onward reordered.symm⟩

theorem detect_of_reordered (reordered : Reordered fixed document other) :
    detect document = detect other := by
  rw [detect, detect, anyObject_of_reordered isDtcgToken_ignoresOrder reordered,
    anyObject_of_reordered isStudioToken_ignoresOrder reordered]

end Document
end DesignTokens
