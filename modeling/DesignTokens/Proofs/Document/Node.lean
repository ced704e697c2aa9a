import DesignTokens.Proofs.Entries
import DesignTokens.Value.Basic
import Mathlib.Data.List.Infix
import Mathlib.Data.List.Nodup
import Mathlib.Data.List.Perm.Basic

/-!
The nodes of a value, each at a path of field names, and their order in the value: an object comes
before what is below it, and fields come in the order of their names.
-/

namespace DesignTokens
namespace Value

theorem wellFormedItems_iff (items : List Value) :
    WellFormedItems items ↔ ∀ item ∈ items, item.WellFormed := by
  induction items with
  | nil => simp [WellFormedItems]
  | cons item rest ih => rw [WellFormedItems, ih, List.forall_mem_cons]

theorem wellFormedFields_iff (fields : List (String × Value)) :
    WellFormedFields fields ↔ ∀ field ∈ fields, field.2.WellFormed := by
  induction fields with
  | nil => simp [WellFormedFields]
  | cons field rest ih => rw [WellFormedFields, ih, List.forall_mem_cons]

theorem wellFormed_of_mem {fields : List (String × Value)} {name : String} {child : Value}
    (wellFormed : WellFormedFields fields) (member : (name, child) ∈ fields) :
    child.WellFormed :=
  (wellFormedFields_iff fields).mp wellFormed (name, child) member

/-- What stands at the end of a path through objects. -/
def node? : Value → List String → Option Value
  | value, [] => some value
  | value, name :: rest => (value.field? name).bind fun child => child.node? rest

@[simp] theorem node?_nil (value : Value) : value.node? [] = some value := rfl

theorem node?_cons (value : Value) (name : String) (rest : List String) :
    value.node? (name :: rest) = (value.field? name).bind fun child => child.node? rest := rfl

theorem node?_append (value : Value) (first second : List String) :
    value.node? (first ++ second) = (value.node? first).bind fun node => node.node? second := by
  induction first generalizing value with
  | nil => rfl
  | cons name rest ih =>
      rw [List.cons_append, node?_cons, node?_cons, Option.bind_assoc]
      exact congrArg (Option.bind _) (funext ih)

theorem wellFormed_of_node? {value node : Value} {path : List String}
    (wellFormed : value.WellFormed) (reached : value.node? path = some node) :
    node.WellFormed := by
  induction path generalizing value with
  | nil => exact Option.some.inj reached ▸ wellFormed
  | cons name rest ih =>
      obtain ⟨child, isChild, reachedBelow⟩ := Option.bind_eq_some_iff.mp reached
      cases value with
      | object fields =>
          have member := (Entries.lookup_eq_some_iff_mem wellFormed.1 name child).mp isChild
          exact ih (wellFormed_of_mem wellFormed.2 member) reachedBelow
      | null | boolean | number | text | list => simp [field?, Value.fields] at isChild

/-- The field of the object at a path. -/
def fieldAt? (value : Value) (path : List String) (name : String) : Option Value :=
  (value.node? path).bind fun node => node.field? name

theorem fieldAt?_append {value node : Value} {first : List String}
    (reached : value.node? first = some node) (second : List String) (name : String) :
    value.fieldAt? (first ++ second) name = node.fieldAt? second name := by
  rw [fieldAt?, node?_append, reached]
  rfl

/-- The order of the nodes of a value, said of their paths. -/
inductive Precedes : Value → List String → List String → Prop
  | group {value name path} : Precedes value [] (name :: path)
  | apart {fields first second firstPath secondPath} :
      List.Sublist [first, second] (fields.map Prod.fst) →
      Precedes (.object fields) (first :: firstPath) (second :: secondPath)
  | within {fields name child first second} : (name, child) ∈ fields →
      Precedes child first second → Precedes (.object fields) (name :: first) (name :: second)

theorem not_sublist_swapped {names : List String} {first second : String} (distinct : names.Nodup)
    (ordered : List.Sublist [first, second] names) :
    ¬ List.Sublist [second, first] names := by
  induction names with
  | nil => simp at ordered
  | cons name rest ih =>
      obtain ⟨fresh, distinctRest⟩ := List.nodup_cons.mp distinct
      intro swapped
      rcases List.sublist_cons_iff.mp ordered with ordered | ⟨later, same, ordered⟩
      · have secondLater : second ∈ rest := ordered.subset (by simp)
        rcases List.sublist_cons_iff.mp swapped with swapped | ⟨_, same, _⟩
        · exact ih distinctRest ordered swapped
        · obtain rfl := (List.cons.inj same).1
          exact fresh secondLater
      · obtain ⟨rfl, rfl⟩ := List.cons.inj same
        have secondLater : second ∈ rest := ordered.subset (by simp)
        rcases List.sublist_cons_iff.mp swapped with swapped | ⟨_, same, _⟩
        · exact fresh (swapped.subset (by simp))
        · obtain rfl := (List.cons.inj same).1
          exact fresh secondLater

theorem Precedes.asymm {value : Value} {first second : List String}
    (precedes : Precedes value first second) (wellFormed : value.WellFormed) :
    ¬ Precedes value second first := by
  induction precedes with
  | group => rintro ⟨⟩
  | apart ordered =>
      intro reversed
      cases reversed with
      | apart swapped => exact not_sublist_swapped wellFormed.1 ordered swapped
      | within => exact not_sublist_swapped wellFormed.1 ordered ordered
  | @within fields name child first second member _ ih =>
      intro reversed
      cases reversed with
      | apart swapped => exact not_sublist_swapped wellFormed.1 swapped swapped
      | @within _ _ other _ _ memberOther reversed =>
          have known := (Entries.lookup_eq_some_iff_mem wellFormed.1 name child).mpr member
          have knownOther :=
            (Entries.lookup_eq_some_iff_mem wellFormed.1 name other).mpr memberOther
          obtain rfl : child = other := Option.some.inj (known.symm.trans knownOther)
          exact ih (wellFormed_of_mem wellFormed.2 member) reversed

theorem Precedes.cons (entry : String × Value) {fields : List (String × Value)}
    {first second : List String} (precedes : Precedes (.object fields) first second) :
    Precedes (.object (entry :: fields)) first second := by
  cases precedes with
  | group => exact .group
  | apart ordered => exact .apart (ordered.cons entry.1)
  | within member precedes => exact .within (List.mem_cons_of_mem _ member) precedes

theorem nodup_of_precedes {value : Value} (wellFormed : value.WellFormed) {Entry : Type}
    {path : Entry → List String} {entries : List Entry}
    (ordered : entries.Pairwise fun earlier later => value.Precedes (path earlier) (path later)) :
    entries.Nodup :=
  ordered.imp fun precedes same => by
    rw [same] at precedes
    exact precedes.asymm wellFormed precedes

/-- A list in document order is the only one of its members. -/
theorem eq_iff_of_precedes {value : Value} (wellFormed : value.WellFormed) {Entry : Type}
    {path : Entry → List String} {listed : List Entry}
    (ordered : listed.Pairwise fun earlier later => value.Precedes (path earlier) (path later))
    (found : List Entry) :
    found = listed ↔ found.Nodup ∧
      (found.Pairwise fun earlier later => value.Precedes (path earlier) (path later)) ∧
      ∀ entry, entry ∈ found ↔ entry ∈ listed := by
  constructor
  · rintro rfl
    exact ⟨nodup_of_precedes wellFormed ordered, ordered, fun _ => Iff.rfl⟩
  · rintro ⟨distinct, orderedFound, members⟩
    have rearranged : found.Perm listed :=
      (List.perm_ext_iff_of_nodup distinct (nodup_of_precedes wellFormed ordered)).mpr members
    refine rearranged.eq_of_pairwise ?_ orderedFound ordered
    intro earlier later _ _ precedes reversed
    exact absurd reversed (precedes.asymm wellFormed)

end Value
end DesignTokens
