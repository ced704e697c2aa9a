import DesignTokens.Proofs.Reference.Graph
import Mathlib.Logic.Relation

/-!
What the references of a value come to, said without a walk: by replacing one after the other until
none is left that has a meaning. There is a result for the values that mention no cycle, and it is
the only solution of the equations that substitution gives.
-/

namespace DesignTokens
namespace Reference

variable {meaning : Meaning} {value result : Value}

/-- The value with all its references replaced, and the references of what replaces them. -/
inductive Resolves (meaning : Meaning) : Value → Value → Prop
  | reference {content key source result} : RefersTo content key → meaning key = some source →
      Resolves meaning source result → Resolves meaning (.text content) result
  | text {content} : (∀ key, RefersTo content key → meaning key = none) →
      Resolves meaning (.text content) (.text content)
  -- Field by field, so that no second relation for lists of fields is needed.
  | noFields : Resolves meaning (.object []) (.object [])
  | field {name value result fields results} : Resolves meaning value result →
      Resolves meaning (.object fields) (.object results) →
      Resolves meaning (.object ((name, value) :: fields)) (.object ((name, result) :: results))
  | null : Resolves meaning .null .null
  | boolean {truth} : Resolves meaning (.boolean truth) (.boolean truth)
  | number {amount} : Resolves meaning (.number amount) (.number amount)
  | list {items} : Resolves meaning (.list items) (.list items)

theorem Resolves.functional {other : Value} (resolves : Resolves meaning value result)
    (resolvesOther : Resolves meaning value other) : result = other := by
  induction resolves generalizing other with
  | reference refers known _ ih =>
      cases resolvesOther with
      | reference refersOther knownOther sourceOther =>
          rw [← refers.unique refersOther, known] at knownOther
          cases knownOther
          exact ih sourceOther
      | text unknown => simp [unknown _ refers] at known
  | text unknown =>
      cases resolvesOther with
      | reference refersOther knownOther => simp [unknown _ refersOther] at knownOther
      | text => rfl
  | noFields => cases resolvesOther; rfl
  | field _ _ ihValue ihFields =>
      cases resolvesOther with
      | field valueOther fieldsOther =>
          have sameValue := ihValue valueOther
          have sameFields := ihFields fieldsOther
          cases sameValue
          cases sameFields
          rfl
  | null | boolean | number | list => cases resolvesOther; rfl

theorem Resolves.acc (resolves : Resolves meaning value result) {key : String}
    (mentions : Mentions value key) (known : (meaning key).isSome) :
    Acc (fun next key => Leads meaning key next) key := by
  induction resolves generalizing key with
  | reference refers knownSource _ ih =>
      have same := refers.unique ((mentions_text _ _).mp mentions)
      subst same
      constructor
      rintro next ⟨source, sourceOf, mentionsNext, knownNext⟩
      rw [knownSource] at sourceOf
      cases sourceOf
      exact ih mentionsNext knownNext
  | text unknown =>
      simp [unknown _ ((mentions_text _ _).mp mentions)] at known
  | noFields => simp at mentions
  | field _ _ ihValue ihFields =>
      rcases (mentions_field _ _ _ _).mp mentions with mentions | mentions
      · exact ihValue mentions known
      · exact ihFields mentions known
  | null | boolean | number | list => cases mentions

theorem Resolves.settled (resolves : Resolves meaning value result) {key : String}
    (mentions : Mentions result key) : meaning key = none := by
  induction resolves with
  | reference _ _ _ ih => exact ih mentions
  | text unknown => exact unknown key ((mentions_text _ _).mp mentions)
  | noFields => simp at mentions
  | field _ _ ihValue ihFields =>
      rcases (mentions_field _ _ _ _).mp mentions with mentions | mentions
      · exact ihValue mentions
      · exact ihFields mentions
  | null | boolean | number | list => cases mentions

mutual

theorem resolves_self : ∀ value, (∀ key, Mentions value key → meaning key = none) →
    Resolves meaning value value
  | .text _, settled => .text fun key refers => settled key (.text refers)
  | .object fields, settled => resolves_self_fields fields settled
  | .null, _ => .null
  | .boolean _, _ => .boolean
  | .number _, _ => .number
  | .list _, _ => .list

theorem resolves_self_fields : ∀ fields,
    (∀ key, Mentions (.object fields) key → meaning key = none) →
    Resolves meaning (.object fields) (.object fields)
  | [], _ => .noFields
  | (name, value) :: fields, settled =>
      .field
        (resolves_self value fun key mentions =>
          settled key ((mentions_field name value fields key).mpr (Or.inl mentions)))
        (resolves_self_fields fields fun key mentions =>
          settled key ((mentions_field name value fields key).mpr (Or.inr mentions)))

end

mutual

/-- The value with each reference that has a referent replaced by it, at any depth of objects. -/
def replaceReferences (referent? : String → Option Value) : Value → Value
  | .text content => (referent? content).getD (.text content)
  | .object fields => .object (replaceInFields referent? fields)
  | value => value

def replaceInFields (referent? : String → Option Value) :
    List (String × Value) → List (String × Value)
  | [] => []
  | (name, value) :: fields =>
      (name, replaceReferences referent? value) :: replaceInFields referent? fields

end

theorem Resolves.replaceReferences_eq {referent? : String → Option Value}
    (resolves : Resolves meaning value result)
    (unknown : ∀ content, (∀ key, RefersTo content key → meaning key = none) →
      referent? content = none)
    (known : ∀ content key source result, RefersTo content key → meaning key = some source →
      Resolves meaning source result → replaceReferences referent? source = result →
      referent? content = some result) :
    replaceReferences referent? value = result := by
  induction resolves with
  | reference refers knownSource source ih =>
      -- Referents that only solve the equations of replacement agree by the induction hypothesis.
      simp [replaceReferences, known _ _ _ _ refers knownSource source ih]
  | text noMeaning => simp [replaceReferences, unknown _ noMeaning]
  | noFields => rfl
  | field _ _ ihValue ihFields =>
      simp only [replaceReferences, Value.object.injEq] at ihFields
      simp [replaceReferences, replaceInFields, ihValue, ihFields]
  | null | boolean | number | list => rfl

end Reference
end DesignTokens
