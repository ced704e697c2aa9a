import DesignTokens.Reference.Resolution
import Mathlib.Data.List.Basic

/-!
What refers to what. A text refers to a key by its spelling, and a value mentions the keys of its
references outside lists. The meaning of a key is the value of the token that defines it, and a key
leads to the keys with a meaning that its own meaning mentions.
-/

namespace DesignTokens
namespace Reference

/-- A text is a key in braces and nothing else; the key is not empty and has no braces. -/
def RefersTo (text key : String) : Prop :=
  text = "\x7b" ++ key ++ "\x7d" ∧ key ≠ "" ∧
    ∀ character ∈ key.toList, character ≠ '\x7b' ∧ character ≠ '\x7d'

instance (text key : String) : Decidable (RefersTo text key) :=
  inferInstanceAs (Decidable (_ ∧ _ ∧ _))

theorem any_isBrace_eq_false_iff (characters : List Char) :
    characters.any isBrace = false ↔
      ∀ character ∈ characters, character ≠ '\x7b' ∧ character ≠ '\x7d' := by
  simp [isBrace]

theorem refersTo_of_target? {text key : String} (found : target? text = some key) :
    RefersTo text key := by
  unfold target? at found
  split at found
  · simp at found
  · rename_i first rest characters
    simp only [Bool.and_eq_true, decide_eq_true_eq, beq_iff_eq, Bool.not_eq_true',
      Option.ite_none_right_eq_some, Option.some.injEq] at found
    obtain ⟨⟨⟨⟨opening, closing⟩, nonempty⟩, noBraces⟩, rfl⟩ := found
    have ending : rest.dropLast ++ ['\x7d'] = rest := List.dropLast_append_getLast? _ closing
    refine ⟨String.toList_injective ?_, ?_, ?_⟩
    · simp [characters, opening, ending]
    · intro empty
      simp [← String.toList_inj] at empty
      simp [empty] at nonempty
    · simpa using (any_isBrace_eq_false_iff _).mp noBraces

theorem target?_of_refersTo {text key : String} (refers : RefersTo text key) :
    target? text = some key := by
  obtain ⟨rfl, nonempty, noBraces⟩ := refers
  have someCharacter : key.toList ≠ [] := by simpa using nonempty
  have noBrace := (any_isBrace_eq_false_iff _).mpr noBraces
  simp [target?, noBrace, someCharacter]

theorem target?_eq_some_iff (text key : String) : target? text = some key ↔ RefersTo text key :=
  ⟨refersTo_of_target?, target?_of_refersTo⟩

theorem target?_eq_none_iff (text : String) :
    target? text = none ↔ ∀ key, ¬ RefersTo text key := by
  simp only [← target?_eq_some_iff, Option.eq_none_iff_forall_ne_some, ne_eq]

theorem RefersTo.unique {text key other : String} (refers : RefersTo text key)
    (refersOther : RefersTo text other) : key = other := by
  rw [← target?_eq_some_iff] at refers refersOther
  exact Option.some.inj (refers.symm.trans refersOther)

/-- A value mentions the keys of its references: of itself, or of a field at any depth. A list
mentions nothing. -/
inductive Mentions : Value → String → Prop
  | text {content key} : RefersTo content key → Mentions (.text content) key
  | field {name value fields key} : (name, value) ∈ fields → Mentions value key →
      Mentions (.object fields) key

@[simp] theorem mentions_text (content key : String) :
    Mentions (.text content) key ↔ RefersTo content key := by
  constructor
  · rintro ⟨refers⟩
    exact refers
  · exact .text

@[simp] theorem not_mentions_noFields (key : String) : ¬ Mentions (.object []) key := by
  rintro (_ | ⟨member, _⟩)
  simp at member

@[simp] theorem mentions_field (name : String) (value : Value) (fields : List (String × Value))
    (key : String) :
    Mentions (.object ((name, value) :: fields)) key ↔
      Mentions value key ∨ Mentions (.object fields) key := by
  constructor
  · rintro (_ | ⟨member, mentions⟩)
    rcases List.mem_cons.mp member with first | later
    · cases first
      exact Or.inl mentions
    · exact Or.inr (.field later mentions)
  · rintro (mentions | mentions)
    · exact .field List.mem_cons_self mentions
    · cases mentions with
      | field member mentions => exact .field (List.mem_cons_of_mem _ member) mentions

abbrev Meaning := String → Option Value

def Leads (meaning : Meaning) (key next : String) : Prop :=
  ∃ source, meaning key = some source ∧ Mentions source next ∧ (meaning next).isSome

/-- The token that defines a key is the last one of it. -/
def owner? (tokens : List Token) (key : String) : Option Token :=
  tokens.reverse.find? fun token => token.key = key

theorem owner?_eq_some_iff (tokens : List Token) (key : String) (owner : Token) :
    owner? tokens key = some owner ↔ ∃ before after, tokens = before ++ owner :: after ∧
      owner.key = key ∧ ∀ later ∈ after, later.key ≠ key := by
  simp only [owner?, List.find?_eq_some_iff_append, decide_eq_true_eq, Bool.not_eq_true',
    decide_eq_false_iff_not]
  constructor
  · rintro ⟨ownKey, after, before, split, unlike⟩
    refine ⟨before.reverse, after.reverse, ?_, ownKey, ?_⟩
    · rw [← List.reverse_reverse tokens, split]
      simp
    · simpa using unlike
  · rintro ⟨before, after, rfl, ownKey, unlike⟩
    exact ⟨ownKey, after.reverse, before.reverse, by simp, by simpa using unlike⟩

theorem owner?_mem {tokens : List Token} {key : String} {owner : Token}
    (owns : owner? tokens key = some owner) : owner ∈ tokens := by
  simpa using List.mem_of_find?_eq_some owns

theorem owner?_isSome_iff (tokens : List Token) (key : String) :
    (owner? tokens key).isSome ↔ ∃ token ∈ tokens, token.key = key := by
  simp [owner?, List.find?_isSome]

def meaningIn (tokens : List Token) : Meaning :=
  fun key => (owner? tokens key).map Token.value

theorem meaningIn_eq_some_iff (tokens : List Token) (key : String) (source : Value) :
    meaningIn tokens key = some source ↔
      ∃ owner, owner? tokens key = some owner ∧ owner.value = source := by
  simp [meaningIn]

theorem meaningIn_isSome_iff (tokens : List Token) (key : String) :
    (meaningIn tokens key).isSome ↔ ∃ token ∈ tokens, token.key = key := by
  simp [meaningIn, owner?_isSome_iff]

theorem meaningIn_eq_none_iff (tokens : List Token) (key : String) :
    meaningIn tokens key = none ↔ key ∉ tokens.map Token.key := by
  rw [← Option.not_isSome_iff_eq_none, meaningIn_isSome_iff, List.mem_map]

def Definitions.meaning (defined : Definitions) : Meaning :=
  fun key => defined.lookup key

theorem Definitions.contains_eq_isSome (defined : Definitions) (key : String) :
    Entries.contains key defined = (defined.meaning key).isSome :=
  rfl

theorem definitions_meaning (tokens : List Token) :
    (definitions tokens).meaning = meaningIn tokens := by
  funext key
  rw [Definitions.meaning, definitions, ← List.map_reverse, meaningIn, owner?]
  induction tokens.reverse with
  | nil => rfl
  | cons token rest ih =>
      by_cases same : token.key = key
      · simp [same]
      · have different : (key == token.key) = false := by simpa using Ne.symm same
        simpa [List.lookup_cons, same, different] using ih

end Reference
end DesignTokens
