import DesignTokens.Document.Tokens
import Mathlib.Data.List.Basic

/-!
The search for tokens that both dialects share. It goes down through objects and stops at the first
one that is a token. What a search finds is told without a walk by `Search.Finds`.
-/

namespace DesignTokens
namespace Document

abbrev Fields := List (String × Value)

/-- A token that a search has found: the names on the way, what the objects on the way say of the
tokens below them, and the fields of the token. -/
structure Leaf (Context : Type) where
  path : List String
  context : Context
  fields : Fields

/-- A dialect as a search: which objects are tokens, below which names no token is looked for, and
what an object says of the tokens at it and below it. -/
structure Search (Context : Type) where
  isToken : Fields → Bool
  skips : String → Bool
  extend : Fields → Context → Context

variable {Context : Type}

def Leaf.under (name : String) (leaf : Leaf Context) : Leaf Context :=
  { leaf with path := name :: leaf.path }

@[simp] theorem Leaf.under_path (name : String) (leaf : Leaf Context) :
    (leaf.under name).path = name :: leaf.path := rfl

@[simp] theorem Leaf.under_context (name : String) (leaf : Leaf Context) :
    (leaf.under name).context = leaf.context := rfl

@[simp] theorem Leaf.under_fields (name : String) (leaf : Leaf Context) :
    (leaf.under name).fields = leaf.fields := rfl

namespace Search

variable (search : Search Context)

mutual

def atNode (context : Context) : Value → List (Leaf Context)
  | .object fields =>
      if search.isToken fields then [⟨[], search.extend fields context, fields⟩]
      else amongFields (search.extend fields context) fields
  | _ => []

def amongFields (context : Context) : Fields → List (Leaf Context)
  | [] => []
  | (name, child) :: rest =>
      if search.skips name then amongFields context rest
      else (atNode context child).map (Leaf.under name) ++ amongFields context rest

end

/-- The tokens of a document, which is no token itself. -/
def below (context : Context) : Value → List (Leaf Context)
  | .object fields =>
      if search.isToken fields then [] else search.amongFields (search.extend fields context) fields
  | _ => []

/-- A token is an object that passes the test, with none above it that does. -/
inductive Finds : Context → Value → Leaf Context → Prop
  | here {context fields} : search.isToken fields = true →
      Finds context (.object fields) ⟨[], search.extend fields context, fields⟩
  | field {context fields name child leaf} : search.isToken fields = false →
      (name, child) ∈ fields → search.skips name = false →
      Finds (search.extend fields context) child leaf →
      Finds context (.object fields) (leaf.under name)

variable {search}

theorem mem_amongFields_of_mem {context : Context} {fields : Fields} {name : String} {child : Value}
    {leaf : Leaf Context} (member : (name, child) ∈ fields) (searched : search.skips name = false)
    (found : leaf ∈ search.atNode context child) :
    leaf.under name ∈ search.amongFields context fields := by
  induction fields with
  | nil => simp at member
  | cons entry rest ih =>
      obtain ⟨other, otherChild⟩ := entry
      rw [amongFields]
      rcases List.mem_cons.mp member with first | later
      · cases first
        rw [searched]
        exact List.mem_append_left _ (List.mem_map_of_mem found)
      · split
        · exact ih later
        · exact List.mem_append_right _ (ih later)

theorem mem_atNode_of_finds {context : Context} {value : Value} {leaf : Leaf Context}
    (finds : search.Finds context value leaf) : leaf ∈ search.atNode context value := by
  induction finds with
  | here isToken => simp [atNode, isToken]
  | field isGroup member searched _ ih =>
      simpa [atNode, isGroup] using mem_amongFields_of_mem member searched ih

mutual

theorem finds_of_mem_atNode : ∀ (context : Context) (value : Value) (leaf : Leaf Context),
    leaf ∈ search.atNode context value → search.Finds context value leaf
  | context, .object fields, leaf, found => by
      rw [atNode] at found
      split at found
      · rename_i isToken
        rw [List.mem_singleton.mp found]
        exact .here isToken
      · rename_i isGroup
        obtain ⟨name, child, inner, member, searched, finds, rfl⟩ :=
          exists_finds_of_mem_amongFields _ fields leaf found
        exact .field (by simpa using isGroup) member searched finds
  | _, .null, _, found | _, .boolean _, _, found | _, .number _, _, found | _, .text _, _, found
  | _, .list _, _, found => by
      simp [atNode] at found

theorem exists_finds_of_mem_amongFields :
    ∀ (context : Context) (fields : Fields) (leaf : Leaf Context),
    leaf ∈ search.amongFields context fields → ∃ name child inner, (name, child) ∈ fields ∧
      search.skips name = false ∧ search.Finds context child inner ∧ leaf = inner.under name
  | _, [], _, found => by simp [amongFields] at found
  | context, (name, child) :: rest, leaf, found => by
      have later (found : leaf ∈ search.amongFields context rest) :
          ∃ other otherChild inner, (other, otherChild) ∈ (name, child) :: rest ∧
            search.skips other = false ∧ search.Finds context otherChild inner ∧
            leaf = inner.under other := by
        obtain ⟨other, otherChild, inner, member, remaining⟩ :=
          exists_finds_of_mem_amongFields context rest leaf found
        exact ⟨other, otherChild, inner, List.mem_cons_of_mem _ member, remaining⟩
      rw [amongFields] at found
      split at found
      · exact later found
      · rename_i searched
        rcases List.mem_append.mp found with first | found
        · obtain ⟨inner, member, rfl⟩ := List.mem_map.mp first
          exact ⟨name, child, inner, List.mem_cons_self, by simpa using searched,
            finds_of_mem_atNode context child inner member, rfl⟩
        · exact later found

end

theorem mem_below_iff (context : Context) (document : Value) (leaf : Leaf Context) :
    leaf ∈ search.below context document ↔
      search.Finds context document leaf ∧ leaf.path ≠ [] := by
  constructor
  · intro found
    cases document with
    | object fields =>
        rw [below] at found
        split at found
        · simp at found
        · rename_i isGroup
          obtain ⟨name, child, inner, member, searched, finds, rfl⟩ :=
            exists_finds_of_mem_amongFields _ fields leaf found
          exact ⟨.field (by simpa using isGroup) member searched finds, by simp⟩
    | null | boolean | number | text | list => simp [below] at found
  · rintro ⟨finds, named⟩
    cases finds with
    | here => simp at named
    | field isGroup member searched finds =>
        simpa [below, isGroup] using
          mem_amongFields_of_mem member searched (mem_atNode_of_finds finds)

end Search

def dtcgSearch : Search (Option String) := ⟨isDtcgToken, isMetadata, tagBelow⟩

def studioSearch : Search Unit := ⟨isStudioToken, fun _ => false, fun _ _ => ()⟩

def dtcgToken (groups : List String) (leaf : Leaf (Option String)) : Token :=
  ⟨groups ++ leaf.path, categoryOfTag leaf.context, (leaf.fields.lookup "$value").getD .null⟩

def studioToken (groups : List String) (leaf : Leaf Unit) : Token :=
  ⟨groups ++ leaf.path, studioCategory leaf.fields, (leaf.fields.lookup "value").getD .null⟩

theorem dtcgToken_under (groups : List String) (name : String) :
    dtcgToken groups ∘ Leaf.under name = dtcgToken (groups ++ [name]) := by
  funext leaf
  simp [dtcgToken]

theorem studioToken_under (groups : List String) (name : String) :
    studioToken groups ∘ Leaf.under name = studioToken (groups ++ [name]) := by
  funext leaf
  simp [studioToken]

mutual

theorem dtcgNode_eq : ∀ groups inherited value,
    dtcgNode groups inherited value =
      (dtcgSearch.atNode inherited value).map (dtcgToken groups)
  | groups, inherited, .object fields => by
      rw [dtcgNode, Search.atNode, dtcgFields_eq]
      cases found : fields.lookup "$value" <;>
        simp [dtcgSearch, isDtcgToken, Entries.contains, dtcgToken, found]
  | _, _, .null | _, _, .boolean _ | _, _, .number _ | _, _, .text _ | _, _, .list _ => rfl

theorem dtcgFields_eq : ∀ groups inherited fields,
    dtcgFields groups inherited fields =
      (dtcgSearch.amongFields inherited fields).map (dtcgToken groups)
  | _, _, [] => rfl
  | groups, inherited, (name, child) :: rest => by
      rw [dtcgFields, Search.amongFields, dtcgNode_eq, dtcgFields_eq]
      by_cases skipped : isMetadata name <;>
        simp [dtcgSearch, skipped, dtcgToken_under]

end

mutual

theorem studioNode_eq : ∀ groups value,
    studioNode groups value = (studioSearch.atNode () value).map (studioToken groups)
  | groups, .object fields => by
      rw [studioNode, Search.atNode, studioFields_eq]
      by_cases isToken : isStudioToken fields <;>
        simp [studioSearch, isToken, studioToken]
  | _, .null | _, .boolean _ | _, .number _ | _, .text _ | _, .list _ => rfl

theorem studioFields_eq : ∀ groups fields,
    studioFields groups fields = (studioSearch.amongFields () fields).map (studioToken groups)
  | _, [] => rfl
  | groups, (name, child) :: rest => by
      rw [studioFields, Search.amongFields, studioNode_eq, studioFields_eq]
      simp [studioSearch, studioToken_under]

end

theorem tokens_dtcg (document : Value) :
    tokens document .dtcg = (dtcgSearch.below none document).map (dtcgToken []) := by
  cases document with
  | object fields =>
      rw [tokens, Search.below, dtcgFields_eq]
      by_cases isToken : isDtcgToken fields <;> simp [dtcgSearch, isToken]
  | null | boolean | number | text | list => rfl

theorem tokens_studio (document : Value) :
    tokens document .tokensStudio = (studioSearch.below () document).map (studioToken []) := by
  cases document with
  | object fields =>
      rw [tokens, Search.below, studioFields_eq]
      by_cases isToken : isStudioToken fields <;> simp [studioSearch, isToken]
  | null | boolean | number | text | list => rfl

end Document
end DesignTokens
