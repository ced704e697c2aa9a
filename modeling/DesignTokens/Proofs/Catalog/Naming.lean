import DesignTokens.Catalog.Name
import Mathlib.Data.List.Infix

/-!
The names of one base. A text that has no scheme and no extension of its own is the base of every
name that puts a scheme before it or an extension after it.
-/

namespace DesignTokens
namespace Catalog

/-- Nothing is taken off a text, and nothing more than an extension that is put after it. -/
structure IsBase (text : String) : Prop where
  noScheme : ¬ scheme.toList <+: text.toList
  noTokens : ¬ ".tokens".toList <:+ text.toList
  noExtension : ∀ extension ∈ extensions, ¬ extension.toList <:+ text.toList

/-- The names that a base is spelled as. -/
def spellings (text : String) : List String :=
  [text, scheme ++ text] ++ extensions.map (fun extension => text ++ extension) ++
    extensions.map fun extension => scheme ++ text ++ extension

theorem withoutStart_append (start text : List Char) :
    withoutStart start (start ++ text) = text := by
  simp [withoutStart]

theorem withoutStart_of_not_prefix {start text : List Char} (other : ¬ start <+: text) :
    withoutStart start text = text := by
  simp [withoutStart, other]

theorem withoutEnd?_append (finish text : List Char) :
    withoutEnd? finish (text ++ finish) = some text := by
  simp [withoutEnd?]

theorem withoutEnd?_eq_none_iff (finish text : List Char) :
    withoutEnd? finish text = none ↔ ¬ finish <:+ text := by
  simp [withoutEnd?]

/-- The text before the first extension that fits. -/
def withoutExtension (text : List Char) : List Char :=
  (extensions.findSome? fun extension => withoutEnd? extension.toList text).getD text

theorem base_eq (name : String) :
    base name = String.ofList (withoutExtension (withoutStart scheme.toList name.toList)) :=
  rfl

theorem withoutExtension_of_none {text : List Char}
    (noExtension : ∀ extension ∈ extensions, ¬ extension.toList <:+ text) :
    withoutExtension text = text := by
  have found : (extensions.findSome? fun extension => withoutEnd? extension.toList text) =
      none := by
    rw [List.findSome?_eq_none_iff]
    intro extension member
    rw [withoutEnd?_eq_none_iff]
    exact noExtension extension member
  rw [withoutExtension, found]
  rfl

theorem withoutExtension_of_first (earlier : List String) {later : List String}
    {text : List Char} {extension : String} (whole : extensions = earlier ++ extension :: later)
    (others : ∀ other ∈ earlier, ¬ other.toList <:+ text ++ extension.toList) :
    withoutExtension (text ++ extension.toList) = text := by
  have found : (extensions.findSome? fun other =>
      withoutEnd? other.toList (text ++ extension.toList)) = some text := by
    rw [List.findSome?_eq_some_iff]
    refine ⟨earlier, extension, later, whole, withoutEnd?_append _ _, ?_⟩
    intro other member
    rw [withoutEnd?_eq_none_iff]
    exact others other member
  rw [withoutExtension, found]
  rfl

/-- Only the first two extensions overlap, in what a base may not end in. -/
theorem withoutExtension_append {text : List Char} (noTokens : ¬ ".tokens".toList <:+ text)
    {extension : String} (member : extension ∈ extensions) :
    withoutExtension (text ++ extension.toList) = text := by
  have tokensJson : ".tokens.json".toList = ".tokens".toList ++ ".json".toList := by rfl
  simp only [extensions, List.mem_cons, List.not_mem_nil, or_false] at member
  rcases member with rfl | rfl | rfl | rfl
  · apply withoutExtension_of_first [] rfl
    simp
  · apply withoutExtension_of_first [".tokens.json"] rfl
    rw [List.forall_mem_singleton, tokensJson, List.suffix_append_self_iff]
    exact noTokens
  · apply withoutExtension_of_first [".tokens.json", ".json"] rfl
    simp [← List.reverse_prefix, List.cons_prefix_cons]
  · apply withoutExtension_of_first [".tokens.json", ".json", ".yaml"] rfl
    simp [← List.reverse_prefix, List.cons_prefix_cons]

/-- An extension begins with a dot, and the scheme has none. -/
theorem not_scheme_prefix_append {text : List Char} (noScheme : ¬ scheme.toList <+: text)
    {extension : String} (member : extension ∈ extensions) :
    ¬ scheme.toList <+: text ++ extension.toList := by
  rintro ⟨rest, whole⟩
  rcases List.append_eq_append_iff.mp whole with ⟨between, isText, -⟩ | ⟨between, isScheme, isEnd⟩
  · exact noScheme ⟨between, isText.symm⟩
  · have noDot : '.' ∉ scheme.toList := by simp [scheme]
    have dotFirst : extension.toList.head? = some '.' := by
      simp only [extensions, List.mem_cons, List.not_mem_nil, or_false] at member
      rcases member with rfl | rfl | rfl | rfl <;> rfl
    cases between with
    | nil =>
        rw [List.append_nil] at isScheme
        exact noScheme (isScheme ▸ List.prefix_rfl)
    | cons first others =>
        have isDot : first = '.' := by simpa [isEnd] using dotFirst
        apply noDot
        rw [isScheme, isDot]
        simp

theorem IsBase.base_of_spelling {text name : String} (isBase : IsBase text)
    (spelled : name ∈ spellings text) : base name = text := by
  have bare (name : String) (isBare : withoutStart scheme.toList name.toList = text.toList) :
      base name = text := by
    rw [base_eq, isBare, withoutExtension_of_none isBase.noExtension, String.ofList_toList]
  have extended (name extension : String) (member : extension ∈ extensions)
      (isExtended : withoutStart scheme.toList name.toList =
        text.toList ++ extension.toList) : base name = text := by
    rw [base_eq, isExtended, withoutExtension_append isBase.noTokens member, String.ofList_toList]
  simp only [spellings, List.mem_append, List.mem_cons, List.not_mem_nil, or_false,
    List.mem_map] at spelled
  rcases spelled with ((rfl | rfl) | ⟨extension, member, rfl⟩) | ⟨extension, member, rfl⟩
  · apply bare
    exact withoutStart_of_not_prefix isBase.noScheme
  · apply bare
    rw [String.toList_append]
    exact withoutStart_append _ _
  · apply extended _ extension member
    rw [String.toList_append]
    exact withoutStart_of_not_prefix (not_scheme_prefix_append isBase.noScheme member)
  · apply extended _ extension member
    rw [String.toList_append, String.toList_append, List.append_assoc]
    exact withoutStart_append _ _

end Catalog
end DesignTokens
