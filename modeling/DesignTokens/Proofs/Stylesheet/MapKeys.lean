import DesignTokens.Proofs.Document.TokenValues
import DesignTokens.Proofs.Identifier.MapKey
import DesignTokens.Proofs.Stylesheet.Declarations
import DesignTokens.Proofs.Stylesheet.Maps
import DesignTokens.Proofs.Tree.LastWrite

/-!
The keys of written maps, those of groups and those of composite tokens. The names that they are
written for are distinct in each map, and so are the keys unless two names are spelled alike.
-/

namespace DesignTokens
namespace Scss

/-- The maps in the text of a tree, and how the names of each of them are spelled. -/
inductive HasMap (spell : List Char → List Char) :
    Nat → Tree → (String → String) → Nat → List MapEntry → Prop
  | group {depth entries} :
      HasMap spell depth (.group entries) (Identifier.segmentBy spell) depth
        (groupEntries spell depth entries)
  | inside {depth entries name tree nameOf inner written} : (name, tree) ∈ entries →
      HasMap spell (depth + 1) tree nameOf inner written →
      HasMap spell depth (.group entries) nameOf inner written
  | composite {depth token fields} : token.category.isComposite = true →
      token.value = .object fields → fields ≠ [] →
      HasMap spell depth (.leaf token) Identifier.kebab depth (compositeEntries depth fields)

variable {spell : List Char → List Char}

theorem indented_inj (depth : Nat) {first second : String} :
    indented depth first = indented depth second ↔ first = second :=
  Text.replaceChar_inj_of_head rfl

theorem value_infix_mapText (depth : Nat) {entry : MapEntry} {entries : List MapEntry}
    (member : entry ∈ entries) : entry.value.toList <:+: (mapText depth entries).toList := by
  obtain ⟨before, after, rfl⟩ := List.append_of_mem member
  let opening := "(\n" ++ String.join (before.map (MapEntry.text (depth + 1))) ++
    String.ofList (indent (depth + 1)) ++ entry.key ++ ": "
  let closing := ",\n" ++ String.join (after.map (MapEntry.text (depth + 1))) ++
    String.ofList (indent depth) ++ ")"
  have whole : mapText depth (before ++ entry :: after) = opening ++ entry.value ++ closing := by
    simp only [mapText, List.map_append, List.map_cons, String.join_append, String.join_cons,
      MapEntry.text, opening, closing, String.append_assoc]
  exact ⟨opening.toList, closing.toList, by rw [whole]; simp only [String.toList_append]⟩

theorem HasMap.standsIn {depth inner : Nat} {tree : Tree} {nameOf : String → String}
    {written : List MapEntry} (hasMap : HasMap spell depth tree nameOf inner written) :
    (mapText inner written).toList <:+: (valueText spell depth tree).toList := by
  induction hasMap with
  | group =>
      rw [valueText_group]
  | @inside depth entries name tree _ _ _ member _ ih =>
      have isEntry : ⟨name, Identifier.mapKeyBy spell name, valueText spell (depth + 1) tree⟩ ∈
          groupEntries spell depth entries := List.mem_map.mpr ⟨(name, tree), member, rfl⟩
      have inMap := value_infix_mapText depth isEntry
      rw [valueText_group]
      exact ih.trans inMap
  | composite isComposite isObject someField =>
      rw [valueText_composite isComposite isObject someField]

section

variable {depth inner : Nat} {tree : Tree} {nameOf : String → String} {written : List MapEntry}

/-- The names of a map are distinct: those of a group by the way the tree is built, and those of a
composite token because its value names no field twice. -/
theorem HasMap.nodup_names (hasMap : HasMap spell depth tree nameOf inner written)
    (wellFormed : tree.WellFormed)
    (values : ∀ token ∈ Tree.leaves tree, token.value.WellFormed) :
    (written.map MapEntry.name).Nodup := by
  induction hasMap with
  | @group depth entries =>
      have names : (groupEntries spell depth entries).map MapEntry.name = entries.map Prod.fst := by
        simp [groupEntries]
      rw [names]
      exact ((Tree.wellFormed_group_iff entries).mp wellFormed).2.distinct
  | inside member _ ih =>
      apply ih
      · exact ((Tree.wellFormed_group_iff _).mp wellFormed).2.trees _ member
      · intro token isLeaf
        exact values token (Tree.leaves_subset member isLeaf)
  | @composite depth token fields _ isObject _ =>
      have names : (compositeEntries depth fields).map MapEntry.name = fields.map Prod.fst := by
        simp [compositeEntries]
      have wellFormedValue := values token (by simp [Tree.leaves])
      rw [isObject] at wellFormedValue
      rw [names]
      exact wellFormedValue.1

theorem HasMap.key_eq_iff (hasMap : HasMap spell depth tree nameOf inner written) :
    ∀ first ∈ written, ∀ second ∈ written, first.key = second.key ↔
      first.name = second.name ∨
        (nameOf first.name = nameOf second.name ∧ nameOf first.name ≠ "") := by
  induction hasMap with
  | group =>
      intro first isEntry second alsoEntry
      obtain ⟨entry, -, rfl⟩ := List.mem_map.mp isEntry
      obtain ⟨other, -, rfl⟩ := List.mem_map.mp alsoEntry
      dsimp only
      exact Identifier.mapKeyBy_eq_iff entry.1 other.1
  | inside _ _ ih => exact ih
  | composite =>
      intro first isEntry second alsoEntry
      obtain ⟨field, -, rfl⟩ := List.mem_map.mp isEntry
      obtain ⟨other, -, rfl⟩ := List.mem_map.mp alsoEntry
      rw [indented_inj]
      exact Identifier.kebab_eq_iff field.1 other.1

theorem HasMap.nodup_keys_iff (hasMap : HasMap spell depth tree nameOf inner written)
    (distinct : (written.map MapEntry.name).Nodup) :
    (written.map MapEntry.key).Nodup ↔ ∀ first ∈ written, ∀ second ∈ written,
      first.name ≠ second.name → nameOf first.name = nameOf second.name →
        nameOf first.name = "" := by
  rw [List.nodup_map_iff_inj_on (List.Nodup.of_map _ distinct)]
  have sameKey := hasMap.key_eq_iff
  constructor
  · intro injective first isEntry second alsoEntry different spelledAlike
    by_contra written
    have same := (sameKey first isEntry second alsoEntry).mpr (.inr ⟨spelledAlike, written⟩)
    exact different (congrArg MapEntry.name (injective first isEntry second alsoEntry same))
  · intro apart first isEntry second alsoEntry same
    apply List.inj_on_of_nodup_map distinct isEntry alsoEntry
    rcases (sameKey first isEntry second alsoEntry).mp same with sameName | ⟨spelledAlike, written⟩
    · exact sameName
    · by_contra different
      exact written (apart first isEntry second alsoEntry different spelledAlike)

end

theorem valueText_top (tree : Tree) : valueText spell 0 tree = topValue spell tree := by
  cases tree with
  | leaf token => exact indented_zero (renderToken token)
  | group entries => simp [valueText, topValue, indent]

theorem valueText_infix_stylesheet {tokens : List Token} {name : String} {tree : Tree}
    (member : (name, tree) ∈ Tree.ofTokens tokens) :
    (valueText spell 0 tree).toList <:+: (stylesheet spell .nested tokens).toList := by
  have declares :
      (Identifier.segmentBy spell name, topValue spell tree) ∈ declared spell .nested tokens :=
    List.mem_map.mpr ⟨(name, tree), member, rfl⟩
  rcases consistsOf_declared spell .nested tokens with ⟨-, empty⟩ | whole
  · rw [empty] at declares
    cases declares
  · have among := Text.infix_joinWith (gap .nested)
      (List.mem_map_of_mem (f := fun entry => declaration entry.1 entry.2) declares)
    have inDeclaration : (valueText spell 0 tree).toList <:+:
        (declaration (Identifier.segmentBy spell name) (topValue spell tree)).toList := by
      rw [valueText_top]
      exact ⟨("$" ++ Identifier.segmentBy spell name ++ ": ").toList, ";".toList,
        by simp [declaration]⟩
    rw [whole, String.toList_append]
    exact inDeclaration.trans (among.trans (List.prefix_append _ _).isInfix)

end Scss

/-- Every map of a nested stylesheet stands in it as it is written entry by entry. The names of its
entries are distinct, and its keys are distinct unless two of these names are spelled alike: as
segments in a group, in kebab case in a composite token. Names that are not spelled at all are
quoted, and quotations never clash. -/
theorem compile_distinguishes_keys {spell : List Char → List Char} {document : Value}
    (wellFormed : document.WellFormed) {options : Options} (isNested : options.style = .nested)
    {compilation : Compilation} (compiled : compile spell document options = .ok compilation) :
    ∃ final,
      options.finalTokens (Document.tokens document (options.dialectOf document)) = .ok final ∧
      Scss.ConsistsOf .nested compilation.contents ((Tree.ofTokens final).map fun entry =>
        (Identifier.segmentBy spell entry.1, Scss.valueText spell 0 entry.2)) ∧
      ∀ entry ∈ Tree.ofTokens final, ∀ nameOf depth written,
        Scss.HasMap spell 0 entry.2 nameOf depth written →
        (Scss.mapText depth written).toList <:+: compilation.contents.toList ∧
        (written.map Scss.MapEntry.name).Nodup ∧
        ((written.map Scss.MapEntry.key).Nodup ↔ ∀ first ∈ written, ∀ second ∈ written,
          first.name ≠ second.name → nameOf first.name = nameOf second.name →
            nameOf first.name = "") := by
  obtain ⟨final, finished, rfl⟩ := (compile_eq_ok_iff _ _ _ _).mp compiled
  have values := Options.finalTokens_wellFormed finished
    (Document.tokens_wellFormed wellFormed (options.dialectOf document))
  refine ⟨final, finished, ?_, ?_⟩
  · simp only [isNested, Scss.valueText_top]
    exact Scss.consistsOf_declared spell .nested final
  · rintro ⟨name, tree⟩ member nameOf depth written hasMap
    have wellFormedTree := (Tree.wellFormedAmong_ofTokens final).trees (name, tree) member
    have wellFormedValues : ∀ token ∈ Tree.leaves tree, token.value.WellFormed := by
      intro token isLeaf
      exact values token (Tree.mem_of_mem_leavesAmong_ofTokens (Tree.leaves_subset member isLeaf))
    have distinct := hasMap.nodup_names wellFormedTree wellFormedValues
    refine ⟨?_, distinct, hasMap.nodup_keys_iff distinct⟩
    rw [isNested]
    exact hasMap.standsIn.trans (Scss.valueText_infix_stylesheet member)

def cardDocument : Value :=
  .object [("card", .object [("@", .object [("$value", .text "0")]),
    ("%", .object [("$value", .text "1")]),
    ("edge", .object [("$type", .text "border"),
      ("$value", .object [("color", .text "#00f"), ("lineWidth", .text "1px")])])])]

def cardSheet : String :=
  "$card: (\n  \"@\": 0,\n  \"%\": 1,\n  edge: (\n    color: #00f,\n    line-width: 1px,\n  ),\n);\n"

def cardEdge : List (String × Value) :=
  [("color", .text "#00f"), ("lineWidth", .text "1px")]

def cardTokens : List Token :=
  [⟨["card", "@"], .unknown, .text "0"⟩, ⟨["card", "%"], .unknown, .text "1"⟩,
    ⟨["card", "edge"], .border, .object cardEdge⟩]

def cardEntries : List (String × Tree) :=
  (["@", "%", "edge"].zip cardTokens).map fun entry => (entry.1, .leaf entry.2)

theorem cardDocument_distinguishes_keys :
    cardDocument.WellFormed ∧
    compile id cardDocument { style := .nested } = .ok ⟨cardSheet, .dtcg, 3⟩ ∧
    (Scss.groupEntries id 0 cardEntries).map Scss.MapEntry.key = ["\"@\"", "\"%\"", "edge"] ∧
    (Scss.mapText 0 (Scss.groupEntries id 0 cardEntries)).toList <:+: cardSheet.toList ∧
    ((Scss.groupEntries id 0 cardEntries).map Scss.MapEntry.key).Nodup ∧
    (Scss.compositeEntries 1 cardEdge).map Scss.MapEntry.key = ["color", "line-width"] ∧
    (Scss.mapText 1 (Scss.compositeEntries 1 cardEdge)).toList <:+: cardSheet.toList ∧
    ((Scss.compositeEntries 1 cardEdge).map Scss.MapEntry.key).Nodup := by
  have wellFormed : cardDocument.WellFormed := by
    simp [cardDocument, Value.WellFormed, Value.WellFormedFields]
  have compiled : compile id cardDocument { style := .nested } = .ok ⟨cardSheet, .dtcg, 3⟩ := by
    decide +kernel
  obtain ⟨final, finished, -, maps⟩ := compile_distinguishes_keys wellFormed rfl compiled
  have known : Options.finalTokens { style := .nested } (Document.tokens cardDocument .dtcg) =
      .ok cardTokens := by rfl
  have sameDialect : Options.dialectOf { style := .nested } cardDocument = .dtcg := rfl
  rw [sameDialect, known] at finished
  cases finished
  have card : ("card", Tree.group cardEntries) ∈ Tree.ofTokens cardTokens :=
    List.mem_singleton.mpr rfl
  have edge : ("edge", Tree.leaf ⟨["card", "edge"], .border, .object cardEdge⟩) ∈ cardEntries := by
    simp [cardEntries, cardTokens]
  obtain ⟨inSheet, -, distinctKeys⟩ := maps _ card _ _ _ .group
  obtain ⟨edgeInSheet, -, edgeKeys⟩ := maps _ card _ _ _ (.inside edge
    (.composite rfl rfl (List.cons_ne_nil _ _)))
  refine ⟨wellFormed, compiled, by decide +kernel, inSheet, ?_, by decide +kernel, edgeInSheet, ?_⟩
  · rw [distinctKeys]
    decide +kernel
  · rw [edgeKeys]
    decide +kernel

def widthsDocument : Value :=
  .object [("size", .object [("fooBar", .object [("$value", .text "1px")]),
      ("foo-bar", .object [("$value", .text "2px")])]),
    ("edge", .object [("$type", .text "border"),
      ("$value", .object [("lineWidth", .text "1px"), ("line-width", .text "2px")])])]

def widthsSheet : String :=
  "$size: (\n  foo-bar: 1px,\n  foo-bar: 2px,\n);\n\n$edge: (\n  line-width: 1px,\n  line-width: 2px,\n);\n"

def widthsGroup : List (String × Tree) :=
  [("fooBar", .leaf ⟨["size", "fooBar"], .unknown, .text "1px"⟩),
    ("foo-bar", .leaf ⟨["size", "foo-bar"], .unknown, .text "2px"⟩)]

/-- Names that are spelled alike repeat a key, in a group and in a composite token. -/
theorem widthsDocument_repeats_keys :
    widthsDocument.WellFormed ∧
    compile id widthsDocument { style := .nested } = .ok ⟨widthsSheet, .dtcg, 3⟩ ∧
    (Scss.groupEntries id 0 widthsGroup).map Scss.MapEntry.key = ["foo-bar", "foo-bar"] ∧
    (Scss.compositeEntries 0 [("lineWidth", .text "1px"), ("line-width", .text "2px")]).map
      Scss.MapEntry.key = ["line-width", "line-width"] ∧
    ¬ ∀ document options compilation final, document.WellFormed → options.style = .nested →
      compile id document options = .ok compilation →
      options.finalTokens (Document.tokens document (options.dialectOf document)) = .ok final →
      ∀ entry ∈ Tree.ofTokens final, ∀ nameOf depth written,
        Scss.HasMap id 0 entry.2 nameOf depth written →
          (written.map Scss.MapEntry.key).Nodup := by
  have wellFormed : widthsDocument.WellFormed := by
    simp [widthsDocument, Value.WellFormed, Value.WellFormedFields]
  have compiled : compile id widthsDocument { style := .nested } = .ok ⟨widthsSheet, .dtcg, 3⟩ := by
    decide +kernel
  have keys :
      (Scss.groupEntries id 0 widthsGroup).map Scss.MapEntry.key = ["foo-bar", "foo-bar"] := by
    decide +kernel
  refine ⟨wellFormed, compiled, keys, by decide +kernel, ?_⟩
  intro distinct
  have finished : Options.finalTokens { style := .nested }
      (Document.tokens widthsDocument .dtcg) =
      .ok [⟨["size", "fooBar"], .unknown, .text "1px"⟩,
        ⟨["size", "foo-bar"], .unknown, .text "2px"⟩,
        ⟨["edge"], .border,
          .object [("lineWidth", .text "1px"), ("line-width", .text "2px")]⟩] := by
    rfl
  have ofGroup := distinct widthsDocument { style := .nested } _ _ wellFormed rfl compiled finished
    ("size", .group widthsGroup) List.mem_cons_self _ _ _ .group
  rw [keys] at ofGroup
  exact absurd ofGroup (by decide)

end DesignTokens
