import DesignTokens.Proofs.Identifier.VariableName
import DesignTokens.Proofs.Stylesheet.Tokens

/-!
The variables that a stylesheet declares at its top. Their names have name characters only, and one
is the name of a variable unless nothing on its path is written or what is written begins with a
digit.
-/

namespace DesignTokens

namespace Scss

section

variable (spell : List Char → List Char)

def topValue : Tree → String
  | .leaf token => renderToken token
  | .group entries => "(\n" ++ mapLines spell 1 entries ++ ")"

/-- The names and values of the declarations at the top. -/
def declared : Style → List Token → List (String × String)
  | .flat, tokens =>
      tokens.map fun token => (Identifier.variableNameBy spell token.path, renderToken token)
  | .nested, tokens =>
      (Tree.ofTokens tokens).map fun entry =>
        (Identifier.segmentBy spell entry.1, topValue spell entry.2)

end

def gap : Style → String
  | .flat => "\n"
  | .nested => "\n\n"

/-- A stylesheet is empty or consists of its declarations. -/
def ConsistsOf (style : Style) (contents : String) (declarations : List (String × String)) : Prop :=
  contents = "" ∧ declarations = [] ∨
    contents = Text.joinWith (gap style)
      (declarations.map fun entry => declaration entry.1 entry.2) ++ "\n"

theorem consistsOf_declared (spell : List Char → List Char) (style : Style) (tokens : List Token) :
    ConsistsOf style (stylesheet spell style tokens) (declared spell style tokens) := by
  by_cases empty : tokens = []
  · rw [empty]
    exact .inl ⟨rfl, by cases style <;> rfl⟩
  · right
    have notEmpty : tokens.isEmpty = false := List.isEmpty_eq_false_iff.mpr empty
    cases style with
    | flat =>
        simp only [stylesheet, notEmpty, Bool.false_eq_true, if_false, declared, gap, List.map_map]
        rfl
    | nested =>
        have sameDeclaration (entry : String × Tree) : mapDeclaration spell entry.1 entry.2 =
            declaration (Identifier.segmentBy spell entry.1) (topValue spell entry.2) := by
          cases entry.2 <;> rfl
        simp only [stylesheet, notEmpty, Bool.false_eq_true, if_false, declared, gap, List.map_map,
          sameDeclaration]
        rfl

/-- The paths that name the variables: those of all tokens, or the first names by themselves. -/
def declaredPaths : Style → List (List String) → List (List String)
  | .flat, paths => paths
  | .nested, paths => (paths.filterMap List.head?).eraseDups.map fun name => [name]

theorem names_declared (spell : List Char → List Char) (style : Style) (tokens : List Token) :
    (declared spell style tokens).map Prod.fst =
      (declaredPaths style (tokens.map Token.path)).map (Identifier.variableNameBy spell) := by
  cases style with
  | flat => simp [declared, declaredPaths]
  | nested =>
      have names := congrArg (List.map (Identifier.segmentBy spell)) (Tree.keys_ofTokens tokens)
      simp only [List.map_map] at names
      simp only [declared, declaredPaths, List.map_map, List.filterMap_map, Function.comp_def,
        Identifier.variableNameBy_singleton]
      exact names

end Scss

/-- A compiled document declares one variable for each path of its tokens, or for each first name
of one. All characters of its name are name characters; and it has the name of a variable just when
some name of the path is written and the first of these does not begin with a digit. -/
theorem compile_declares_variables {spell : List Char → List Char} {document : Value}
    {options : Options} {compilation : Compilation}
    (compiled : compile spell document options = .ok compilation) :
    let found := Document.tokens document (options.dialectOf document)
    let paths := Scss.declaredPaths options.style (found.map Token.path)
    ∃ final, options.finalTokens found = .ok final ∧
      Scss.ConsistsOf options.style compilation.contents (Scss.declared spell options.style final) ∧
      (Scss.declared spell options.style final).map Prod.fst =
        paths.map (Identifier.variableNameBy spell) ∧
      ∀ path ∈ paths,
        (∀ character ∈ (Identifier.variableNameBy spell path).toList,
          Identifier.isNameChar character = true) ∧
        (Identifier.IsVariable (Identifier.variableNameBy spell path) ↔
          ∃ name first, Identifier.firstWritten? spell path = some name ∧
            (Identifier.segmentBy spell name).toList.head? = some first ∧
            first.isDigit = false) := by
  intro found paths
  obtain ⟨final, finished, rfl⟩ := (compile_eq_ok_iff _ _ _ _).mp compiled
  refine ⟨final, finished, Scss.consistsOf_declared spell options.style final, ?_, ?_⟩
  · rw [Scss.names_declared, Options.finalTokens_paths finished]
  · intro path _
    exact ⟨fun _ => Identifier.isNameChar_of_mem_variableNameBy,
      Identifier.isVariable_variableNameBy_iff path⟩

def headingDocument : Value :=
  .object [("@", .object [("Font Size", .object [("$value", .text "18px")])]),
    ("2xl", .object [("gap", .object [("$value", .text "32px")])])]

theorem headingDocument_declares_variables :
    compile id headingDocument {} = .ok ⟨"$font-size: 18px;\n$2xl-gap: 32px;\n", .dtcg, 2⟩ ∧
    Identifier.IsVariable (Identifier.variableNameBy id ["@", "Font Size"]) ∧
    ¬ Identifier.IsVariable (Identifier.variableNameBy id ["2xl", "gap"]) := by
  have compiled : compile id headingDocument {} =
      .ok ⟨"$font-size: 18px;\n$2xl-gap: 32px;\n", .dtcg, 2⟩ := by
    decide +kernel
  obtain ⟨final, -, -, -, names⟩ := compile_declares_variables compiled
  have paths : Scss.declaredPaths .flat
      ((Document.tokens headingDocument .dtcg).map Token.path) =
        [["@", "Font Size"], ["2xl", "gap"]] :=
    rfl
  have sameDialect : Options.dialectOf {} headingDocument = .dtcg := rfl
  rw [sameDialect, paths, List.forall_mem_cons, List.forall_mem_singleton] at names
  refine ⟨compiled, ?_, ?_⟩
  · apply names.1.2.mpr
    exact ⟨"Font Size", 'f', by decide +kernel, by decide +kernel, rfl⟩
  · rw [names.2.2]
    rintro ⟨name, first, found, begins, noDigit⟩
    have written : Identifier.firstWritten? id ["2xl", "gap"] = some "2xl" := by decide +kernel
    have digit : (Identifier.segmentBy id "2xl").toList.head? = some '2' := by decide +kernel
    rw [written, Option.some.injEq] at found
    rw [← found, digit, Option.some.injEq] at begins
    rw [← begins] at noDigit
    exact absurd noDigit (by decide)

def numberedDocument : Value :=
  .object [("1", .object [("$value", .text "4px")]), ("@", .object [("$value", .text "8px")])]

/-- A path of a number gives no name of a variable, and one of a sign alone no name at all. -/
theorem numberedDocument_declares_no_variables :
    compile id numberedDocument {} = .ok ⟨"$1: 4px;\n$: 8px;\n", .dtcg, 2⟩ ∧
    Scss.ConsistsOf .flat "$1: 4px;\n$: 8px;\n" [("1", "4px"), ("", "8px")] ∧
    ¬ Identifier.IsVariable "1" ∧ ¬ Identifier.IsVariable "" := by
  refine ⟨?_, ?_, ?_, ?_⟩
  · decide +kernel
  · exact .inr rfl
  · decide
  · decide

end DesignTokens
