import DesignTokens.Proofs.Document.ReorderedTokens
import DesignTokens.Proofs.Reference.Order
import DesignTokens.Proofs.Stylesheet.Tokens

/-!
Stylesheets of documents that differ in the order of fields. Their tokens come in another order, and
when each key is that of one token, so do the declarations, which are the same otherwise.
-/

namespace DesignTokens

variable {spell : List Char → List Char} {document other : Value} {options : Options}

namespace Scss

/-- The stylesheet consists of these declarations, each on a new line. -/
def Declares (contents : String) (declarations : List String) : Prop :=
  contents = String.join (declarations.map (· ++ "\n"))

theorem declares_flat (spell : List Char → List Char) (tokens : List Token) :
    Declares (stylesheet spell .flat tokens) (tokens.map (variableDeclaration spell)) := by
  rw [Declares, stylesheet_flat, List.map_map]
  congr 2
  funext token
  simp [variableDeclaration, declaration, renderToken, String.append_assoc]

end Scss

theorem Options.finalTokens_of_perm {tokens shuffled final : List Token}
    (permuted : tokens.Perm shuffled) (distinct : (tokens.map Token.key).Nodup)
    (ran : options.finalTokens tokens = .ok final) :
    ∃ others, options.finalTokens shuffled = .ok others ∧ final.Perm others := by
  rw [Options.finalTokens] at ran ⊢
  by_cases resolves : options.resolvesAliases
  · rw [if_pos resolves] at ran ⊢
    split at ran
    · rename_i results ranHeld
      cases ran
      obtain ⟨others, ranOther, permutedResults⟩ :=
        Reference.resolveHeld_of_perm permuted distinct ranHeld
      exact ⟨others, by rw [ranOther], permutedResults⟩
    · cases ran
  · rw [if_neg resolves] at ran ⊢
    cases ran
    exact ⟨shuffled, rfl, permuted⟩

theorem Options.dialectOf_of_reordered {fixed : List String → Prop}
    (reordered : document.Reordered fixed other) :
    options.dialectOf document = options.dialectOf other := by
  rw [Options.dialectOf, Document.detect_of_reordered reordered, Options.dialectOf]

theorem compile_of_reordered (wellFormed : document.WellFormed)
    (reordered : document.Reordered (Document.HoldsTokenValue document) other)
    (distinct : ((Document.tokens document (options.dialectOf document)).map Token.key).Nodup)
    {compilation : Compilation} (compiled : compile spell document options = .ok compilation) :
    ∃ final others, options.finalTokens
        (Document.tokens document (options.dialectOf document)) = .ok final ∧
      options.finalTokens (Document.tokens other (options.dialectOf other)) = .ok others ∧
      final.Perm others ∧
      compilation = ⟨Scss.stylesheet spell options.style final, options.dialectOf other,
        final.length⟩ ∧
      compile spell other options =
        .ok ⟨Scss.stylesheet spell options.style others, options.dialectOf other,
          others.length⟩ := by
  have sameDialect : options.dialectOf document = options.dialectOf other :=
    Options.dialectOf_of_reordered reordered
  have permuted := Document.tokens_perm_of_reordered wellFormed reordered
    (options.dialectOf document)
  obtain ⟨final, finished, rfl⟩ := (compile_eq_ok_iff _ _ _ _).mp compiled
  obtain ⟨others, finishedOther, permutedFinal⟩ :=
    Options.finalTokens_of_perm permuted distinct finished
  rw [sameDialect] at finishedOther ⊢
  refine ⟨final, others, sameDialect ▸ finished, finishedOther, permutedFinal, rfl, ?_⟩
  exact (compile_eq_ok_iff _ _ _ _).mpr ⟨others, finishedOther, rfl⟩

/-- Documents that differ in the order of fields only, and not in the values of tokens, are of one
dialect and have the same tokens. When no two tokens have one key they compile alike, with the same
declarations. -/
theorem compile_ignores_field_order (spell : List Char → List Char)
    (wellFormed : document.WellFormed)
    (reordered : document.Reordered (Document.HoldsTokenValue document) other) :
    Document.detect document = Document.detect other ∧
    (∀ dialect, (Document.tokens document dialect).Perm (Document.tokens other dialect)) ∧
    ∀ options : Options,
      ((Document.tokens document (options.dialectOf document)).map Token.key).Nodup →
      ((∃ compilation, compile spell document options = .ok compilation) ↔
        ∃ compilation, compile spell other options = .ok compilation) ∧
      ∀ compilation otherCompilation, compile spell document options = .ok compilation →
        compile spell other options = .ok otherCompilation →
        compilation.tokenCount = otherCompilation.tokenCount ∧
        ∃ final others, options.finalTokens
            (Document.tokens document (options.dialectOf document)) = .ok final ∧
          options.finalTokens (Document.tokens other (options.dialectOf other)) = .ok others ∧
          (final.map (Scss.variableDeclaration spell)).Perm
            (others.map (Scss.variableDeclaration spell)) ∧
          (options.style = .flat →
            Scss.Declares compilation.contents (final.map (Scss.variableDeclaration spell)) ∧
            Scss.Declares otherCompilation.contents
              (others.map (Scss.variableDeclaration spell))) := by
  have permuted := Document.tokens_perm_of_reordered wellFormed reordered
  refine ⟨Document.detect_of_reordered reordered, permuted, ?_⟩
  intro options distinct
  refine ⟨⟨?_, ?_⟩, ?_⟩
  · rintro ⟨compilation, compiled⟩
    obtain ⟨final, others, _, _, _, _, compiledOther⟩ :=
      compile_of_reordered wellFormed reordered distinct compiled
    exact ⟨_, compiledOther⟩
  · rintro ⟨compilation, compiledOther⟩
    -- What is fixed is said of the first document, so the way back goes through its tokens.
    obtain ⟨others, finishedOther, _⟩ := (compile_eq_ok_iff _ _ _ _).mp compiledOther
    rw [← Options.dialectOf_of_reordered reordered] at finishedOther
    have permutedTokens := permuted (options.dialectOf document)
    have distinctOther := (permutedTokens.map Token.key).nodup_iff.mp distinct
    obtain ⟨final, finished, _⟩ :=
      Options.finalTokens_of_perm permutedTokens.symm distinctOther finishedOther
    exact ⟨_, (compile_eq_ok_iff _ _ _ _).mpr ⟨final, finished, rfl⟩⟩
  · intro compilation otherCompilation compiled compiledOther
    obtain ⟨final, others, finished, finishedOther, permutedFinal, rfl, sameCompilation⟩ :=
      compile_of_reordered wellFormed reordered distinct compiled
    cases compiledOther.symm.trans sameCompilation
    refine ⟨permutedFinal.length_eq, final, others, finished, finishedOther,
      permutedFinal.map _, ?_⟩
    intro isFlat
    rw [isFlat]
    exact ⟨Scss.declares_flat spell final, Scss.declares_flat spell others⟩

def inkDocument : Value :=
  .object [("ink", .object [("$type", .text "color"),
      ("line", .object [("$value", .text "\x7bink.fill\x7d"), ("$description", .text "edges")]),
      ("fill", .object [("$value", .text "#00f")])]),
    ("lift", .object [("$value", .object [("blur", .text "4px"),
      ("color", .text "\x7bink.line\x7d")]), ("$type", .text "shadow")]),
    ("notes", .list [.object [("by", .text "design"), ("year", .null)]])]

def shuffledInk : Value :=
  .object [("notes", .list [.object [("year", .null), ("by", .text "design")]]),
    ("lift", .object [("$type", .text "shadow"), ("$value", .object [("blur", .text "4px"),
      ("color", .text "\x7bink.line\x7d")])]),
    ("ink", .object [("fill", .object [("$value", .text "#00f")]),
      ("line", .object [("$description", .text "edges"), ("$value", .text "\x7bink.fill\x7d")]),
      ("$type", .text "color")])]

theorem inkDocument_reordered :
    inkDocument.Reordered (Document.HoldsTokenValue inkDocument) shuffledInk := by
  refine .of_lookup (by decide +kernel) (by decide) (by decide) ?_
  simp only [List.forall_mem_cons]
  refine ⟨⟨_, rfl, ?ink⟩, ⟨_, rfl, ?lift⟩, ⟨_, rfl, ?notes⟩, by simp⟩
  case ink =>
    refine .of_lookup (by decide +kernel) (by decide) (by decide) ?_
    simp only [List.forall_mem_cons]
    refine ⟨⟨_, rfl, .same⟩, ⟨_, rfl, ?line⟩, ⟨_, rfl, .same⟩, by simp⟩
    refine .of_lookup (by decide +kernel) (by decide) (by decide) ?_
    simp only [List.forall_mem_cons]
    exact ⟨⟨_, rfl, .same⟩, ⟨_, rfl, .same⟩, by simp⟩
  case lift =>
    refine .of_lookup (by decide +kernel) (by decide) (by decide) ?_
    simp only [List.forall_mem_cons]
    exact ⟨⟨_, rfl, .same⟩, ⟨_, rfl, .same⟩, by simp⟩
  case notes =>
    refine .list (by decide +kernel) rfl ?_
    intro index item other here hereOther
    cases index with
    | succ => simp at here
    | zero =>
        cases here
        cases hereOther
        refine .of_lookup not_false (by decide) (by decide) ?_
        simp only [List.forall_mem_cons]
        exact ⟨⟨_, rfl, .same⟩, ⟨_, rfl, .same⟩, by simp⟩

def inkSheet : String :=
  "$ink-line: #00f;\n$ink-fill: #00f;\n$lift: (\n  blur: 4px,\n  color: #00f,\n);\n"

def shuffledSheet : String :=
  "$lift: (\n  blur: 4px,\n  color: #00f,\n);\n$ink-fill: #00f;\n$ink-line: #00f;\n"

theorem compile_inkDocument : compile id inkDocument {} = .ok ⟨inkSheet, .dtcg, 3⟩ ∧
    compile id shuffledInk {} = .ok ⟨shuffledSheet, .dtcg, 3⟩ := by
  decide +kernel

theorem inkDocument_ignores_field_order :
    inkDocument.WellFormed ∧
    inkDocument.Reordered (Document.HoldsTokenValue inkDocument) shuffledInk ∧
    ((Document.tokens inkDocument .dtcg).map Token.key).Nodup ∧
    ∃ declarations others : List String, declarations.Perm others ∧
      Scss.Declares inkSheet declarations ∧ Scss.Declares shuffledSheet others := by
  have wellFormed : inkDocument.WellFormed := by
    simp [inkDocument, Value.WellFormed, Value.WellFormedFields, Value.WellFormedItems]
  have distinct : ((Document.tokens inkDocument .dtcg).map Token.key).Nodup := by decide +kernel
  refine ⟨wellFormed, inkDocument_reordered, distinct, ?_⟩
  have agree := compile_ignores_field_order id wellFormed inkDocument_reordered
  obtain ⟨compiled, compiledShuffled⟩ := compile_inkDocument
  have distinctDetected : ((Document.tokens inkDocument
      (Options.dialectOf {} inkDocument)).map Token.key).Nodup := distinct
  obtain ⟨_, final, others, _, _, permuted, declares⟩ :=
    (agree.2.2 {} distinctDetected).2 _ _ compiled compiledShuffled
  exact ⟨_, _, permuted, declares rfl⟩

end DesignTokens
