import DesignTokens.Proofs.Reference.Walk
import Mathlib.Data.List.Forall2

/-!
What resolving a list of tokens gives. It succeeds exactly when every value has a result, which says
nothing about the order of the tokens, and exactly when no key leads back to itself.
-/

namespace DesignTokens
namespace Reference

variable {meaning : Meaning} {defined : Definitions} {tokens results : List Token}

structure ResolvesTo (meaning : Meaning) (token result : Token) : Prop where
  path : result.path = token.path
  category : result.category = token.category
  value : Resolves meaning token.value result.value

theorem ResolvesTo.key {token result : Token}
    (resolves : ResolvesTo meaning token result) : result.key = token.key := by
  rw [Token.key, resolves.path, Token.key]

theorem ResolvesTo.functional {token result other : Token}
    (resolves : ResolvesTo meaning token result) (resolvesOther : ResolvesTo meaning token other) :
    result = other := by
  have samePath := resolves.path.trans resolvesOther.path.symm
  have sameCategory := resolves.category.trans resolvesOther.category.symm
  have sameValue := resolves.value.functional resolvesOther.value
  cases result
  cases other
  exact (Token.mk.injEq ..).mpr ⟨samePath, sameCategory, sameValue⟩

theorem contains_keyed_iff (tokens : List Token) (key : String) :
    Entries.contains key (tokens.map fun token => (token.key, token)) = true ↔
      ∃ token ∈ tokens, token.key = key := by
  rw [Entries.contains, List.lookup_isSome_iff]
  simp [@eq_comm _ key]

theorem resolveToken_ok {before after : List Token} {token : Token}
    {resolved afterwards : Resolved} {result : Value}
    (same : defined.meaning = meaningIn (before ++ token :: after))
    (sound : Sound defined.meaning resolved)
    (ran : resolveToken defined token.key token (after.map fun token => (token.key, token))
      resolved = .ok (result, afterwards)) :
    Resolves defined.meaning token.value result ∧ Sound defined.meaning afterwards := by
  have faithful := follow_faithful defined defined.length []
  unfold resolveToken at ran
  by_cases shadowed : ∃ later ∈ after, later.key = token.key
  · rw [if_pos ((contains_keyed_iff _ _).mpr shadowed)] at ran
    exact substitute_ok faithful token.value resolved result afterwards sound ran
  · rw [if_neg (mt (contains_keyed_iff _ _).mp shadowed)] at ran
    have owns : owner? (before ++ token :: after) token.key = some token :=
      (owner?_eq_some_iff _ _ _).mpr ⟨before, after, rfl, rfl, by simpa using shadowed⟩
    have known : defined.meaning token.key = some token.value := by
      rw [same, meaningIn_eq_some_iff]
      exact ⟨token, owns, rfl⟩
    exact faithful token.key token.value resolved result afterwards known sound ran

theorem resolveToken_error {key : String} {token : Token} {later : List (String × Token)}
    {resolved : Resolved} {cycle : Cycle}
    (ran : resolveToken defined key token later resolved = .error cycle) :
    ∃ next earlier, follow defined defined.length [] next earlier = .error cycle := by
  unfold resolveToken at ran
  by_cases shadowed : Entries.contains key later
  · rw [if_pos shadowed] at ran
    obtain ⟨next, earlier, _, _, failed⟩ := substitute_error token.value resolved cycle ran
    exact ⟨next, earlier, failed⟩
  · rw [if_neg shadowed] at ran
    exact ⟨key, resolved, ran⟩

theorem resolveKeyed_ok (before rest : List Token) (resolved : Resolved)
    (results : List Token) (same : defined.meaning = meaningIn (before ++ rest))
    (sound : Sound defined.meaning resolved)
    (ran : resolveKeyed defined (rest.map fun token => (token.key, token)) resolved = .ok results) :
    List.Forall₂ (ResolvesTo defined.meaning) rest results := by
  induction rest generalizing before resolved results with
  | nil =>
      cases ran
      exact .nil
  | cons token rest ih =>
      rw [List.map_cons, resolveKeyed] at ran
      cases first : resolveToken defined token.key token
          (rest.map fun token => (token.key, token)) resolved with
      | error cycle => simp [first] at ran
      | ok found =>
          obtain ⟨result, between⟩ := found
          obtain ⟨resolves, soundBetween⟩ := resolveToken_ok same sound first
          simp only [first] at ran
          cases later : resolveKeyed defined (rest.map fun token => (token.key, token)) between with
          | error cycle => simp [later] at ran
          | ok restResults =>
              simp only [later] at ran
              cases ran
              have moved : defined.meaning = meaningIn ((before ++ [token]) ++ rest) := by
                simpa using same
              exact .cons ⟨rfl, rfl, resolves⟩ (ih _ between restResults moved soundBetween later)

theorem resolveKeyed_error {keyed : List (String × Token)} {resolved : Resolved} {cycle : Cycle}
    (ran : resolveKeyed defined keyed resolved = .error cycle) :
    ∃ key earlier, follow defined defined.length [] key earlier = .error cycle := by
  induction keyed generalizing resolved with
  | nil => simp [resolveKeyed] at ran
  | cons entry rest ih =>
      obtain ⟨key, token⟩ := entry
      rw [resolveKeyed] at ran
      cases first : resolveToken defined key token rest resolved with
      | error other =>
          simp only [first] at ran
          cases ran
          exact resolveToken_error first
      | ok found =>
          obtain ⟨result, between⟩ := found
          simp only [first] at ran
          cases later : resolveKeyed defined rest between with
          | error other =>
              simp only [later] at ran
              cases ran
              exact ih later
          | ok restResults => simp [later] at ran

theorem resolve_ok (ran : resolve tokens = .ok results) :
    List.Forall₂ (ResolvesTo (meaningIn tokens)) tokens results := by
  rw [← definitions_meaning]
  exact resolveKeyed_ok [] tokens [] results (definitions_meaning tokens) (sound_nil _) ran

theorem resolve_error {cycle : Cycle} (ran : resolve tokens = .error cycle) :
    ClosedWalk (meaningIn tokens) cycle := by
  obtain ⟨key, earlier, failed⟩ := resolveKeyed_error ran
  rw [← definitions_meaning]
  exact follow_closedWalk _ (walk_nil _ key) (by simp) failed

theorem exists_related {α β : Type} {related : α → β → Prop} {first : List α} {second : List β}
    (matched : List.Forall₂ related first second) {item : α} (member : item ∈ first) :
    ∃ partner ∈ second, related item partner := by
  induction matched with
  | nil => simp at member
  | cons relates _ ih =>
      rcases List.mem_cons.mp member with rfl | member
      · exact ⟨_, List.mem_cons_self, relates⟩
      · obtain ⟨partner, later, relatesLater⟩ := ih member
        exact ⟨partner, List.mem_cons_of_mem _ later, relatesLater⟩

theorem map_eq_map_of_related {α β γ : Type} {related : α → β → Prop} {first : List α}
    {second : List β} {f : α → γ} {g : β → γ} (matched : List.Forall₂ related first second)
    (same : ∀ item partner, related item partner → g partner = f item) :
    second.map g = first.map f := by
  rw [← List.forall₂_eq_eq_eq, List.forall₂_map_left_iff, List.forall₂_map_right_iff]
  exact matched.flip.imp fun partner item relates => same item partner relates

theorem ClosedWalk.cyclic {cycle : Cycle} (closed : ClosedWalk meaning cycle) :
    ∃ key, Relation.TransGen (Leads meaning) key key := by
  obtain ⟨visiting, key, rfl, walk, member⟩ := closed
  obtain ⟨lead, loop, rfl⟩ := List.append_of_mem member
  have chain : (key :: (loop ++ [key])).IsChain (Leads meaning) := by
    have whole := walk.chain
    rw [List.append_assoc] at whole
    exact whole.right_of_append
  have steps := chain.imp fun _ _ => Relation.TransGen.single
  exact ⟨key, steps.rel_cons (by simp)⟩

theorem not_cyclic_of_acc {key : String} (acc : Acc (fun next key => Leads meaning key next) key) :
    ¬ Relation.TransGen (Leads meaning) key key := by
  induction acc with
  | intro key _ ih =>
      intro cyclic
      obtain ⟨next, leads, back⟩ := Relation.TransGen.head'_iff.mp cyclic
      exact ih next leads (Relation.TransGen.tail' back leads)

theorem not_cyclic_of_resolves
    (matched : List.Forall₂ (ResolvesTo (meaningIn tokens)) tokens results) (key : String) :
    ¬ Relation.TransGen (Leads (meaningIn tokens)) key key := by
  intro cyclic
  -- No token has to mention the key itself, but its owner mentions the next key of the cycle.
  obtain ⟨next, leads, back⟩ := Relation.TransGen.head'_iff.mp cyclic
  obtain ⟨source, known, mentions, knownNext⟩ := leads
  obtain ⟨owner, owns, rfl⟩ := (meaningIn_eq_some_iff _ _ _).mp known
  obtain ⟨result, _, resolves⟩ := exists_related matched (owner?_mem owns)
  have acc := resolves.value.acc mentions knownNext
  exact not_cyclic_of_acc acc (Relation.TransGen.tail' back ⟨_, known, mentions, knownNext⟩)

/-- Resolving gives the tokens with the results of their values, and fails if one has none. -/
theorem resolve_eq_ok_iff (tokens results : List Token) :
    resolve tokens = .ok results ↔
      List.Forall₂ (ResolvesTo (meaningIn tokens)) tokens results := by
  constructor
  · exact resolve_ok
  · intro matched
    cases ran : resolve tokens with
    | error cycle =>
        obtain ⟨key, cyclic⟩ := (resolve_error ran).cyclic
        exact absurd cyclic (not_cyclic_of_resolves matched key)
    | ok others =>
        have unique : Relator.RightUnique (ResolvesTo (meaningIn tokens)) :=
          fun _ _ _ first second => first.functional second
        rw [unique.forall₂ matched (resolve_ok ran)]

theorem resolve_fails_iff_cyclic (tokens : List Token) :
    (∃ cycle, resolve tokens = .error cycle) ↔
      ∃ key, Relation.TransGen (Leads (meaningIn tokens)) key key := by
  constructor
  · rintro ⟨cycle, ran⟩
    exact (resolve_error ran).cyclic
  · rintro ⟨key, cyclic⟩
    cases ran : resolve tokens with
    | error cycle => exact ⟨cycle, rfl⟩
    | ok results => exact absurd cyclic (not_cyclic_of_resolves (resolve_ok ran) key)

theorem resolve_succeeds_iff (tokens : List Token) :
    (∃ results, resolve tokens = .ok results) ↔
      ∀ token ∈ tokens, ∃ result, ResolvesTo (meaningIn tokens) token result := by
  constructor
  · rintro ⟨results, ran⟩ token member
    obtain ⟨result, _, resolves⟩ := exists_related (resolve_ok ran) member
    exact ⟨result, resolves⟩
  · intro each
    choose! resultOf resolves using each
    refine ⟨tokens.map resultOf, (resolve_eq_ok_iff _ _).mpr ?_⟩
    rw [List.forall₂_map_right_iff, List.forall₂_same]
    exact resolves

theorem resolveHeld_eq_ok_iff (held results : List Token) :
    resolveHeld held = (.ok (), results) ↔
      List.Forall₂ (ResolvesTo (meaningIn held)) held results := by
  rw [← resolve_eq_ok_iff, resolveHeld]
  cases ran : resolve held <;> simp

theorem resolveHeld_eq_error_iff (held afterwards : List Token) (failure : Failure) :
    resolveHeld held = (.error failure, afterwards) ↔
      ∃ cycle, resolve held = .error cycle ∧ failure = .circularReference cycle ∧
        afterwards = held := by
  rw [resolveHeld]
  cases ran : resolve held <;> simp [eq_comm]

end Reference
end DesignTokens
