import DesignTokens.Proofs.Reference.Denotation
import Mathlib.Data.List.Chain
import Mathlib.Data.List.Perm.Subperm

/-!
What the depth-first walk finds. Where it ends, its result and all that it remembers are the results
of the denotation; where it fails, it has followed a walk of known keys back to one of them. The
bound on its depth is never what stops it.
-/

namespace DesignTokens
namespace Reference

variable {meaning : Meaning} {defined : Definitions} {lookup : Lookup}

def Sound (meaning : Meaning) (resolved : Resolved) : Prop :=
  ∀ key result, resolved.lookup key = some result →
    ∃ source, meaning key = some source ∧ Resolves meaning source result

theorem sound_nil (meaning : Meaning) : Sound meaning [] := by
  intro key result found
  simp at found

theorem Sound.resolves {resolved : Resolved} {key : String}
    {source result : Value} (sound : Sound meaning resolved) (known : meaning key = some source)
    (remembered : resolved.lookup key = some result) : Resolves meaning source result := by
  obtain ⟨other, knownOther, resolves⟩ := sound key result remembered
  rw [known] at knownOther
  cases knownOther
  exact resolves

theorem Sound.remember {resolved : Resolved} {key : String}
    {source result : Value} (sound : Sound meaning resolved) (known : meaning key = some source)
    (resolves : Resolves meaning source result) : Sound meaning ((key, result) :: resolved) := by
  intro other found lookupOther
  rw [List.lookup_cons] at lookupOther
  split at lookupOther
  · rename_i same
    obtain rfl : other = key := by simpa using same
    cases lookupOther
    exact ⟨source, known, resolves⟩
  · exact sound other found lookupOther

def Faithful (meaning : Meaning) (lookup : Lookup) : Prop :=
  ∀ key source resolved result after, meaning key = some source → Sound meaning resolved →
    lookup key resolved = .ok (result, after) →
    Resolves meaning source result ∧ Sound meaning after

theorem substitute_text (defined : Definitions) (lookup : Lookup) (content : String)
    (resolved : Resolved) :
    (∃ key source, RefersTo content key ∧ defined.meaning key = some source ∧
      substitute defined lookup (.text content) resolved = lookup key resolved) ∨
    ((∀ key, RefersTo content key → defined.meaning key = none) ∧
      substitute defined lookup (.text content) resolved = .ok (.text content, resolved)) := by
  cases found : target? content with
  | none =>
      refine Or.inr ⟨fun key refers => ?_, by simp [substitute, found]⟩
      exact absurd refers ((target?_eq_none_iff _).mp found key)
  | some key =>
      have refers := refersTo_of_target? found
      cases known : defined.meaning key with
      | none =>
          refine Or.inr ⟨fun other refersOther => ?_, ?_⟩
          · rwa [← refers.unique refersOther]
          · simp [substitute, found, Definitions.contains_eq_isSome, known]
      | some source =>
          refine Or.inl ⟨key, source, refers, known, ?_⟩
          simp [substitute, found, Definitions.contains_eq_isSome, known]

mutual

theorem substitute_ok (faithful : Faithful defined.meaning lookup) : ∀ value resolved result after,
    Sound defined.meaning resolved →
    substitute defined lookup value resolved = .ok (result, after) →
    Resolves defined.meaning value result ∧ Sound defined.meaning after
  | .text content, resolved, result, after, sound, ran => by
      rcases substitute_text defined lookup content resolved with
        ⟨key, source, refers, known, looksUp⟩ | ⟨unknown, stays⟩
      · rw [looksUp] at ran
        obtain ⟨resolves, soundAfter⟩ := faithful key source resolved result after known sound ran
        exact ⟨.reference refers known resolves, soundAfter⟩
      · rw [stays] at ran
        cases ran
        exact ⟨.text unknown, sound⟩
  | .object fields, resolved, result, after, sound, ran => by
      rw [substitute] at ran
      cases substituted : substituteFields defined lookup fields resolved with
      | error cycle => simp [substituted] at ran
      | ok found =>
          obtain ⟨results, afterFields⟩ := found
          simp only [substituted] at ran
          cases ran
          exact substituteFields_ok faithful fields resolved results after sound substituted
  | .null, resolved, result, after, sound, ran => by
      cases ran
      exact ⟨.null, sound⟩
  | .boolean _, resolved, result, after, sound, ran => by
      cases ran
      exact ⟨.boolean, sound⟩
  | .number _, resolved, result, after, sound, ran => by
      cases ran
      exact ⟨.number, sound⟩
  | .list _, resolved, result, after, sound, ran => by
      cases ran
      exact ⟨.list, sound⟩

theorem substituteFields_ok (faithful : Faithful defined.meaning lookup) :
    ∀ fields resolved results after, Sound defined.meaning resolved →
    substituteFields defined lookup fields resolved = .ok (results, after) →
    Resolves defined.meaning (.object fields) (.object results) ∧ Sound defined.meaning after
  | [], resolved, results, after, sound, ran => by
      cases ran
      exact ⟨.noFields, sound⟩
  | (name, value) :: rest, resolved, results, after, sound, ran => by
      rw [substituteFields] at ran
      cases first : substitute defined lookup value resolved with
      | error cycle => simp [first] at ran
      | ok found =>
          obtain ⟨result, between⟩ := found
          obtain ⟨resolvesValue, soundBetween⟩ :=
            substitute_ok faithful value resolved result between sound first
          simp only [first] at ran
          cases later : substituteFields defined lookup rest between with
          | error cycle => simp [later] at ran
          | ok found =>
              obtain ⟨restResults, afterRest⟩ := found
              simp only [later] at ran
              cases ran
              obtain ⟨resolvesRest, soundAfter⟩ :=
                substituteFields_ok faithful rest between restResults after soundBetween later
              exact ⟨.field resolvesValue resolvesRest, soundAfter⟩

end

mutual

theorem substitute_error : ∀ value resolved cycle,
    substitute defined lookup value resolved = .error cycle →
    ∃ key earlier, Mentions value key ∧ (defined.meaning key).isSome ∧
      lookup key earlier = .error cycle
  | .text content, resolved, cycle, ran => by
      rcases substitute_text defined lookup content resolved with
        ⟨key, source, refers, known, looksUp⟩ | ⟨_, stays⟩
      · rw [looksUp] at ran
        exact ⟨key, resolved, .text refers, by simp [known], ran⟩
      · simp [stays] at ran
  | .object fields, resolved, cycle, ran => by
      rw [substitute] at ran
      cases substituted : substituteFields defined lookup fields resolved with
      | ok found => simp [substituted] at ran
      | error other =>
          simp only [substituted] at ran
          cases ran
          exact substituteFields_error fields resolved cycle substituted
  | .null, _, _, ran | .boolean _, _, _, ran | .number _, _, _, ran | .list _, _, _, ran => by
      simp [substitute] at ran

theorem substituteFields_error : ∀ fields resolved cycle,
    substituteFields defined lookup fields resolved = .error cycle →
    ∃ key earlier, Mentions (.object fields) key ∧ (defined.meaning key).isSome ∧
      lookup key earlier = .error cycle
  | [], _, _, ran => by simp [substituteFields] at ran
  | (name, value) :: rest, resolved, cycle, ran => by
      rw [substituteFields] at ran
      cases first : substitute defined lookup value resolved with
      | error other =>
          simp only [first] at ran
          cases ran
          obtain ⟨key, earlier, mentions, failed⟩ := substitute_error value resolved cycle first
          exact ⟨key, earlier, (mentions_field _ _ _ _).mpr (Or.inl mentions), failed⟩
      | ok found =>
          obtain ⟨result, between⟩ := found
          simp only [first] at ran
          cases later : substituteFields defined lookup rest between with
          | ok found => simp [later] at ran
          | error other =>
              simp only [later] at ran
              cases ran
              obtain ⟨key, earlier, mentions, failed⟩ :=
                substituteFields_error rest between cycle later
              exact ⟨key, earlier, (mentions_field _ _ _ _).mpr (Or.inr mentions), failed⟩

end

structure Walk (meaning : Meaning) (visiting : List String) (key : String) : Prop where
  chain : (visiting ++ [key]).IsChain (Leads meaning)
  distinct : visiting.Nodup
  known : ∀ earlier ∈ visiting, (meaning earlier).isSome

theorem walk_nil (meaning : Meaning) (key : String) : Walk meaning [] key :=
  ⟨List.isChain_singleton key, List.nodup_nil, by simp⟩

theorem Walk.step {visiting : List String} {key next : String}
    {source : Value} (walk : Walk meaning visiting key) (fresh : key ∉ visiting)
    (known : meaning key = some source) (mentions : Mentions source next)
    (knownNext : (meaning next).isSome) : Walk meaning (visiting ++ [key]) next := by
  have leads : Leads meaning key next := ⟨source, known, mentions, knownNext⟩
  refine ⟨?_, ?_, ?_⟩
  · refine walk.chain.append (List.isChain_singleton next) ?_
    simpa using leads
  · exact List.nodup_append.mpr ⟨walk.distinct, by simp, by grind⟩
  · intro earlier member
    rcases List.mem_append.mp member with member | member
    · exact walk.known earlier member
    · simp [List.mem_singleton.mp member, known]

theorem length_le_of_known {visited keys : List String}
    (distinct : visited.Nodup) (known : ∀ key ∈ visited, (meaning key).isSome)
    (covers : ∀ key, (meaning key).isSome → key ∈ keys) : visited.length ≤ keys.length := by
  have subset : visited ⊆ keys := fun key member => covers key (known key member)
  exact (distinct.subperm subset).length_le

theorem Definitions.mem_keys {key : String} (known : (defined.meaning key).isSome) :
    key ∈ defined.map Prod.fst := by
  obtain ⟨entry, member, same⟩ := List.lookup_isSome_iff.mp known
  rw [beq_iff_eq.mp same]
  exact List.mem_map_of_mem member

theorem Walk.length_lt {visiting : List String} {key : String}
    (walk : Walk defined.meaning visiting key) (fresh : key ∉ visiting)
    (known : (defined.meaning key).isSome) : visiting.length < defined.length := by
  have distinct : (key :: visiting).Nodup := List.nodup_cons.mpr ⟨fresh, walk.distinct⟩
  have allKnown : ∀ other ∈ key :: visiting, (defined.meaning other).isSome := by
    simpa using ⟨known, walk.known⟩
  have bound := length_le_of_known distinct allKnown fun _ => Definitions.mem_keys
  simp only [List.length_cons, List.length_map] at bound
  omega

/-- A walk that comes back to one of its keys. -/
def ClosedWalk (meaning : Meaning) (cycle : Cycle) : Prop :=
  ∃ visiting key, cycle = visiting ++ [key] ∧ Walk meaning visiting key ∧ key ∈ visiting

theorem follow_ok_cases {remaining : Nat} {visiting : List String} {key : String}
    {source result : Value} {resolved after : Resolved} (known : defined.meaning key = some source)
    (ran : follow defined remaining visiting key resolved = .ok (result, after)) :
    (resolved.lookup key = some result ∧ after = resolved) ∨
    ∃ fewer between, remaining = fewer + 1 ∧ after = (key, result) :: between ∧
      substitute defined (follow defined fewer (visiting ++ [key])) source resolved =
        .ok (result, between) := by
  have lookupKey : defined.lookup key = some source := known
  unfold follow at ran
  cases remembered : resolved.lookup key with
  | some found =>
      simp only [remembered] at ran
      cases ran
      exact Or.inl ⟨rfl, rfl⟩
  | none =>
      simp only [remembered, lookupKey] at ran
      by_cases closed : visiting.contains key
      · rw [if_pos closed] at ran
        cases ran
      · rw [if_neg closed] at ran
        cases remaining with
        | zero => simp at ran
        | succ fewer =>
            cases substituted : substitute defined (follow defined fewer (visiting ++ [key]))
                source resolved with
            | error cycle => simp [substituted] at ran
            | ok found =>
                simp only [substituted] at ran
                cases ran
                exact Or.inr ⟨fewer, found.2, rfl, rfl, substituted⟩

theorem follow_error_cases {remaining : Nat} {visiting : List String} {key : String}
    {resolved : Resolved} {cycle : Cycle}
    (ran : follow defined remaining visiting key resolved = .error cycle) :
    (key ∈ visiting ∧ cycle = visiting ++ [key]) ∨
    (key ∉ visiting ∧ ∃ source, defined.meaning key = some source ∧
      (remaining = 0 ∨ ∃ fewer, remaining = fewer + 1 ∧
        substitute defined (follow defined fewer (visiting ++ [key])) source resolved =
          .error cycle)) := by
  unfold follow at ran
  cases remembered : resolved.lookup key with
  | some found => simp [remembered] at ran
  | none =>
      simp only [remembered] at ran
      by_cases closed : visiting.contains key
      · rw [if_pos closed] at ran
        cases ran
        exact Or.inl ⟨by simpa using closed, rfl⟩
      · rw [if_neg closed] at ran
        have fresh : key ∉ visiting := by simpa using closed
        cases lookupKey : defined.lookup key with
        | none => simp [lookupKey] at ran
        | some source =>
            refine Or.inr ⟨fresh, source, lookupKey, ?_⟩
            simp only [lookupKey] at ran
            cases remaining with
            | zero => exact Or.inl rfl
            | succ fewer =>
                refine Or.inr ⟨fewer, rfl, ?_⟩
                cases substituted : substitute defined (follow defined fewer (visiting ++ [key]))
                    source resolved with
                | error other =>
                    simp only [substituted] at ran
                    cases ran
                    rfl
                | ok found => simp [substituted] at ran

theorem follow_faithful (defined : Definitions) (remaining : Nat) (visiting : List String) :
    Faithful defined.meaning (follow defined remaining visiting) := by
  induction remaining generalizing visiting with
  | zero =>
      intro key source resolved result after known sound ran
      rcases follow_ok_cases known ran with ⟨remembered, rfl⟩ | ⟨fewer, _, impossible, _⟩
      · exact ⟨sound.resolves known remembered, sound⟩
      · omega
  | succ remaining ih =>
      intro key source resolved result after known sound ran
      rcases follow_ok_cases known ran with
        ⟨remembered, rfl⟩ | ⟨fewer, between, same, rfl, substituted⟩
      · exact ⟨sound.resolves known remembered, sound⟩
      · cases same
        obtain ⟨resolves, soundBetween⟩ :=
          substitute_ok (ih (visiting ++ [key])) source resolved result between sound substituted
        exact ⟨resolves, soundBetween.remember known resolves⟩

/-- A failure is a closed walk, whatever is remembered: some key is left to visit as long as the
walk has not come back. -/
theorem follow_closedWalk (remaining : Nat) {visiting : List String} {key : String}
    {resolved : Resolved} {cycle : Cycle} (walk : Walk defined.meaning visiting key)
    (enough : defined.length ≤ visiting.length + remaining)
    (ran : follow defined remaining visiting key resolved = .error cycle) :
    ClosedWalk defined.meaning cycle := by
  induction remaining generalizing visiting key resolved with
  | zero =>
      rcases follow_error_cases ran with ⟨closed, rfl⟩ | ⟨fresh, source, known, _⟩
      · exact ⟨visiting, key, rfl, walk, closed⟩
      · -- Distinct known keys that leave out one are fewer than the definitions.
        have shorter := walk.length_lt fresh (by simp [known])
        omega
  | succ remaining ih =>
      rcases follow_error_cases ran with ⟨closed, rfl⟩ | ⟨fresh, source, known, deeper⟩
      · exact ⟨visiting, key, rfl, walk, closed⟩
      · obtain ⟨fewer, same, substituted⟩ := deeper.resolve_left (by omega)
        cases same
        obtain ⟨next, earlier, mentions, knownNext, failed⟩ :=
          substitute_error source resolved cycle substituted
        refine ih (walk.step fresh known mentions knownNext) ?_ failed
        rw [List.length_append, List.length_singleton]
        omega

end Reference
end DesignTokens
