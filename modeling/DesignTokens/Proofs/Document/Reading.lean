import DesignTokens.Document.Encoding
import DesignTokens.Libraries.BuiltIn
import DesignTokens.Proofs.Document.Node
import DesignTokens.Proofs.Number.Reading

/-!
Documents that are read from a text are regular: of the fields of one name in an object, one stays,
and numbers have their one form.
-/

namespace DesignTokens

namespace Value

/-- No object of the value names a field twice, and every number has its one form. -/
inductive IsRegular : Value → Prop
  | null : IsRegular null
  | boolean {truth} : IsRegular (boolean truth)
  | number {amount} : amount.IsCanonical → IsRegular (number amount)
  | text {content} : IsRegular (text content)
  | list {items} : (∀ item ∈ items, IsRegular item) → IsRegular (list items)
  | object {fields} : (fields.map Prod.fst).Nodup → (∀ field ∈ fields, IsRegular field.2) →
      IsRegular (object fields)

theorem IsRegular.wellFormed {value : Value} (regular : value.IsRegular) : value.WellFormed := by
  induction regular with
  | null | boolean | number | text => trivial
  | list _ ih => exact (wellFormedItems_iff _).mpr ih
  | object distinct _ ih => exact ⟨distinct, (wellFormedFields_iff _).mpr ih⟩

theorem isRegular_noFields : (object []).IsRegular :=
  .object List.nodup_nil (by simp)

theorem isRegular_put {fields : List (String × Value)} {value : Value}
    (known : (object fields).IsRegular) (regular : value.IsRegular) (name : String) :
    (object (Entries.put name value fields)).IsRegular := by
  cases known with
  | object distinct values =>
      refine .object (Entries.nodup_keys_put distinct name value) ?_
      intro field member
      obtain rfl | old := Entries.mem_put member
      · exact regular
      · exact values field old

end Value

namespace Json

/-- What is read before the rest, if anything is, has a property. -/
def Gives {α : Type} (good : α → Prop) : Except Failure (α × Rest) → Prop
  | .ok (found, _) => good found
  | .error _ => True

section

variable {α β : Type} {good : α → Prop}

theorem gives_failHere (rest : Rest) (fault : Fault) :
    Gives good (rest.failHere fault) := trivial

theorem gives_failAhead (rest : Rest) (fault : Fault) :
    Gives good (rest.failAhead fault) := by
  unfold Rest.failAhead
  split <;> trivial

theorem gives_bind {result : Except Failure β} {next : β → Except Failure (α × Rest)}
    (further : ∀ found, result = .ok found → Gives good (next found)) :
    Gives good (result >>= next) := by
  cases result with
  | error failure => trivial
  | ok found => exact further found rfl

theorem gives_of_eq {result : Except Failure (α × Rest)} {found : α × Rest}
    (gives : Gives good result) (read : result = .ok found) : good found.1 := by
  rw [read] at gives
  exact gives

end

theorem gives_items {item : Rest → Except Failure (Value × Rest)}
    (sound : ∀ rest, Gives Value.IsRegular (item rest)) (fuel : Nat) :
    ∀ reversed before, (∀ known ∈ reversed, Value.IsRegular known) →
      Gives (∀ found ∈ ·, Value.IsRegular found) (items item fuel reversed before) := by
  induction fuel with
  | zero =>
      intro reversed before known
      exact gives_failHere before .unfinishedList
  | succ fuel ih =>
      intro reversed before known
      have further : ∀ rest value after, item rest = .ok (value, after) →
          Gives (∀ found ∈ ·, Value.IsRegular found)
            (items item fuel (value :: reversed) after) := by
        intro rest value after read
        exact ih _ _ (List.forall_mem_cons.mpr ⟨gives_of_eq (sound rest) read, known⟩)
      rw [items]
      dsimp only
      split
      · exact gives_failHere _ _
      split
      · exact fun found member => known found (List.mem_reverse.mp member)
      split
      · rcases read : item before.skipBlanks with failure | ⟨value, after⟩
        · trivial
        · exact further _ value after read
      split
      · split
        · exact gives_failHere _ _
        · exact gives_failAhead _ _
        · rcases read : item before.skipBlanks.advance.skipBlanks with failure | ⟨value, after⟩
          · trivial
          · exact further _ value after read
      · exact gives_failAhead _ _

theorem gives_field {content : Rest → Except Failure (Value × Rest)}
    (sound : ∀ rest, Gives Value.IsRegular (content rest)) (limit : Nat) (rest : Rest) :
    Gives (Value.IsRegular ·.2) (field content limit rest) := by
  unfold field
  refine gives_bind fun found _ => ?_
  dsimp only
  split
  · exact gives_failHere _ _
  · exact gives_bind fun found read => gives_of_eq (sound _) read
  · exact gives_failAhead _ _

theorem gives_fields {content : Rest → Except Failure (Value × Rest)}
    (sound : ∀ rest, Gives Value.IsRegular (content rest)) (fuel : Nat) :
    ∀ isFirst known before, (Value.object known).IsRegular →
      Gives (fun found => (Value.object found).IsRegular)
        (fields content fuel isFirst known before) := by
  induction fuel with
  | zero =>
      intro isFirst known before regular
      exact gives_failHere before .unfinishedObject
  | succ fuel ih =>
      intro isFirst known before regular
      have further : ∀ rest name value after, field content fuel rest = .ok ((name, value), after) →
          Gives (fun found => (Value.object found).IsRegular)
            (fields content fuel false (Entries.put name value known) after) := by
        intro rest name value after read
        have regularField := gives_of_eq (gives_field sound fuel rest) read
        exact ih _ _ _ (Value.isRegular_put regular regularField name)
      rw [fields]
      dsimp only
      split
      · exact gives_failHere _ _
      split
      · exact regular
      split
      · split
        · rcases read : field content fuel before.skipBlanks with failure | ⟨⟨name, value⟩, after⟩
          · trivial
          · exact further _ name value after read
        · exact gives_failAhead _ _
      split
      · split
        · exact gives_failHere _ _
        · rcases read : field content fuel before.skipBlanks.advance.skipBlanks with
            failure | ⟨⟨name, value⟩, after⟩
          · trivial
          · exact further _ name value after read
        · exact gives_failAhead _ _
        · exact gives_failAhead _ _
      · exact gives_failAhead _ _

theorem gives_realNumber (negative : Bool) (significand : Nat) (exponent : Int) (rest : Rest) :
    Gives Number.IsCanonical (realNumber negative significand exponent rest) := by
  unfold realNumber
  cases reads : Number.ofSteps? negative significand exponent with
  | none => exact gives_failHere _ _
  | some number => exact Number.isCanonical_of_ofSteps? reads

theorem gives_exponentPart (negative : Bool) (significand : Nat) (start : Int) (rest : Rest) :
    Gives Number.IsCanonical (exponentPart negative significand start rest) := by
  unfold exponentPart
  dsimp only
  split
  · exact gives_failHere _ _
  split
  · exact gives_failAhead _ _
  split
  · split
    · trivial
    · exact gives_realNumber ..
  · exact gives_realNumber ..

theorem gives_finish (negative : Bool) (rest : Rest) (significand left : Nat) :
    Gives Number.IsCanonical (afterWhole.finish negative rest significand left) := by
  unfold afterWhole.finish
  split
  · exact gives_realNumber ..
  cases reads : Number.ofInteger? negative significand with
  | none => exact gives_failHere _ _
  | some number => exact Number.isCanonical_of_ofInteger? reads

theorem gives_afterWhole (negative : Bool) (whole : List Char) (rest : Rest) :
    Gives Number.IsCanonical (afterWhole negative whole rest) := by
  unfold afterWhole
  dsimp only
  split
  · split
    · split
      · exact gives_failHere _ _
      · exact gives_failAhead _ _
    split
    · exact gives_exponentPart ..
    · exact gives_realNumber ..
  · split
    · exact gives_exponentPart ..
    · exact gives_finish ..
  · exact gives_finish ..

theorem gives_unsignedNumber (negative : Bool) (rest : Rest) :
    Gives Number.IsCanonical (unsignedNumber negative rest) := by
  unfold unsignedNumber
  split
  · exact gives_failHere _ _
  · split
    · exact gives_failAhead _ _
    · exact gives_afterWhole ..
  · split
    · exact gives_failAhead _ _
    · exact gives_afterWhole ..

theorem gives_value_of_shallower {limit depth : Nat}
    (shallower : ∀ less, depth = less + 1 →
      ∀ rest, Gives Value.IsRegular (value limit less rest)) (before : Rest) :
    Gives Value.IsRegular (value limit depth before) := by
  rw [value.eq_def]
  dsimp only
  split
  · exact gives_failHere _ _
  split
  · exact gives_bind fun _ _ => Value.IsRegular.null
  iterate 2
    split
    · exact gives_bind fun _ _ => Value.IsRegular.boolean
  split
  · exact gives_bind fun _ _ => Value.IsRegular.text
  iterate 2
    split
    · refine gives_bind fun found read => ?_
      exact Value.IsRegular.number (gives_of_eq (gives_unsignedNumber _ _) read)
  split
  · split
    · exact gives_failAhead _ _
    · rename_i less
      refine gives_bind fun found read => ?_
      have items := gives_of_eq
        (gives_items (shallower less rfl) limit [] _ (by simp)) read
      exact Value.IsRegular.list items
  split
  · split
    · exact gives_failAhead _ _
    · rename_i less
      refine gives_bind fun found read => ?_
      exact gives_of_eq
        (gives_fields (shallower less rfl) limit true [] _ Value.isRegular_noFields) read
  · exact gives_failAhead _ _

theorem gives_value (limit depth : Nat) (rest : Rest) :
    Gives Value.IsRegular (value limit depth rest) := by
  induction depth generalizing rest with
  | zero => exact gives_value_of_shallower (fun less none => by cases none) rest
  | succ depth ih =>
      refine gives_value_of_shallower (fun less more => ?_) rest
      cases more
      exact ih

theorem isRegular_of_read {depth : Nat} {text : String} {document : Value}
    (found : read depth text = .ok document) : document.IsRegular := by
  unfold read at found
  cases whole : value (text.length + 1) depth (Rest.start text) with
  | error failure =>
      rw [whole] at found
      cases found
  | ok result =>
      have regular := gives_of_eq (gives_value _ depth _) whole
      rw [whole] at found
      change (if result.2.skipBlanks.characters.isEmpty then Except.ok result.1
        else result.2.skipBlanks.failAhead .trailingText) = _ at found
      split at found
      · cases found
        exact regular
      · unfold Rest.failAhead at found
        split at found <;> cases found

end Json

namespace Yaml

theorem isCanonical_of_unsignedReal? {negative : Bool} {characters : List Char} {number : Number}
    (read : unsignedReal? negative characters = some number) : number.IsCanonical := by
  dsimp only [unsignedReal?] at read
  obtain ⟨-, read⟩ := Option.ite_none_left_eq_some.mp read
  obtain ⟨exponent, -, read⟩ := Option.bind_eq_some_iff.mp read
  exact Number.isCanonical_of_ofReal? read

theorem isRegular_of_real? {content : String} {value : Value}
    (read : real? content = some value) : value.IsRegular := by
  unfold real? at read
  split at read
  · cases read
    exact .null
  split at read <;>
  · obtain ⟨number, isNumber, rfl⟩ := Option.map_eq_some_iff.mp read
    exact .number (isCanonical_of_unsignedReal? isNumber)

theorem isRegular_of_integerValue? {content : String} {value : Value}
    (read : integerValue? content = some (some value)) : value.IsRegular := by
  unfold integerValue? at read
  split at read
  · cases read
  split at read
  · cases read
    exact .number trivial
  split at read <;> cases read

theorem isRegular_of_plainValue? {content : String} {value : Value}
    (read : plainValue? content = some value) : value.IsRegular := by
  unfold plainValue? at read
  split at read
  · cases read
    exact .null
  split at read
  · cases read
    exact .boolean
  obtain ⟨integer, found, read⟩ := Option.bind_eq_some_iff.mp read
  cases integer with
  | some integer =>
      cases read
      exact isRegular_of_integerValue? found
  | none =>
      dsimp only at read
      split at read
      · cases read
        exact .text
      cases real : real? content with
      | none =>
          rw [real] at read
          cases read
          exact .text
      | some found =>
          rw [real] at read
          cases read
          exact isRegular_of_real? real

theorem isRegular_of_scalarValue? {properties : Properties} {style : ScalarStyle}
    {content : String} {value : Value}
    (read : scalarValue? properties style content = some value) : value.IsRegular := by
  unfold scalarValue? taggedValue? at read
  split at read
  · split at read
    · obtain ⟨truth, -, rfl⟩ := Option.map_eq_some_iff.mp read
      exact .boolean
    split at read
    · exact isRegular_of_integerValue? (Option.join_eq_some_iff.mp read)
    split at read
    · exact isRegular_of_real? read
    split at read
    · split at read <;> cases read
      exact .null
    split at read
    · cases read
    split at read
    · exact isRegular_of_plainValue? read
    · cases read
      exact .text
  · split at read
    · exact isRegular_of_plainValue? read
    · cases read
      exact .text

namespace Node

theorem isRegular_of_itemValues? {item : Nat → Node → Option (Value × Nat)}
    (sound : ∀ budget node found left, item budget node = some (found, left) → found.IsRegular)
    {budget : Nat} {nodes : List Node} {found : List Value} {left : Nat}
    (read : itemValues? item budget nodes = some (found, left)) :
    ∀ value ∈ found, Value.IsRegular value := by
  induction nodes generalizing budget found left with
  | nil =>
      cases read
      simp
  | cons node rest ih =>
      obtain ⟨⟨value, _⟩, readFirst, read⟩ := Option.bind_eq_some_iff.mp read
      obtain ⟨⟨values, _⟩, readRest, read⟩ := Option.bind_eq_some_iff.mp read
      cases read
      exact List.forall_mem_cons.mpr ⟨sound _ _ _ _ readFirst, ih readRest⟩

theorem isRegular_of_fieldValues? {anchored : List (Nat × Node)}
    {content : Nat → Node → Option (Value × Nat)}
    (sound : ∀ budget node found left, content budget node = some (found, left) →
      found.IsRegular)
    {budget : Nat} {known : List (String × Value)} {entries : List (Node × Node)}
    {found : List (String × Value)} {left : Nat} (regular : (Value.object known).IsRegular)
    (read : fieldValues? anchored content budget known entries = some (found, left)) :
    (Value.object found).IsRegular := by
  induction entries generalizing budget known with
  | nil =>
      cases read
      exact regular
  | cons entry rest ih =>
      obtain ⟨key, node⟩ := entry
      obtain ⟨⟨name, _⟩, readName, read⟩ := Option.bind_eq_some_iff.mp read
      obtain ⟨⟨value, _⟩, readValue, read⟩ := Option.bind_eq_some_iff.mp read
      exact ih (Value.isRegular_put regular (sound _ _ _ _ readValue) name) read

theorem isRegular_of_value? {anchored : List (Nat × Node)} (depth : Nat) :
    ∀ budget node found left, value? anchored depth budget node = some (found, left) →
      found.IsRegular := by
  induction depth with
  | zero =>
      intro budget node found left read
      rw [value?] at read
      obtain ⟨⟨target, budget⟩, -, read⟩ := Option.bind_eq_some_iff.mp read
      cases target with
      | scalar properties style content =>
          obtain ⟨value, readScalar, read⟩ := Option.bind_eq_some_iff.mp read
          cases read
          exact isRegular_of_scalarValue? readScalar
      | aliasOf | sequence | mapping => cases read
  | succ depth ih =>
      intro budget node found left read
      rw [value?] at read
      obtain ⟨⟨target, budget⟩, -, read⟩ := Option.bind_eq_some_iff.mp read
      cases target with
      | aliasOf => cases read
      | scalar properties style content =>
          obtain ⟨value, readScalar, read⟩ := Option.bind_eq_some_iff.mp read
          cases read
          exact isRegular_of_scalarValue? readScalar
      | sequence properties items =>
          dsimp only at read
          split at read
          · cases read
          obtain ⟨⟨values, _⟩, readItems, read⟩ := Option.bind_eq_some_iff.mp read
          cases read
          exact .list (isRegular_of_itemValues? ih readItems)
      | mapping properties entries =>
          dsimp only at read
          split at read
          · cases read
          obtain ⟨⟨fields, _⟩, readFields, read⟩ := Option.bind_eq_some_iff.mp read
          cases read
          exact isRegular_of_fieldValues? ih Value.isRegular_noFields readFields

end Node

theorem isRegular_of_read? {text : String} {document : Value}
    (found : read? text = some document) : document.IsRegular := by
  obtain ⟨node?, -, found⟩ := Option.bind_eq_some_iff.mp found
  cases node? with
  | none =>
      cases found
      exact .null
  | some node =>
      obtain ⟨⟨value, left⟩, read, rfl⟩ := Option.map_eq_some_iff.mp found
      exact Node.isRegular_of_value? _ _ _ _ _ read

end Yaml

theorem Libraries.isRegular_of_reader {spell : List Char → List Char} {encoding : Encoding}
    {text : String} {document : Value}
    (found : (builtIn spell).reader encoding text = .ok document) : document.IsRegular := by
  cases encoding with
  | json =>
      cases read : Json.read Json.documentDepth text with
      | error failure => simp [reader, builtIn, read] at found
      | ok value =>
          simp only [reader, builtIn, read, Except.ok.injEq] at found
          exact found ▸ Json.isRegular_of_read read
  | yaml =>
      cases read : Yaml.read? text with
      | none => simp [reader, builtIn, read] at found
      | some value =>
          simp only [reader, builtIn, read, Except.ok.injEq] at found
          exact found ▸ Yaml.isRegular_of_read? read

/-- However a document is encoded, the built-in readers make it regular. -/
theorem Document.isRegular_of_parse {spell : List Char → List Char} {encoding : Encoding}
    {text : String} {document : Value}
    (parsed : parse (.builtIn spell) encoding text = .ok document) : document.IsRegular := by
  unfold parse at parsed
  cases found : (Libraries.builtIn spell).reader encoding text with
  | error reason => simp [found] at parsed
  | ok value =>
      simp only [found, Except.ok.injEq] at parsed
      exact parsed ▸ Libraries.isRegular_of_reader found

/-- A document that is read has distinct names of fields. -/
theorem Document.wellFormed_of_parse {spell : List Char → List Char} {encoding : Encoding}
    {text : String} {document : Value}
    (parsed : parse (.builtIn spell) encoding text = .ok document) : document.WellFormed :=
  (isRegular_of_parse parsed).wellFormed

end DesignTokens
