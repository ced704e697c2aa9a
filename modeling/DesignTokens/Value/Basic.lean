import DesignTokens.Entries
import DesignTokens.Number.Basic

/-!
The values that token documents are made of. An object keeps its fields in the order in which
their names were first seen, and no name occurs twice.
-/

namespace DesignTokens

inductive Value where
  | null
  | boolean (truth : Bool)
  | number (amount : Number)
  | text (content : String)
  | list (items : List Value)
  | object (fields : List (String × Value))

namespace Value

/-- The fields of an object; other values have none. -/
def fields : Value → List (String × Value)
  | object fields => fields
  | _ => []

def field? (value : Value) (name : String) : Option Value :=
  value.fields.lookup name

def hasField (value : Value) (name : String) : Bool :=
  (value.field? name).isSome

def text? : Value → Option String
  | text content => some content
  | _ => none

def number? : Value → Option Number
  | number amount => some amount
  | _ => none

def items? : Value → Option (List Value)
  | list items => some items
  | _ => none

mutual

/-- No object of the value names a field twice. -/
def WellFormed : Value → Prop
  | list items => WellFormedItems items
  | object fields => (fields.map Prod.fst).Nodup ∧ WellFormedFields fields
  | _ => True

def WellFormedItems : List Value → Prop
  | [] => True
  | item :: rest => item.WellFormed ∧ WellFormedItems rest

def WellFormedFields : List (String × Value) → Prop
  | [] => True
  | (_, value) :: rest => value.WellFormed ∧ WellFormedFields rest

end

end Value
end DesignTokens
