import DesignTokens.Json.Literal
import DesignTokens.Value.Basic
import DesignTokens.Yaml.Grammar

/-!
The values of YAML documents. Plain scalars are read by their spelling, other scalars are texts
unless a tag says otherwise, and aliases stand for copies.
-/

namespace DesignTokens
namespace Yaml

def isNull (content : String) : Bool :=
  ["~", "null", "Null", "NULL"].contains content

def boolean? (content : String) : Option Bool :=
  if ["true", "True", "TRUE"].contains content then some true
  else if ["false", "False", "FALSE"].contains content then some false
  else none

/-- The value of a digit in a base of at most sixteen. -/
def digitValue? (base : Nat) (digit : Char) : Option Nat :=
  (Json.hexValue? digit).filter (· < base)

def magnitude? (base : Nat) (digits : List Char) : Option Nat :=
  if digits.isEmpty then none
  else digits.foldlM (fun value digit => (digitValue? base digit).map (base * value + ·)) 0

/-- Whether only digits follow a leading zero. Such a scalar is no decimal number. -/
def isPadded (digits : List Char) : Bool :=
  1 < digits.length && digits.head? == some '0' && digits.all Char.isDigit

/-- An integer without its sign: decimal, or after one of three letters. -/
def unsignedInteger? : List Char → Option Nat
  | '0' :: 'x' :: digits => magnitude? 16 digits
  | '0' :: 'o' :: digits => magnitude? 8 digits
  | '0' :: 'b' :: digits => magnitude? 2 digits
  | digits => if isPadded digits then none else magnitude? 10 digits

def integer? : List Char → Option Int
  | '+' :: digits => (unsignedInteger? digits).map Int.ofNat
  | '-' :: digits => (unsignedInteger? digits).map fun magnitude => -(magnitude : Int)
  | digits => (unsignedInteger? digits).map Int.ofNat

/-- An exponent after its letter. -/
def exponent? : List Char → Option Int
  | '+' :: digits => (magnitude? 10 digits).map Int.ofNat
  | '-' :: digits => (magnitude? 10 digits).map fun magnitude => -(magnitude : Int)
  | digits => (magnitude? 10 digits).map Int.ofNat

def unsignedReal? (negative : Bool) (characters : List Char) : Option Number :=
  let whole := characters.takeWhile Char.isDigit
  let rest := characters.dropWhile Char.isDigit
  let hasPoint := rest.head? == some '.'
  let rest := if hasPoint then rest.drop 1 else rest
  let fraction := if hasPoint then rest.takeWhile Char.isDigit else []
  let rest := rest.drop fraction.length
  if whole.isEmpty && fraction.isEmpty then none
  else
    let exponent :=
      match rest with
      | [] => some 0
      | letter :: rest => if letter = 'e' || letter = 'E' then exponent? rest else none
    exponent.bind fun exponent =>
      Number.ofReal? negative (Json.digitsValue (whole ++ fraction)) (exponent - fraction.length)

/-- A real number. Infinities and what is no number have no value in documents. -/
def real? (content : String) : Option Value :=
  if [".inf", ".Inf", ".INF", "+.inf", "+.Inf", "+.INF", "-.inf", "-.Inf", "-.INF", ".nan",
      ".NaN", ".NAN"].contains content then some .null
  else
    match content.toList with
    | '+' :: characters => (unsignedReal? false characters).map .number
    | '-' :: characters => (unsignedReal? true characters).map .number
    | characters => (unsignedReal? false characters).map .number

/-- Integers within 128 bits count as integers even if they fit no word. -/
def isWideInteger (value : Int) : Bool :=
  -(powerOfTwo 127 : Int) ≤ value && value < powerOfTwo 128

/-- An integer, or nothing if the scalar is none; an integer that fits no word is refused. -/
def integerValue? (content : String) : Option (Option Value) :=
  match integer? content.toList with
  | none => some none
  | some value =>
      if Number.fitsWord value then some (some (.number (.integer value)))
      else if isWideInteger value then none
      else some none

def isPaddedContent (content : String) : Bool :=
  match content.toList with
  | '+' :: digits | '-' :: digits => isPadded digits
  | digits => isPadded digits

def plainValue? (content : String) : Option Value :=
  if content.isEmpty || isNull content then some .null
  else
    match boolean? content with
    | some truth => some (.boolean truth)
    | none => do
        match ← integerValue? content with
        | some value => some value
        | none =>
            if isPaddedContent content then some (.text content)
            else some ((real? content).getD (.text content))

/-- The value of a scalar with a tag. An application's tag has no room in a value; a tag that only
begins like one says nothing. -/
def taggedValue? (tag : Tag) (style : ScalarStyle) (content : String) : Option Value :=
  if tag = .core "bool" then (boolean? content).map .boolean
  else if tag = .core "int" then (integerValue? content).join
  else if tag = .core "float" then real? content
  else if tag = .core "null" then if isNull content then some .null else none
  else if tag.localName?.isSome then none
  else if tag.isMarked && style = .plain then plainValue? content
  else some (.text content)

def scalarValue? (properties : Properties) (style : ScalarStyle) (content : String) :
    Option Value :=
  match properties.tag with
  | some tag => taggedValue? tag style content
  | none => if style = .plain then plainValue? content else some (.text content)

namespace Node

/-- The node that a node stands for, and how often aliases may still be followed. -/
def follow? (anchored : List (Nat × Node)) (budget : Nat) : Node → Option (Node × Nat)
  | aliasOf number =>
      match budget with
      | 0 => none
      | budget + 1 => (anchored.lookup number).map fun node => (node, budget)
  | node => some (node, budget)

/-- A name of a field is any scalar, spelled as it is. -/
def name? (anchored : List (Nat × Node)) (budget : Nat) (node : Node) :
    Option (String × Nat) :=
  match node.follow? anchored budget with
  | some (scalar _ _ content, budget) => some (content, budget)
  | _ => none

def itemValues? (item : Nat → Node → Option (Value × Nat)) :
    Nat → List Node → Option (List Value × Nat)
  | budget, [] => some ([], budget)
  | budget, node :: rest => do
      let (value, budget) ← item budget node
      let (values, budget) ← itemValues? item budget rest
      some (value :: values, budget)

def fieldValues? (anchored : List (Nat × Node)) (content : Nat → Node → Option (Value × Nat)) :
    Nat → List (String × Value) → List (Node × Node) →
      Option (List (String × Value) × Nat)
  | budget, known, [] => some (known, budget)
  | budget, known, (key, node) :: rest => do
      let (name, budget) ← key.name? anchored budget
      let (value, budget) ← content budget node
      fieldValues? anchored content budget (Entries.put name value known) rest

def hasLocalTag (node : Node) : Bool :=
  (node.properties.tag.bind Tag.localName?).isSome

/-- The value of a node whose collections are nested at most `depth` deep. -/
def value? (anchored : List (Nat × Node)) : Nat → Nat → Node → Option (Value × Nat)
  | depth, budget, node => do
      let (node, budget) ← node.follow? anchored budget
      match node with
      | aliasOf _ => none
      | scalar properties style content => do
          some (← scalarValue? properties style content, budget)
      | sequence properties items =>
          match depth with
          | 0 => none
          | depth + 1 =>
              if (sequence properties items).hasLocalTag then none
              else do
                let (values, budget) ← itemValues? (value? anchored depth) budget items
                some (.list values, budget)
      | mapping properties entries =>
          match depth with
          | 0 => none
          | depth + 1 =>
              if (mapping properties entries).hasLocalTag then none
              else do
                let (fields, budget) ←
                  fieldValues? anchored (value? anchored depth) budget [] entries
                some (.object fields, budget)

end Node

/-- Lists and objects may be nested this deep in a document. -/
def documentDepth : Nat := 128

/-- The value of a text; a text without a document is null. -/
def read? (text : String) : Option Value := do
  match ← Node.parse? text with
  | none => some .null
  | some node => (node.value? node.anchored documentDepth node.aliasLimit).map Prod.fst

end Yaml
end DesignTokens
