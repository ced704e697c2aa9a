import DesignTokens.Json.Rest
import DesignTokens.Value.Basic

/-!
The leaves of JSON texts: words, numbers and quoted strings.
-/

namespace DesignTokens
namespace Json

/-- The remaining letters of a word whose first letter decided it. -/
def word : List Char → Rest → Except Failure Rest
  | [], rest => .ok rest
  | letter :: letters, rest =>
      match rest.characters with
      | [] => rest.failHere .unfinishedValue
      | found :: _ =>
          if found = letter then word letters rest.advance else rest.failAhead .expectedWord

def digitsValue (digits : List Char) : Nat :=
  digits.foldl (fun value digit => 10 * value + (digit.toNat - '0'.toNat)) 0

/-- Exponents beyond this bound are not weighed against the digits before them. -/
def exponentLimit : Nat := powerOfTwo 31 - 1

/-- How many digits it takes for an exponent to pass the limit. -/
def digitsPastLimit? : Nat → Nat → List Char → Option Nat
  | _, _, [] => none
  | value, count, digit :: rest =>
      let next := 10 * value + (digit.toNat - '0'.toNat)
      if exponentLimit < next then some (count + 1) else digitsPastLimit? next (count + 1) rest

/-- The significand with the digits that one word holds, and how many digits are left out. -/
def takeSignificand (significand : Nat) : List Char → Nat × Nat
  | [] => (significand, 0)
  | digit :: rest =>
      let next := 10 * significand + (digit.toNat - '0'.toNat)
      if next < powerOfTwo 64 then takeSignificand next rest else (significand, rest.length + 1)

def realNumber (negative : Bool) (significand : Nat) (exponent : Int) (rest : Rest) :
    Except Failure (Number × Rest) :=
  match Number.ofSteps? negative significand exponent with
  | some number => .ok (number, rest)
  | none => rest.failHere .numberOutOfRange

/-- The part after the letter of an exponent, which is added to the one of the significand. -/
def exponentPart (negative : Bool) (significand : Nat) (start : Int) (rest : Rest) :
    Except Failure (Number × Rest) :=
  let negativeExponent := rest.characters.head? == some '-'
  let unsigned :=
    if negativeExponent || rest.characters.head? == some '+' then rest.advance else rest
  match unsigned.characters with
  | [] => unsigned.failHere .unfinishedValue
  | first :: _ =>
      if !first.isDigit then unsigned.failAhead .invalidNumber
      else
        let (digits, rest) := unsigned.takeDigits
        match digitsPastLimit? 0 0 digits with
        | some count =>
            if significand != 0 && !negativeExponent then
              .error ⟨.numberOutOfRange, unsigned.offset + count⟩
            else realNumber negative 0 0 rest
        | none =>
            let exponent : Int := digitsValue digits
            realNumber negative significand
              (start + if negativeExponent then -exponent else exponent) rest

/-- The part after the digits before the point. Digits that the significand leaves out there make
the number greater, those after the point do not count. -/
def afterWhole (negative : Bool) (whole : List Char) (rest : Rest) :
    Except Failure (Number × Rest) :=
  let (significand, left) := takeSignificand 0 whole
  match rest.characters with
  | '.' :: _ =>
      let (fraction, rest) := rest.advance.takeDigits
      let (significand, dropped) := takeSignificand significand fraction
      let exponent : Int := left - (fraction.length - dropped : Nat)
      if fraction.isEmpty then
        if rest.characters.isEmpty then rest.failHere .unfinishedValue
        else rest.failAhead .invalidNumber
      else if rest.characters.head? == some 'e' || rest.characters.head? == some 'E' then
        exponentPart negative significand exponent rest.advance
      else realNumber negative significand exponent rest
  | letter :: _ =>
      if letter = 'e' || letter = 'E' then exponentPart negative significand left rest.advance
      else finish significand left
  | [] => finish significand left
where
  finish (significand left : Nat) : Except Failure (Number × Rest) :=
    if 0 < left then realNumber negative significand left rest
    else
      match Number.ofInteger? negative significand with
      | some number => .ok (number, rest)
      | none => rest.failHere .numberOutOfRange

/-- A number after its sign. A zero is not followed by more digits. -/
def unsignedNumber (negative : Bool) (rest : Rest) : Except Failure (Number × Rest) :=
  match rest.characters with
  | [] => rest.failHere .unfinishedValue
  | '0' :: next :: _ =>
      if next.isDigit then rest.advance.failAhead .invalidNumber
      else afterWhole negative ['0'] rest.advance
  | first :: _ =>
      if !first.isDigit then rest.failAhead .invalidNumber
      else
        let (digits, rest) := rest.takeDigits
        afterWhole negative digits rest

def hexValue? (digit : Char) : Option Nat :=
  if digit.isDigit then some (digit.toNat - '0'.toNat)
  else if 'a' ≤ digit && digit ≤ 'f' then some (digit.toNat - 'a'.toNat + 10)
  else if 'A' ≤ digit && digit ≤ 'F' then some (digit.toNat - 'A'.toNat + 10)
  else none

def hexNumber? (digits : List Char) : Option Nat :=
  digits.foldlM (fun value digit => (hexValue? digit).map (16 * value + ·)) 0

def codeUnit (rest : Rest) : Except Failure (Nat × Rest) :=
  let next := rest.characters.take 4
  let byteCount := (next.map Char.utf8Size).foldl (· + ·) 0
  if byteCount < 4 then .error ⟨.unfinishedString, rest.offset + byteCount⟩
  else
    match hexNumber? next with
    | some value => .ok (value, ⟨rest.characters.drop 4, rest.offset + 4⟩)
    | none => .error ⟨.invalidEscape, rest.offset + 4⟩

/-- A mark that a second code unit has to begin with. -/
def surrogateMark (mark : Char) (rest : Rest) : Except Failure Rest :=
  match rest.characters with
  | [] => rest.failHere .unfinishedString
  | found :: _ => if found = mark then .ok rest.advance else rest.failAhead .surrogateEnd

/-- A character written as one code unit, or as a pair of surrogates. -/
def codeUnits (rest : Rest) : Except Failure (Char × Rest) := do
  let (high, rest) ← codeUnit rest
  if 0xDC00 ≤ high && high ≤ 0xDFFF then rest.failHere .unpairedSurrogate
  else if high < 0xD800 || 0xDFFF < high then .ok (Char.ofNat high, rest)
  else
    let rest ← surrogateMark '\\' rest
    let rest ← surrogateMark 'u' rest
    let (low, rest) ← codeUnit rest
    if low < 0xDC00 || 0xDFFF < low then rest.failHere .unpairedSurrogate
    else .ok (Char.ofNat (0x10000 + (high - 0xD800) * 0x400 + (low - 0xDC00)), rest)

def escaped (rest : Rest) : Except Failure (Char × Rest) :=
  match rest.characters with
  | [] => rest.failHere .unfinishedString
  | '"' :: _ => .ok ('"', rest.advance)
  | '\\' :: _ => .ok ('\\', rest.advance)
  | '/' :: _ => .ok ('/', rest.advance)
  | 'b' :: _ => .ok ('\x08', rest.advance)
  | 'f' :: _ => .ok ('\x0c', rest.advance)
  | 'n' :: _ => .ok ('\n', rest.advance)
  | 'r' :: _ => .ok ('\r', rest.advance)
  | 't' :: _ => .ok ('\t', rest.advance)
  | 'u' :: _ => codeUnits rest.advance
  | _ :: _ => rest.failAhead .invalidEscape

/-- A string after its opening quote, with the characters before in reverse; `fuel` bounds the
number of those to come. -/
def string : Nat → List Char → Rest → Except Failure (String × Rest)
  | 0, _, rest => rest.failHere .unfinishedString
  | fuel + 1, reversed, rest =>
      match rest.characters with
      | [] => rest.failHere .unfinishedString
      | character :: _ =>
          if character = '"' then .ok (String.ofList reversed.reverse, rest.advance)
          else if character = '\\' then
            match escaped rest.advance with
            | .ok (meant, rest) => string fuel (meant :: reversed) rest
            | .error failure => .error failure
          else if character.toNat < 0x20 then rest.failAhead .controlCharacter
          else string fuel (character :: reversed) rest.advance

end Json
end DesignTokens
