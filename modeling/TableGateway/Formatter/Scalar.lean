/-
This file reads truth values, integers, numbers and texts out of whatever a row or a
caller supplies. Bytes count as the text they encode, and texts are trimmed before they
are read as numbers.
-/

import TableGateway.Failure
import TableGateway.Number.IntegerText
import TableGateway.Text.Utf8

namespace TableGateway

open Number Text

/-- A value with bytes read as the text that they encode. -/
def decoded : Value → Except Failure Value
  | .bytes octets => (decode? octets).elim (.error .undecodable) (.ok ∘ .text)
  | .byteArray octets => (decode? octets).elim (.error .undecodable) (.ok ∘ .text)
  | value => .ok value

/-- A value ready to be read as a number or a date: bytes decoded, text trimmed. -/
def prepared (value : Value) : Except Failure Value := do
  match ← decoded value with
  | .text characters => return .text (trim characters)
  | value => return value

/-! ### Truth -/

/-- The texts that count as false, once trimmed and in lower case. -/
def falseTexts : List String :=
  ["", "false", "0", "undefined", "null", "none", "[]", "\x7b\x7d"]

/-- Whether a text counts as true. The false words hold ASCII letters only, and no other character
has one of these letters as its lower case. -/
def truthOfText (characters : String) : Bool :=
  !falseTexts.contains (trim characters).toLower

/-- Truth that understands the spellings of false. Bytes are read leniently. -/
def truthOf : Value → Bool
  | .bytes octets => truthOfText (decodeLenient octets)
  | .text characters => truthOfText characters
  | value => if value.isNaN then false else value.isTruthy

/-! ### Integers -/

/-- The integer that a ratio is. -/
def integerOfRatio (numerator : Int) (denominator : Nat) : Except Refusal Int :=
  if numerator % denominator = 0 then .ok (numerator / denominator) else .error .fractional

/-- The bound that an integer out of a floating-point number stays below. -/
def floatIntegerBound : Nat := powerOfTwo 63

/-- The integer that a floating-point number is, if it is one of 64 bits. -/
def integerOfFloat (number : Binary64) : Except Refusal Int :=
  match number with
  | .nan => .error .notFinite
  | .infinity _ => .error .notFinite
  | .finite negative significand exponent => do
    let (numerator, denominator) := Binary64.magnitude significand exponent
    let size ← integerOfRatio numerator denominator
    if floatIntegerBound ≤ size.natAbs then throw .integerTooLarge
    return if negative then -size else size

/-- Reads a value, trimmed if it is a text, as an integer. -/
def integerOf : Value → Except Refusal Int
  | .bool truth => .ok (if truth then 1 else 0)
  | .int number => .ok number
  | .float number => integerOfFloat number
  | .decimal number =>
    match number.ratio? with
    | some (numerator, denominator) => integerOfRatio numerator denominator
    | none => .error .notFinite
  | .text characters => (readInteger characters.toList).mapError fun
    | .unreadable => .unreadableInteger
    | .tooLong => .integerTooLarge
  | _ => .error .notInteger

/-! ### Floating-point numbers -/

/-- The special numbers by name. -/
def readSpecial? (characters : List Char) : Option Binary64 :=
  let (negative, rest) := spanSign characters
  let word := (String.ofList rest).toLower
  if word == "inf" || word == "infinity" then some (.infinity negative)
  else if word == "nan" then some .nan
  else none

/-- Reads a number: decimal notation or the name of a special number, with single underscores
anywhere but at the ends. -/
def readFloat? (characters : List Char) : Option Binary64 := do
  let kept ← withoutUnderscores? characters
  match Numeral.ofChars? kept with
  | some numeral => return numeral.toBinary64
  | none => readSpecial? kept

/-- Reads a value, trimmed if it is a text, as a floating-point number. -/
def floatOf : Value → Except Refusal Binary64
  | .bool truth => .ok (.ofInt (if truth then 1 else 0))
  | .int number =>
    let nearest := Binary64.ofInt number
    if nearest.isFinite then .ok nearest else .error .notNumber
  | .float number => .ok number
  | .decimal number => number.toBinary64?.elim (.error .notNumber) .ok
  | .text characters => (readFloat? characters.toList).elim (.error .unreadableNumber) .ok
  | _ => .error .notNumber

/-! ### Text -/

/-- The text of a value that is not a text already. -/
def textOf (value : Value) : Except Refusal String :=
  match value with
  | .bool truth => .ok (if truth then "true" else "false")
  | .int number => .ok (integerText number)
  | .float number => if number.isNaN then .error .numberRequired else .ok number.text
  | .decimal number => if number.isNaN then .error .numberRequired else .ok number.text
  | .datetime moment => .ok moment.isoText
  | .date day => .ok day.isoText
  | value => .error (.unsupportedType value.typeText)

/-- The trimmed text of a text, a number or an absence. -/
def trimmedText : Value → Except Fault String
  | .null => .ok ""
  | .undefined => .ok ""
  | .text characters => .ok (trim characters)
  | .int number => .ok (integerText number)
  | .float number => .ok number.text
  | .decimal number => .ok number.text
  | value => .error (.untrimmable value.typeText)

end TableGateway
