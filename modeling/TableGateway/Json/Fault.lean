/-
This file names the ways in which reading and writing JSON text go wrong, with the
wording of each. A fault of reading has a place in the text, counted in characters.
-/

import TableGateway.Number.Digits

namespace TableGateway.Json

open Number

/-- Why a value has no JSON text. -/
inductive WriteFault where
  | unwritable (typeText : String)
  | notFinite
  | badKey (typeText : String)
  deriving DecidableEq, Repr

def WriteFault.message : WriteFault → String
  | .unwritable typeText => "Object of type " ++ typeText ++ " is not JSON serializable"
  | .notFinite => "Out of range float values are not JSON compliant"
  | .badKey typeText => "keys must be str, int, float, bool or None, not " ++ typeText

/-- Why a text is no JSON. -/
inductive ReadFault where
  | byteOrderMark
  | valueExpected
  | nameExpected
  | colonExpected
  | commaExpected
  | unterminated
  | controlCharacter
  | badEscape
  | badUnicodeEscape
  | extraData
  | tooManyDigits
  | tooDeep
  deriving DecidableEq, Repr

def ReadFault.message : ReadFault → String
  | .byteOrderMark => "Unexpected UTF-8 BOM (decode using utf-8-sig)"
  | .valueExpected => "Expecting value"
  | .nameExpected => "Expecting property name enclosed in double quotes"
  | .colonExpected => "Expecting ':' delimiter"
  | .commaExpected => "Expecting ',' delimiter"
  | .unterminated => "Unterminated string starting at"
  | .controlCharacter => "Invalid control character at"
  | .badEscape => "Invalid \\escape"
  | .badUnicodeEscape => "Invalid \\uXXXX escape"
  | .extraData => "Extra data"
  | .tooManyDigits => "Too many digits in an integer"
  | .tooDeep => "Nested too deeply"

/-- A place in a text: the characters before it, and its line and column from one on. -/
structure Place where
  index : Nat
  line : Nat
  column : Nat
  deriving DecidableEq, Repr

/-- The place after some characters of a text. -/
def placeAt (characters : List Char) (index : Nat) : Place :=
  let before := characters.take index
  let line := before.reverse.takeWhile (· != '\n')
  { index := index
    line := (before.filter (· == '\n')).length + 1
    column := line.length + 1 }

/-- `line L column C (char N)`. -/
def Place.text (place : Place) : String :=
  let shown (number : Nat) : String := String.ofList (digits number)
  "line " ++ shown place.line ++ " column " ++ shown place.column ++
    " (char " ++ shown place.index ++ ")"

/-- A fault of reading with its place, as one text. -/
def readMessage (fault : ReadFault) (place : Place) : String :=
  fault.message ++ ": " ++ place.text

end TableGateway.Json
