/-
This file reads JSON text into values. Besides the standard it takes `NaN`, `Infinity`
and `-Infinity`; an object that names a member twice keeps the first place and the last
value. Integers have a limited number of digits, and brackets a limited depth. A fault
carries the rest of the text at which it was found.
-/

import TableGateway.Json.Fault
import TableGateway.Number.IntegerText
import TableGateway.Record

namespace TableGateway.Json

open Number

/-- A fault and the part of the text that starts where it was found. -/
abbrev Stop := ReadFault × List Char

/-- White space between the parts of a text. -/
def isSpace (character : Char) : Bool :=
  character == ' ' || character == '\t' || character == '\n' || character == '\r'

/-- What follows the white space. -/
def skipSpace (characters : List Char) : List Char :=
  characters.dropWhile isSpace

/-! ### Strings -/

/-- The value of a hexadecimal digit. -/
def hexValue? (character : Char) : Option Nat :=
  let code := character.toNat
  if 48 ≤ code && code ≤ 57 then some (code - 48)
  else if 97 ≤ code && code ≤ 102 then some (code - 87)
  else if 65 ≤ code && code ≤ 70 then some (code - 55)
  else none

/-- Four hexadecimal digits that are not the end of the text. -/
def takeUnit : List Char → Option (Nat × List Char)
  | first :: second :: third :: fourth :: next :: rest => do
    let first ← hexValue? first
    let second ← hexValue? second
    let third ← hexValue? third
    let fourth ← hexValue? fourth
    return (((first * 16 + second) * 16 + third) * 16 + fourth, next :: rest)
  | _ => none

def isHighSurrogate (unit : Nat) : Bool :=
  0xD800 ≤ unit && unit ≤ 0xDBFF

def isLowSurrogate (unit : Nat) : Bool :=
  0xDC00 ≤ unit && unit ≤ 0xDFFF

/-- The character of a code; half of a surrogate pair alone has none and becomes `U+FFFD`. -/
def charOfUnit (code : Nat) : Char :=
  if isHighSurrogate code || isLowSurrogate code then '\uFFFD' else Char.ofNat code

/-- The character of two surrogates. -/
def joinSurrogates (high low : Nat) : Char :=
  Char.ofNat (0x10000 + (high - 0xD800) * 0x400 + (low - 0xDC00))

/-- The character of a one-letter escape. -/
def escaped? (character : Char) : Option Char :=
  match character with
  | '\x22' => some '\x22'
  | '\\' => some '\\'
  | '/' => some '/'
  | 'b' => some '\x08'
  | 'f' => some '\x0c'
  | 'n' => some '\n'
  | 'r' => some '\r'
  | 't' => some '\t'
  | _ => none

/-- The character after `\u` and what follows it. A high surrogate takes a second escape with it if
one follows that is a low surrogate and is not the end of the text. -/
def readUnicode (atMark : List Char) (afterMark : List Char) : Except Stop (Char × List Char) :=
  match takeUnit afterMark with
  | none => .error (.badUnicodeEscape, atMark)
  | some (unit, rest) =>
    match rest with
    | '\\' :: 'u' :: more =>
      if isHighSurrogate unit && 5 ≤ more.length then
        match takeUnit more with
        | none => .error (.badUnicodeEscape, 'u' :: more)
        | some (second, after) =>
          if isLowSurrogate second then .ok (joinSurrogates unit second, after)
          else .ok (charOfUnit unit, rest)
      else .ok (charOfUnit unit, rest)
    | rest => .ok (charOfUnit unit, rest)

/-- The rest of a string after its opening quote, which stands at `opening`. The first number
bounds the characters still to come. -/
def readStringTail (opening : List Char) :
    Nat → List Char → List Char → Except Stop (List Char × List Char)
  | 0, _, _ => .error (.unterminated, opening)
  | _ + 1, _, [] => .error (.unterminated, opening)
  | fuel + 1, reversed, character :: rest =>
    if character == '\x22' then .ok (reversed.reverse, rest)
    else if character == '\\' then
      match rest with
      | [] => .error (.unterminated, opening)
      | 'u' :: afterMark =>
        match readUnicode rest afterMark with
        | .error stop => .error stop
        | .ok (read, after) => readStringTail opening fuel (read :: reversed) after
      | mark :: after =>
        match escaped? mark with
        | some read => readStringTail opening fuel (read :: reversed) after
        | none => .error (.badEscape, character :: rest)
    else if character.toNat ≤ 0x1F then .error (.controlCharacter, character :: rest)
    else readStringTail opening fuel (character :: reversed) rest

/-- A string, its opening quote already seen at the front of `opening`. -/
def readString (opening : List Char) : Except Stop (List Char × List Char) :=
  readStringTail opening (opening.length + 1) [] (opening.drop 1)

/-! ### Numbers and words -/

/-- The integer part of a number: a single zero, or digits that start with another. -/
def takeWhole : List Char → Option (List Char × List Char)
  | '0' :: rest => some (['0'], rest)
  | characters =>
    let (run, rest) := spanDigits characters
    if run.isEmpty then none else some (run, rest)

/-- A fraction with at least one digit, if the text goes on with one. -/
def takeFraction (characters : List Char) : Option (List Char × List Char) :=
  match spanFraction characters with
  | some (run, rest) => if run.isEmpty then none else some (run, rest)
  | none => none

/-- A number. -/
def readNumber (characters : List Char) : Except Stop (Value × List Char) :=
  let (negative, afterSign) : Bool × List Char := match characters with
    | '-' :: rest => (true, rest)
    | characters => (false, characters)
  match takeWhole afterSign with
  | none => .error (.valueExpected, characters)
  | some (whole, rest) =>
    match takeFraction rest, spanExponent ((takeFraction rest).elim rest Prod.snd) with
    | none, none =>
      if longestRun < whole.length then .error (.tooManyDigits, characters)
      else .ok (.int (if negative then -(valueOf whole : Int) else valueOf whole), rest)
    | fraction, exponent =>
      let (fraction, rest) := fraction.getD ([], rest)
      let (exponent, rest) := exponent.getD (0, rest)
      .ok (.float (.ofDecimal negative (valueOf (whole ++ fraction)) (exponent - fraction.length)),
        rest)

/-- What follows a word at the front of a text. -/
def dropWord? (word characters : List Char) : Option (List Char) :=
  if word.isPrefixOf characters then some (characters.drop word.length) else none

/-- A word that stands for a value, or else a number. -/
def readScalar (characters : List Char) : Except Stop (Value × List Char) :=
  let words : List (String × Value) := [("null", .null), ("true", .bool true),
    ("false", .bool false), ("NaN", .float .nan), ("Infinity", .float (.infinity false)),
    ("-Infinity", .float (.infinity true))]
  match words.findSome? fun (word, value) =>
      (dropWord? word.toList characters).map fun rest => (value, rest) with
  | some found => .ok found
  | none => readNumber characters

/-! ### Values -/

/-- How many brackets may be open at once. -/
def deepestNesting : Nat := 985

mutual
/-- A value, inside of which so many more brackets may be open at once. The fuel bounds twice the
characters still to come, since an opening bracket takes two steps. -/
def readValue : Nat → Nat → List Char → Except Stop (Value × List Char)
  | 0, _, characters => .error (.valueExpected, characters)
  | fuel + 1, depth, characters =>
    match characters, depth with
    | '\x22' :: _, _ => do
      let (read, rest) ← readString characters
      return (.text (String.ofList read), rest)
    | '[' :: _, 0 => .error (.tooDeep, characters)
    | '\x7b' :: _, 0 => .error (.tooDeep, characters)
    | '[' :: rest, depth + 1 =>
      match skipSpace rest with
      | ']' :: after => .ok (.list [], after)
      | start => do
        let (items, after) ← readItems fuel depth start
        return (.list items, after)
    | '\x7b' :: rest, depth + 1 =>
      match skipSpace rest with
      | '\x7d' :: after => .ok (.dict [], after)
      | start => do
        let (entries, after) ← readEntries fuel depth start
        return (.dict (Record.ofPairs entries), after)
    | characters, _ => readScalar characters

/-- The items of a list up to its closing bracket. -/
def readItems : Nat → Nat → List Char → Except Stop (List Value × List Char)
  | 0, _, characters => .error (.valueExpected, characters)
  | fuel + 1, depth, characters => do
    let (item, rest) ← readValue fuel depth characters
    match skipSpace rest with
    | ']' :: after => return ([item], after)
    | ',' :: more =>
      let (items, after) ← readItems fuel depth (skipSpace more)
      return (item :: items, after)
    | other => throw (.commaExpected, other)

/-- The members of an object up to its closing brace. -/
def readEntries : Nat → Nat → List Char → Except Stop (List (Value × Value) × List Char)
  | 0, _, characters => .error (.nameExpected, characters)
  | fuel + 1, depth, characters =>
    match characters with
    | '\x22' :: _ => do
      let (name, rest) ← readString characters
      match skipSpace rest with
      | ':' :: more =>
        let (value, rest) ← readValue fuel depth (skipSpace more)
        let entry : Value × Value := (.text (String.ofList name), value)
        match skipSpace rest with
        | '\x7d' :: after => return ([entry], after)
        | ',' :: more =>
          let (entries, after) ← readEntries fuel depth (skipSpace more)
          return (entry :: entries, after)
        | other => throw (.commaExpected, other)
      | other => throw (.colonExpected, other)
    | other => .error (.nameExpected, other)
end

/-- Reads a whole text as one value. -/
def readDocument (characters : List Char) : Except Stop Value :=
  match characters with
  | '\uFEFF' :: _ => .error (.byteOrderMark, characters)
  | characters => do
    let (value, rest) ← readValue (2 * characters.length + 2) deepestNesting (skipSpace characters)
    match skipSpace rest with
    | [] => return value
    | other => throw (.extraData, other)

/-- Reads a whole text as one value, or says what is wrong with it and where. -/
def read (source : String) : Except (ReadFault × Place) Value :=
  let characters := source.toList
  match readDocument characters with
  | .ok value => .ok value
  | .error (fault, rest) => .error (fault, placeAt characters (characters.length - rest.length))

end TableGateway.Json
