/-
This file writes values as JSON text. Only ASCII is written, all else as escapes;
numbers that are not finite, and values that have no JSON form, are refused. Points in
time and decimals are written as texts, and keys of mappings are turned into texts.
-/

import TableGateway.Json.Fault
import TableGateway.Text.Literal
import TableGateway.Value.Basic

namespace TableGateway.Json

open Number Text

/-- A four-digit escape of a code unit. -/
def unitEscape (unit : Nat) : List Char :=
  '\\' :: 'u' :: hexDigits 4 unit

/-- A character inside a JSON string. Those beyond the first plane become two surrogates. -/
def writeChar (character : Char) : List Char :=
  let code := character.toNat
  if code == 34 then ['\\', '\x22']
  else if code == 92 then ['\\', '\\']
  else if code == 10 then ['\\', 'n']
  else if code == 13 then ['\\', 'r']
  else if code == 9 then ['\\', 't']
  else if code == 12 then ['\\', 'f']
  else if code == 8 then ['\\', 'b']
  else if 0x20 ≤ code && code ≤ 0x7E then [character]
  else if code < 0x10000 then unitEscape code
  else
    let offset := code - 0x10000
    unitEscape (0xD800 + offset / 0x400) ++ unitEscape (0xDC00 + offset % 0x400)

/-- A text as a JSON string. -/
def writeString (characters : List Char) : List Char :=
  '\x22' :: characters.flatMap writeChar ++ ['\x22']

/-- A finite number. -/
def writeFloat (number : Binary64) : Except WriteFault (List Char) :=
  if number.isFinite then .ok number.text.toList else .error .notFinite

/-- The type of a value as a complaint about a key names it. -/
def keyTypeText : Value → String
  | .decimal _ => "decimal.Decimal"
  | .datetime _ => "datetime.datetime"
  | .date _ => "datetime.date"
  | .time _ => "datetime.time"
  | value => value.typeText

/-- The text of a key. -/
def writeKey : Value → Except WriteFault (List Char)
  | .text characters => .ok characters.toList
  | .float number => writeFloat number
  | .bool truth => .ok (if truth then "true".toList else "false".toList)
  | .null => .ok "null".toList
  | .int number => .ok (integerText number).toList
  | value => .error (.badKey (keyTypeText value))

mutual
/-- A value as JSON text. -/
def write : Value → Except WriteFault (List Char)
  | .null => .ok "null".toList
  | .bool truth => .ok (if truth then "true".toList else "false".toList)
  | .int number => .ok (integerText number).toList
  | .float number => writeFloat number
  | .text characters => .ok (writeString characters.toList)
  | .list items => do return '[' :: (← writeItems items) ++ [']']
  | .tuple items => do return '[' :: (← writeItems items) ++ [']']
  | .dict entries => do return '\x7b' :: (← writeEntries entries) ++ ['\x7d']
  | .datetime moment => .ok (writeString moment.isoChars)
  | .date day => .ok (writeString day.isoChars)
  | .decimal number => .ok (writeString number.text.toList)
  | value => .error (.unwritable value.typeText)
termination_by structural value => value

/-- The items of a list, with commas between them. -/
def writeItems : List Value → Except WriteFault (List Char)
  | [] => .ok []
  | item :: rest => do
    let first ← write item
    let others ← writeItems rest
    return if rest.isEmpty then first else first ++ ',' :: ' ' :: others
termination_by structural items => items

/-- The entries of a mapping, with commas between them. -/
def writeEntries : List (Value × Value) → Except WriteFault (List Char)
  | [] => .ok []
  | (key, value) :: rest => do
    let name ← writeKey key
    let written ← write value
    let others ← writeEntries rest
    let first := writeString name ++ ':' :: ' ' :: written
    return if rest.isEmpty then first else first ++ ',' :: ' ' :: others
termination_by structural entries => entries
end

end TableGateway.Json
