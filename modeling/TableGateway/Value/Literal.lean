/-
This file writes values the way messages show them. The literal of a value quotes
texts and says what kind of value it is; the plain text of a value is for texts the
text itself, for points in time their ISO form, and the literal for most others. Both
are given for every value, but a message that would show an integer of too many digits
is not written at all: which values can be written is said apart. Compiling a clause and
telling a fault heed it; the messages of plans and handles are given as if there were no
such limit.
-/

import TableGateway.Number.IntegerText
import TableGateway.Text.Blank
import TableGateway.Text.Literal
import TableGateway.Value.Basic

namespace TableGateway

open Calendar Number Text

/-- The numbers of a point in time, separated by commas. -/
def numbersText (numbers : List Nat) : String :=
  joinWith ", " (numbers.map fun number => String.ofList (digits number))

/-- The clock part of a literal, without what is zero at its end. -/
def clockNumbers (clock : TimeOfDay) : List Nat :=
  [clock.hour, clock.minute] ++
    (if clock.microsecond ≠ 0 then [clock.second, clock.microsecond]
      else if clock.second ≠ 0 then [clock.second] else [])

/-- The literal of a span of microseconds: days, seconds of a day and microseconds, the two last
never negative. What is zero is left out. -/
def spanText (microseconds : Int) : String :=
  let seconds := microseconds.fdiv 1000000
  let days := seconds.fdiv 86400
  let parts :=
    [("days=", days), ("seconds=", seconds - days * 86400),
      ("microseconds=", microseconds - seconds * 1000000)]
  let written := (parts.filter fun part => part.2 != 0).map fun part =>
    part.1 ++ integerText part.2
  "datetime.timedelta(" ++ (if written.isEmpty then "0" else joinWith ", " written) ++ ")"

def Calendar.Zone.literal : Zone → String
  | .given microseconds =>
    if microseconds = 0 then "datetime.timezone.utc"
    else "datetime.timezone(" ++ spanText microseconds ++ ")"
  | .read seconds => "TzInfo(" ++ integerText seconds ++ ")"

/-- The zone at the end of a literal, if there is one. -/
def zoneText (zone : Option Zone) : String :=
  (zone.map fun zone => ", tzinfo=" ++ zone.literal).getD ""

def Calendar.DateTime.literal (moment : DateTime) : String :=
  let numbers := [moment.date.year, moment.date.month, moment.date.day] ++ clockNumbers moment.time
  "datetime.datetime(" ++ numbersText numbers ++ zoneText moment.zone ++ ")"

def Calendar.Date.literal (day : Date) : String :=
  "datetime.date(" ++ numbersText [day.year, day.month, day.day] ++ ")"

def Calendar.ClockTime.literal (clock : ClockTime) : String :=
  "datetime.time(" ++ numbersText (clockNumbers clock.time) ++ zoneText clock.zone ++ ")"

/-- The literal of a truth value. -/
def truthText (truth : Bool) : String :=
  if truth then "True" else "False"

/-- A list of literals in square brackets. -/
def bracketed (literals : List String) : String :=
  "[" ++ joinWith ", " literals ++ "]"

/-- A list of literals in parentheses; a single one keeps a comma. -/
def parenthesized (literals : List String) : String :=
  match literals with
  | [only] => "(" ++ only ++ ",)"
  | literals => "(" ++ joinWith ", " literals ++ ")"

/-- A list of literals in braces. -/
def braced (literals : List String) : String :=
  "\x7b" ++ joinWith ", " literals ++ "\x7d"

namespace Value

mutual
/-- The literal of a value. -/
def literal : Value → String
  | .null => "None"
  | .undefined => "UNDEFINED"
  | .bool truth => truthText truth
  | .int number => integerText number
  | .float number => number.text
  | .decimal number => "Decimal('" ++ number.text ++ "')"
  | .text characters => Text.literal characters
  | .bytes octets => bytesLiteral octets
  | .byteArray octets => "bytearray(" ++ bytesLiteral octets ++ ")"
  | .list items => bracketed (literals items)
  | .tuple items => parenthesized (literals items)
  | .set items => if items.isEmpty then "set()" else braced (literals items)
  | .frozenSet items =>
    if items.isEmpty then "frozenset()" else "frozenset(" ++ braced (literals items) ++ ")"
  | .dict entries => braced (entryLiterals entries)
  | .datetime moment => moment.literal
  | .date day => day.literal
  | .time clock => clock.literal
  | .object _ name => "<" ++ name ++ ">"
  | .formatter chosen _ => chosen.label
  | .kind chosen => "<" ++ chosen.label ++ ": " ++ Text.literal chosen.name ++ ">"
  | .operator chosen => "<" ++ chosen.label ++ ": " ++ Text.literal chosen.name ++ ">"
  | .order key descending => "Order(key=" ++ literal key ++ ", desc=" ++ literal descending ++ ")"
  | .fieldSpec chosen _ default =>
    "FieldSpec(formatter=" ++ chosen.label ++ ", default=" ++ literal default ++ ")"
  | .typeName name => "<class '" ++ name ++ "'>"
  | .record shape fields => shape.className ++ "(" ++ joinWith ", " (fieldLiterals fields) ++ ")"
termination_by structural value => value

def literals : List Value → List String
  | [] => []
  | item :: rest => literal item :: literals rest
termination_by structural items => items

def entryLiterals : List (Value × Value) → List String
  | [] => []
  | (key, value) :: rest => (literal key ++ ": " ++ literal value) :: entryLiterals rest
termination_by structural entries => entries

def fieldLiterals : List (String × Option String × Value) → List String
  | [] => []
  | (name, _, value) :: rest => (name ++ "=" ++ literal value) :: fieldLiterals rest
termination_by structural fields => fields
end

/-- A value as plain text. -/
def plainText : Value → String
  | .text characters => characters
  | .decimal number => number.text
  | .datetime moment => String.ofList (moment.date.isoChars ++ ' ' ::
      (moment.isoChars.drop (moment.date.isoChars.length + 1)))
  | .date day => day.isoText
  | .time clock => clock.isoText
  | .kind chosen => chosen.label
  | .operator chosen => chosen.label
  | .record .model fields => joinWith " " (fieldLiterals fields)
  | value => value.literal

mutual
/-- Whether a value can be written: no integer in it has too many digits. -/
def isWritable : Value → Bool
  | .int number => isShort number
  | .list items => areWritable items
  | .tuple items => areWritable items
  | .set items => areWritable items
  | .frozenSet items => areWritable items
  | .dict entries => areEntriesWritable entries
  | .order key descending => isWritable key && isWritable descending
  | .fieldSpec _ _ default => isWritable default
  | .record _ fields => areFieldsWritable fields
  | _ => true
termination_by structural value => value

def areWritable : List Value → Bool
  | [] => true
  | item :: rest => isWritable item && areWritable rest
termination_by structural items => items

def areEntriesWritable : List (Value × Value) → Bool
  | [] => true
  | (key, value) :: rest => isWritable key && isWritable value && areEntriesWritable rest
termination_by structural entries => entries

def areFieldsWritable : List (String × Option String × Value) → Bool
  | [] => true
  | (_, _, value) :: rest => isWritable value && areFieldsWritable rest
termination_by structural fields => fields
end

end Value

end TableGateway
