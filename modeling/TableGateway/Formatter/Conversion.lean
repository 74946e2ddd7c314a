/-
This file is what formatters do: `format` turns a value into the one a field holds,
`load` does so for a value out of a row, and `dump` turns a held value into the one that
is bound on write. The two absences pass through all of them. Only JSON fields are
encoded on write and decoded on load.
-/

import TableGateway.Formatter.Scalar
import TableGateway.Json.Reader
import TableGateway.Json.Writer

namespace TableGateway

open Calendar Number

/-! ### JSON documents -/

/-- The JSON text of a value. -/
def jsonText (value : Value) : Except Fault String :=
  match Json.write value with
  | .ok characters => .ok (String.ofList characters)
  | .error fault => .error (.unwritable fault)

/-- What a fault of reading JSON is to the caller: what goes beyond the reader's limits is not
reported as a fault of the text. -/
def readFailure (source : String) (fault : Json.ReadFault) (place : Json.Place) : Failure :=
  match fault with
  | .tooManyDigits => .unreadableNumber
  | .tooDeep => .tooDeep
  | fault => .invalid (.unreadableJson source fault place)

/-- The value that a text or bytes hold as JSON; any other value is itself. -/
def jsonValue (value : Value) : Except Failure Value := do
  match ← decoded value with
  | .text characters =>
    match Json.read characters with
    | .ok read => return read
    | .error (fault, place) => throw (readFailure characters fault place)
  | value => return value

namespace Formatter

/-- A refusal of a value by a formatter of a kind. -/
def refusal (kind : Kind) (value : Value) (reason : Refusal) : Failure :=
  .invalid (.refused kind value reason)

/-- An integer out of a value that is not absent. A member of a closed set of names gives its name
as it stands, which is not an integer. -/
def convertInteger (raw : Value) : Except Failure Value :=
  if raw.isNaN then .error (refusal .integer raw .numberRequired)
  else match raw.memberName? with
    | some name => .ok (.text name)
    | none => do
      let value ← prepared raw
      match integerOf value with
      | .ok number => return .int number
      | .error reason => throw (refusal .integer value reason)

/-- A floating-point number out of a value that is not absent. -/
def convertFloat (raw : Value) : Except Failure Value := do
  let value ← prepared raw
  match floatOf value with
  | .ok number =>
    if number.isNaN then throw (refusal .float raw .numberRequired) else return .float number
  | .error reason => throw (refusal .float value reason)

/-- A text out of a value that is not absent. -/
def convertText (strip : Bool) (raw : Value) : Except Failure Value := do
  match ← decoded raw with
  | .text characters => return .text (if strip then Text.trim characters else characters)
  | value =>
    match textOf value with
    | .ok characters => return .text characters
    | .error reason => throw (refusal .string value reason)

/-- A point in time out of a value that names one. An integer too large for a floating-point number
names none. -/
def momentOf : Value → Except MomentFault DateTime
  | .text characters => readText characters.toList
  | .int number =>
    if (Binary64.ofInt number).isFinite then ofInteger false number else .error .notMoment
  | .float number => ofBinary64 false number
  | .decimal number =>
    match number.toBinary64? with
    | some nearest => ofBinary64 false nearest
    | none => .error .notMoment
  | _ => .error .notMoment

/-- A point in time out of a value that is not absent. -/
def convertDateTime (raw : Value) : Except Failure Value :=
  match raw with
  | .datetime moment => .ok (.datetime moment)
  | .date day => .ok (.datetime (.ofDate day))
  | .bool truth => .error (refusal .datetime (.bool truth) .unexplained)
  | raw =>
    if raw.isNaN then .error (refusal .datetime raw .unexplained)
    else do
      let value ← prepared raw
      match momentOf value with
      | .ok moment => return .datetime moment
      | .error fault => throw (refusal .datetime value (.moment fault))

/-- A JSON document out of a value that is not absent: any value with a JSON text. -/
def convertJson (raw : Value) : Except Failure Value := do
  let value ← decoded raw
  match Json.write value with
  | .ok _ => return value
  | .error fault => throw (refusal .json value (.unwritable fault))

/-- What a formatter makes of a value that is not absent. -/
def convert : Formatter → Value → Except Failure Value
  | .integer, raw => convertInteger raw
  | .float, raw => convertFloat raw
  | .boolean, raw => .ok (.bool (truthOf raw))
  | .string strip, raw => convertText strip raw
  | .datetime, raw => convertDateTime raw
  | .json, raw => convertJson raw
  | .asIs, raw => .ok raw

/-- The value a field holds for a given one. -/
def format (formatter : Formatter) (raw : Value) : Except Failure Value :=
  if raw.isNull || raw.isUndefined then .ok raw else formatter.convert raw

/-- The value a field holds for one out of a row. -/
def load (formatter : Formatter) (raw : Value) : Except Failure Value :=
  if raw.isNull || raw.isUndefined then .ok raw
  else match formatter with
    | .json => jsonValue raw
    | formatter => formatter.convert raw

/-- The value that is bound on write for one that a field holds. -/
def dump (formatter : Formatter) (value : Value) : Except Failure Value :=
  match formatter with
  | .json =>
    if value.isNull || value.isUndefined then .ok value
    else match jsonText value with
      | .ok characters => .ok (.text characters)
      | .error fault => .error (.invalid fault)
  | _ => .ok value

/-- The integer that a value is, or `undefined` where the formatter refuses it. -/
def integerOrUndefined (value : Value) : Except Failure Value :=
  match format .integer value with
  | .ok number => .ok number
  | .error failure => if failure.isInvalid then .ok .undefined else .error failure

/-- The formatter that a value chooses: a formatter itself, a kind, or the name of a kind in any
case. The names hold ASCII letters only, and no other character has one of these letters as its
lower case. -/
def ofValue? : Value → Except Fault Formatter
  | .formatter chosen _ => .ok chosen
  | .kind kind => .ok (ofKind kind)
  | .text name =>
    match Kind.ofName? name.toLower with
    | some kind => .ok (ofKind kind)
    | none => .error (.unknownKindName name)
  | value => .error (.unknownKind value)

/-- The formatter that a value converts by: one itself, or the one of a field. -/
def within : Value → Except Failure Formatter
  | .formatter chosen _ => .ok chosen
  | .fieldSpec chosen _ _ => .ok chosen
  | _ => .error .missingMember

end Formatter

end TableGateway
