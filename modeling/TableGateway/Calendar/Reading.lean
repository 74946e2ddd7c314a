/-
This file reads points in time from ISO 8601 text and from numbers. Text is a date,
optionally followed by a time and a zone; a text that is a number, and a number, count
seconds since 1970 in UTC, or milliseconds when they are large. Each way to go wrong
has its own cause.
-/

import TableGateway.Calendar.DateTime
import TableGateway.Number.Numeral

namespace TableGateway.Calendar

open Number

/-- Why a text is no date. -/
inductive DateFault where
  | tooShort
  | yearCharacter
  | separator
  | monthCharacter
  | dayCharacter
  | monthRange
  | dayRange
  | extraCharacters
  deriving DecidableEq, Repr

/-- Why a value names no point in time. -/
inductive MomentFault where
  | notMoment
  | afterLastYear (fromText : Bool)
  | beforeFirstYear (fromText : Bool)
  | yearZero
  | date (fault : DateFault)
  deriving DecidableEq, Repr

def DateFault.message : DateFault → String
  | .tooShort => "input is too short"
  | .yearCharacter => "invalid character in year"
  | .separator => "invalid date separator, expected \x60-\x60"
  | .monthCharacter => "invalid character in month"
  | .dayCharacter => "invalid character in day"
  | .monthRange => "month value is outside expected range of 1-12"
  | .dayRange => "day value is outside expected range"
  | .extraCharacters => "unexpected extra characters at the end of the input"

def MomentFault.message : MomentFault → String
  | .notMoment => "Input should be a valid datetime"
  | .afterLastYear fromText =>
    (if fromText then "Input should be a valid datetime or date, "
      else "Input should be a valid datetime, ") ++
      "dates after 9999 are not supported as unix timestamps"
  | .beforeFirstYear fromText =>
    (if fromText then "Input should be a valid datetime or date, "
      else "Input should be a valid datetime, ") ++
      "dates before 0000 are not supported as unix timestamps"
  | .yearZero => "Input should be a valid datetime, year 0 is out of range"
  | .date fault => "Input should be a valid datetime or date, " ++ fault.message

/-! ### Text -/

/-- A run of exactly so many digits at the front: its value and what follows it. -/
def takeDigits : Nat → Nat → List Char → Option (Nat × List Char)
  | 0, value, rest => some (value, rest)
  | _ + 1, _, [] => none
  | count + 1, value, character :: rest =>
    match digitValue? character with
    | some digit => takeDigits count (value * 10 + digit) rest
    | none => none

/-- The hyphen between the parts of a date. -/
def takeHyphen : List Char → Except DateFault (List Char)
  | '-' :: rest => .ok rest
  | _ => .error .separator

/-- A date at the front of a text, and what follows it. -/
def takeDate (characters : List Char) : Except DateFault (Date × List Char) := do
  if (String.ofList characters).utf8ByteSize < 10 then throw .tooShort
  let some (year, rest) := takeDigits 4 0 characters | throw .yearCharacter
  let rest ← takeHyphen rest
  let some (month, rest) := takeDigits 2 0 rest | throw .monthCharacter
  let rest ← takeHyphen rest
  let some (day, rest) := takeDigits 2 0 rest | throw .dayCharacter
  if month < 1 || 12 < month then throw .monthRange
  if day < 1 || daysInMonth year month < day then throw .dayRange
  return (⟨year, month, day⟩, rest)

/-- The microseconds that a run of digits after the point stands for; digits beyond the sixth are
dropped. -/
def fractionMicroseconds (run : List Char) : Nat :=
  let kept := run.take 6
  valueOf kept * powerOfTen (6 - kept.length)

/-- Seconds and their fraction, if the text goes on with them. -/
def takeSeconds (characters : List Char) : Option (Nat × Nat × List Char) :=
  match characters with
  | ':' :: rest =>
    match takeDigits 2 0 rest with
    | some (second, rest) =>
      match rest with
      | mark :: afterMark =>
        if mark == '.' || mark == ',' then
          let (run, rest) := spanDigits afterMark
          if run.isEmpty then none else some (second, fractionMicroseconds run, rest)
        else some (second, 0, rest)
      | [] => some (second, 0, [])
    | none => none
  | _ => some (0, 0, characters)

/-- A time of day at the front of a text, and what follows it. -/
def takeTime (characters : List Char) : Option (TimeOfDay × List Char) := do
  let (hour, rest) ← takeDigits 2 0 characters
  match rest with
  | ':' :: rest =>
    let (minute, rest) ← takeDigits 2 0 rest
    let (second, microsecond, rest) ← takeSeconds rest
    let time : TimeOfDay := ⟨hour, minute, second, microsecond⟩
    if time.isValid then some (time, rest) else none
  | _ => none

/-- A zone of hours and minutes, with or without a colon between them. -/
def readOffset (negative : Bool) (characters : List Char) : Option Zone := do
  let (hours, rest) ← takeDigits 2 0 characters
  let rest := match rest with
    | ':' :: rest => rest
    | rest => rest
  let (minutes, rest) ← takeDigits 2 0 rest
  if rest.isEmpty && minutes < 60 && hours < 24 then
    let size : Int := hours * 3600 + minutes * 60
    some (.read (if negative then -size else size))
  else none

/-- The zone that ends a text; none at all is allowed. -/
def readZone : List Char → Option (Option Zone)
  | [] => some none
  | ['Z'] => some (some (.read 0))
  | ['z'] => some (some (.read 0))
  | '+' :: rest => (readOffset false rest).map some
  | '-' :: rest => (readOffset true rest).map some
  | '\u2212' :: rest => (readOffset true rest).map some
  | _ => none

/-- What stands between a date and a time. -/
def isTimeMark (character : Char) : Bool :=
  character == 'T' || character == 't' || character == ' ' || character == '_'

/-- The time and zone after a date. -/
def readClock : List Char → Option (TimeOfDay × Option Zone)
  | mark :: rest =>
    if isTimeMark mark then do
      let (time, rest) ← takeTime rest
      let zone ← readZone rest
      some (time, zone)
    else none
  | [] => none

/-- Reads ISO 8601 text: a date alone is its midnight. -/
def readIso (characters : List Char) : Except MomentFault DateTime := do
  let (date, rest) ← (takeDate characters).mapError .date
  let moment ← match rest with
    | [] => pure (DateTime.ofDate date)
    | rest =>
      match readClock rest with
      | some (time, zone) => pure ⟨date, time, zone⟩
      | none => throw (.date .extraCharacters)
  if moment.date.year = 0 then throw .yearZero
  return moment

/-! ### Numbers -/

/-- Numbers beyond this size count milliseconds. -/
def secondsLimit : Nat := 20000000000

/-- The last second of the year 9999. -/
def lastSecond : Int := 253402300799

/-- The first second of the year 0. -/
def firstSecond : Int := -62167219200

/-- The moment some seconds and microseconds after 1970-01-01 in UTC. -/
def ofUnix (fromText : Bool) (seconds : Int) (microsecond : Nat) : Except MomentFault DateTime :=
  if lastSecond < seconds then .error (.afterLastYear fromText)
  else if seconds < firstSecond then .error (.beforeFirstYear fromText)
  else
    let days := seconds.fdiv 86400
    let date := Date.ofDayNumber days
    if date.year = 0 then .error .yearZero
    else .ok ⟨date, .ofSeconds (seconds - days * 86400).toNat microsecond, some (.read 0)⟩

/-- Reads a whole number of seconds, or of milliseconds when it is large. -/
def ofInteger (fromText : Bool) (value : Int) : Except MomentFault DateTime :=
  if value.natAbs ≤ secondsLimit then ofUnix fromText value 0
  else
    let seconds := value.fdiv 1000
    ofUnix fromText seconds ((value - seconds * 1000).toNat * 1000)

/-- How many microseconds a fraction of a unit is, where the unit has so many. The fraction and the
product are floating-point numbers; the product goes to the nearest integer, a half upwards. -/
def fractionOfUnit (unit remainder denominator : Nat) : Nat :=
  match (Binary64.ofRatio false remainder denominator).ratio? with
  | none => 0
  | some (numerator, denominator) =>
    match (Binary64.ofRatio false (numerator.toNat * unit) denominator).ratio? with
    | none => 0
    | some (numerator, denominator) => (2 * numerator.toNat + denominator) / (2 * denominator)

/-- The moment some microseconds after 1970-01-01 in UTC. -/
def ofMicroseconds (fromText : Bool) (microseconds : Int) : Except MomentFault DateTime :=
  let seconds := microseconds.fdiv 1000000
  ofUnix fromText seconds (microseconds - seconds * 1000000).toNat

/-- Reads seconds with a fraction, or milliseconds when they are many. The whole units count
exactly. -/
def ofBinary64 (fromText : Bool) (value : Binary64) : Except MomentFault DateTime :=
  match value, value.ratio? with
  | .infinity true, _ => .error (.beforeFirstYear fromText)
  | .infinity false, _ => .error (.afterLastYear fromText)
  | _, none => .error .notMoment
  | _, some (numerator, denominator) =>
    let unit := if secondsLimit * denominator < numerator.natAbs then 1000 else 1000000
    let whole := numerator.fdiv denominator
    let remainder := (numerator - whole * denominator).toNat
    ofMicroseconds fromText (whole * unit + fractionOfUnit unit remainder denominator)

/-- A text that is a number: a sign and digits, with a point and what may follow one. Integers
need to fit 64 bits. -/
inductive NumberText where
  | integer (value : Int)
  | real (value : Binary64)
  deriving DecidableEq, Repr

/-- The largest integer of 64 bits. -/
def largestInt64 : Nat := 9223372036854775807

/-- Reads a text as a number. -/
def readNumber? (characters : List Char) : Option NumberText :=
  let (negative, rest) := spanSign characters
  let (run, rest) := spanDigits rest
  let size := valueOf run
  if largestInt64 < size then none
  else
    match rest with
    | [] => if run.isEmpty then none else some (.integer (if negative then -(size : Int) else size))
    | '.' :: _ => (Numeral.ofChars? characters).map fun numeral => .real numeral.toBinary64
    | _ => none

/-- Reads a text as a point in time. A number with a point that lies out of range is reported as
the date it is not. -/
def readText (characters : List Char) : Except MomentFault DateTime :=
  match readNumber? characters with
  | some (.integer value) => ofInteger true value
  | some (.real value) =>
    match ofBinary64 true value with
    | .error (.afterLastYear _) => readIso characters
    | .error (.beforeFirstYear _) => readIso characters
    | outcome => outcome
  | none => readIso characters

end TableGateway.Calendar
