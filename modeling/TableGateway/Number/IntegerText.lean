/-
This file reads integers out of texts, in two grammars. A field takes a lenient one:
zeros in front go with the underscores among them, and a fraction of zeros is dropped. A
count is read strictly: a sign, and digits with single underscores between them. Neither
reads more than a fixed number of digits, and no integer with more of them is written.
-/

import TableGateway.Number.Numeral

namespace TableGateway.Number

/-- Why a text is no integer. -/
inductive IntegerFault where
  | unreadable
  | tooLong
  deriving DecidableEq, Repr

/-- The longest run of digits that is read or written. -/
def longestRun : Nat := 4300

/-- Whether a number has at most so many decimal digits. -/
def fitsIn : Nat → Nat → Bool
  | 0, value => value == 0
  | places + 1, value => value == 0 || fitsIn places (value / 10)

/-- Whether an integer can be written: its text has no more digits than a text may have. -/
def isShort (number : Int) : Bool :=
  fitsIn longestRun number.natAbs

/-! ### Underscores -/

/-- Whether two neighbours of a text are underscores. -/
def hasDoubleUnderscore : List Char → Bool
  | '_' :: '_' :: _ => true
  | _ :: rest => hasDoubleUnderscore rest
  | [] => false

/-- A text without its underscores, if they stand alone and at neither end. -/
def withoutUnderscores? (characters : List Char) : Option (List Char) :=
  if characters.head? == some '_' || characters.getLast? == some '_' ||
      hasDoubleUnderscore characters then none
  else some (characters.filter (· != '_'))

/-! ### Integers in a field -/

/-- What a text goes on with after zeros and underscores, of which the last is given: it is kept if
nothing but a fraction follows. -/
def skipZeros (last : Char) : List Char → Option (List Char)
  | [] => some [last]
  | character :: rest =>
    if character == '0' || character == '_' then skipZeros character rest
    else if character == '.' then some (last :: '.' :: rest)
    else if isDigit character || character == '-' then some (character :: rest)
    else none

/-- A text without the zeros in front; it must begin with a digit or a minus. -/
def withoutLeadingZeros? : List Char → Option (List Char)
  | '0' :: rest => skipZeros '0' rest
  | first :: rest => if isDigit first || first == '-' then some (first :: rest) else none
  | [] => none

/-- A text up to its point, if zeros and nothing else follow the point. -/
def withoutZeroFraction (characters : List Char) : List Char :=
  match characters.dropWhile (· != '.') with
  | _ :: zeros =>
    if !zeros.isEmpty && zeros.all (· == '0') then characters.takeWhile (· != '.') else characters
  | [] => characters

/-- Reads an integer as it is written: a minus, and digits that do not begin with a zero unless it
is the only one. The minus counts among the digits that are too many. -/
def readWritten (characters : List Char) : Except IntegerFault Int :=
  let (negative, rest) := match characters with
    | '-' :: rest => (true, rest)
    | rest => (false, rest)
  match rest with
  | ['0'] => .ok 0
  | '0' :: _ => .error .unreadable
  | rest =>
    let (run, after) := spanDigits rest
    if longestRun < run.length + (if negative then 1 else 0) then .error .tooLong
    else if run.isEmpty || !after.isEmpty then .error .unreadable
    else .ok (if negative then -(valueOf run : Int) else valueOf run)

/-- A text behind an optional plus and an optional minus: whether there is a minus, and the rest. A
plus and a minus do not go together. -/
def spanSigns? : List Char → Option (Bool × List Char)
  | '+' :: '-' :: _ => none
  | '+' :: rest => some (false, rest)
  | '-' :: rest => some (true, rest)
  | characters => some (false, characters)

/-- Brings a text to the form that integers are written in, if it has the right beginning. -/
def normalize? (characters : List Char) : Option (List Char) := do
  let (negative, rest) ← spanSigns? characters
  let rest ← withoutLeadingZeros? rest
  let rest := withoutZeroFraction rest
  let rest := (withoutUnderscores? rest).getD rest
  return if negative then '-' :: rest else rest

/-- Reads the integer that a trimmed text in a field stands for. -/
def readInteger (characters : List Char) : Except IntegerFault Int :=
  match normalize? characters with
  | some written => readWritten written
  | none => .error .unreadable

/-! ### Counts -/

/-- Whether a run is digits with single underscores between them. -/
def isGrouped : List Char → Bool
  | [] => false
  | [last] => isDigit last
  | first :: '_' :: rest => isDigit first && isGrouped rest
  | first :: rest => isDigit first && isGrouped rest

/-- Reads a count: a sign and grouped digits. -/
def readCount? (characters : List Char) : Option Int :=
  let (negative, grouped) := spanSign characters
  let run := grouped.filter isDigit
  if isGrouped grouped && run.length ≤ longestRun then
    some (if negative then -(valueOf run : Int) else valueOf run)
  else none

end TableGateway.Number
