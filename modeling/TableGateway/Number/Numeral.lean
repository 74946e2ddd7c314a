/-
This file reads decimal notation: a sign, digits with an optional point, and an
optional exponent. What the several formats built on it accept beyond that is
decided where they are read.
-/

import TableGateway.Number.Binary64

namespace TableGateway.Number

/-- A number in decimal notation: `± coefficient · 10 ^ exponent`. -/
structure Numeral where
  negative : Bool
  coefficient : Nat
  exponent : Int
  deriving DecidableEq, Repr

/-- The leading digits of a text and what follows them. -/
def spanDigits (characters : List Char) : List Char × List Char :=
  (characters.takeWhile isDigit, characters.dropWhile isDigit)

/-- An optional sign in front: whether it is a minus, and what follows it. -/
def spanSign : List Char → Bool × List Char
  | '-' :: rest => (true, rest)
  | '+' :: rest => (false, rest)
  | characters => (false, characters)

/-- An exponent part, if the text has a whole one: the exponent and what follows it. -/
def spanExponent (characters : List Char) : Option (Int × List Char) :=
  match characters with
  | mark :: rest =>
    if mark == 'e' || mark == 'E' then
      let (negative, rest) := spanSign rest
      let (run, rest) := spanDigits rest
      if run.isEmpty then none
      else
        let size : Int := valueOf run
        some (if negative then -size else size, rest)
    else none
  | [] => none

/-- The fraction after a point, if there is a point. -/
def spanFraction (characters : List Char) : Option (List Char × List Char) :=
  match characters with
  | '.' :: rest => some (spanDigits rest)
  | _ => none

namespace Numeral

/-- Reads a whole text as a number. A digit is needed on one side of the point at least. -/
def ofChars? (characters : List Char) : Option Numeral :=
  let (negative, rest) := spanSign characters
  let (whole, rest) := spanDigits rest
  let (fraction, rest) := (spanFraction rest).getD ([], rest)
  if whole.isEmpty && fraction.isEmpty then none
  else
    let (exponent, rest) := (spanExponent rest).getD (0, rest)
    if rest.isEmpty then
      some ⟨negative, valueOf (whole ++ fraction), exponent - fraction.length⟩
    else none

/-- The nearest floating-point number. -/
def toBinary64 (numeral : Numeral) : Binary64 :=
  .ofDecimal numeral.negative numeral.coefficient numeral.exponent

end Numeral

/-- Reads the text that a floating-point number is written as. -/
def Binary64.ofText? : String → Option Binary64
  | "nan" => some .nan
  | "inf" => some (.infinity false)
  | "-inf" => some (.infinity true)
  | text => (Numeral.ofChars? text.toList).map Numeral.toBinary64

end TableGateway.Number
