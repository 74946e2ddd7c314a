/-
This file holds decimal numbers: a sign, the digits of a coefficient and a power of
ten, with the special values of decimal arithmetic. The digits are kept as given,
so `1.50` and `1.5` are equal in value and different in text.
-/

import TableGateway.Number.Numeral

namespace TableGateway.Number

/-- A run of decimal digits, leading zeros included. -/
structure DigitRun where
  characters : List Char
  digital : ∀ character ∈ characters, isDigit character = true
  deriving DecidableEq, Repr

namespace DigitRun

/-- The run that characters are, if all are digits. -/
def ofChars? (characters : List Char) : Option DigitRun :=
  if digital : characters.all isDigit = true then
    some ⟨characters, List.all_eq_true.mp digital⟩
  else none

/-- The number that a run stands for. -/
def value (run : DigitRun) : Nat :=
  valueOf run.characters

end DigitRun

/-- A decimal number. The payload of a not-a-number is a run of digits, often none. -/
inductive Decimal where
  | finite (negative : Bool) (coefficient : DigitRun) (exponent : Int)
  | infinity (negative : Bool)
  | nan (negative signaling : Bool) (payload : DigitRun)
  deriving DecidableEq, Repr

namespace Decimal

def isNaN : Decimal → Bool
  | .nan .. => true
  | _ => false

def isFinite : Decimal → Bool
  | .finite .. => true
  | _ => false

/-- Whether a decimal is a zero. -/
def isZero : Decimal → Bool
  | .finite _ coefficient _ => coefficient.value == 0
  | _ => false

/-- The exact value of a finite decimal as a ratio. -/
def ratio? : Decimal → Option (Int × Nat)
  | .finite negative coefficient exponent =>
    let size := coefficient.value
    let (numerator, denominator) := match exponent with
      | .ofNat up => (size * powerOfTen up, 1)
      | .negSucc down => (size, powerOfTen (down + 1))
    some (if negative then -(numerator : Int) else numerator, denominator)
  | _ => none

/-- The nearest floating-point number; a signaling not-a-number has none. -/
def toBinary64? : Decimal → Option Binary64
  | .finite negative coefficient exponent =>
    some (.ofDecimal negative coefficient.value exponent)
  | .infinity negative => some (.infinity negative)
  | .nan _ false _ => some .nan
  | .nan _ true _ => none

/-- The text of a finite decimal: positional while the exponent is not positive and the first
digit stands no further than six places after the point, in exponent form otherwise. -/
def finiteText (coefficient : List Char) (exponent : Int) : List Char :=
  let left : Int := exponent + coefficient.length
  let point : Int := if exponent ≤ 0 && -6 < left then left else 1
  let written :=
    if point ≤ 0 then '0' :: '.' :: List.replicate point.natAbs '0' ++ coefficient
    else if (coefficient.length : Int) ≤ point then
      coefficient ++ List.replicate (point.toNat - coefficient.length) '0'
    else coefficient.take point.toNat ++ '.' :: coefficient.drop point.toNat
  if left = point then written
  else
    let shift := left - point
    written ++ 'E' :: (if shift < 0 then '-' else '+') :: digits shift.natAbs

/-- The text of a decimal. -/
def text (decimal : Decimal) : String :=
  let sign (negative : Bool) : List Char := if negative then ['-'] else []
  match decimal with
  | .finite negative coefficient exponent =>
    String.ofList (sign negative ++ finiteText coefficient.characters exponent)
  | .infinity negative => String.ofList (sign negative) ++ "Infinity"
  | .nan negative signaling payload =>
    String.ofList (sign negative) ++ (if signaling then "sNaN" else "NaN") ++
      String.ofList payload.characters

/-- The coefficient of a decimal without leading zeros, keeping one digit. -/
def canonicalDigits (run : List Char) : List Char :=
  let stripped := run.dropWhile (· == '0')
  if stripped.isEmpty then ['0'] else stripped

/-- Reads the text of a decimal. -/
def ofText? (source : String) : Option Decimal :=
  let (negative, rest) := spanSign source.toList
  if rest == "Infinity".toList then some (.infinity negative)
  else if "NaN".toList.isPrefixOf rest then
    (DigitRun.ofChars? (rest.drop 3)).map (.nan negative false)
  else if "sNaN".toList.isPrefixOf rest then
    (DigitRun.ofChars? (rest.drop 4)).map (.nan negative true)
  else
    let (whole, rest) := spanDigits rest
    let (fraction, rest) := (spanFraction rest).getD ([], rest)
    if whole.isEmpty && fraction.isEmpty then none
    else
      let (exponent, rest) := (spanExponent rest).getD (0, rest)
      if rest.isEmpty then
        (DigitRun.ofChars? (canonicalDigits (whole ++ fraction))).map fun coefficient =>
          .finite negative coefficient (exponent - fraction.length)
      else none

end Decimal

end TableGateway.Number
