/-
This file holds the binary floating-point numbers of 64 bits: the nearest one to a
ratio, exact comparison, and the fewest decimal digits that read back as the number.
A finite number is a sign, a significand below `2^53` and a power of two.
-/

import TableGateway.Number.Digits

namespace TableGateway.Number

/-- A 64-bit binary floating-point number; all not-a-number bit patterns are one value. -/
inductive Binary64 where
  | nan
  | infinity (negative : Bool)
  | finite (negative : Bool) (significand : Nat) (exponent : Int)
  deriving DecidableEq, Repr

/-- A quotient rounded to the nearest integer, a tie to the even neighbour. -/
def roundHalfEven (numerator denominator : Nat) : Nat :=
  let quotient := numerator / denominator
  let twice := 2 * (numerator % denominator)
  if twice < denominator then quotient
  else if denominator < twice then quotient + 1
  else if quotient % 2 == 0 then quotient else quotient + 1

/-- The ratio divided by a power of two, as a ratio. -/
def scaleDown (numerator denominator : Nat) (exponent : Int) : Nat × Nat :=
  match exponent with
  | .ofNat up => (numerator, denominator * powerOfTwo up)
  | .negSucc down => (numerator * powerOfTwo (down + 1), denominator)

namespace Binary64

/-- The least exponent of a finite number. -/
def leastExponent : Int := -1074

/-- The greatest exponent of a finite number. -/
def greatestExponent : Int := 971

/-- The zero of a sign. -/
def zero (negative : Bool) : Binary64 :=
  .finite negative 0 leastExponent

/-- The nearest number to a ratio, a tie to the even significand; too large gives infinity. -/
def ofRatio (negative : Bool) (numerator denominator : Nat) : Binary64 :=
  if numerator = 0 then zero negative
  else
    let guess : Int := (numerator.log2 : Int) - denominator.log2 - 52
    let (top, bottom) := scaleDown numerator denominator guess
    let exponent := max (if top / bottom < powerOfTwo 52 then guess - 1 else guess) leastExponent
    let (top, bottom) := scaleDown numerator denominator exponent
    let rounded := roundHalfEven top bottom
    let (significand, exponent) :=
      if rounded = powerOfTwo 53 then (powerOfTwo 52, exponent + 1) else (rounded, exponent)
    if greatestExponent < exponent then .infinity negative
    else .finite negative significand exponent

/-- The nearest number to `± coefficient · 10 ^ exponent`. Beyond four hundred places the answer
is zero or infinity, whatever the digits are. -/
def ofDecimal (negative : Bool) (coefficient : Nat) (exponent : Int) : Binary64 :=
  if coefficient = 0 then zero negative
  else
    let magnitude : Int := exponent + digitCount coefficient
    if 400 < magnitude then .infinity negative
    else if magnitude < -400 then zero negative
    else match exponent with
      | .ofNat up => ofRatio negative (coefficient * powerOfTen up) 1
      | .negSucc down => ofRatio negative coefficient (powerOfTen (down + 1))

/-- The nearest number to an integer. -/
def ofInt (value : Int) : Binary64 :=
  ofRatio (value < 0) value.natAbs 1

def isNaN : Binary64 → Bool
  | .nan => true
  | _ => false

def isFinite : Binary64 → Bool
  | .finite .. => true
  | _ => false

/-- Whether the number is a zero of either sign. -/
def isZero : Binary64 → Bool
  | .finite _ significand _ => significand == 0
  | _ => false

/-- The magnitude of a finite number as a ratio. -/
def magnitude (significand : Nat) (exponent : Int) : Nat × Nat :=
  match exponent with
  | .ofNat up => (significand * powerOfTwo up, 1)
  | .negSucc down => (significand, powerOfTwo (down + 1))

/-- The exact value of a finite number as a ratio. -/
def ratio? : Binary64 → Option (Int × Nat)
  | .finite negative significand exponent =>
    let (numerator, denominator) := magnitude significand exponent
    some (if negative then -(numerator : Int) else numerator, denominator)
  | _ => none

/-! ### The fewest digits that read back -/

/-- How many decimal places the integer part of a positive ratio has; for a ratio below one, how
many zeros follow the point, negated. So `10 ^ (p - 1) ≤ ratio < 10 ^ p`. -/
def pointPosition (numerator denominator : Nat) : Int :=
  if denominator ≤ numerator then digitCount (numerator / denominator)
  else
    let above := (denominator + numerator - 1) / numerator
    1 - (digitCount (above - 1) : Int)

/-- The ratio counted in steps of a power of ten. -/
def scaleDecimal (numerator denominator : Nat) (exponent : Int) : Nat × Nat :=
  match exponent with
  | .ofNat up => (numerator, denominator * powerOfTen up)
  | .negSucc down => (numerator * powerOfTen (down + 1), denominator)

/-- The numbers between which every real rounds to a finite number, and whether the ends do;
counted in quarters of its last place. -/
structure Rounding where
  low : Nat
  centre : Nat
  high : Nat
  closed : Bool

def rounding (significand : Nat) (exponent : Int) : Rounding :=
  { low := if significand = powerOfTwo 52 ∧ leastExponent < exponent then 4 * significand - 1
      else 4 * significand - 2
    centre := 4 * significand
    high := 4 * significand + 2
    closed := significand % 2 == 0 }

/-- Whether `digits · 10 ^ step` lies within the rounding of a number with this exponent. -/
def Rounding.holds (range : Rounding) (exponent : Int) (candidate : Nat) (step : Int) : Bool :=
  let (low, lowUnit) := magnitude range.low (exponent - 2)
  let (high, highUnit) := magnitude range.high (exponent - 2)
  let (value, unit) := match step with
    | .ofNat up => (candidate * powerOfTen up, 1)
    | .negSucc down => (candidate, powerOfTen (down + 1))
  if range.closed then low * unit ≤ value * lowUnit && value * highUnit ≤ high * unit
  else low * unit < value * lowUnit && value * highUnit < high * unit

/-- The point of the grid with this many digits that reads back as the number, if there is one:
the nearer of the two neighbours that do, the even one at a tie. -/
def onGrid (significand : Nat) (exponent : Int) (position : Int) (count : Nat) : Option Nat :=
  let (numerator, denominator) := magnitude significand exponent
  let step := position - count
  let (top, bottom) := scaleDecimal numerator denominator step
  let below := top / bottom
  let range := rounding significand exponent
  let lowHolds := range.holds exponent below step
  let highHolds := range.holds exponent (below + 1) step
  if lowHolds && highHolds then
    let twice := 2 * (top % bottom)
    some (if twice < bottom then below else if bottom < twice then below + 1
      else if below % 2 == 0 then below else below + 1)
  else if lowHolds then some below
  else if highHolds then some (below + 1)
  else none

/-- The first grid with a hit, trying one digit more each round. -/
def firstGrid (significand : Nat) (exponent : Int) (position : Int) : Nat → Nat → Nat × Int
  | 0, count => ((onGrid significand exponent position count).getD 0, position - count)
  | fuel + 1, count =>
    match onGrid significand exponent position count with
    | some found => (found, position - count)
    | none => firstGrid significand exponent position fuel (count + 1)

/-- The fewest digits that read back as a finite nonzero number, with the exponent of the last
digit. Seventeen digits always suffice. -/
def shortest (significand : Nat) (exponent : Int) : Nat × Int :=
  let (numerator, denominator) := magnitude significand exponent
  firstGrid significand exponent (pointPosition numerator denominator) 17 1

/-- Digits without the zeros at their end, and how many zeros went. -/
def dropTrailingZeros (run : List Char) : List Char × Nat :=
  let zeros := (run.reverse.takeWhile (· == '0')).length
  (run.take (run.length - zeros), zeros)

/-- The exponent part of a text: a sign and at least two digits. -/
def exponentText (exponent : Int) : List Char :=
  'e' :: (if exponent < 0 then '-' else '+') :: padded 2 exponent.natAbs

/-- Digits laid out as a number whose first digit has the given decimal exponent: positional from
`1e-4` up to below `1e16`, with a fraction of at least one digit, and in exponent form beyond. -/
def layout (run : List Char) (exponent : Int) : List Char :=
  if -4 ≤ exponent && exponent < 16 then
    if exponent < 0 then
      '0' :: '.' :: List.replicate (exponent.natAbs - 1) '0' ++ run
    else
      let whole := exponent.toNat + 1
      let fraction := run.drop whole
      run.take whole ++ List.replicate (whole - run.length) '0' ++
        '.' :: (if fraction.isEmpty then ['0'] else fraction)
  else
    match run with
    | [] => []
    | first :: rest =>
      first :: (if rest.isEmpty then [] else '.' :: rest) ++ exponentText exponent

/-- The text of a finite magnitude. -/
def magnitudeText (significand : Nat) (exponent : Int) : List Char :=
  if significand = 0 then ['0', '.', '0']
  else
    let (value, last) := shortest significand exponent
    let (run, zeros) := dropTrailingZeros (digits value)
    layout run (last + zeros + run.length - 1)

/-- The text of a number: the fewest digits that read back as it. -/
def text : Binary64 → String
  | .nan => "nan"
  | .infinity negative => if negative then "-inf" else "inf"
  | .finite negative significand exponent =>
    String.ofList ((if negative then ['-'] else []) ++ magnitudeText significand exponent)

end Binary64

end TableGateway.Number
