/-
This file holds the limit of a selection: none, a number of rows, or a number of rows
after an offset. A number that is not positive means no limit; a pair must not be
negative.
-/

import TableGateway.Fault

namespace TableGateway

open Number

/-- How many rows a selection gives at most. -/
inductive Limit where
  | none
  | first (count : Nat)
  | range (offset count : Nat)
  deriving DecidableEq, Repr

namespace Limit

/-- The integer that a part of a limit is. Truth values are none. -/
def integerOf? : Value → Except Fault Int
  | .int number => .ok number
  | value => .error (.limitNotInteger value)

/-- The limit of a single number. -/
def ofCount (value : Value) : Except Fault Limit := do
  let count ← integerOf? value
  return if count ≤ 0 then .none else .first count.toNat

/-- The limit of some items. -/
def ofItems : List Value → Except Fault Limit
  | [] => .ok .none
  | [count] => ofCount count
  | [offset, count] => do
    let first ← integerOf? offset
    let second ← integerOf? count
    if first < 0 || second < 0 then throw (.negativeLimit [offset, count])
    return .range first.toNat second.toNat
  | items => .error (.limitLength items)

/-- The limit that a value asks for. -/
def ofValue? : Value → Except Fault Limit
  | .null => .ok .none
  | .list items => ofItems items
  | .tuple items => ofItems items
  | value => ofCount value

/-- The text of a limit, with a space in front. -/
def sql : Limit → String
  | .none => ""
  | .first count => " LIMIT " ++ integerText count
  | .range offset count => " LIMIT " ++ integerText offset ++ "," ++ integerText count

/-- Whether the numbers of a limit can be written. -/
def isWritable : Limit → Bool
  | .none => true
  | .first count => isShort count
  | .range offset count => isShort offset && isShort count

end Limit

end TableGateway
