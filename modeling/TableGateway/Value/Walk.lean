/-
This file walks through values: the items that a collection, a mapping, a text or
bytes yield one after another, and what it is to ask them for a member.
-/

import TableGateway.Failure

namespace TableGateway

namespace Value

/-- The items that a value yields in order; a mapping yields its keys, bytes their numbers, a model
its fields as pairs. -/
def items? : Value → Option (List Value)
  | .list items => some items
  | .tuple items => some items
  | .set items => some items
  | .frozenSet items => some items
  | .dict entries => some (entries.map Prod.fst)
  | .text characters => some (characters.toList.map fun character => .text character.toString)
  | .bytes octets => some (octets.data.toList.map fun byte => .int byte.toNat)
  | .byteArray octets => some (octets.data.toList.map fun byte => .int byte.toNat)
  | .record .model fields => some (fields.map fun (name, _, value) => .tuple [.text name, value])
  | _ => none

/-- How many items a value has, if it can tell without yielding them. -/
def size? : Value → Option Nat
  | .record .. => none
  | value => value.items?.map List.length

/-- Whether an object has a field of a name. -/
def hasField (name : String) : Value → Bool
  | .record (.dictionary _) _ => false
  | .record _ fields => fields.any fun field => field.1 == name
  | _ => false

/-- The items that a value yields, or the failure that it yields none. -/
def walk (value : Value) : Except Failure (List Value) :=
  value.items?.elim (.error .wrongType) .ok

/-- The entries of a mapping; anything that does not count as true has none, and anything else is
no mapping, even if it has a field of that name. -/
def entriesOrNone (value : Value) : Except Failure (List (Value × Value)) :=
  match value with
  | .dict entries => .ok entries
  | value =>
    if !value.isTruthy then .ok []
    else if value.hasField "items" then .error .wrongType
    else .error .missingMember

/-- The arguments that a value holds: none if it does not count as true, else its items. -/
def arguments (value : Value) : Except Failure (List Value) :=
  if value.isTruthy then value.walk else .ok []

end Value

/-- Fails with a fault. -/
def refuse {Result : Type} (fault : Fault) : Except Failure Result :=
  .error (.invalid fault)

/-- Fails with the fault of a check that did not pass. -/
def orRefuse {Result : Type} : Except Fault Result → Except Failure Result
  | .ok result => .ok result
  | .error fault => .error (.invalid fault)

end TableGateway
