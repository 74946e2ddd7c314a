/-
This file turns buckets into predicates: a column, an operator and an argument. A
collection under a membership operator is one argument that stands for all its items;
in one style it brings its own parentheses.
-/

import TableGateway.Condition.Buckets
import TableGateway.Identifier
import TableGateway.Style

namespace TableGateway

/-- The argument of a predicate: one value, or the items of a collection. -/
inductive Argument where
  | single (value : Value)
  | members (items : List Value)

/-- The value that is bound for an argument; items are bound as one tuple. -/
def Argument.toValue : Argument → Value
  | .single value => value
  | .members items => .tuple items

/-- One comparison of a column. -/
structure Predicate where
  column : Identifier
  operator : Operator
  argument : Argument

namespace Predicate

/-- The place of a predicate's argument. -/
def place (style : ParamStyle) (predicate : Predicate) : String :=
  if predicate.operator.isMembership then
    match predicate.argument, style with
    | .members _, .format => style.placeholder
    | _, _ => "(" ++ style.placeholder ++ ")"
  else style.placeholder

/-- The text of a predicate. -/
def sql (style : ParamStyle) (predicate : Predicate) : String :=
  predicate.column.quoted ++ " " ++ predicate.operator.sql ++ " " ++ predicate.place style

end Predicate

/-- The items of a value that counts as a collection under a membership operator. -/
def membershipItems? : Value → Option (List Value)
  | .list items => some items
  | .tuple items => some items
  | .set items => some items
  | .frozenSet items => some items
  | _ => none

/-- Refuses the first item that is not a number though it is of a kind of numbers. -/
def checkNumbers (key : Value) : List Value → Except Failure Unit
  | [] => .ok ()
  | item :: rest => do
    checkNumber key item
    checkNumbers key rest

/-- The argument of a field under a membership operator. -/
def membershipArgument (key : Value) (operator : Operator) (value : Value) :
    Except Failure Argument :=
  match membershipItems? value with
  | some [] => refuse (.emptyMembership key operator)
  | some items => do
    checkNumbers key items
    return .members items
  | none => .ok (.single value)

/-- The value that a field is compared with: `undefined` means null where null checks are negated,
and is refused elsewhere. -/
def comparedValue (key : Value) (operator : Operator) (value : Value) : Except Failure Value :=
  if value.isUndefined then
    if operator = .isNot then .ok .null else refuse (.undefinedUnder key operator)
  else .ok value

/-- The predicate of a field under an operator. -/
def Predicate.ofField (operator : Operator) (key value : Value) : Except Failure Predicate := do
  let column ← orRefuse (Identifier.ofValue? key)
  let value ← comparedValue key operator value
  checkNumber key value
  if operator.isMembership then
    let argument ← membershipArgument key operator value
    return ⟨column, operator, argument⟩
  else return ⟨column, operator, .single value⟩

/-- The predicates of the fields under an operator. -/
def Predicate.ofFields (operator : Operator) :
    List (Value × Value) → Except Failure (List Predicate)
  | [] => .ok []
  | (key, value) :: rest => do
    let predicate ← Predicate.ofField operator key value
    return predicate :: (← Predicate.ofFields operator rest)

/-- The operator that a value marks. -/
def Operator.ofValue? : Value → Except Fault Operator
  | .operator operator => .ok operator
  | .text name => (Operator.ofName? name).elim (.error (.unknownOperator (.text name))) .ok
  | value => .error (.unknownOperator value)

/-- The predicates of one bucket. -/
def Predicate.ofBucket (mark fields : Value) : Except Failure (List Predicate) := do
  let operator ← orRefuse (Operator.ofValue? mark)
  match fields with
  | .dict fields => Predicate.ofFields operator fields
  | _ => refuse (.bucketNotMapping operator)

/-- The predicates of buckets, in their order. -/
def Predicate.ofBuckets : List (Value × Value) → Except Failure (List Predicate)
  | [] => .ok []
  | (mark, fields) :: rest => do
    let predicates ← Predicate.ofBucket mark fields
    return predicates ++ (← Predicate.ofBuckets rest)

end TableGateway
