/-
This file classifies conditions. A condition is a flat record: a field with a value is
an equality, with null a null check, with `undefined` the opposite null check. A key that
names an operator and holds a mapping is an explicit bucket, taken as it stands. Buckets
keep the order in which they were first named.
-/

import TableGateway.Record
import TableGateway.Value.Walk

namespace TableGateway

/-- The fields under each operator, in the order in which operators and fields were first named. -/
abbrev Buckets := List (Operator × Record)

namespace Buckets

/-- The buckets with one more for an operator, if it has none. -/
def touch (buckets : Buckets) (operator : Operator) : Buckets :=
  match buckets with
  | [] => [(operator, [])]
  | (own, fields) :: rest =>
    if own = operator then (own, fields) :: rest else (own, fields) :: touch rest operator

/-- The buckets with a value for a field under an operator. -/
def assign (buckets : Buckets) (operator : Operator) (key value : Value) : Buckets :=
  match buckets with
  | [] => [(operator, [(key, value)])]
  | (own, fields) :: rest =>
    if own = operator then (own, fields.put key value) :: rest
    else (own, fields) :: assign rest operator key value

/-- The buckets as a record of records, under the names of their operators. -/
def toRecord (buckets : Buckets) : Record :=
  buckets.map fun (operator, fields) => (.text operator.name, .dict fields)

/-- The buckets as a value. -/
def toValue (buckets : Buckets) : Value :=
  .dict buckets.toRecord

end Buckets

/-- Refuses a value that is not a number though it is of a kind of numbers. -/
def checkNumber (key value : Value) : Except Failure Unit :=
  if value.isNaN then refuse (.notNumber key value) else .ok ()

/-- The operator that a key names. -/
def operatorOfKey? : Value → Option Operator
  | .text name => Operator.ofName? name
  | _ => none

/-- Takes the fields of an explicit bucket as they stand. -/
def mergeBucket (operator : Operator) :
    Buckets → List (Value × Value) → Except Failure Buckets
  | buckets, [] => .ok buckets
  | buckets, (key, value) :: rest => do
    checkNumber key value
    mergeBucket operator (buckets.assign operator key value) rest

/-- Takes a flat field. -/
def classifyField (enableUndefined : Bool) (buckets : Buckets) (key value : Value) :
    Except Failure Buckets := do
  checkNumber key value
  match value with
  | .null => return buckets.assign .is key .null
  | .undefined =>
    if enableUndefined then return buckets.assign .isNot key .null
    else refuse (.undefinedNotEnabled key)
  | value => return buckets.assign .eq key value

/-- Takes an entry of a condition: an explicit bucket or a flat field. -/
def classifyEntry (enableUndefined : Bool) (buckets : Buckets) (key value : Value) :
    Except Failure Buckets :=
  match operatorOfKey? key, value with
  | some operator, .dict fields => mergeBucket operator (buckets.touch operator) fields
  | _, value => classifyField enableUndefined buckets key value

/-- Takes the entries of a condition one after another. -/
def classifyEntries (enableUndefined : Bool) :
    Buckets → List (Value × Value) → Except Failure Buckets
  | buckets, [] => .ok buckets
  | buckets, (key, value) :: rest => do
    let buckets ← classifyEntry enableUndefined buckets key value
    classifyEntries enableUndefined buckets rest

/-- Classifies a condition into buckets. -/
def classify (condition : Record) (enableUndefined : Bool) : Except Failure Buckets :=
  classifyEntries enableUndefined [] condition

/-- Classifies a value given as a condition. -/
def classifyValue (condition : Value) (enableUndefined : Bool) : Except Failure Buckets := do
  classify (← condition.entriesOrNone) enableUndefined

end TableGateway
