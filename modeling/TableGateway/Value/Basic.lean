/-
This file holds the dynamic values that rows, records and arguments are made of,
with the two absences told apart: `null` is SQL's NULL, `undefined` is no value at
all. Mappings keep the order in which their keys were first put. Objects that equal only
themselves are told apart by what they are, copies included. Of enumerations only the
kinds and the operators are values: a member of an enumeration of the caller's own is
none.
-/

import TableGateway.Calendar.DateTime
import TableGateway.Kind
import TableGateway.Number.Decimal
import TableGateway.Operator

namespace TableGateway

open Calendar Number

/-- Which one an object is that equals only itself: one that lasts, known by a number, or a copy
made for the moment, which nothing else is. -/
inductive Identity where
  | lasting (number : Nat)
  | fresh
  deriving DecidableEq, Repr

/-- Whether two objects are one. Two copies never are. -/
def Identity.same : Identity → Identity → Bool
  | .lasting number, .lasting number' => number == number'
  | _, _ => false

/-- How an object that stands for a record offers its fields: as declared fields, as a model with
aliases, through an older dictionary method, or as plain attributes. The last two equal only
themselves. -/
inductive RecordShape where
  | declared
  | model
  | dictionary (identity : Identity)
  | attributes (identity : Identity)
  deriving DecidableEq, Repr

/-- A dynamic value. An `object` is opaque: all that is known of it is which one it is and what it
is called. -/
inductive Value where
  | null
  | undefined
  | bool (truth : Bool)
  | int (number : Int)
  | float (number : Binary64)
  | decimal (number : Decimal)
  | text (characters : String)
  | bytes (octets : ByteArray)
  | byteArray (octets : ByteArray)
  | list (items : List Value)
  | tuple (items : List Value)
  | set (items : List Value)
  | frozenSet (items : List Value)
  | dict (entries : List (Value × Value))
  | datetime (moment : DateTime)
  | date (day : Date)
  | time (clock : ClockTime)
  | object (identity : Identity) (name : String)
  | formatter (chosen : Formatter) (identity : Identity)
  | kind (chosen : Kind)
  | operator (chosen : Operator)
  | order (key descending : Value)
  | fieldSpec (chosen : Formatter) (identity : Identity) (default : Value)
  | typeName (name : String)
  | record (shape : RecordShape) (fields : List (String × Option String × Value))

/-- Things under keys, in the order in which the keys were first put. -/
abbrev Entries (Content : Type) := List (Value × Content)

/-- A row, a record or a bucket: keys with their values. -/
abbrev Record := Entries Value

namespace RecordShape

/-- The class name of an object of this shape. -/
def className : RecordShape → String
  | .declared => "Rec"
  | .model => "Model"
  | .dictionary _ => "Legacy"
  | .attributes _ => "Plain"

/-- Which one an object of this shape is, if it equals only itself. -/
def identity? : RecordShape → Option Identity
  | .declared => none
  | .model => none
  | .dictionary identity => some identity
  | .attributes identity => some identity

/-- The shape of a copy of an object. -/
def copied : RecordShape → RecordShape
  | .dictionary _ => .dictionary .fresh
  | .attributes _ => .attributes .fresh
  | shape => shape

end RecordShape

namespace Value

/-- The short name of a value's type. -/
def typeText : Value → String
  | .null => "NoneType"
  | .undefined => "_Undefined"
  | .bool _ => "bool"
  | .int _ => "int"
  | .float _ => "float"
  | .decimal _ => "Decimal"
  | .text _ => "str"
  | .bytes _ => "bytes"
  | .byteArray _ => "bytearray"
  | .list _ => "list"
  | .tuple _ => "tuple"
  | .set _ => "set"
  | .frozenSet _ => "frozenset"
  | .dict _ => "dict"
  | .datetime _ => "datetime"
  | .date _ => "date"
  | .time _ => "time"
  | .object .. => "Opaque"
  | .formatter chosen _ => chosen.className
  | .kind _ => "FormatterKind"
  | .operator _ => "QueryOperator"
  | .order .. => "Order"
  | .fieldSpec .. => "FieldSpec"
  | .typeName _ => "type"
  | .record shape _ => shape.className

/-- Whether a value is a floating-point or decimal number that is not a number. -/
def isNaN : Value → Bool
  | .float number => number.isNaN
  | .decimal number => number.isNaN
  | _ => false

/-- The name of a value that is one of a closed set of named ones: a kind or an operator. -/
def memberName? : Value → Option String
  | .kind chosen => some chosen.name
  | .operator chosen => some chosen.name
  | _ => none

def isUndefined : Value → Bool
  | .undefined => true
  | _ => false

def isNull : Value → Bool
  | .null => true
  | _ => false

/-- Whether a value counts as true where a truth value is asked for: zeros and empty collections
do not, and neither do the two absences. -/
def isTruthy : Value → Bool
  | .null => false
  | .undefined => false
  | .bool truth => truth
  | .int number => number != 0
  | .float number => !number.isZero
  | .decimal number => !number.isZero
  | .text characters => characters != ""
  | .bytes octets => octets.size != 0
  | .byteArray octets => octets.size != 0
  | .list items => !items.isEmpty
  | .tuple items => !items.isEmpty
  | .set items => !items.isEmpty
  | .frozenSet items => !items.isEmpty
  | .dict entries => !entries.isEmpty
  | _ => true

mutual
/-- Whether a value can be a key or a member of a set. -/
def isHashable : Value → Bool
  | .byteArray _ => false
  | .list _ => false
  | .set _ => false
  | .dict _ => false
  | .tuple items => areHashable items
  | .frozenSet items => areHashable items
  | .order key descending => key.isHashable && descending.isHashable
  | .fieldSpec _ _ default => default.isHashable
  | .decimal (.nan _ signaling _) => !signaling
  | .record shape _ => shape.identity?.isSome
  | _ => true
termination_by structural value => value

def areHashable : List Value → Bool
  | [] => true
  | item :: rest => item.isHashable && areHashable rest
termination_by structural items => items
end

mutual
/-- A copy of a value to any depth. Whatever equals only itself is another one in the copy. -/
def copied : Value → Value
  | .list items => .list (copiedItems items)
  | .tuple items => .tuple (copiedItems items)
  | .set items => .set (copiedItems items)
  | .frozenSet items => .frozenSet (copiedItems items)
  | .dict entries => .dict (copiedEntries entries)
  | .object _ name => .object .fresh name
  | .formatter chosen _ => .formatter chosen .fresh
  | .order key descending => .order (copied key) (copied descending)
  | .fieldSpec chosen _ default => .fieldSpec chosen .fresh (copied default)
  | .record shape fields => .record shape.copied (copiedFields fields)
  | value => value
termination_by structural value => value

def copiedItems : List Value → List Value
  | [] => []
  | item :: rest => copied item :: copiedItems rest
termination_by structural items => items

def copiedEntries : List (Value × Value) → List (Value × Value)
  | [] => []
  | (key, value) :: rest => (copied key, copied value) :: copiedEntries rest
termination_by structural entries => entries

def copiedFields :
    List (String × Option String × Value) → List (String × Option String × Value)
  | [] => []
  | (name, other, value) :: rest => (name, other, copied value) :: copiedFields rest
termination_by structural fields => fields
end

end Value

end TableGateway
