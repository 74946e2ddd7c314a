/-
This file takes records out of values: mappings as they stand, and objects that offer
fields in their own way. Objects with declared fields, and models, are taken apart to any
depth; the others only at the top. What an object with declared fields hands out is
copied; all others hand out what they hold.
-/

import TableGateway.Record
import TableGateway.Value.Walk

namespace TableGateway

namespace Value

mutual
/-- A value as a record with declared fields hands it out: nested ones are taken apart too, and the
rest is copied. -/
def plain : Value → Value
  | .list items => .list (plainItems items)
  | .tuple items => .tuple (plainItems items)
  | .dict entries => .dict (plainEntries entries)
  | .order key descending =>
    .dict [(.text "key", plain key), (.text "desc", plain descending)]
  | .fieldSpec chosen _ default =>
    .dict [(.text "formatter", .formatter chosen .fresh), (.text "default", plain default)]
  | .record .declared fields => .dict (plainFields fields)
  | value => value.copied
termination_by structural value => value

def plainItems : List Value → List Value
  | [] => []
  | item :: rest => plain item :: plainItems rest
termination_by structural items => items

def plainEntries : List (Value × Value) → List (Value × Value)
  | [] => []
  | (key, value) :: rest => (plain key, plain value) :: plainEntries rest
termination_by structural entries => entries

def plainFields : List (String × Option String × Value) → List (Value × Value)
  | [] => []
  | (name, _, value) :: rest => (.text name, plain value) :: plainFields rest
termination_by structural fields => fields
end

mutual
/-- A value as a model hands it out: nested models are taken apart under their aliases. Keys stay as
they are. -/
def dumped : Value → Value
  | .list items => .list (dumpedItems items)
  | .tuple items => .tuple (dumpedItems items)
  | .dict entries => .dict (dumpedEntries entries)
  | .order key descending =>
    .dict [(.text "key", dumped key), (.text "desc", dumped descending)]
  | .fieldSpec chosen identity default =>
    .dict [(.text "formatter", .formatter chosen identity), (.text "default", dumped default)]
  | .record .model fields => .dict (dumpedFields fields)
  | .record .declared fields => .dict (dumpedFields fields)
  | value => value
termination_by structural value => value

def dumpedItems : List Value → List Value
  | [] => []
  | item :: rest => dumped item :: dumpedItems rest
termination_by structural items => items

def dumpedEntries : List (Value × Value) → List (Value × Value)
  | [] => []
  | (key, value) :: rest => (key, dumped value) :: dumpedEntries rest
termination_by structural entries => entries

def dumpedFields : List (String × Option String × Value) → List (Value × Value)
  | [] => []
  | (name, other, value) :: rest => (.text (other.getD name), dumped value) :: dumpedFields rest
termination_by structural fields => fields
end

mutual
/-- Whether every key of the mappings inside a value can be a key. -/
def hasHashableKeys : Value → Bool
  | .list items => haveHashableKeys items
  | .tuple items => haveHashableKeys items
  | .dict entries => entriesHashable entries
  | _ => true
termination_by structural value => value

def haveHashableKeys : List Value → Bool
  | [] => true
  | item :: rest => hasHashableKeys item && haveHashableKeys rest
termination_by structural items => items

def entriesHashable : List (Value × Value) → Bool
  | [] => true
  | (key, value) :: rest => key.isHashable && hasHashableKeys value && entriesHashable rest
termination_by structural entries => entries
end

/-- A record taken apart, unless a key that was taken apart can no longer be one. -/
def keyed (entries : List (Value × Value)) : Except Failure Record :=
  if entriesHashable entries then .ok (Record.ofPairs entries) else .error .wrongType

/-- The fields of an object under their aliases, as they stand. -/
def aliasedFields (fields : List (String × Option String × Value)) : List (Value × Value) :=
  fields.map fun (name, other, value) => (.text (other.getD name), value)

/-- The fields of an object whose names do not start with an underscore. -/
def openFields (fields : List (String × Option String × Value)) : List (Value × Value) :=
  (fields.filter fun field => field.1.toList.head? != some '_').map fun (name, _, value) =>
    (.text name, value)

/-- Whether a value can be called: a formatter or a type. -/
def isCallable : Value → Bool
  | .formatter .. => true
  | .typeName _ => true
  | _ => false

/-- Whether an object has a field of a name that can be called. -/
def canCall (fields : List (String × Option String × Value)) (name : String) : Bool :=
  fields.any fun field => field.1 == name && field.2.2.isCallable

/-- The name of the method that models hand their fields out by. -/
def modelMethod : String := "model_dump"

/-- The name of the older method for the same. -/
def olderMethod : String := "dict"

/-- The record of a plain object: its open fields. A field that can be called in place of a method
is called, and fails. -/
def attributesRecord (fields : List (String × Option String × Value)) : Except Failure Record :=
  if canCall fields modelMethod || canCall fields olderMethod then .error .wrongType
  else .ok (Record.ofPairs (openFields fields))

/-- The record that a value is. Nothing at all is an empty one. -/
def toRecord (value : Value) : Except Failure Record :=
  match value with
  | .null => .ok []
  | .undefined => .ok []
  | .dict entries => .ok entries
  | .order key descending =>
    keyed [(.text "key", key.plain), (.text "desc", descending.plain)]
  | .fieldSpec chosen _ default =>
    keyed [(.text "formatter", .formatter chosen .fresh), (.text "default", default.plain)]
  | .record .declared fields => keyed (plainFields fields)
  | .record .model fields => .ok (Record.ofPairs (dumpedFields fields))
  | .record (.dictionary _) fields => .ok (Record.ofPairs (aliasedFields fields))
  | .record (.attributes _) fields => attributesRecord fields
  | .formatter (.string strip) _ => .ok [(.text "strip", .bool strip)]
  | .formatter .. => .ok []
  | .kind _ => .ok []
  | .operator _ => .ok []
  | .typeName _ => .ok []
  | value => .error (.noRecord value.typeText)

/-- The name of the class of a value that offers its fields through the older dictionary method. -/
def olderClass? : Value → Option String
  | .record (.dictionary identity) _ => some (RecordShape.dictionary identity).className
  | .record (.attributes identity) fields =>
    if canCall fields olderMethod && !canCall fields modelMethod then
      some (RecordShape.attributes identity).className
    else none
  | _ => none

end Value

end TableGateway
