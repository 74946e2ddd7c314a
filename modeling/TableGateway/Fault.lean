/-
This file names everything that can be wrong with a value, a condition, a schema or
the arguments of an operation, and words each of them. A fault carries the values its
wording shows.
-/

import TableGateway.Calendar.Reading
import TableGateway.Json.Fault
import TableGateway.Value.Literal

namespace TableGateway

open Calendar Json Number Text

/-- Why a formatter refuses a value. -/
inductive Refusal where
  | unexplained
  | numberRequired
  | unsupportedType (typeText : String)
  | notInteger
  | unreadableInteger
  | fractional
  | notFinite
  | integerTooLarge
  | notNumber
  | unreadableNumber
  | moment (fault : MomentFault)
  | unwritable (fault : WriteFault)
  deriving DecidableEq, Repr

/-- The wording of a refusal; one without an explanation has none. -/
def Refusal.detail? : Refusal → Option String
  | .unexplained => none
  | .numberRequired => some "require number"
  | .unsupportedType typeText => some ("unsupported type " ++ typeText)
  | .notInteger => some "Input should be a valid integer"
  | .unreadableInteger =>
    some "Input should be a valid integer, unable to parse string as an integer"
  | .fractional =>
    some "Input should be a valid integer, got a number with a fractional part"
  | .notFinite => some "Input should be a finite number"
  | .integerTooLarge =>
    some "Unable to parse input string as an integer, exceeded maximum size"
  | .notNumber => some "Input should be a valid number"
  | .unreadableNumber =>
    some "Input should be a valid number, unable to parse string as a number"
  | .moment fault => some fault.message
  | .unwritable fault => some ("value is not JSON serializable: " ++ fault.message)

/-- What a bulk operation does with its records. -/
inductive BulkWrite where
  | insert
  | replace
  | upsert
  deriving DecidableEq, Repr

def BulkWrite.name : BulkWrite → String
  | .insert => "insert"
  | .replace => "replace"
  | .upsert => "upsert"

/-- A statement that would touch every row. -/
inductive Sweep where
  | update
  | delete
  deriving DecidableEq, Repr

def Sweep.name : Sweep → String
  | .update => "update"
  | .delete => "delete"

/-- The two operations on the hidden flag. -/
inductive FlagChange where
  | disable
  | enable
  deriving DecidableEq, Repr

def FlagChange.name : FlagChange → String
  | .disable => "disable"
  | .enable => "enable"

/-- Everything that can be wrong with what a caller or a row supplies. -/
inductive Fault where
  | untrimmable (typeText : String)
  | unreadableJson (source : String) (fault : ReadFault) (place : Place)
  | unwritable (fault : WriteFault)
  | refused (kind : Kind) (value : Value) (refusal : Refusal)
  | unknownKindName (name : String)
  | unknownKind (value : Value)
  | badIdentifier (value : Value)
  | backtick (name : String)
  | unknownOperator (mark : Value)
  | badOrder (value : Value)
  | notNumber (key value : Value)
  | undefinedNotEnabled (key : Value)
  | undefinedUnder (key : Value) (operator : Operator)
  | emptyMembership (key : Value) (operator : Operator)
  | limitNotInteger (value : Value)
  | negativeLimit (values : List Value)
  | limitLength (values : List Value)
  | unknownStyle (style : Value)
  | bucketNotMapping (operator : Operator)
  | field (name : Value) (fault : Fault)
  | undeclaredFlag (flag : Value)
  | flagNotBoolean (flag : Value) (kind : Kind)
  | undeclaredKey (key : Value)
  | declaredTwice (name : Value)
  | badHandle (model tableName : Value)
  | badSchema (model tableName : Value)
  | unknownColumn (model : Value) (column : Value)
  | notRecordList (model : Value) (write : BulkWrite)
  | noRecords (model : Value) (write : BulkWrite)
  | noFields (model : Value) (write : BulkWrite)
  | unequalFields (model : Value) (write : BulkWrite) (found expected : List Value)
  | unequalLengths
  | everyRow (model : Value) (sweep : Sweep) (table : String)
  | noDuplicateKey (model : Value)
  | noFlag (model : Value) (change : FlagChange)
  | missingArguments (sql : String)
  | countMismatch (given placeholders : Nat) (sql : String)

namespace Fault

/-- How messages of a gateway name it. -/
def tableText (model : Value) : String :=
  "DbTable<" ++ model.plainText ++ ">"

/-- How messages of a gateway under construction name it. -/
def gatewayText (model tableName : Value) : String :=
  "[DbTable:" ++ model.plainText ++ ":" ++ tableName.plainText ++ "]"

/-- The number of items in decimal. -/
def countText (count : Nat) : String :=
  String.ofList (digits count)

/-- The wording of a fault. -/
def message : Fault → String
  | .untrimmable typeText =>
    "trim_string: value should be None, str or number, got " ++ typeText
  | .unreadableJson source fault place =>
    "invalid JSON text " ++ Text.literal source ++ ": " ++ readMessage fault place
  | .unwritable fault => "value is not JSON serializable: " ++ fault.message
  | .refused kind value refusal =>
    "invalid " ++ kind.name ++ " value " ++ value.literal ++
      (match refusal.detail? with
        | none => ""
        | some detail => ": " ++ detail)
  | .unknownKindName name => "unknown formatter kind '" ++ name ++ "'"
  | .unknownKind value => "unknown formatter " ++ value.literal
  | .badIdentifier value => "identifier must be a non-empty string, got " ++ value.literal
  | .backtick name => "identifier cannot contain backticks: " ++ Text.literal name
  | .unknownOperator mark => "invalid operator <" ++ mark.plainText ++ ">"
  | .badOrder value => "invalid order " ++ value.literal
  | .notNumber key value =>
    "invalid " ++ key.plainText ++ "=" ++ value.plainText ++ ", require number"
  | .undefinedNotEnabled key =>
    "undefined value for '" ++ key.plainText ++ "' (enable_undefined is off)"
  | .undefinedUnder key operator =>
    "undefined value for '" ++ key.plainText ++ "' under <" ++ operator.name ++ ">"
  | .emptyMembership key operator =>
    "empty list for '" ++ key.plainText ++ "' under <" ++ operator.name ++ ">"
  | .limitNotInteger value => "invalid limit " ++ value.literal ++ ", require int"
  | .negativeLimit values => "invalid limit " ++ (Value.list values).literal
  | .limitLength values =>
    "invalid limit " ++ (Value.list values).literal ++ ", require [offset, count]"
  | .unknownStyle style => "unsupported paramstyle '" ++ style.plainText ++ "'"
  | .bucketNotMapping operator =>
    "operator <" ++ operator.name ++ "> requires a mapping of fields"
  | .field name fault => "field '" ++ name.plainText ++ "': " ++ fault.message
  | .undeclaredFlag flag => "hidden flag '" ++ flag.plainText ++ "' is not a declared field"
  | .flagNotBoolean flag kind =>
    "hidden flag '" ++ flag.plainText ++ "' must use a boolean formatter, got " ++ kind.name
  | .undeclaredKey key => "primary key '" ++ key.plainText ++ "' is not a declared field"
  | .declaredTwice name => "field '" ++ name.plainText ++ "' declared twice"
  | .badHandle model tableName =>
    gatewayText model tableName ++ ", init DbTable with invalid dbc ..."
  | .badSchema model tableName =>
    gatewayText model tableName ++ ", schema must be a FieldSchema"
  | .unknownColumn model column =>
    tableText model ++ " unknown field \"" ++ column.plainText ++ "\""
  | .notRecordList model write =>
    tableText model ++ ": objects to " ++ write.name ++ " must be a list"
  | .noRecords model write => tableText model ++ ": no objects to " ++ write.name
  | .noFields model write => tableText model ++ ": no fields to " ++ write.name
  | .unequalFields model write found expected =>
    tableText model ++ ": objects to " ++ write.name ++ " must share the same fields, got " ++
      (Value.list found).literal ++ " and " ++ (Value.list expected).literal
  | .unequalLengths => "field_keys and field_values differ in length"
  | .everyRow model sweep table =>
    tableText model ++ ": refusing to " ++ sweep.name ++ " every row of '" ++ table ++
      "' without a condition"
  | .noDuplicateKey model =>
    tableText model ++ ": upsert_many needs dup_key (no hidden flag declared)"
  | .noFlag model change =>
    tableText model ++ ": " ++ change.name ++ " requires a hidden flag field in the schema"
  | .missingArguments sql => "not enough arguments for placeholders in '" ++ sql ++ "'"
  | .countMismatch given placeholders sql =>
    countText given ++ " arguments given for " ++ countText placeholders ++
      " placeholders in '" ++ sql ++ "'"

/-- The values that the wording of a fault shows. -/
def shown : Fault → List Value
  | .refused _ value _ => [value]
  | .unknownKind value => [value]
  | .badIdentifier value => [value]
  | .unknownOperator mark => [mark]
  | .badOrder value => [value]
  | .notNumber key value => [key, value]
  | .undefinedNotEnabled key => [key]
  | .undefinedUnder key _ => [key]
  | .emptyMembership key _ => [key]
  | .limitNotInteger value => [value]
  | .negativeLimit values => values
  | .limitLength values => values
  | .unknownStyle style => [style]
  | .field name fault => name :: fault.shown
  | .undeclaredFlag flag => [flag]
  | .flagNotBoolean flag _ => [flag]
  | .undeclaredKey key => [key]
  | .declaredTwice name => [name]
  | .badHandle model tableName => [model, tableName]
  | .badSchema model tableName => [model, tableName]
  | .unknownColumn model column => [model, column]
  | .notRecordList model _ => [model]
  | .noRecords model _ => [model]
  | .noFields model _ => [model]
  | .unequalFields model _ found expected => model :: found ++ expected
  | .everyRow model _ _ => [model]
  | .noDuplicateKey model => [model]
  | .noFlag model _ => [model]
  | _ => []

end Fault

end TableGateway
