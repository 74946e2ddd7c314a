/-
This file holds schemas: the declared fields of a table in their order, each with a
formatter and a default, and which of them marks hidden rows and which is the key. A
schema turns rows into typed records, projects what a caller writes through its
formatters, and compares records by their declared fields.
-/

import TableGateway.Formatter.Conversion
import TableGateway.Text.Search
import TableGateway.Value.Fields

namespace TableGateway

/-- A field's formatter and its default; without a default it is `undefined`. -/
structure FieldSpec where
  formatter : Formatter
  default : Value

/-- A declared field that can mark hidden rows. -/
def IsFlag (fields : Entries FieldSpec) (name : Value) : Prop :=
  ∃ spec, fields.get? name = some spec ∧ spec.formatter.kind = .boolean

/-- The declared fields of a table and the roles of two of them. A field is declared once; the
hidden flag is a declared boolean field and the primary key a declared field. -/
structure Schema where
  fields : Entries FieldSpec
  hiddenFlag : Option Value
  primaryKey : Option Value
  distinct : fields.AreDistinct
  flag_declared : ∀ flag ∈ hiddenFlag, IsFlag fields flag
  key_declared : ∀ key ∈ primaryKey, fields.contains key

namespace FieldSpec

/-- The specification that a value declares: one itself, or the choice of a formatter. -/
def ofValue? (name value : Value) : Except Fault FieldSpec :=
  match value with
  | .fieldSpec formatter _ default => .ok ⟨formatter, default⟩
  | value =>
    match Formatter.ofValue? value with
    | .ok formatter => .ok ⟨formatter, .undefined⟩
    | .error fault => .error (.field name fault)

end FieldSpec

namespace Schema

/-- The names of the declared fields. -/
def fieldNames (schema : Schema) : List Value :=
  schema.fields.keys

/-- The specification of a field, if it is declared. -/
def spec? (schema : Schema) (name : Value) : Option FieldSpec :=
  schema.fields.get? name

/-- The specification of a declared field. -/
def spec (schema : Schema) (name : Value) : Except Failure FieldSpec :=
  if name.isHashable then (schema.spec? name).elim (.error .missingKey) .ok
  else .error .wrongType

/-! ### Declaration -/

/-- Declares one field after another. -/
def declare : List (Value × Value) → Except Fault (Entries FieldSpec)
  | [] => .ok []
  | (name, value) :: rest => do
    let spec ← FieldSpec.ofValue? name value
    return (name, spec) :: (← declare rest)

/-- The declarations given by name after those given as a mapping; a name comes only once. -/
def appendNamed : Record → List (Value × Value) → Except Failure Record
  | merged, [] => .ok merged
  | merged, (name, value) :: rest =>
    if merged.contains name then refuse (.declaredTwice name)
    else appendNamed (merged ++ [(name, value)]) rest

/-- The declared field that is to mark hidden rows: it has to be boolean. -/
def flagOf (fields : Entries FieldSpec) (flag : Value) :
    Except Failure { found : Option Value // ∀ name ∈ found, IsFlag fields name } :=
  if flag.isNull then .ok ⟨none, by simp⟩
  else if !flag.isHashable then .error .wrongType
  else
    match found : fields.get? flag with
    | none => refuse (.undeclaredFlag flag)
    | some spec =>
      if boolean : spec.formatter.kind = .boolean then
        .ok ⟨some flag, by
          intro name same
          cases same
          exact ⟨spec, found, boolean⟩⟩
      else refuse (.flagNotBoolean flag spec.formatter.kind)

/-- The declared field that is to be the primary key. -/
def keyOf (fields : Entries FieldSpec) (key : Value) :
    Except Failure { found : Option Value // ∀ name ∈ found, fields.contains name } :=
  if key.isNull then .ok ⟨none, by simp⟩
  else if !key.isHashable then .error .wrongType
  else if declared : fields.contains key then
    .ok ⟨some key, by
      intro name same
      cases same
      exact declared⟩
  else refuse (.undeclaredKey key)

/-- The declarations that some pairs are: any two items that come together are one. -/
def pairedDeclarations : List Value → Except Failure (List (Value × Value))
  | [] => .ok []
  | pair :: rest => do
    match ← pair.walk with
    | [name, value] =>
      if name.isHashable then return (name, value) :: (← pairedDeclarations rest)
      else throw .wrongType
    | _ => throw .unequalParts

/-- The mapping that a value given as fields is: one already, or pairs. -/
def declarations (fields : Value) : Except Failure Record :=
  match fields with
  | .dict entries => .ok entries
  | fields =>
    if fields.isTruthy then do return Record.ofPairs (← pairedDeclarations (← fields.walk))
    else .ok []

/-- The names under which the parts of a schema other than its fields are given. -/
def partNames : List String := ["fields", "hidden_flag", "primary_key"]

/-- Builds a schema from a mapping of fields, further fields by name, and the two roles. What is
already given as another part cannot be a further field. -/
def define (fields : Value) (named : List (Value × Value)) (hiddenFlag primaryKey : Value) :
    Except Failure Schema := do
  if named.any fun entry => partNames.any fun name => entry.1.equal (.text name) then
    throw .wrongType
  let merged ← appendNamed (← declarations fields) named
  let fields ← orRefuse (declare merged)
  if distinct : fields.AreDistinct then
    let flag ← flagOf fields hiddenFlag
    let key ← keyOf fields primaryKey
    return ⟨fields, flag.val, key.val, distinct, flag.property, key.property⟩
  else .error .wrongType

/-- What is said when a schema has been built. -/
def definedMessage (schema : Schema) (hiddenFlag primaryKey : Value) : String :=
  "Defined schema fields=" ++
    (Value.list schema.fieldNames).literal ++
    " hidden_flag=" ++ hiddenFlag.literal ++ " primary_key=" ++ primaryKey.literal

/-! ### Conditions -/

/-- Whether hidden rows are to be left out: always, unless the answer is exactly false. -/
def hidesRows (ensureNotDeleted : Value) : Bool :=
  match ensureNotDeleted with
  | .bool false => false
  | _ => true

/-- A condition with the hidden flag forced to false. -/
def guarded (schema : Schema) (condition : Record) (hides : Bool) : Record :=
  match schema.hiddenFlag with
  | some flag => if hides then condition.put flag (.bool false) else condition
  | none => condition

/-- The record of a condition, with the hidden flag forced to false. -/
def queryForm (schema : Schema) (condition ensureNotDeleted : Value) : Except Failure Record := do
  return schema.guarded (← condition.toRecord) (hidesRows ensureNotDeleted)

/-! ### Rows and records -/

/-- The value under a name in anything that may stand for a row. What is no mapping may have no
such member, or have one and not give it out, or not be asked at all. -/
def memberOf? (row name : Value) : Except Failure (Option Value) :=
  let member (present : Bool) : Except Failure (Option Value) :=
    if present then .error .wrongType else .ok none
  match row, name with
  | .dict entries, name => .ok (Entries.get? entries name)
  | .list items, name => member (items.any fun item => item.equal name)
  | .tuple items, name => member (items.any fun item => item.equal name)
  | .set items, name => member (items.any fun item => item.equal name)
  | .frozenSet items, name => member (items.any fun item => item.equal name)
  | .text characters, .text name => member (Text.holds name.toList characters.toList)
  | .record .model _, _ => member false
  | _, _ => .error .wrongType

/-- The typed value of a field in a row; a field that is not there has its default. -/
def loadedValue (spec : FieldSpec) (row name : Value) : Except Failure Value := do
  match ← memberOf? row name with
  | some raw => spec.formatter.load raw
  | none => return spec.default

/-- The typed values of some fields in a row; what is undefined is left out. -/
def loadFields (row : Value) : Entries FieldSpec → Except Failure Record
  | [] => .ok []
  | (name, spec) :: rest => do
    let value ← loadedValue spec row name
    let others ← loadFields row rest
    return if value.isUndefined then others else (name, value) :: others

/-- The typed record of a row. -/
def toData (schema : Schema) (row : Value) : Except Failure Record :=
  loadFields row schema.fields

/-- The typed records of rows. -/
def formatRows (schema : Schema) : List Value → Except Failure (List Record)
  | [] => .ok []
  | row :: rest => do
    let data ← schema.toData row
    return data :: (← formatRows schema rest)

/-- The typed records of anything that yields rows. -/
def format (schema : Schema) (rows : Value) : Except Failure (List Record) := do
  schema.formatRows (← rows.walk)

/-- The formatted values of the declared fields that a record has; the rest is left out. -/
def formatFields (record : Record) : Entries FieldSpec → Except Failure Record
  | [] => .ok []
  | (name, spec) :: rest => do
    let raw := (record.get? name).getD .undefined
    if raw.isUndefined then formatFields record rest
    else
      let value ← spec.formatter.format raw
      if value.isUndefined then formatFields record rest
      else if value.isNaN then refuse (.notNumber name raw)
      else return (name, value) :: (← formatFields record rest)

/-- A record projected through the formatters of the declared fields. -/
def strictRecord (schema : Schema) (record : Record) : Except Failure Record :=
  formatFields record schema.fields

/-- What a value offers as a record, projected through the declared fields. -/
def strictForm (schema : Schema) (value : Value) : Except Failure Record := do
  schema.strictRecord (← value.toRecord)

/-- The values of a form as they are bound on write. -/
def toRow (schema : Schema) : Record → Except Failure Record
  | [] => .ok []
  | (key, value) :: rest => do
    let bound ← match schema.spec? key with
      | some spec => spec.formatter.dump value
      | none => pure value
    return (key, bound) :: (← schema.toRow rest)

/-! ### Comparison -/

/-- The formatted value of a field in a record, if the record has the field. -/
def formatted? (spec : FieldSpec) (record : Record) (name : Value) :
    Except Failure (Option Value) :=
  match record.get? name with
  | some raw => (spec.formatter.format raw).map some
  | none => .ok none

/-- Whether two records agree on a field. A record that lacks it has a copy of its default. -/
def agree (spec : FieldSpec) (left right : Option Value) : Bool :=
  match left, right with
  | none, none => spec.default.copiesEqual
  | left, right => (left.getD spec.default.copied).equal (right.getD spec.default.copied)

/-- Whether comparing two records on a field signals. Two copies of a default hold the same parts,
and the same part is not compared with itself. -/
def comparisonSignals (spec : FieldSpec) (left right : Option Value) : Bool :=
  match left, right with
  | none, none => Value.leafSignals spec.default spec.default
  | left, right =>
    (left.getD spec.default.copied).signals (right.getD spec.default.copied)

/-- Whether two records agree on some fields, one after another up to the first difference. -/
def agreeOn (left right : Record) : Entries FieldSpec → Except Failure Bool
  | [] => .ok true
  | (name, spec) :: rest => do
    let first ← formatted? spec left name
    let second ← formatted? spec right name
    if comparisonSignals spec first second then throw .signaling
    else if agree spec first second then agreeOn left right rest
    else return false

/-- Whether two values, taken as records, agree on the declared fields. -/
def equal (schema : Schema) (left right : Value) : Except Failure Bool := do
  let left ← left.toRecord
  let right ← right.toRecord
  agreeOn left right schema.fields

end Schema

end TableGateway
