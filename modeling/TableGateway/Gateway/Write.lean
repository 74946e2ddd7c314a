/-
This file holds the writing operations that send one statement. Unless told not to,
they project what they write through the declared fields. An update or a deletion that
would touch every row is refused unless the gateway allows it.
-/

import TableGateway.Gateway.Read
import TableGateway.Value.Sorting

namespace TableGateway

/-- The operation that a write reports. -/
inductive WriteLabel where
  | insert
  | replaceInto
  | insertOrUpdate
  | disable
  | enable
  | delete
  deriving DecidableEq, Repr

def WriteLabel.name : WriteLabel → String
  | .insert => "insert"
  | .replaceInto => "replace_into"
  | .insertOrUpdate => "insert_ondup"
  | .disable => "disable"
  | .enable => "enable"
  | .delete => "delete"

/-- The outcome of a write. -/
structure WriteResult where
  label : WriteLabel
  affected : Int
  insertId : Option Int
  deriving DecidableEq, Repr

/-- Keys in ascending order. -/
def sortedKeys (keys : List Value) : Except Failure (List Value) :=
  (Value.sorted? keys).elim (.error .wrongType) .ok

/-- Whether two lists of keys have the same members. -/
def sameKeys (first second : List Value) : Bool :=
  first.all (fun key => second.any fun other => other.equal key) &&
    second.all (fun key => first.any fun other => other.equal key)

namespace Gateway

/-- Inserts one record; gives the identifier of the new row. -/
def add (gateway : Gateway) (record : Value) (strict : Bool) : Plan (Option Int) := do
  let form ← gateway.writeForm record strict
  if form.isEmpty then Plan.refuse (.noFields gateway.model .insert)
  else
    let reply ← gateway.endpoint.insertRecords (.text gateway.table.name) [form]
    let shown := (reply.insertId.map Value.int).getD .null
    Plan.say .info ("Inserted row into " ++ gateway.quotedTable ++ " (id=" ++ shown.literal ++ ").")
    return reply.insertId

/-- The forms of some records. -/
def writeForms (gateway : Gateway) (strict : Bool) : List Value → Plan (List Record)
  | [] => return []
  | record :: rest => do
    let form ← gateway.writeForm record strict
    let forms ← gateway.writeForms strict rest
    return form :: forms

/-- Refuses the first form that does not have the given fields. -/
def checkFields (model : Value) (write : BulkWrite) (fields : List Value) :
    List Record → Except Failure Unit
  | [] => .ok ()
  | form :: rest => do
    if sameKeys form.keys fields then checkFields model write fields rest
    else refuse (.unequalFields model write (← sortedKeys form.keys) (← sortedKeys fields))

/-- The fields that all forms share, in the order of the first form, with the forms. -/
def bulkForms (gateway : Gateway) (records : Value) (strict : Bool) (write : BulkWrite) :
    Plan (List Value × List Record) := do
  let items ← match records with
    | .list items => pure items
    | .tuple items => pure items
    | _ => Plan.refuse (.notRecordList gateway.model write)
  if items.isEmpty then Plan.refuse (.noRecords gateway.model write)
  else
    match ← gateway.writeForms strict items with
    | [] => Plan.refuse (.noRecords gateway.model write)
    | first :: rest =>
      if first.isEmpty then Plan.refuse (.noFields gateway.model write)
      else
        Plan.ofExcept (checkFields gateway.model write first.keys rest)
        return (first.keys, first :: rest)

/-- A form with its fields in a given order. -/
def arrange (fields : List Value) (form : Record) : Record :=
  fields.map fun field => (field, (form.get? field).getD .null)

/-- Inserts records in one statement; gives the number of rows. -/
def addMany (gateway : Gateway) (records : Value) (strict : Bool) : Plan Int := do
  let (fields, forms) ← gateway.bulkForms records strict .insert
  let reply ← gateway.endpoint.insertRecords (.text gateway.table.name) (forms.map (arrange fields))
  Plan.say .info ("Inserted " ++ Number.integerText reply.affected ++ " row(s) into " ++
    gateway.quotedTable ++ ".")
  return reply.affected

/-- The columns that some fields name, once the style has places for values. -/
def bulkColumns (gateway : Gateway) (fields : List Value) : Except Failure (List Identifier) := do
  let _ ← ParamStyle.forPlaces gateway.endpoint.dialect.styleName
  orRefuse (Identifier.ofValues? fields)

/-- Replaces rows: those that share a unique key go first. -/
def replaceMany (gateway : Gateway) (records : Value) (strict : Bool) : Plan WriteResult := do
  let (fields, forms) ← gateway.bulkForms records strict .replace
  let columns ← Plan.ofExcept (gateway.bulkColumns fields)
  let statement := Statement.replace gateway.table columns (Endpoint.valuesUnder fields forms)
  gateway.announce "replace" statement
  let reply ← Plan.ask statement
  return ⟨.replaceInto, reply.affected, reply.insertId⟩

/-- Replaces one row. -/
def replaceOne (gateway : Gateway) (record : Value) (strict : Bool) : Plan WriteResult :=
  gateway.replaceMany (.list [record]) strict

/-- Inserts records in one statement; a row that collides on a unique key gets a value in one
column instead, the hidden flag if no other is named. Null leaves that column as it is. -/
def upsertMany (gateway : Gateway) (records duplicateKey duplicateValue : Value) (strict : Bool) :
    Plan WriteResult := do
  let flag := gateway.schema.hiddenFlag.getD .null
  let key := if duplicateKey.isTruthy then duplicateKey else flag
  if !key.isTruthy then Plan.refuse (.noDuplicateKey gateway.model)
  else
    gateway.ensureColumns [key]
    let (fields, forms) ← gateway.bulkForms records strict .upsert
    let columns ← Plan.ofExcept (gateway.bulkColumns fields)
    let column ← Plan.ofExcept (orRefuse (Identifier.ofValue? key))
    let value := if duplicateValue.isNull then none else some duplicateValue
    let statement := Statement.insert gateway.table columns (Endpoint.valuesUnder fields forms)
      (some ⟨column, value⟩)
    gateway.announce "upsert_many" statement
    let reply ← Plan.ask statement
    return ⟨.insertOrUpdate, reply.affected, reply.insertId⟩

/-- The columns that changes set, with their values. -/
def assignmentsOf (gateway : Gateway) (changes : Record) :
    Except Failure (List (Identifier × Value)) :=
  match changes with
  | [] => .ok []
  | (key, value) :: rest => do
    let column ← orRefuse (Identifier.ofValue? key)
    let _ ← ParamStyle.forPlaces gateway.endpoint.dialect.styleName
    return (column, value) :: (← gateway.assignmentsOf rest)

/-- Changes the rows that a condition selects; gives the number of rows. Without changes nothing is
sent. -/
def update (gateway : Gateway) (condition changes ensureNotDeleted : Value) (strict : Bool) :
    Plan Int := do
  let updates ← gateway.writeForm changes strict
  if updates.isEmpty then
    Plan.say .warning ("update on " ++ gateway.quotedTable ++ " called with no changes.")
    return 0
  else
    let clause ← gateway.conditionClause condition ensureNotDeleted
    if clause.predicates.isEmpty && !gateway.allowUpdateAll then
      Plan.refuse (.everyRow gateway.model .update gateway.table.name)
    else
      let assignments ← Plan.ofExcept (gateway.assignmentsOf updates)
      let statement := Statement.update gateway.table assignments clause.predicates
      gateway.announce "update" statement
      let reply ← Plan.ask statement
      Plan.say .info ("Updated " ++ Number.integerText reply.affected ++ " row(s) in " ++
        gateway.quotedTable ++ ".")
      return reply.affected

/-- Removes the rows that a condition selects for good. -/
def delete (gateway : Gateway) (condition : Value) : Plan WriteResult := do
  let clause ← gateway.conditionClause condition (.bool false)
  if clause.predicates.isEmpty && !gateway.allowDeleteAll then
    Plan.refuse (.everyRow gateway.model .delete gateway.table.name)
  else
    let statement := Statement.delete gateway.table clause.predicates
    gateway.announce "delete" statement
    let reply ← Plan.ask statement
    Plan.say .info ("Deleted " ++ Number.integerText reply.affected ++ " row(s) from " ++
      gateway.quotedTable ++ ".")
    return ⟨.delete, reply.affected, none⟩

end Gateway

end TableGateway
