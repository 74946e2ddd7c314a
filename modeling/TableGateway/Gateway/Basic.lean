/-
This file holds the table gateway: a table name, a connection handle and a schema,
with the switches that widen what it allows. A gateway keeps no rows; its operations are
plans. A condition with an integer of too many digits to be shown is not compiled; what
an operation announces besides is taken to be writable, so that the values it writes have
integers below that limit.
-/

import TableGateway.Endpoint
import TableGateway.Schema

namespace TableGateway

/-- Builds a schema and says what it declares. -/
def Schema.introduce (fields : Value) (named : List (Value × Value))
    (hiddenFlag primaryKey : Value) : Plan Schema := do
  let schema ← Plan.ofExcept (Schema.define fields named hiddenFlag primaryKey)
  Plan.say .debug (schema.definedMessage hiddenFlag primaryKey)
  return schema

/-- Compiles values given as a style, buckets, an order and a limit, and says what came of it. -/
def Clause.introduce (style buckets order limit : Value) : Plan (ParamStyle × Clause) := do
  let (style, clause) ← Plan.ofExcept (Clause.ofValues style buckets order limit)
  Plan.say .debug ("Compiled clause: " ++ clause.literal style)
  return (style, clause)

/-- The record that a value offers, saying so when it offers it in the older way. -/
def Plan.recordOf (value : Value) : Plan Record := do
  match value.olderClass? with
  | some name => Plan.say .debug ("Using legacy dict() for " ++ name)
  | none => pure ()
  Plan.ofExcept value.toRecord

/-- Validated access to one table. -/
structure Gateway where
  table : Identifier
  endpoint : Endpoint
  schema : Schema
  model : Value
  enableUndefined : Bool
  allowMultiple : Bool
  allowDeleteAll : Bool
  allowUpdateAll : Bool

/-- What a gateway may be given besides its table, handle and schema. -/
structure GatewayOptions where
  model : Value
  enableUndefined : Bool
  allowMultiple : Bool
  allowDeleteAll : Bool
  allowUpdateAll : Bool

/-- What widens the operations that a gateway allows. -/
inductive Switch where
  | enableUndefined
  | allowMultiple
  | allowDeleteAll
  | allowUpdateAll
  deriving DecidableEq, Repr

/-- The switch of a name. -/
def Switch.ofName? : String → Option Switch
  | "enable_undefined" => some .enableUndefined
  | "allow_multiple" => some .allowMultiple
  | "allow_delete_all" => some .allowDeleteAll
  | "allow_update_all" => some .allowUpdateAll
  | _ => none

/-- The name of a gateway without a model. -/
def defaultModel : Value := .text "DbTable"

/-- No model, and every switch off. -/
def GatewayOptions.none : GatewayOptions := ⟨.null, false, false, false, false⟩

namespace Gateway

/-- The gateway with a switch on or off. -/
def turn (gateway : Gateway) (switch : Switch) (on : Bool) : Gateway :=
  match switch with
  | .enableUndefined => { gateway with enableUndefined := on }
  | .allowMultiple => { gateway with allowMultiple := on }
  | .allowDeleteAll => { gateway with allowDeleteAll := on }
  | .allowUpdateAll => { gateway with allowUpdateAll := on }

/-- The gateway as one line of text. -/
def text (gateway : Gateway) : String :=
  Fault.gatewayText gateway.model (.text gateway.table.name) ++ " dbc=" ++ gateway.endpoint.safeUri

/-- How a gateway is shown. -/
def literal (gateway : Gateway) : String :=
  "DbTable(" ++ Text.literal gateway.table.name ++ ", " ++ gateway.endpoint.label ++ ")"

/-- The details of a gateway and its handle that are safe to log. -/
def details (gateway : Gateway) : Record :=
  Record.overlay [(.text "model", gateway.model), (.text "tablename", .text gateway.table.name)]
    gateway.endpoint.details

/-- Builds a gateway. The handle is looked at first, then the schema, then the table's name. -/
def create (table : Value) (endpoint : Option Endpoint) (schema : Option Schema)
    (options : GatewayOptions) : Plan Gateway :=
  let model := if options.model.isTruthy then options.model else defaultModel
  match endpoint with
  | none => Plan.refuse (.badHandle model table)
  | some endpoint =>
    match schema with
    | none => Plan.refuse (.badSchema model table)
    | some schema => do
      let identifier ← Plan.ofExcept (orRefuse (Identifier.ofValue? table))
      let gateway : Gateway :=
        { table := identifier
          endpoint := endpoint
          schema := schema
          model := model
          enableUndefined := options.enableUndefined
          allowMultiple := options.allowMultiple
          allowDeleteAll := options.allowDeleteAll
          allowUpdateAll := options.allowUpdateAll }
      Plan.say .info ("Gateway created: " ++ gateway.text)
      return gateway

/-- The mark of an argument's place in the statements of this gateway. -/
def placeholder (gateway : Gateway) : Except Failure String :=
  (ParamStyle.forPlaces gateway.endpoint.dialect.styleName).map ParamStyle.placeholder

/-- The projection of a value through the declared fields. -/
def strictOf (gateway : Gateway) (value : Value) : Plan Record := do
  let record ← Plan.recordOf value
  Plan.ofExcept (gateway.schema.strictRecord record)

/-- The values to write for a record: projected and encoded if strict, else as they stand. -/
def writeForm (gateway : Gateway) (value : Value) (strict : Bool) : Plan Record :=
  if strict then do
    let form ← gateway.strictOf value
    Plan.ofExcept (gateway.schema.toRow form)
  else Plan.recordOf value

/-- The buckets of a condition, hidden rows left out if asked. -/
def bucketsOf (gateway : Gateway) (condition ensureNotDeleted : Value) : Plan Buckets := do
  let record ← Plan.recordOf condition
  let guarded := gateway.schema.guarded record (Schema.hidesRows ensureNotDeleted)
  Plan.ofExcept (classify guarded gateway.enableUndefined)

/-- Compiles a clause in the handle's style. -/
def compile (gateway : Gateway) (buckets order limit : Value) : Plan Clause := do
  let (_, clause) ← Clause.introduce gateway.endpoint.dialect.styleName buckets order limit
  return clause

/-- The clause of a condition, with neither order nor limit. -/
def conditionClause (gateway : Gateway) (condition ensureNotDeleted : Value) : Plan Clause := do
  let buckets ← gateway.bucketsOf condition ensureNotDeleted
  gateway.compile buckets.toValue .null .null

/-- Says which statement is about to be sent and with which arguments. -/
def announce (gateway : Gateway) (what : String) (statement : Statement) : Plan Unit :=
  Plan.say .debug ("Executing " ++ what ++ ": SQL='" ++ statement.sql gateway.endpoint.dialect ++
    "', Params=" ++ (Value.list statement.arguments).literal)

/-- Names the table in messages. -/
def quotedTable (gateway : Gateway) : String :=
  "'" ++ gateway.table.name ++ "'"

end Gateway

end TableGateway
