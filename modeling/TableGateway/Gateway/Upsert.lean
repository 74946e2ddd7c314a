/-
This file holds the operations that look before they write: hiding rows and bringing
them back, making sure that a row exists, and updating a row or inserting it. Each looks
once, then writes at most once.
-/

import TableGateway.Gateway.Write

namespace TableGateway

/-- Whether an upsert inserted a row or updated the one it found. -/
inductive UpsertLabel where
  | insert
  | update
  deriving DecidableEq, Repr

def UpsertLabel.name : UpsertLabel → String
  | .insert => "insert"
  | .update => "update"

/-- The outcome of an upsert: the record as it is now, and the identifier of the new row or the
number of rows changed. -/
structure UpsertResult where
  label : UpsertLabel
  data : Record
  state : Option Int

namespace Gateway

/-- Sets the hidden flag of the rows that a condition selects. Hiding sees live rows only, bringing
back sees all. -/
def setFlag (gateway : Gateway) (change : FlagChange) (condition : Value) : Plan WriteResult :=
  match gateway.schema.hiddenFlag with
  | none => Plan.refuse (.noFlag gateway.model change)
  | some flag => do
    gateway.ensureColumns [flag]
    match change with
    | .disable =>
      let affected ← gateway.update condition (.dict [(flag, .bool true)]) (.bool true) true
      return ⟨.disable, affected, none⟩
    | .enable =>
      let affected ← gateway.update condition (.dict [(flag, .bool false)]) (.bool false) true
      return ⟨.enable, affected, none⟩

/-- Hides the live rows that a condition selects. -/
def disable (gateway : Gateway) (condition : Value) : Plan WriteResult :=
  gateway.setFlag .disable condition

/-- Brings back the rows that a condition selects. -/
def enable (gateway : Gateway) (condition : Value) : Plan WriteResult :=
  gateway.setFlag .enable condition

/-- A record without the hidden flag. -/
def withoutFlag (gateway : Gateway) (record : Record) : Record :=
  match gateway.schema.hiddenFlag with
  | some flag => record.erase flag
  | none => record

/-- Whether a typed row is hidden. -/
def isHidden (gateway : Gateway) (row : Record) : Bool :=
  match gateway.schema.hiddenFlag with
  | some flag => ((row.get? flag).getD .null).isTruthy
  | none => false

/-- The condition that selects a found row: its primary key if it has one, else what it was looked
up by. -/
def rowTarget (gateway : Gateway) (row lookup : Record) : Record :=
  match gateway.schema.primaryKey with
  | some key =>
    if key.isTruthy then
      match row.get? key with
      | some value => [(key, value)]
      | none => lookup
    else lookup
  | none => lookup

/-- Makes sure that a live row equal to a record exists: inserts it, brings it back, or does
nothing. -/
def ensure (gateway : Gateway) (record : Value) : Plan (Option WriteResult) := do
  let strict ← gateway.strictOf record
  let condition := gateway.withoutFlag strict
  let lookup ← Plan.ofExcept (gateway.schema.toRow condition)
  match ← gateway.findOne (.dict lookup) (.bool false) everything .null with
  | none =>
    let insertId ← gateway.add (.dict condition) true
    return some ⟨.insert, 1, insertId⟩
  | some row =>
    if gateway.isHidden row then
      let target := gateway.rowTarget row lookup
      Plan.say .warning ("Reviving soft-deleted row in " ++ gateway.quotedTable ++ ": " ++
        (Value.dict target).literal)
      return some (← gateway.enable (.dict target))
    else return none

/-- Changes with the hidden flag cleared if the found row is hidden. -/
def revived (gateway : Gateway) (row changes : Record) : Record :=
  match gateway.schema.hiddenFlag with
  | some flag => if gateway.isHidden row then changes.put flag (.bool false) else changes
  | none => changes

/-- Updates the row that a condition selects, hidden or not, and brings it back; inserts the
condition overlaid with the changes if there is none. -/
def upsert (gateway : Gateway) (condition changes : Value) : Plan UpsertResult := do
  let changes ← Plan.recordOf changes
  match ← gateway.findOne condition (.bool false) everything .null with
  | none =>
    let base ← Plan.recordOf condition
    let data ← Plan.ofExcept (gateway.schema.strictRecord (base.overlay changes))
    let state ← gateway.add (.dict data) true
    return ⟨.insert, data, state⟩
  | some row =>
    if gateway.isHidden row then
      Plan.say .warning ("upsert revives soft-deleted row in " ++ gateway.quotedTable ++ ".")
    let changes := gateway.revived row changes
    let form ← Plan.ofExcept (gateway.schema.strictRecord changes)
    let data := row.overlay form
    let state ← gateway.update condition (.dict changes) (.bool false) true
    return ⟨.update, data, some state⟩

end Gateway

end TableGateway
