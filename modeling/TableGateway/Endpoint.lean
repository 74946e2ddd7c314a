/-
This file describes what a gateway needs to know of a connection handle, and what can
be asked of any handle: which tables and columns there are, and to insert records as they
stand. How a handle finds its tables and columns depends on its database.
-/

import TableGateway.Plan

namespace TableGateway

/-- Where a handle looks its tables and columns up: in a list it holds, in the master table of a
file, or in the schema of a server's database. -/
inductive Catalog where
  | held (columns : List Value)
  | masterTable
  | server (database : String)

/-- What is known of a connection handle. -/
structure Endpoint where
  dialect : Dialect
  catalog : Catalog
  uri : String
  safeUri : String
  database : String
  label : String
  details : Record

/-- The value under a key of every row; a row without it fails. -/
def columnOfRows (key : Value) : List Record → Except Failure (List Value)
  | [] => .ok []
  | row :: rest => do
    let some value := row.get? key | throw .missingKey
    return value :: (← columnOfRows key rest)

namespace Endpoint

/-- The only table that a handle with held columns has. -/
def heldTable : String := "users"

/-- Asks a server whether a table exists, in the layout it has always had. -/
def serverTableQuery : String :=
  "\n            SELECT table_name\n            FROM information_schema.tables\n" ++
    "            WHERE table_schema = %s AND table_name = %s\n        "

/-- The rows of a statement given as text with its arguments. -/
def rowsOf (sql : String) (arguments : List Value) : Plan (List Record) := do
  return (← Plan.ask (.raw sql arguments)).rows

/-- The names of the tables there are. -/
def showTables (endpoint : Endpoint) : Plan (List Value) :=
  match endpoint.catalog with
  | .held _ => return [.text heldTable]
  | .masterTable => do
    let rows ← rowsOf ("SELECT name FROM sqlite_master WHERE type = 'table' " ++
      "AND name NOT LIKE 'sqlite_%' ORDER BY name") []
    Plan.ofExcept (columnOfRows (.text "name") rows)
  | .server database => do
    let identifier ← Plan.ofExcept (orRefuse (Identifier.ofName? database))
    let reply ← Plan.ask (.raw ("SHOW TABLES FROM " ++ identifier.quoted) [])
    match reply.columns with
    | [] => return []
    | name :: _ =>
      if name.isTruthy then Plan.ofExcept (columnOfRows name reply.rows) else return []

/-- Whether a table exists. -/
def tableExists (endpoint : Endpoint) (table : Value) : Plan Bool :=
  match endpoint.catalog with
  | .held _ => return table.equal (.text heldTable)
  | .masterTable => do
    let rows ← rowsOf "SELECT name FROM sqlite_master WHERE type = 'table' AND name = ?" [table]
    return !rows.isEmpty
  | .server database => do
    let rows ← rowsOf serverTableQuery [.text database, table]
    return !rows.isEmpty

/-- The descriptions of a table's columns, in the shape the database gives them. -/
def showColumns (endpoint : Endpoint) (table : Value) : Plan (List Record) :=
  match endpoint.catalog with
  | .held columns => return columns.map fun column => [(.text "Field", column)]
  | .masterTable => do
    let identifier ← Plan.ofExcept (orRefuse (Identifier.ofValue? table))
    rowsOf ("PRAGMA table_info(" ++ identifier.quoted ++ ")") []
  | .server _ => do
    let identifier ← Plan.ofExcept (orRefuse (Identifier.ofValue? table))
    rowsOf ("SHOW COLUMNS FROM " ++ identifier.quoted) []

/-- The names of a table's columns. -/
def columnNames (endpoint : Endpoint) (table : Value) : Plan (List Value) :=
  match endpoint.catalog with
  | .held columns => return columns
  | .masterTable => do
    let rows ← endpoint.showColumns table
    Plan.ofExcept (columnOfRows (.text "name") rows)
  | .server _ => do
    let rows ← endpoint.showColumns table
    Plan.ofExcept (columnOfRows (.text "Field") rows)

/-! ### Inserting -/

/-- The values of some keys in every record; a key that is missing gives null. -/
def valuesUnder (keys : List Value) (records : List Record) : List (List Value) :=
  records.map fun record => keys.map fun key => (record.get? key).getD .null

/-- The insertion of records under the keys of the first. -/
def insertion (table : Value) (keys : List Value) (records : List Record) :
    Except Failure Statement := do
  let table ← orRefuse (Identifier.ofValue? table)
  let columns ← orRefuse (Identifier.ofValues? keys)
  return .insert table columns (valuesUnder keys records) none

/-- Inserts records in one statement; none at all are not sent. -/
def insertRecords (endpoint : Endpoint) (table : Value) (records : List Record) : Plan Reply :=
  match records with
  | [] => return .empty
  | first :: _ => do
    let _ ← Plan.ofExcept (ParamStyle.forPlaces endpoint.dialect.styleName)
    let statement ← Plan.ofExcept (insertion table first.keys records)
    Plan.ask statement

/-- The mapping that a value is. -/
def recordOf (value : Value) : Except Failure Record :=
  match value with
  | .dict entries => .ok entries
  | _ => .error .missingMember

/-- The first item of what holds records, and all of them as they come; a mapping has the one under
zero first, and then comes its keys. -/
def firstAndAll (records : Value) : Except Failure (Value × List Value) :=
  match records with
  | .list (first :: rest) => .ok (first, first :: rest)
  | .tuple (first :: rest) => .ok (first, first :: rest)
  | .text _ => .error .missingMember
  | .bytes _ => .error .missingMember
  | .byteArray _ => .error .missingMember
  | .dict entries =>
    match Entries.get? entries (.int 0) with
    | some first => .ok (first, entries.map Prod.fst)
    | none => .error .missingKey
  | _ => .error .wrongType

/-- The records of items under the keys of the first record. Without keys nothing is asked of the
items. -/
def recordsUnder (keys : List Value) (items : List Value) : Except Failure (List Record) :=
  if keys.isEmpty then .ok (items.map fun _ => []) else items.mapM recordOf

/-- Inserts what a value holds as records. -/
def insertMany (endpoint : Endpoint) (table records : Value) : Plan Reply :=
  if !records.isTruthy then return .empty
  else do
    let (first, items) ← Plan.ofExcept (firstAndAll records)
    let first ← Plan.ofExcept (recordOf first)
    let _ ← Plan.ofExcept (ParamStyle.forPlaces endpoint.dialect.styleName)
    endpoint.insertRecords table (← Plan.ofExcept (recordsUnder first.keys items))

/-- Inserts one record. -/
def insertOne (endpoint : Endpoint) (table record : Value) : Plan Reply :=
  endpoint.insertMany table (.list [record])

end Endpoint

end TableGateway
