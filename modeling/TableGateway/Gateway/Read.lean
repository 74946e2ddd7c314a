/-
This file holds the reading operations of a gateway. With the projection `*` the
declared fields are selected by name and rows come back typed; any other projection is
taken as it stands and its rows come back untouched.
-/

import TableGateway.Gateway.Basic
import TableGateway.Number.IntegerText
import TableGateway.Text.Blank
import TableGateway.Text.DecimalDigit

namespace TableGateway

open Number

/-- Whether a character is an ASCII blank: a space, or one of those from tab to carriage return. -/
def isAsciiBlank (character : Char) : Bool :=
  character == ' ' || (9 ≤ character.toNat && character.toNat ≤ 13)

/-- A character beyond ASCII as it counts in a number: a digit of any script as its digit, a blank
as a space. -/
def asciiForm (character : Char) : Char :=
  if character.toNat < 127 then character
  else if Text.isBlank character then ' '
  else Text.asciiDigit character

/-- The count that a text is, between ASCII blanks. -/
def countOfText (characters : List Char) : Except Failure Int :=
  (readCount? (Text.trimBy isAsciiBlank characters)).elim (.error .unreadableNumber) .ok

/-- The count that bytes spell in ASCII. -/
def countOfBytes (octets : ByteArray) : Except Failure Int :=
  countOfText (octets.data.toList.map fun octet => Char.ofNat octet.toNat)

/-- The whole number that a ratio is cut down to. -/
def wholeOfRatio (ratio : Int × Nat) : Int :=
  ratio.1.tdiv ratio.2

/-- The integer that a counted value is. A text may use the digits of any script; a number loses its
fraction. -/
def countedInteger : Value → Except Failure Int
  | .bool truth => .ok (if truth then 1 else 0)
  | .int number => .ok number
  | .float number =>
    if number.isNaN then .error .unreadableNumber
    else (number.ratio?.map wholeOfRatio).elim (.error .infiniteNumber) .ok
  | .decimal number =>
    if number.isNaN then .error .unreadableNumber
    else (number.ratio?.map wholeOfRatio).elim (.error .infiniteNumber) .ok
  | .text characters => countOfText (characters.toList.map asciiForm)
  | .bytes octets => countOfBytes octets
  | .byteArray octets => countOfBytes octets
  | _ => .error .wrongType

namespace Gateway

/-- The projection that selects the declared fields. -/
def everything : Value := .text "*"

/-- Whether a projection selects the declared fields. -/
def isEverything (projection : Value) : Bool :=
  projection.equal everything

/-- What a projection selects: the declared fields by name if there are any and all are asked for,
else the projection's own text. -/
def projectionOf (gateway : Gateway) (projection : Value) : Except Failure Projection := do
  if isEverything projection && !gateway.schema.fields.isEmpty then
    let columns ← orRefuse (Identifier.ofValues? gateway.schema.fieldNames)
    return .columns columns
  else return .verbatim projection.plainText

/-- The rows of a clause under a projection, typed if all fields are asked for. -/
def selectRows (gateway : Gateway) (clause : Clause) (projection : Value) :
    Plan (List Record) := do
  let selected ← Plan.ofExcept (gateway.projectionOf projection)
  let statement := Statement.select selected gateway.table clause
  gateway.announce "query" statement
  let reply ← Plan.ask statement
  if isEverything projection then
    Plan.ofExcept (gateway.schema.formatRows (reply.rows.map Value.dict))
  else return reply.rows

/-- The rows that buckets select. -/
def query (gateway : Gateway) (buckets order limit projection : Value) : Plan (List Record) := do
  let clause ← gateway.compile buckets order limit
  gateway.selectRows clause projection

/-- The rows that a condition selects. -/
def find (gateway : Gateway) (condition ensureNotDeleted projection order limit : Value) :
    Plan (List Record) := do
  let buckets ← gateway.bucketsOf condition ensureNotDeleted
  gateway.query buckets.toValue order limit projection

/-- How many rows are asked for where at most one may match. -/
def uniqueLimit : Value := .int 2

/-- The single row that a condition selects, if there is one. Several rows are a conflict, unless
the gateway takes the first of them. -/
def findOne (gateway : Gateway) (condition ensureNotDeleted projection order : Value) :
    Plan (Option Record) := do
  let rows ← gateway.find condition ensureNotDeleted projection order uniqueLimit
  match rows with
  | [] => return none
  | [row] => return some row
  | row :: _ =>
    if gateway.allowMultiple then
      Plan.say .warning ("find_one matched several rows for " ++ condition.literal ++
        "; using the first")
      return some row
    else Plan.failed (.severalRows gateway.table.name condition)

/-- How many items a value has. -/
def sizeOf (value : Value) : Except Failure Nat :=
  value.size?.elim (.error .wrongType) .ok

/-- The condition that gives each key the value in its place. -/
def pairedCondition (keys values : Value) : Except Failure Record := do
  if (← sizeOf keys) ≠ (← sizeOf values) then refuse .unequalLengths
  else
    let names ← keys.walk
    if Value.areHashable names then return Record.ofPairs (names.zip (← values.walk))
    else throw .wrongType

/-- The single live row whose fields have the given values. -/
def findOneByFields (gateway : Gateway) (keys values : Value) : Plan (Option Record) := do
  let condition ← Plan.ofExcept (pairedCondition keys values)
  gateway.findOne (.dict condition) (.bool true) everything .null

/-- The projection that counts rows, by the primary key if there is one. -/
def countProjection (gateway : Gateway) : Except Failure Value := do
  let target ← match gateway.schema.primaryKey with
    | some key =>
      if key.isTruthy then (orRefuse (Identifier.ofValue? key)).map Identifier.quoted
      else pure "*"
    | none => pure "*"
  return .text ("count(" ++ target ++ ") AS \x60count\x60")

/-- How many rows a condition selects. -/
def count (gateway : Gateway) (condition ensureNotDeleted : Value) : Plan Int := do
  let projection ← Plan.ofExcept gateway.countProjection
  let row ← gateway.findOne condition ensureNotDeleted projection .null
  match row with
  | none => return 0
  | some [] => return 0
  | some row =>
    match row.named? "count" with
    | none => Plan.failed .missingKey
    | some counted => Plan.ofExcept (countedInteger counted)

/-- The single row that a condition selects; none at all is a failure. -/
def getOrNotFound (gateway : Gateway) (condition ensureNotDeleted projection : Value) :
    Plan Record := do
  match ← gateway.findOne condition ensureNotDeleted projection .null with
  | some row => return row
  | none => Plan.failed (.noRow gateway.table.name condition)

/-! ### Looking around -/

/-- The rows of a statement given as text. -/
def select (sql : String) (arguments : Value) : Plan (List Record) := do
  return (← Plan.askText sql arguments).rows

/-- Whether the table exists. -/
def exist (gateway : Gateway) : Plan Bool :=
  gateway.endpoint.tableExists (.text gateway.table.name)

/-- The descriptions of the table's columns. -/
def showColumns (gateway : Gateway) : Plan (List Record) :=
  gateway.endpoint.showColumns (.text gateway.table.name)

/-- The names of the table's columns. -/
def listColumns (gateway : Gateway) : Plan (List Value) :=
  gateway.endpoint.columnNames (.text gateway.table.name)

/-- Refuses the first name that is not among the columns. -/
def checkColumns (model : Value) (columns : List Value) : List Value → Except Failure Unit
  | [] => .ok ()
  | name :: rest =>
    if !name.isHashable then .error .wrongType
    else if columns.any fun column => column.equal name then checkColumns model columns rest
    else refuse (.unknownColumn model name)

/-- Makes sure that names are columns of the table. -/
def ensureColumns (gateway : Gateway) (names : List Value) : Plan Unit := do
  let columns ← gateway.listColumns
  if Value.areHashable columns then
    Plan.ofExcept (checkColumns gateway.model columns names)
  else Plan.failed .wrongType

end Gateway

end TableGateway
