/-
This file holds the order of a selection: the columns to sort by, and one direction
for all of them. An order is given as a name, a list of names, a mapping with a key and
a direction, or nothing.
-/

import TableGateway.Identifier
import TableGateway.Record
import TableGateway.Value.Walk

namespace TableGateway

/-- An order as it was asked for: what to sort by and whether downwards. -/
structure OrderRequest where
  key : Value
  descending : Value

namespace OrderRequest

/-- The order that a value asks for. -/
def ofValue? : Value → Except Fault OrderRequest
  | .null => .ok ⟨.null, .bool false⟩
  | .order key descending => .ok ⟨key, descending⟩
  | .dict entries =>
    let record : Record := entries
    .ok ⟨(record.named? "key").getD .null,
      .bool (((record.named? "desc").map Value.isTruthy).getD false)⟩
  | .text name => .ok ⟨.text name, .bool false⟩
  | .list items => .ok ⟨.list items, .bool false⟩
  | .tuple items => .ok ⟨.tuple items, .bool false⟩
  | value => .error (.badOrder value)

/-- The request as a value. -/
def toValue (request : OrderRequest) : Value :=
  .order request.key request.descending

/-- What to sort by, one key after another. -/
def keys (request : OrderRequest) : Except Failure (List Value) :=
  if !request.key.isTruthy then .ok []
  else match request.key with
    | .text name => .ok [.text name]
    | key => key.walk

end OrderRequest

/-- The order of a selection. Without columns there is no order. -/
structure Ordering where
  columns : List Identifier
  descending : Bool

namespace Ordering

/-- No order at all. -/
def unordered : Ordering := ⟨[], false⟩

/-- The order that a value asks for. -/
def ofValue? (value : Value) : Except Failure Ordering := do
  let request ← orRefuse (OrderRequest.ofValue? value)
  let columns ← orRefuse (Identifier.ofValues? (← request.keys))
  return ⟨columns, request.descending.isTruthy⟩

/-- The text of an order, with a space in front. -/
def sql (ordering : Ordering) : String :=
  if ordering.columns.isEmpty then ""
  else " ORDER BY " ++ Text.joinWith "," (ordering.columns.map Identifier.quoted) ++
    (if ordering.descending then " DESC" else "")

end Ordering

end TableGateway
