/-
This file turns arguments into values that a driver can bind. Lists and mappings are
bound as JSON text; a file database also gets points in time and decimals as text.
-/

import TableGateway.Formatter.Conversion
import TableGateway.Value.Walk

namespace TableGateway

/-- A value that every driver can bind: lists and mappings as JSON text, all else as it is. -/
def bindable (value : Value) : Except Failure Value :=
  match value with
  | .list _ => (orRefuse (jsonText value)).map Value.text
  | .dict _ => (orRefuse (jsonText value)).map Value.text
  | value => .ok value

/-- A value that a file database can bind: points in time and decimals as text too. -/
def storable (value : Value) : Except Failure Value :=
  match value with
  | .datetime moment => .ok (.text moment.isoText)
  | .date day => .ok (.text day.isoText)
  | .decimal number => .ok (.text number.text)
  | value => bindable value

end TableGateway
