/-
This file compiles the clause of a statement: predicates out of operator buckets, an
order and a limit. Only names stand in its text; every value travels as an argument,
in the order of the predicates. A clause is shown as soon as it is compiled, so one with
an integer of too many digits, in an argument or in the limit, is not compiled.
-/

import TableGateway.Clause.Limit
import TableGateway.Clause.Order
import TableGateway.Condition.Predicate

namespace TableGateway

/-- The predicates, the order and the limit of a statement. -/
structure Clause where
  predicates : List Predicate
  ordering : Ordering
  limit : Limit

/-- The text of predicates joined by `AND`, with a space in front; none have no text. -/
def whereText (style : ParamStyle) (predicates : List Predicate) : String :=
  if predicates.isEmpty then ""
  else " WHERE " ++ Text.joinWith " AND " (predicates.map (Predicate.sql style))

/-- The arguments of predicates, one for each. -/
def predicateArguments (predicates : List Predicate) : List Value :=
  predicates.map fun predicate => predicate.argument.toValue

namespace Clause

/-- The text of a clause. -/
def sql (style : ParamStyle) (clause : Clause) : String :=
  whereText style clause.predicates ++ clause.ordering.sql ++ clause.limit.sql

/-- The arguments of a clause. -/
def arguments (clause : Clause) : List Value :=
  predicateArguments clause.predicates

/-- How a clause is shown. -/
def literal (style : ParamStyle) (clause : Clause) : String :=
  "CompiledClause(text=" ++ Text.literal (clause.sql style) ++ ", args=" ++
    (Value.list clause.arguments).literal ++ ")"

/-- Compiles buckets given as entries, an order and a limit. -/
def compile (buckets : List (Value × Value)) (order limit : Value) : Except Failure Clause := do
  let predicates ← Predicate.ofBuckets buckets
  let ordering ← Ordering.ofValue? order
  let limit ← orRefuse (Limit.ofValue? limit)
  return ⟨predicates, ordering, limit⟩

/-- Whether a clause can be shown. -/
def isWritable (clause : Clause) : Bool :=
  Value.areWritable clause.arguments && clause.limit.isWritable

/-- A clause that can be shown. -/
def written (clause : Clause) : Except Failure Clause :=
  if clause.isWritable then .ok clause else .error (.unhandled .value)

/-- Compiles values given as a style, buckets, an order and a limit. -/
def ofValues (style buckets order limit : Value) : Except Failure (ParamStyle × Clause) := do
  let style ← ParamStyle.forClause style
  let clause ← compile (← buckets.entriesOrNone) order limit
  return (style, ← clause.written)

end Clause

end TableGateway
