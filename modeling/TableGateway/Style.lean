/-
This file holds the two styles in which statements mark the places of their
arguments. A handle may name a style that is neither; statements without places of
their own still pass through it.
-/

import TableGateway.Value.Walk

namespace TableGateway

/-- How a statement marks the place of an argument. -/
inductive ParamStyle where
  | qmark
  | format
  deriving DecidableEq, Repr

namespace ParamStyle

/-- The mark of an argument's place. -/
def placeholder : ParamStyle → String
  | .qmark => "?"
  | .format => "%s"

def name : ParamStyle → String
  | .qmark => "qmark"
  | .format => "format"

/-- The style that a value names. -/
def ofValue? : Value → Option ParamStyle
  | .text "qmark" => some .qmark
  | .text "format" => some .format
  | _ => none

/-- The style for a clause: one that is not known is refused. -/
def forClause (value : Value) : Except Failure ParamStyle :=
  if !value.isHashable then .error .wrongType
  else match ofValue? value with
    | some style => .ok style
    | none => refuse (.unknownStyle value)

/-- The style for the places of written values: one that is not known has none. -/
def forPlaces (value : Value) : Except Failure ParamStyle :=
  if !value.isHashable then .error .wrongType
  else (ofValue? value).elim (.error .missingKey) .ok

theorem ofValue?_name (style : ParamStyle) : ofValue? (.text style.name) = some style := by
  cases style <;> rfl

theorem forClause_name (style : ParamStyle) : forClause (.text style.name) = .ok style := by
  cases style <;> rfl

theorem forPlaces_name (style : ParamStyle) : forPlaces (.text style.name) = .ok style := by
  cases style <;> rfl

end ParamStyle

end TableGateway
