/-
This file holds the names that can stand in a statement. A name is written between
backticks, so it must hold none itself, and it must not be empty; with that, a written
name tells where it ends and which name it is.
-/

import TableGateway.Fault

namespace TableGateway

/-- The quote of names. -/
def backtick : Char := '\x60'

/-- A name of a table or a column: not empty, and without backticks. -/
structure Identifier where
  name : String
  nonempty : name ≠ ""
  plain : backtick ∉ name.toList

namespace Identifier

/-- The name that a value is, if it is one that can be quoted. -/
def ofValue? (value : Value) : Except Fault Identifier :=
  match value with
  | .text name =>
    if empty : name = "" then .error (.badIdentifier (.text name))
    else if quoted : backtick ∈ name.toList then .error (.backtick name)
    else .ok ⟨name, empty, quoted⟩
  | value => .error (.badIdentifier value)

/-- The name of a text. -/
def ofName? (name : String) : Except Fault Identifier :=
  ofValue? (.text name)

/-- The names that some values are, checked one after another. -/
def ofValues? : List Value → Except Fault (List Identifier)
  | [] => .ok []
  | value :: rest => do
    let identifier ← ofValue? value
    return identifier :: (← ofValues? rest)

/-- The name between backticks. -/
def quoted (identifier : Identifier) : String :=
  "\x60" ++ identifier.name ++ "\x60"

theorem ext_name {first second : Identifier} (same : first.name = second.name) :
    first = second := by
  cases first
  cases second
  cases same
  rfl

theorem ofName?_name (identifier : Identifier) : ofName? identifier.name = .ok identifier := by
  simp [ofName?, ofValue?, identifier.nonempty, identifier.plain]

end Identifier

/-- Names separated by commas, each between backticks. -/
def quotedNames (identifiers : List Identifier) : String :=
  Text.joinWith ", " (identifiers.map Identifier.quoted)

end TableGateway
