/-
This file binds arguments to the places of a statement. A place is a question mark
outside quotes; an argument that is a tuple stands for a list, and its place becomes one
for each of its items. Places and arguments have to be equally many.
-/

import TableGateway.Binding
import TableGateway.Identifier

namespace TableGateway.Sqlite

/-- Whether a character opens a quoted part, which ends at its next occurrence. -/
def isQuote (character : Char) : Bool :=
  character == '\x27' || character == '\x22' || character == backtick

/-- The places for some values. -/
def places (count : Nat) : List Char :=
  (Text.joinWith ", " (List.replicate count "?")).toList

/-- What an argument puts in its place, and the values it binds. -/
def placed (argument : Value) : Except Failure (List Char × List Value) :=
  match argument with
  | .tuple items => do return (places items.length, ← items.mapM storable)
  | argument => do return (['?'], [← storable argument])

/-- Binds arguments to the places in the rest of a statement, inside a quoted part or outside. -/
def bindPlaces (sql : String) (given : Nat) :
    Option Char → List Char → List Value → Except Failure (List Char × List Value)
  | _, [], [] => .ok ([], [])
  | _, [], unused => refuse (.countMismatch given (given - unused.length) sql)
  | some quote, character :: rest, arguments => do
    let still := if character = quote then none else some quote
    let (text, values) ← bindPlaces sql given still rest arguments
    return (character :: text, values)
  | none, character :: rest, arguments =>
    if isQuote character then do
      let (text, values) ← bindPlaces sql given (some character) rest arguments
      return (character :: text, values)
    else if character = '?' then
      match arguments with
      | [] => refuse (.missingArguments sql)
      | argument :: others => do
        let (place, bound) ← placed argument
        let (text, values) ← bindPlaces sql given none rest others
        return (place ++ text, bound ++ values)
    else do
      let (text, values) ← bindPlaces sql given none rest arguments
      return (character :: text, values)

/-- A statement ready to run: its text and the values for its places. -/
structure Bound where
  sql : String
  values : List Value

/-- Binds arguments to the places of a statement. -/
def expand (sql : String) (arguments : List Value) : Except Failure Bound := do
  let (text, values) ← bindPlaces sql arguments.length none sql.toList arguments
  return ⟨String.ofList text, values⟩

end TableGateway.Sqlite
