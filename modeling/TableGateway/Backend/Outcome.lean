/-
This file holds what a database may answer: a result, or an error raised at some stage
of a statement. Errors come from a driver, from the language underneath, or are failures
of this library passed through; their text follows from their arguments.
-/

import TableGateway.Plan

namespace TableGateway

open Text

/-- The stages of a statement at which an error can come up. -/
inductive Stage where
  | opening
  | create
  | acquire
  | cursor
  | execute
  | fetch
  deriving DecidableEq, Repr

def Stage.ofName? : String → Option Stage
  | "open" => some .opening
  | "create" => some .create
  | "acquire" => some .acquire
  | "cursor" => some .cursor
  | "execute" => some .execute
  | "fetch" => some .fetch
  | _ => none

/-- An error that comes up while a statement runs. -/
inductive DriverError where
  | foreign (kind : ErrorClass) (arguments : List Value)
  | own (report : Report)

namespace DriverError

/-- The arguments an error was made with. -/
def arguments : DriverError → List Value
  | .foreign _ arguments => arguments
  | .own report => [report.message]

/-- The integer that a value is as a number of the system. -/
def systemNumber? : Value → Option Int
  | .int number => some number
  | .bool truth => some (if truth then 1 else 0)
  | _ => none

/-- An error of a class. One of the system that has a number and a reason is the special case that
the number reports. -/
def make : ErrorClass → List Value → DriverError
  | .system _, number :: reason :: rest =>
    if rest.length ≤ 3 then
      .foreign (.system ((systemNumber? number).bind SystemError.ofNumber?))
        (number :: reason :: rest)
    else .foreign (.system none) (number :: reason :: rest)
  | kind, arguments => .foreign kind arguments

/-- The files that the arguments after the reason name, of which the one in the middle says nothing.
An operation that would block names no file but counts what it has written. -/
def fileText (special : Option SystemError) (arguments : List Value) : String :=
  match arguments with
  | [] => ""
  | .null :: _ => ""
  | file :: rest =>
    if special = some .blocking && (systemNumber? file).isSome then ""
    else
      let second := match rest with
        | [_, .null] => ""
        | [_, second] => " -> " ++ second.literal
        | _ => ""
      ": " ++ file.literal ++ second

/-- The text of an error: none without arguments, a single argument's text, several as a tuple; an
error of the system with a number and a reason words the two and the files they are about. -/
def text : DriverError → String
  | .own report => report.message.plainText
  | .foreign _ [] => ""
  | .foreign _ [only] => only.plainText
  | .foreign (.system special) (number :: reason :: rest) =>
    if rest.length ≤ 3 then
      "[Errno " ++ number.plainText ++ "] " ++ reason.plainText ++ fileText special rest
    else (Value.tuple (number :: reason :: rest)).literal
  | .foreign _ arguments => (Value.tuple arguments).literal

/-- What a caller sees of an error that nobody reports. -/
def failure : DriverError → Failure
  | .own report => .raised report
  | .foreign kind _ => .unhandled kind

end DriverError

/-- What the database does with a statement. Without columns there is no result set. -/
inductive Outcome where
  | result (rows : List Record) (columns : Option (List Value)) (affected : Int)
      (insertId : Option Int)
  | failure (error : DriverError) (stage : Stage)

namespace Outcome

/-- The columns of rows nobody named columns for: the keys of the first row. -/
def columnsOfRows : List Record → Option (List Value)
  | [] => none
  | row :: _ => some row.keys

/-- The outcome of a statement that nothing was said about. -/
def nothing : Outcome := .result [] none 0 none

end Outcome

end TableGateway
