/-
This file holds the database behind the handles: the outcomes it will give, in order,
what it was asked to do, and what was said meanwhile. Each statement takes the outcome at
the head, unless that is an error of a stage which does not come; such an error stays,
and the statement gets an empty outcome.
-/

import TableGateway.Backend.Outcome

namespace TableGateway

/-- What a handle makes the database do. -/
inductive Event where
  | query (sql : String) (arguments : List Value)
  | openFile (path : String)
  | createPool (parameters : Record)
  | acquire
  | execute (sql : String) (parameters : Option (List Value))
  | closeCursor
  | release
  | close
  | closePool
  | waitClosed

/-- The database behind the handles. -/
structure Backend where
  script : List Outcome
  events : List Event
  log : List LogRecord

/-- What running a statement comes to: an error at once, an error while fetching, or a result. -/
inductive Execution where
  | failed (error : DriverError)
  | failedFetch (error : DriverError)
  | answered (rows : List Record) (columns : Option (List Value)) (affected : Int)
      (insertId : Option Int)

namespace Backend

/-- Nothing to give, nothing seen. -/
def empty : Backend := ⟨[], [], []⟩

/-- Notes that something was done. -/
def emit (backend : Backend) (event : Event) : Backend :=
  { backend with events := backend.events ++ [event] }

/-- Notes that something was said. -/
def say (backend : Backend) (level : Level) (message : String) : Backend :=
  { backend with log := backend.log ++ [⟨level, message⟩] }

/-- The backend with nothing done or said yet, and the same outcomes to give. -/
def drained (backend : Backend) : Backend :=
  { backend with events := [], log := [] }

/-- The error that comes up at a stage, if the next outcome is one. -/
def errorAt (backend : Backend) (stage : Stage) : Option DriverError × Backend :=
  match backend.script with
  | .failure error at_ :: rest =>
    if at_ = stage then (some error, { backend with script := rest }) else (none, backend)
  | _ => (none, backend)

/-- Runs a statement: takes the outcome at the head unless it belongs to an earlier stage. -/
def execute (backend : Backend) : Execution × Backend :=
  match backend.script with
  | .result rows columns affected insertId :: rest =>
    (.answered rows columns affected insertId, { backend with script := rest })
  | .failure error .execute :: rest => (.failed error, { backend with script := rest })
  | .failure error .fetch :: rest => (.failedFetch error, { backend with script := rest })
  | _ => (.answered [] none 0 none, backend)

end Backend

/-- The reply of a statement as a driver words it: a count below zero is none, and so is an
identifier of zero. -/
def Reply.normal (rows : List Record) (columns : List Value) (affected : Int)
    (insertId : Option Int) : Reply :=
  ⟨rows, columns, max affected 0, insertId.filter (· != 0)⟩

/-- Says a driver's error, and gives the failure that the caller sees of it. -/
def Backend.report (backend : Backend) (work : DriverWork) (error : DriverError)
    (duplicate : Bool) : Failure × Backend :=
  (if duplicate then .duplicateKey work error.text else .driver work error.text,
    backend.say .error ("Error during " ++ work.text ++ ": " ++ error.text))

/-- What a caller sees of an error that comes up while a statement runs: the library's own failures
as they are, all others reported. -/
def Backend.reportUnlessOwn (backend : Backend) (work : DriverWork) (error : DriverError)
    (duplicate : Bool) : Failure × Backend :=
  match error with
  | .own report => (.raised report, backend)
  | error => backend.report work error duplicate

end TableGateway
