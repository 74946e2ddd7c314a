/-
This file is the handle of a database file. It holds one connection, opened on first
use, and one lock: a statement has the lock from before it looks for the connection until
it is over. Statements wait for the lock in the order of their arrival. Arguments are taken
to hold integers of no more digits than can be shown, as every call says what it runs.
-/

import TableGateway.Backend.Basic
import TableGateway.Endpoint
import TableGateway.Schedule
import TableGateway.Sqlite.Placeholders
import TableGateway.Text.Search

namespace TableGateway.Sqlite

/-- Where a statement stands. A waiting one does not have the lock yet. -/
inductive Phase where
  | arrived (sql : String) (arguments : List Value)
  | waiting (bound : Bound)
  | locked (bound : Bound)
  | opening (bound : Bound)
  | finished (outcome : Except Failure Reply)

/-- A statement under way. -/
structure Task where
  id : Nat
  phase : Phase

/-- The handle of a database file. -/
structure Handle where
  path : String
  connected : Bool
  holder : Option Nat
  queue : List Nat
  tasks : List Task

/-- The handle together with the database behind it. -/
structure State where
  handle : Handle
  backend : Backend

namespace Handle

/-- A handle of a file, with a connection given to it or without. -/
def create (path : String) (connected : Bool) : Handle :=
  ⟨path, connected, none, [], []⟩

/-- The address of the file. -/
def uri (handle : Handle) : String :=
  "sqlite:///" ++ handle.path

/-- How a handle is shown. -/
def label (handle : Handle) : String :=
  "SqliteDbc(" ++ handle.uri ++ ")"

/-- What a gateway needs to know of the handle. -/
def endpoint (handle : Handle) : Endpoint :=
  { dialect := ⟨.text ParamStyle.qmark.name, .onConflict⟩
    catalog := .masterTable
    uri := handle.uri
    safeUri := handle.uri
    database := "main"
    label := handle.label
    details := [(.text "path", .text handle.path), (.text "database", .text "main"),
      (.text "uri", .text handle.uri)] }

/-- The phase of a statement. -/
def phase? (handle : Handle) (id : Nat) : Option Phase :=
  (handle.tasks.find? fun task => task.id == id).map Task.phase

/-- The handle with a statement in another phase. -/
def move (handle : Handle) (id : Nat) (phase : Phase) : Handle :=
  { handle with tasks := handle.tasks.map fun task =>
      if task.id = id then ⟨id, phase⟩ else task }

end Handle

namespace State

/-- A statement in another phase. -/
def move (state : State) (id : Nat) (phase : Phase) : State :=
  { state with handle := state.handle.move id phase }

/-- Something was done. -/
def emit (state : State) (event : Event) : State :=
  { state with backend := state.backend.emit event }

/-- Something was said. -/
def say (state : State) (level : Level) (message : String) : State :=
  { state with backend := state.backend.say level message }

/-- Takes a statement's turn at the lock away and gives it to the first in line. -/
def unlock (state : State) : State :=
  match state.handle.queue with
  | [] => { state with handle := { state.handle with holder := none } }
  | next :: rest =>
    let handle := { state.handle with holder := some next, queue := rest }
    match handle.phase? next with
    | some (.waiting bound) => { state with handle := handle.move next (.locked bound) }
    | _ => { state with handle := handle }

/-- Ends a statement that has the lock. -/
def finish (state : State) (id : Nat) (outcome : Except Failure Reply) : State :=
  (state.move id (.finished outcome)).unlock

/-- Whether a driver's error says that a unique key is taken. -/
def isDuplicate (error : DriverError) : Bool :=
  match error with
  | .foreign .integrity _ =>
    Text.holds "UNIQUE constraint failed".toList error.text.toList
  | _ => false

/-- Ends a statement with an error of its driver. -/
def fail (state : State) (id : Nat) (bound : Bound) (error : DriverError) : State :=
  let (failure, backend) :=
    state.backend.reportUnlessOwn (.executing bound.sql) error (isDuplicate error)
  { state with backend := backend }.finish id (.error failure)

/-- Runs a statement that has the lock on the open connection. -/
def run (state : State) (id : Nat) (bound : Bound) : State :=
  let state := state.emit (.execute bound.sql (some bound.values))
  let (execution, backend) := state.backend.execute
  let state := { state with backend := backend }
  match execution with
  | .failed error => state.fail id bound error
  | .failedFetch error => (state.emit .closeCursor).fail id bound error
  | .answered rows columns affected insertId =>
    (state.emit .closeCursor).finish id
      (.ok (.normal rows (columns.getD []) affected insertId))

/-- A statement arrives: its arguments are bound first, and it gets the lock if nobody has it. -/
def arrive (state : State) (id : Nat) (sql : String) (arguments : List Value) : State :=
  match expand sql arguments with
  | .error failure => state.move id (.finished (.error failure))
  | .ok bound =>
    let state := state.say .debug ("Executing: SQL='" ++ bound.sql ++ "', Params=" ++
      (Value.list bound.values).literal)
    if state.handle.holder.isNone && state.handle.queue.isEmpty then
      { state with handle := { state.handle with holder := some id } }.move id (.locked bound)
    else
      { state with handle := { state.handle with queue := state.handle.queue ++ [id] } }.move id
        (.waiting bound)

/-- Ends the opening of the connection, which may have failed. -/
def opened (state : State) (id : Nat) (bound : Bound) : State :=
  match state.backend.errorAt .opening with
  | (some error, backend) =>
    let (failure, backend) :=
      backend.report (.opening state.handle.uri) error (isDuplicate error)
    { state with backend := backend }.finish id (.error failure)
  | (none, backend) =>
    { state with
      backend := backend
      handle := { state.handle with connected := true } }.run id bound

/-- One step of a statement. One that waits, or is over, takes none. -/
def advance (state : State) (id : Nat) : State :=
  match state.handle.phase? id with
  | some (.arrived sql arguments) => state.arrive id sql arguments
  | some (.locked bound) =>
    if state.handle.connected then state.run id bound
    else
      let state := state.say .info ("Opening " ++ state.handle.uri)
      (state.emit (.openFile state.handle.path)).move id (.opening bound)
  | some (.opening bound) => state.opened id bound
  | _ => state

/-- Where a statement stands in its turns: opening a connection gives the others a turn. -/
def standing (state : State) (id : Nat) : Standing :=
  match state.handle.phase? id with
  | some (.arrived ..) => .ready
  | some (.locked _) => .ready
  | some (.opening _) => .yielding
  | some (.waiting _) => .waiting
  | some (.finished _) => .over
  | none => .over

/-- The statements of a handle as tasks that take turns. -/
def turns : Tasks State :=
  { advance := advance
    standing := standing
    ids := fun state => state.handle.tasks.map Task.id }

/-- A statement comes in under a number. -/
def enter (state : State) (id : Nat) (sql : String) (arguments : List Value) : State :=
  { state with handle := { state.handle with
      tasks := state.handle.tasks ++ [⟨id, .arrived sql arguments⟩] } }

/-- The outcome of a statement, if it is over. -/
def outcome? (state : State) (id : Nat) : Option (Except Failure Reply) :=
  match state.handle.phase? id with
  | some (.finished outcome) => some outcome
  | _ => none

/-- Forgets a statement. -/
def forget (state : State) (id : Nat) : State :=
  { state with handle := { state.handle with
      tasks := state.handle.tasks.filter fun task => task.id != id } }

/-- A number that no statement has. -/
def freshId (state : State) : Nat :=
  state.handle.tasks.foldl (fun least task => max least (task.id + 1)) 0

/-- Runs a statement to its end. -/
def statement (state : State) (sql : String) (arguments : List Value) :
    Except Failure Reply × State :=
  let id := state.freshId
  let state := turns.settleAll (state.enter id sql arguments)
  ((state.outcome? id).getD (.error .unfinished), state.forget id)

/-- Closes the connection if there is one. -/
def close (state : State) : State :=
  if state.handle.connected then
    { state with handle := { state.handle with connected := false } }.emit .close
  else state

end State

end TableGateway.Sqlite
