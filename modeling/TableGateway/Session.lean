/-
This file runs plans on handles. A handle is one that only notes statements, one of a
database file, or one of a server; a session is a handle with the database behind it.
-/

import TableGateway.Backend.Recorder
import TableGateway.Gateway.Upsert
import TableGateway.MySql.Handle
import TableGateway.Sqlite.Handle

namespace TableGateway

/-- A connection handle. -/
inductive Handle where
  | recorder (held : Recorder)
  | file (held : Sqlite.Handle)
  | server (held : MySql.Handle)

/-- A handle with the database behind it. -/
structure Session where
  handle : Handle
  backend : Backend

namespace Handle

/-- What a gateway needs to know of a handle, if it takes it. -/
def endpoint? : Handle → Option Endpoint
  | .recorder held => held.endpoint?
  | .file held => some held.endpoint
  | .server held => some held.endpoint

/-- How a handle words what happens to rows that collide on a unique key. -/
def duplicates : Handle → DuplicateForm
  | .file _ => .onConflict
  | _ => .onDuplicateKey

end Handle

namespace Session

variable {Result : Type}

/-- A handle that only notes statements. -/
def ofRecorder (held : Recorder) : Session :=
  ⟨.recorder held, .empty⟩

/-- A handle of a database file, with a connection given to it or without. -/
def ofFile (path : String) (connected : Bool) : Session :=
  ⟨.file (.create path connected), .empty⟩

/-- A handle of a server, with a pool given to it or without. -/
def ofServer (settings : Settings) (pool : Option MySql.Pool) : Session :=
  ⟨.server (.create settings pool),
    Backend.empty.say .debug (MySql.Handle.createdMessage settings)⟩

/-- Says something. -/
def say (session : Session) (level : Level) (message : String) : Session :=
  { session with backend := session.backend.say level message }

/-- The session with nothing done or said yet. -/
def drained (session : Session) : Session :=
  { session with backend := session.backend.drained }

/-- Runs a statement on the handle. -/
def statement (session : Session) (sql : String) (arguments : List Value) :
    Except Failure Reply × Session :=
  match session.handle with
  | .recorder held =>
    let (outcome, backend) := Recorder.statement session.backend sql arguments
    (outcome, ⟨.recorder held, backend⟩)
  | .file handle =>
    let (outcome, state) := Sqlite.State.statement ⟨handle, session.backend⟩ sql arguments
    (outcome, ⟨.file state.handle, state.backend⟩)
  | .server handle =>
    let (outcome, state) := MySql.State.statement ⟨handle, session.backend⟩ sql arguments
    (outcome, ⟨.server state.handle, state.backend⟩)

/-- Runs a plan on the handle, in a dialect. -/
def run (dialect : Dialect) : Plan Result → Session → Except Failure Result × Session
  | .done result, session => (.ok result, session)
  | .failed failure, session => (.error failure, session)
  | .note level message rest, session => run dialect rest (session.say level message)
  | .send statement rest, session =>
    match session.statement (statement.sql dialect) statement.arguments with
    | (.ok reply, session) => run dialect (rest reply) session
    | (.error failure, session) => (.error failure, session)

/-- Closes what the handle holds open. -/
def close (session : Session) : Session :=
  match session.handle with
  | .recorder _ => session
  | .file handle =>
    let state := Sqlite.State.close ⟨handle, session.backend⟩
    ⟨.file state.handle, state.backend⟩
  | .server handle =>
    let state := MySql.State.close ⟨handle, session.backend⟩
    ⟨.server state.handle, state.backend⟩

/-- Takes so many connections out of the pool of a server's handle and keeps them. -/
def hold (session : Session) (count : Nat) : Except Failure Unit × Session :=
  match session.handle with
  | .server handle =>
    let (outcome, state) := MySql.State.hold ⟨handle, session.backend⟩ count
    (outcome, ⟨.server state.handle, state.backend⟩)
  | _ => (.ok (), session)

/-- Gives so many kept connections back and lets everything go on. -/
def unhold (session : Session) (count : Nat) : Session :=
  match session.handle with
  | .server handle =>
    let state := MySql.State.unhold ⟨handle, session.backend⟩ count
    ⟨.server state.handle, state.backend⟩
  | _ => session

/-- A statement arrives under a number without being waited for. -/
def enter (session : Session) (id : Nat) (sql : String) : Session :=
  match session.handle with
  | .recorder _ => session
  | .file handle =>
    let state := Sqlite.State.enter ⟨handle, session.backend⟩ id sql []
    ⟨.file state.handle, state.backend⟩
  | .server handle =>
    let state := MySql.State.enter ⟨handle, session.backend⟩ id sql []
    ⟨.server state.handle, state.backend⟩

/-- Lets all statements go on as far as they can. -/
def settle (session : Session) : Session :=
  match session.handle with
  | .recorder _ => session
  | .file handle =>
    let state := Sqlite.State.turns.settleAll ⟨handle, session.backend⟩
    ⟨.file state.handle, state.backend⟩
  | .server handle =>
    let state := MySql.State.turns.settleAll ⟨handle, session.backend⟩
    ⟨.server state.handle, state.backend⟩

/-- Statements arrive one after another, numbered on from a first number, and then all go on as far
as they can. -/
def start (session : Session) (first : Nat) (statements : List String) : Session :=
  (statements.foldl
    (fun (session, id) sql => (session.enter id sql, id + 1)) (session, first)).1.settle

/-- The statements that are over, by number, with their outcomes. -/
def finished (session : Session) : List (Nat × Except Failure Reply) :=
  match session.handle with
  | .recorder _ => []
  | .file handle => handle.tasks.filterMap fun task =>
    match task.phase with
    | .finished outcome => some (task.id, outcome)
    | _ => none
  | .server handle => handle.tasks.filterMap fun task =>
    match task.phase with
    | .finished outcome => some (task.id, outcome)
    | _ => none

/-- Forgets a statement. -/
def forget (session : Session) (id : Nat) : Session :=
  match session.handle with
  | .recorder _ => session
  | .file handle =>
    let state := Sqlite.State.forget ⟨handle, session.backend⟩ id
    ⟨.file state.handle, state.backend⟩
  | .server handle =>
    let state := MySql.State.forget ⟨handle, session.backend⟩ id
    ⟨.server state.handle, state.backend⟩

/-- The statements that are over, which are then forgotten. -/
def collect (session : Session) : List (Nat × Except Failure Reply) × Session :=
  let done := session.finished
  (done, done.foldl (fun session entry => session.forget entry.1) session)

end Session

end TableGateway
