/-
This file is the handle of a database server. It holds a pool, created on first use
under a lock, so that callers who come at once create one pool only. A statement takes a
connection, opens a cursor on it, runs, closes the cursor and gives the connection back,
whatever comes up on the way. At most so many callers may wait for a connection; who
comes after them fails at once. Arguments are taken to hold integers of no more digits
than can be shown, as every call says what it runs.
-/

import TableGateway.Backend.Basic
import TableGateway.Binding
import TableGateway.Endpoint
import TableGateway.MySql.Pool
import TableGateway.Schedule
import TableGateway.Settings.Basic

namespace TableGateway.MySql

/-- A statement whose arguments can be bound. Without arguments there are no parameters. -/
structure Bound where
  sql : String
  parameters : Option (List Value)

/-- What became of running a statement: a reply, or an error of the driver. -/
abbrev Ran := Except DriverError Reply

/-- Where a statement stands. -/
inductive Phase where
  | arrived (sql : String) (arguments : List Value)
  | needsPool (bound : Bound)
  | waitingForLock (bound : Bound)
  | locked (bound : Bound)
  | creating (bound : Bound)
  | needsConnection (bound : Bound)
  | waitingForConnection (bound : Bound)
  | granted (bound : Bound)
  | connected (bound : Bound)
  | cursorOpen (bound : Bound)
  | leaving (bound : Bound) (ran : Ran)
  | finished (outcome : Except Failure Reply)

/-- A statement under way. -/
structure Task where
  id : Nat
  phase : Phase

/-- The handle of a database server. -/
structure Handle where
  settings : Settings
  pool : Option Pool
  holder : Option Nat
  queue : List Nat
  waiting : Nat
  held : Nat
  tasks : List Task

/-- The handle together with the database behind it. -/
structure State where
  handle : Handle
  backend : Backend

namespace Handle

/-- A handle with some settings, with a pool given to it or without. -/
def create (settings : Settings) (pool : Option Pool) : Handle :=
  ⟨settings, pool, none, [], 0, 0, []⟩

/-- What is said when a handle has been made. -/
def createdMessage (settings : Settings) : String :=
  "Dbc created for " ++ settings.safeUri

/-- How a handle is shown. -/
def label (handle : Handle) : String :=
  "MySQLDbc(" ++ handle.settings.safeUri ++ ")"

/-- What a gateway needs to know of the handle. -/
def endpoint (handle : Handle) : Endpoint :=
  let settings := handle.settings
  { dialect := ⟨.text ParamStyle.format.name, .onDuplicateKey⟩
    catalog := .server settings.database
    uri := settings.uri
    safeUri := settings.safeUri
    database := settings.database
    label := handle.label
    details := [(.text "host", .text settings.host), (.text "port", settings.port.toValue),
      (.text "user", .text settings.user), (.text "database", .text settings.database),
      (.text "uri", .text settings.safeUri)] }

/-- The parameters a pool is created with. -/
def poolParameters (settings : Settings) : Record :=
  [(.text "host", .text settings.host), (.text "port", settings.port.toValue),
    (.text "user", .text settings.user), (.text "password", .text settings.password),
    (.text "db", .text settings.database), (.text "minsize", .int 1),
    (.text "maxsize", .int settings.connectionLimit), (.text "autocommit", .bool true)]

/-- The phase of a statement. -/
def phase? (handle : Handle) (id : Nat) : Option Phase :=
  (handle.tasks.find? fun task => task.id == id).map Task.phase

/-- The handle with a statement in another phase. -/
def move (handle : Handle) (id : Nat) (phase : Phase) : Handle :=
  { handle with tasks := handle.tasks.map fun task =>
      if task.id = id then ⟨id, phase⟩ else task }

/-- Gives the lock to the first in line, or to nobody. -/
def unlock (handle : Handle) : Handle :=
  match handle.queue with
  | [] => { handle with holder := none }
  | next :: rest =>
    let handle := { handle with holder := some next, queue := rest }
    match handle.phase? next with
    | some (.waitingForLock bound) => handle.move next (.locked bound)
    | _ => handle

/-- Gives a connection back to the pool; who waited first for one has it now. -/
def release (handle : Handle) : Handle :=
  match handle.pool with
  | none => handle
  | some pool =>
    let (first, pool) := pool.release
    let handle := { handle with pool := some pool }
    match first with
    | none => handle
    | some caller =>
      match handle.phase? caller with
      | some (.waitingForConnection bound) => handle.move caller (.granted bound)
      | _ => handle

end Handle

namespace State

/-- A statement in another phase. -/
def move (state : State) (id : Nat) (phase : Phase) : State :=
  { state with handle := state.handle.move id phase }

/-- Something was done. -/
def emit (state : State) (event : Event) : State :=
  { state with backend := state.backend.emit event }

/-- Something was said. -/
def say (state : State) (level : Level) (message : String) : State :=
  { state with backend := state.backend.say level message }

/-- The number that a server gives an error, if its first argument is an integer. -/
def errorNumber? (error : DriverError) : Option Int :=
  match error.arguments with
  | .int number :: _ => some number
  | _ => none

/-- Whether a driver's error says that a unique key is taken. -/
def isDuplicate (error : DriverError) : Bool :=
  errorNumber? error == some 1062

/-- Ends a statement with an error that came up while it ran. -/
def fail (state : State) (id : Nat) (bound : Bound) (error : DriverError) : State :=
  let (failure, backend) :=
    state.backend.reportUnlessOwn (.executing bound.sql) error (isDuplicate error)
  { state with backend := backend }.move id (.finished (.error failure))

/-- A statement arrives: its arguments have to be bindable. -/
def arrive (state : State) (id : Nat) (sql : String) (arguments : List Value) : State :=
  match arguments.mapM bindable with
  | .error failure => state.move id (.finished (.error failure))
  | .ok values =>
    let parameters := if values.isEmpty then none else some values
    let shown := (parameters.map Value.list).getD .null
    (state.say .debug ("Executing: SQL='" ++ sql ++ "', Params=" ++ shown.literal)).move id
      (.needsPool ⟨sql, parameters⟩)

/-- A statement looks for the pool; without one it wants the lock. -/
def seekPool (state : State) (id : Nat) (bound : Bound) : State :=
  if state.handle.pool.isSome then state.move id (.needsConnection bound)
  else if state.handle.holder.isNone && state.handle.queue.isEmpty then
    { state with handle := { state.handle with holder := some id } }.move id (.locked bound)
  else
    { state with handle := { state.handle with queue := state.handle.queue ++ [id] } }.move id
      (.waitingForLock bound)

/-- A statement that has the lock creates the pool, unless another one did meanwhile. -/
def enterLock (state : State) (id : Nat) (bound : Bound) : State :=
  if state.handle.pool.isSome then
    let state := state.move id (.needsConnection bound)
    { state with handle := state.handle.unlock }
  else
    ((state.say .info ("Creating connection pool for " ++ state.handle.settings.safeUri)).emit
      (.createPool (Handle.poolParameters state.handle.settings))).move id (.creating bound)

/-- Ends the creation of the pool, which may have failed, and lets the lock go. -/
def created (state : State) (id : Nat) (bound : Bound) : State :=
  match state.backend.errorAt .create with
  | (some error, backend) =>
    let (failure, backend) :=
      backend.report (.connecting state.handle.settings.safeUri) error (isDuplicate error)
    let state := { state with backend := backend }.move id (.finished (.error failure))
    { state with handle := state.handle.unlock }
  | (none, backend) =>
    let pool := Pool.create state.handle.settings.connectionLimit
    let state := { state with
      backend := backend
      handle := { state.handle with pool := some pool } }.move id (.needsConnection bound)
    { state with handle := state.handle.unlock }

/-- A statement has a connection. -/
def connect (state : State) (id : Nat) (bound : Bound) : State :=
  ((state.emit .acquire).say .debug "Acquired connection from pool.").move id (.connected bound)

/-- Whether one more caller would be too many to wait. -/
def isQueueFull (handle : Handle) : Bool :=
  0 < handle.settings.queueLimit && handle.settings.queueLimit ≤ handle.waiting

/-- A statement asks the pool for a connection: it has one, waits for one, or fails because too
many wait. -/
def seekConnection (state : State) (id : Nat) (bound : Bound) : State :=
  match state.handle.pool with
  | none => state
  | some pool =>
    if pool.isExhausted && isQueueFull state.handle then
      state.move id (.finished (.error
        (.queueFull state.handle.settings.queueLimit state.handle.settings.safeUri)))
    else
      match state.backend.errorAt .acquire with
      | (some error, backend) => { state with backend := backend }.fail id bound error
      | (none, backend) =>
        let state := { state with backend := backend }
        if pool.isExhausted then
          { state with handle := { state.handle with
              pool := some (pool.wait id)
              waiting := state.handle.waiting + 1 } }.move id (.waitingForConnection bound)
        else
          { state with handle := { state.handle with pool := some pool.take } }.connect id bound

/-- A statement that waited goes on with the connection it was given. -/
def resume (state : State) (id : Nat) (bound : Bound) : State :=
  let handle := { state.handle with waiting := state.handle.waiting - 1 }
  { state with handle := handle }.connect id bound

/-- A statement opens a cursor on its connection. -/
def openCursor (state : State) (id : Nat) (bound : Bound) : State :=
  match state.backend.errorAt .cursor with
  | (some error, backend) =>
    { state with backend := backend }.move id (.leaving bound (.error error))
  | (none, backend) => { state with backend := backend }.move id (.cursorOpen bound)

/-- The reply of a statement: rows are fetched only if there is a result set. -/
def replyOf (rows : List Record) (columns : Option (List Value)) (affected : Int)
    (insertId : Option Int) : Reply :=
  let columns := columns.getD []
  .normal (if columns.isEmpty then [] else rows) columns affected insertId

/-- A statement runs, and closes its cursor. -/
def run (state : State) (id : Nat) (bound : Bound) : State :=
  let state := state.emit (.execute bound.sql bound.parameters)
  let (execution, backend) := state.backend.execute
  let state := { state with backend := backend }.emit .closeCursor
  match execution with
  | .failed error => state.move id (.leaving bound (.error error))
  | .failedFetch error => state.move id (.leaving bound (.error error))
  | .answered rows columns affected insertId =>
    state.move id (.leaving bound (.ok (replyOf rows columns affected insertId)))

/-- A statement gives its connection back and is over. -/
def leave (state : State) (id : Nat) (bound : Bound) (ran : Ran) : State :=
  let state := state.emit .release
  let state := { state with handle := state.handle.release }.say .debug
    "Released connection back to pool."
  match ran with
  | .ok reply => state.move id (.finished (.ok reply))
  | .error error => state.fail id bound error

/-- One step of a statement. One that waits, or is over, takes none. -/
def advance (state : State) (id : Nat) : State :=
  match state.handle.phase? id with
  | some (.arrived sql arguments) => state.arrive id sql arguments
  | some (.needsPool bound) => state.seekPool id bound
  | some (.locked bound) => state.enterLock id bound
  | some (.creating bound) => state.created id bound
  | some (.needsConnection bound) => state.seekConnection id bound
  | some (.granted bound) => state.resume id bound
  | some (.connected bound) => state.openCursor id bound
  | some (.cursorOpen bound) => state.run id bound
  | some (.leaving bound ran) => state.leave id bound ran
  | _ => state

/-- Where a statement stands in its turns: creating a pool gives the others a turn. -/
def standing (state : State) (id : Nat) : Standing :=
  match state.handle.phase? id with
  | some (.creating _) => .yielding
  | some (.waitingForLock _) => .waiting
  | some (.waitingForConnection _) => .waiting
  | some (.finished _) => .over
  | some _ => .ready
  | none => .over

/-- The statements of a handle as tasks that take turns. -/
def turns : Tasks State :=
  { advance := advance
    standing := standing
    ids := fun state => state.handle.tasks.map Task.id }

/-- A statement comes in under a number. -/
def enter (state : State) (id : Nat) (sql : String) (arguments : List Value) : State :=
  { state with handle := { state.handle with
      tasks := state.handle.tasks ++ [⟨id, .arrived sql arguments⟩] } }

/-- The outcome of a statement, if it is over. -/
def outcome? (state : State) (id : Nat) : Option (Except Failure Reply) :=
  match state.handle.phase? id with
  | some (.finished outcome) => some outcome
  | _ => none

/-- Forgets a statement. -/
def forget (state : State) (id : Nat) : State :=
  { state with handle := { state.handle with
      tasks := state.handle.tasks.filter fun task => task.id != id } }

/-- A number that no statement has. -/
def freshId (state : State) : Nat :=
  state.handle.tasks.foldl (fun least task => max least (task.id + 1)) 0

/-- Runs a statement to its end. -/
def statement (state : State) (sql : String) (arguments : List Value) :
    Except Failure Reply × State :=
  let id := state.freshId
  let state := turns.settleAll (state.enter id sql arguments)
  ((state.outcome? id).getD (.error .unfinished), state.forget id)

/-- Closes the pool if there is one. -/
def close (state : State) : State :=
  if state.handle.pool.isSome then
    let state := (state.emit .closePool).emit .waitClosed
    { state with handle := { state.handle with pool := none } }.say .info
      ("Closed connection pool for " ++ state.handle.settings.safeUri)
  else state

/-! ### Connections held from outside -/

/-- The pool, created now if there is none. -/
def ensurePool (state : State) : Except Failure Unit × State :=
  if state.handle.pool.isSome then (.ok (), state)
  else
    let state := (state.say .info ("Creating connection pool for " ++
      state.handle.settings.safeUri)).emit
        (.createPool (Handle.poolParameters state.handle.settings))
    match state.backend.errorAt .create with
    | (some error, backend) =>
      let (failure, backend) :=
        backend.report (.connecting state.handle.settings.safeUri) error (isDuplicate error)
      (.error failure, { state with backend := backend })
    | (none, backend) =>
      let pool := Pool.create state.handle.settings.connectionLimit
      (.ok (), { state with
        backend := backend
        handle := { state.handle with pool := some pool } })

/-- Takes so many connections out of the pool and keeps them, as far as there are any. An error of
the pool ends it. -/
def holdConnections : Nat → State → Except Failure Unit × State
  | 0, state => (.ok (), state)
  | count + 1, state =>
    match state.handle.pool, state.backend.errorAt .acquire with
    | none, _ => (.ok (), state)
    | some _, (some error, backend) => (.error error.failure, { state with backend := backend })
    | some pool, (none, _) =>
      if pool.isExhausted then (.ok (), state)
      else
        holdConnections count ({ state with handle := { state.handle with
          pool := some pool.take
          held := state.handle.held + 1 } }.emit .acquire)

/-- Takes so many connections out of the pool, which is created if need be. -/
def hold (state : State) (count : Nat) : Except Failure Unit × State :=
  match state.ensurePool with
  | (.ok (), state) => holdConnections count state
  | (.error failure, state) => (.error failure, state)

/-- Gives so many of the connections back that were kept. -/
def returnConnections : Nat → State → State
  | 0, state => state
  | count + 1, state =>
    if state.handle.held = 0 then state
    else
      let state := state.emit .release
      returnConnections count { state with handle :=
        { state.handle with held := state.handle.held - 1 }.release }

/-- Gives so many kept connections back and lets everything go on. -/
def unhold (state : State) (count : Nat) : State :=
  turns.settleAll (returnConnections count state)

end State

end TableGateway.MySql
