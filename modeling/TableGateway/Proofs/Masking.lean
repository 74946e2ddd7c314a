/-
This file masks passwords: in settings, in what a database was asked to do, and in the
handle of a server with both. Masking settings leaves what is shown of them as it is, and
every step of a statement does to a masked handle what it does to the handle itself,
masked. So nothing but the parameters of a pool depends on a password.
-/

import TableGateway.Proofs.Operation
import TableGateway.Proofs.Turns

namespace TableGateway

/-! ### Settings and events -/

namespace Settings

/-- What is shown in a password's place. -/
def maskOf (password : String) : String :=
  if password = "" then "" else "***"

/-- Settings with the password masked. -/
def masked (settings : Settings) : Settings :=
  { settings with password := maskOf settings.password }

theorem maskOf_maskOf (password : String) : maskOf (maskOf password) = maskOf password := by
  unfold maskOf
  by_cases none : password = ""
  · rw [if_pos none, if_pos rfl]
  · rw [if_neg none, if_neg (by decide)]

/-- Masking a password changes nothing of what is shown in its place. -/
theorem safeUri_masked (settings : Settings) : settings.masked.safeUri = settings.safeUri :=
  congrArg settings.uriWith (maskOf_maskOf settings.password)

end Settings

namespace Event

/-- A parameter of a pool, its value masked if it is the password. -/
def maskedParameter (entry : Value × Value) : Value × Value :=
  match entry with
  | (.text "password", .text password) => (.text "password", .text (Settings.maskOf password))
  | entry => entry

theorem maskedParameter_cases (entry : Value × Value) :
    maskedParameter entry = entry ∨
      (maskedParameter entry).1 = .text "password" ∧ entry.1 = .text "password" := by
  unfold maskedParameter
  split
  · exact .inr ⟨rfl, rfl⟩
  · exact .inl rfl

/-- An event with the password masked that a pool is created with. -/
def masked : Event → Event
  | .createPool parameters => .createPool (parameters.map maskedParameter)
  | event => event

end Event

theorem MySql.Handle.poolParameters_masked (settings : Settings) :
    poolParameters settings.masked = (poolParameters settings).map Event.maskedParameter :=
  rfl

namespace Backend

/-- A database with the passwords masked that it has seen. -/
def masked (backend : Backend) : Backend :=
  { backend with events := backend.events.map Event.masked }

variable (backend : Backend)

theorem masked_emit (event : Event) :
    (backend.emit event).masked = backend.masked.emit event.masked := by
  rw [masked, emit, List.map_append]
  rfl

theorem masked_errorAt (stage : Stage) :
    backend.masked.errorAt stage =
      ((backend.errorAt stage).1, (backend.errorAt stage).2.masked) := by
  unfold errorAt masked
  dsimp only
  split
  · split <;> rfl
  · rfl

theorem masked_execute :
    backend.masked.execute = (backend.execute.1, backend.execute.2.masked) := by
  unfold execute masked
  dsimp only
  split <;> rfl

end Backend

/-! ### The handle of a server -/

namespace MySql

/-- A handle with its password masked. -/
def Handle.masked (handle : Handle) : Handle :=
  { handle with settings := handle.settings.masked }

theorem Handle.masked_unlock (handle : Handle) : handle.masked.unlock = handle.unlock.masked := by
  unfold unlock masked phase?
  dsimp only
  split
  · rfl
  · split <;> rfl

theorem Handle.masked_release (handle : Handle) :
    handle.masked.release = handle.release.masked := by
  unfold release masked phase?
  dsimp only
  split
  · rfl
  · split
    · rfl
    · split <;> rfl

theorem Handle.createdMessage_masked (settings : Settings) :
    createdMessage settings.masked = createdMessage settings :=
  congrArg ("Dbc created for " ++ ·) settings.safeUri_masked

/-- A handle and its database with the passwords masked. -/
def State.masked (state : State) : State :=
  ⟨state.handle.masked, state.backend.masked⟩

namespace State

variable (state : State) (id : Nat) (bound : Bound)

theorem pool_masked : state.masked.handle.pool = state.handle.pool :=
  rfl

theorem safeUri_masked :
    state.masked.handle.settings.safeUri = state.handle.settings.safeUri :=
  state.handle.settings.safeUri_masked

theorem masked_fail (error : DriverError) :
    state.masked.fail id bound error = (state.fail id bound error).masked := by
  unfold fail
  cases error <;> rfl

theorem masked_arrive (sql : String) (arguments : List Value) :
    state.masked.arrive id sql arguments = (state.arrive id sql arguments).masked := by
  unfold arrive
  split <;> rfl

theorem masked_seekPool :
    state.masked.seekPool id bound = (state.seekPool id bound).masked := by
  unfold seekPool
  rw [pool_masked, show state.masked.handle.holder = state.handle.holder from rfl,
    show state.masked.handle.queue = state.handle.queue from rfl]
  split
  · rfl
  · split <;> rfl

theorem masked_emit (event : Event) :
    state.masked.emit event.masked = (state.emit event).masked :=
  congrArg (State.mk state.handle.masked) (state.backend.masked_emit event).symm

theorem masked_enterLock :
    state.masked.enterLock id bound = (state.enterLock id bound).masked := by
  unfold enterLock
  rw [pool_masked, safeUri_masked]
  split
  · exact congrArg (State.mk · state.backend.masked)
      (Handle.masked_unlock (state.handle.move id (.needsConnection bound)))
  · -- the one event that has the password in it
    rw [show Handle.poolParameters state.masked.handle.settings = _ from
      Handle.poolParameters_masked state.handle.settings]
    exact congrArg (move · id (.creating bound))
      (masked_emit (state.say .info _)
        (.createPool (Handle.poolParameters state.handle.settings)))

theorem masked_created :
    state.masked.created id bound = (state.created id bound).masked := by
  unfold created
  rw [show state.masked.backend.errorAt .create = _ from state.backend.masked_errorAt .create,
    safeUri_masked]
  rcases state.backend.errorAt .create with ⟨none | error, backend⟩
  · exact congrArg (State.mk · backend.masked) (Handle.masked_unlock (Handle.move
      { state.handle with pool := some (Pool.create state.handle.settings.connectionLimit) } id
        (.needsConnection bound)))
  · exact congrArg (State.mk · _)
      (Handle.masked_unlock (state.handle.move id (.finished (.error _))))

theorem masked_connect : state.masked.connect id bound = (state.connect id bound).masked :=
  congrArg (fun acquired => (say acquired .debug "Acquired connection from pool.").move id
    (.connected bound)) (state.masked_emit .acquire)

theorem masked_seekConnection :
    state.masked.seekConnection id bound = (state.seekConnection id bound).masked := by
  unfold seekConnection
  rw [pool_masked, show isQueueFull state.masked.handle = isQueueFull state.handle from rfl,
    show state.masked.backend.errorAt .acquire = _ from state.backend.masked_errorAt .acquire,
    safeUri_masked]
  cases state.handle.pool with
  | none => rfl
  | some pool =>
    dsimp only
    split
    · rfl
    · rcases state.backend.errorAt .acquire with ⟨none | error, backend⟩
      · dsimp only
        split
        · rfl
        · exact masked_connect ⟨{ state.handle with pool := some pool.take }, backend⟩ id bound
      · exact masked_fail ⟨state.handle, backend⟩ id bound error

theorem masked_openCursor :
    state.masked.openCursor id bound = (state.openCursor id bound).masked := by
  unfold openCursor
  rw [show state.masked.backend.errorAt .cursor = _ from state.backend.masked_errorAt .cursor]
  rcases state.backend.errorAt .cursor with ⟨none | error, backend⟩ <;> rfl

theorem masked_run : state.masked.run id bound = (state.run id bound).masked := by
  unfold run
  rw [show state.masked.emit (.execute bound.sql bound.parameters) = _ from
    state.masked_emit (.execute bound.sql bound.parameters)]
  generalize state.emit (.execute bound.sql bound.parameters) = running
  dsimp only
  rw [show running.masked.backend.execute = _ from running.backend.masked_execute]
  rcases running.backend.execute with ⟨failed | failedFetch | answered, backend⟩ <;>
  · exact congrArg (move · id _) (masked_emit ⟨running.handle, backend⟩ .closeCursor)

theorem masked_leave (ran : Ran) :
    state.masked.leave id bound ran = (state.leave id bound ran).masked := by
  unfold leave
  rw [show state.masked.emit .release = _ from state.masked_emit .release]
  generalize state.emit .release = leaving
  dsimp only
  rw [show leaving.masked.handle.release = _ from Handle.masked_release leaving.handle]
  cases ran with
  | ok reply => rfl
  | error error =>
    exact masked_fail (say ⟨leaving.handle.release, leaving.backend⟩ .debug
      "Released connection back to pool.") id bound error

/-- A step does to a masked handle what it does to the handle, masked. -/
theorem masked_advance : state.masked.advance id = (state.advance id).masked := by
  unfold advance
  rw [show state.masked.handle.phase? id = state.handle.phase? id from rfl]
  cases state.handle.phase? id with
  | none => rfl
  | some phase =>
    cases phase with
    | arrived sql arguments => exact state.masked_arrive id sql arguments
    | needsPool bound => exact state.masked_seekPool id bound
    | waitingForLock bound => rfl
    | locked bound => exact state.masked_enterLock id bound
    | creating bound => exact state.masked_created id bound
    | needsConnection bound => exact state.masked_seekConnection id bound
    | waitingForConnection bound => rfl
    | granted bound =>
      exact masked_connect ⟨{ state.handle with waiting := state.handle.waiting - 1 },
        state.backend⟩ id bound
    | connected bound => exact state.masked_openCursor id bound
    | cursorOpen bound => exact state.masked_run id bound
    | leaving bound ran => exact state.masked_leave id bound ran
    | finished outcome => rfl

theorem masked_settleAll :
    turns.settleAll state.masked = (turns.settleAll state).masked := by
  have step (state : State) (id : Nat) :
      turns.advance state.masked id = (turns.advance state id).masked := state.masked_advance id
  exact Tasks.settleAll_map step (fun _ _ => rfl) (fun _ => rfl) state

theorem masked_statement (sql : String) (arguments : List Value) :
    state.masked.statement sql arguments =
      ((state.statement sql arguments).1, (state.statement sql arguments).2.masked) := by
  unfold statement
  dsimp only
  rw [show state.masked.freshId = state.freshId from rfl,
    show turns.settleAll (state.masked.enter state.freshId sql arguments) = _ from
      masked_settleAll (state.enter state.freshId sql arguments)]
  rfl

theorem masked_close : state.masked.close = state.close.masked := by
  unfold close
  rw [pool_masked]
  split
  · rw [show state.masked.emit .closePool = _ from state.masked_emit .closePool,
      show (state.emit .closePool).masked.emit .waitClosed = _ from
        masked_emit (state.emit .closePool) .waitClosed]
    exact congrArg (say _ .info ∘ ("Closed connection pool for " ++ ·)) state.safeUri_masked
  · rfl

end State

end MySql

/-! ### Gateways -/

/-- What a gateway knows of a handle, with the password masked. -/
def Endpoint.masked (endpoint : Endpoint) : Endpoint :=
  { endpoint with uri := endpoint.safeUri }

theorem MySql.Handle.endpoint_masked (handle : Handle) :
    handle.masked.endpoint = handle.endpoint.masked := by
  unfold endpoint label
  simp only [show handle.masked.settings.safeUri = handle.settings.safeUri from
    handle.settings.safeUri_masked]
  rfl

/-- A gateway of a handle with the password masked. -/
def Gateway.masked (gateway : Gateway) : Gateway :=
  { gateway with endpoint := gateway.endpoint.masked }

namespace Gateway

/-- Building a gateway fails for its table, or makes one of what it was given and says so. -/
theorem create_cases (table : Value) (schema : Schema) (options : GatewayOptions) :
    (∃ failure, ∀ endpoint,
        create table (some endpoint) (some schema) options = .failed failure) ∨
      ∃ built : Endpoint → Gateway, ∀ endpoint,
        create table (some endpoint) (some schema) options =
            .note .info ("Gateway created: " ++ (built endpoint).text) (.done (built endpoint)) ∧
          built endpoint.masked = (built endpoint).masked := by
  cases named : orRefuse (Identifier.ofValue? table) with
  | error failure =>
    refine .inl ⟨failure, fun endpoint => ?_⟩
    rw [create, named]
    rfl
  | ok identifier =>
    let model := if options.model.isTruthy then options.model else defaultModel
    refine .inr ⟨fun endpoint => ⟨identifier, endpoint, schema, model, options.enableUndefined,
      options.allowMultiple, options.allowDeleteAll, options.allowUpdateAll⟩, fun endpoint => ?_⟩
    rw [create, named]
    exact ⟨rfl, rfl⟩

variable (gateway : Gateway)

theorem writeForms_masked (strict : Bool) (records : List Value) :
    gateway.masked.writeForms strict records = gateway.writeForms strict records := by
  induction records with
  | nil => rfl
  | cons record rest inductionHypothesis =>
    rw [writeForms, writeForms, inductionHypothesis]
    rfl

theorem bulkForms_masked (records : Value) (strict : Bool) (write : BulkWrite) :
    gateway.masked.bulkForms records strict write = gateway.bulkForms records strict write := by
  unfold bulkForms
  simp only [writeForms_masked]
  rfl

theorem addMany_masked (records : Value) (strict : Bool) :
    gateway.masked.addMany records strict = gateway.addMany records strict := by
  rw [addMany, bulkForms_masked]
  rfl

theorem replaceMany_masked (records : Value) (strict : Bool) :
    gateway.masked.replaceMany records strict = gateway.replaceMany records strict := by
  rw [replaceMany, bulkForms_masked]
  rfl

theorem upsertMany_masked (records duplicateKey duplicateValue : Value) (strict : Bool) :
    gateway.masked.upsertMany records duplicateKey duplicateValue strict =
      gateway.upsertMany records duplicateKey duplicateValue strict := by
  unfold upsertMany
  simp only [bulkForms_masked]
  rfl

theorem assignmentsOf_masked (changes : Record) :
    gateway.masked.assignmentsOf changes = gateway.assignmentsOf changes := by
  induction changes with
  | nil => rfl
  | cons change rest inductionHypothesis =>
    rw [assignmentsOf, assignmentsOf, inductionHypothesis]
    rfl

theorem update_masked (condition changes ensureNotDeleted : Value) (strict : Bool) :
    gateway.masked.update condition changes ensureNotDeleted strict =
      gateway.update condition changes ensureNotDeleted strict := by
  unfold update
  simp only [assignmentsOf_masked]
  rfl

theorem setFlag_masked (change : FlagChange) (condition : Value) :
    gateway.masked.setFlag change condition = gateway.setFlag change condition := by
  unfold setFlag
  simp only [update_masked]
  rfl

theorem ensure_masked (record : Value) : gateway.masked.ensure record = gateway.ensure record := by
  unfold ensure enable
  simp only [setFlag_masked]
  rfl

theorem upsert_masked (condition changes : Value) :
    gateway.masked.upsert condition changes = gateway.upsert condition changes := by
  unfold upsert
  simp only [update_masked]
  rfl

end Gateway

/-- No operation of a gateway depends on the password of its handle. -/
theorem Operation.plan_masked (gateway : Gateway) (operation : Operation) :
    operation.plan gateway.masked = operation.plan gateway := by
  cases operation with
  | addMany records strict => exact gateway.addMany_masked records strict
  | update condition changes ensureNotDeleted strict =>
    exact gateway.update_masked condition changes ensureNotDeleted strict
  | ensure record => exact gateway.ensure_masked record
  | upsert condition changes => exact gateway.upsert_masked condition changes
  | replaceOne record strict => exact gateway.replaceMany_masked (.list [record]) strict
  | replaceMany records strict => exact gateway.replaceMany_masked records strict
  | upsertMany records duplicateKey duplicateValue strict =>
    exact gateway.upsertMany_masked records duplicateKey duplicateValue strict
  | disable condition => exact gateway.setFlag_masked .disable condition
  | enable condition => exact gateway.setFlag_masked .enable condition
  | _ => rfl

end TableGateway
