/-
This file lists the operations of a gateway, statements given as text apart, and runs
them one after another on a session. What a session sends is read off its own run, so
that what holds of every run of a plan holds of every session, whatever outcomes its
database has been given.
-/

import TableGateway.Proofs.Run
import TableGateway.Session

namespace TableGateway

/-- What a gateway can be asked to do. -/
inductive Operation where
  | query (buckets order limit projection : Value)
  | find (condition ensureNotDeleted projection order limit : Value)
  | findOne (condition ensureNotDeleted projection order : Value)
  | findOneByFields (keys values : Value)
  | count (condition ensureNotDeleted : Value)
  | getOrNotFound (condition ensureNotDeleted projection : Value)
  | exist
  | showColumns
  | listColumns
  | ensureColumns (names : List Value)
  | add (record : Value) (strict : Bool)
  | addMany (records : Value) (strict : Bool)
  | update (condition changes ensureNotDeleted : Value) (strict : Bool)
  | ensure (record : Value)
  | upsert (condition changes : Value)
  | replaceOne (record : Value) (strict : Bool)
  | replaceMany (records : Value) (strict : Bool)
  | upsertMany (records duplicateKey duplicateValue : Value) (strict : Bool)
  | disable (condition : Value)
  | enable (condition : Value)
  | delete (condition : Value)

namespace Operation

/-- What an operation answers. -/
def Answer : Operation → Type
  | .query .. => List Record
  | .find .. => List Record
  | .findOne .. => Option Record
  | .findOneByFields .. => Option Record
  | .count .. => Int
  | .getOrNotFound .. => Record
  | .exist => Bool
  | .showColumns => List Record
  | .listColumns => List Value
  | .ensureColumns _ => Unit
  | .add .. => Option Int
  | .addMany .. => Int
  | .update .. => Int
  | .ensure _ => Option WriteResult
  | .upsert .. => UpsertResult
  | .replaceOne .. => WriteResult
  | .replaceMany .. => WriteResult
  | .upsertMany .. => WriteResult
  | .disable _ => WriteResult
  | .enable _ => WriteResult
  | .delete _ => WriteResult

/-- What an operation does on a gateway. -/
def plan (gateway : Gateway) : (operation : Operation) → Plan operation.Answer
  | .query buckets order limit projection => gateway.query buckets order limit projection
  | .find condition ensureNotDeleted projection order limit =>
    gateway.find condition ensureNotDeleted projection order limit
  | .findOne condition ensureNotDeleted projection order =>
    gateway.findOne condition ensureNotDeleted projection order
  | .findOneByFields keys values => gateway.findOneByFields keys values
  | .count condition ensureNotDeleted => gateway.count condition ensureNotDeleted
  | .getOrNotFound condition ensureNotDeleted projection =>
    gateway.getOrNotFound condition ensureNotDeleted projection
  | .exist => gateway.exist
  | .showColumns => gateway.showColumns
  | .listColumns => gateway.listColumns
  | .ensureColumns names => gateway.ensureColumns names
  | .add record strict => gateway.add record strict
  | .addMany records strict => gateway.addMany records strict
  | .update condition changes ensureNotDeleted strict =>
    gateway.update condition changes ensureNotDeleted strict
  | .ensure record => gateway.ensure record
  | .upsert condition changes => gateway.upsert condition changes
  | .replaceOne record strict => gateway.replaceOne record strict
  | .replaceMany records strict => gateway.replaceMany records strict
  | .upsertMany records duplicateKey duplicateValue strict =>
    gateway.upsertMany records duplicateKey duplicateValue strict
  | .disable condition => gateway.disable condition
  | .enable condition => gateway.enable condition
  | .delete condition => gateway.delete condition

end Operation

namespace Session

variable {Result : Type}

/-! ### What a session sends -/

/-- The statements that a plan sends when it runs on a session. -/
def sent (dialect : Dialect) : Plan Result → Session → List Statement
  | .done _, _ => []
  | .failed _, _ => []
  | .note level message rest, session => sent dialect rest (session.say level message)
  | .send statement rest, session =>
    statement ::
      match session.statement (statement.sql dialect) statement.arguments with
      | (.ok reply, session) => sent dialect (rest reply) session
      | (.error _, _) => []

/-- What a session sends and comes to is what some run of the plan does. -/
theorem runs_sent (dialect : Dialect) (plan : Plan Result) (session : Session) :
    ∃ ending, plan.Runs (session.sent dialect plan) ending ∧
      (session.run dialect plan).1 = ending.outcome := by
  induction plan generalizing session with
  | done result => exact ⟨_, .done result, rfl⟩
  | failed failure => exact ⟨_, .failed failure, rfl⟩
  | note level message rest inductionHypothesis =>
    obtain ⟨ending, running, same⟩ := inductionHypothesis (session.say level message)
    exact ⟨ending, .noted running, same⟩
  | send statement rest inductionHypothesis =>
    rw [sent, run]
    rcases session.statement (statement.sql dialect) statement.arguments with
      ⟨failure | reply, next⟩
    · exact ⟨_, .broken statement rest failure, rfl⟩
    · obtain ⟨ending, running, same⟩ := inductionHypothesis reply next
      exact ⟨ending, .answered reply running, same⟩

/-- A plan that only checks sends nothing on a session and comes to its check. -/
theorem sent_check (dialect : Dialect) {plan : Plan Result} {checked : Except Failure Result}
    (quiet : plan.silent = Plan.ofExcept checked) (session : Session) :
    session.sent dialect plan = [] ∧ (session.run dialect plan).1 = checked := by
  obtain ⟨ending, running, same⟩ := runs_sent dialect plan session
  obtain ⟨nothing, ended⟩ := Plan.runs_check quiet running
  refine ⟨nothing, ?_⟩
  rw [same, ended]
  cases checked <;> rfl

theorem events_recorder_statement (backend : Backend) (sql : String) (arguments : List Value) :
    (Recorder.statement backend sql arguments).2.events =
      backend.events ++ [.query sql arguments] := by
  simp only [Recorder.statement]
  split <;> rfl

/-- A handle that only notes statements notes exactly what is sent, each as its text with its
arguments. -/
theorem events_run (held : Recorder) (dialect : Dialect) (plan : Plan Result) (backend : Backend) :
    (run dialect plan ⟨.recorder held, backend⟩).2.backend.events =
      backend.events ++ (sent dialect plan ⟨.recorder held, backend⟩).map fun statement =>
        Event.query (statement.sql dialect) statement.arguments := by
  induction plan generalizing backend with
  | done result => exact (List.append_nil _).symm
  | failed failure => exact (List.append_nil _).symm
  | note level message rest inductionHypothesis => exact inductionHypothesis _
  | send statement rest inductionHypothesis =>
    have noted := events_recorder_statement backend (statement.sql dialect) statement.arguments
    simp only [run, sent, Session.statement]
    generalize Recorder.statement backend (statement.sql dialect) statement.arguments = answer
      at noted ⊢
    obtain ⟨failure | reply, next⟩ := answer
    · simp only at noted
      simp only [noted, List.map_cons, List.map_nil]
    · simp only at noted
      rw [inductionHypothesis reply next, noted, List.map_cons, List.append_assoc,
        List.singleton_append]

/-! ### Operations one after another -/

/-- An operation, and the outcomes that the database is given before it, if it is given new
ones. -/
structure Step where
  operation : Operation
  script : Option (List Outcome)

/-- The session with new outcomes to come. -/
def scripted (session : Session) (script : Option (List Outcome)) : Session :=
  { session with
    backend := { session.backend with script := script.getD session.backend.script } }

/-- The statements that a gateway sends step after step. -/
def history (gateway : Gateway) : List Step → Session → List Statement
  | [], _ => []
  | step :: rest, session =>
    let plan := step.operation.plan gateway
    let ready := session.scripted step.script
    ready.sent gateway.endpoint.dialect plan ++
      history gateway rest (ready.run gateway.endpoint.dialect plan).2

/-- What every run of every operation sends, a gateway sends step after step. -/
theorem history_of_runs (gateway : Gateway) {allowed : Statement → Prop}
    (each : ∀ (operation : Operation) (sent : List Statement) (ending : Ending operation.Answer),
      (operation.plan gateway).Runs sent ending → ∀ statement ∈ sent, allowed statement)
    (steps : List Step) (session : Session) :
    ∀ statement ∈ history gateway steps session, allowed statement := by
  induction steps generalizing session with
  | nil => exact fun _ member => absurd member List.not_mem_nil
  | cons step rest inductionHypothesis =>
    intro statement member
    rcases List.mem_append.mp member with now | later
    · obtain ⟨ending, running, _⟩ := runs_sent gateway.endpoint.dialect
        (step.operation.plan gateway) (session.scripted step.script)
      exact each step.operation _ ending running statement now
    · exact inductionHypothesis _ statement later

end Session

/-! ### A table of users -/

/-- Users with a key, a name and a flag for those that are hidden. -/
def Schema.users : Schema where
  fields := [(.text "id", ⟨.integer, .undefined⟩), (.text "name", ⟨.string true, .undefined⟩),
    (.text "deleted", ⟨.boolean, .bool false⟩)]
  hiddenFlag := some (.text "deleted")
  primaryKey := some (.text "id")
  distinct := by decide
  flag_declared := by
    intro flag same
    cases same
    exact ⟨_, rfl, rfl⟩
  key_declared := by
    intro key same
    cases same
    rfl

/-- The gateway of users in a database file, with every switch off. -/
def Gateway.users : Gateway where
  table := ⟨"users", by decide, by decide⟩
  endpoint := (Sqlite.Handle.create "users.db" true).endpoint
  schema := .users
  model := defaultModel
  enableUndefined := false
  allowMultiple := false
  allowDeleteAll := false
  allowUpdateAll := false

/-- The file of users, open, with nothing to give. -/
def Session.users : Session := .ofFile "users.db" true

end TableGateway
