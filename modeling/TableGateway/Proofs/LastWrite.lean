/-
This file shows that an operation writes once at most, and last. A session pairs each
statement that it sends with the answer of its handle; of an operation's statements only
the last can be one that writes. If the operation fails, either the handle has failed in
that very statement, or nothing was written and the table is as it was.
-/

import TableGateway.Proofs.Conjunct
import TableGateway.Proofs.Traffic

namespace TableGateway

/-! ### Statements that write -/

/-- The text of a statement is that of one that writes. -/
def Statement.IsWriting (dialect : Dialect) (statement : Statement) : Prop :=
  ∃ verb ∈ ["INSERT ", "REPLACE ", "UPDATE ", "DELETE "],
    verb.toList <+: (statement.sql dialect).toList

/-- A statement whose text begins with another letter does not write. -/
theorem Statement.not_isWriting {dialect : Dialect} {statement : Statement}
    (letter : (statement.sql dialect).toList.head? ∉ [some 'I', some 'R', some 'U', some 'D']) :
    ¬statement.IsWriting dialect := by
  rintro ⟨verb, among, tail, whole⟩
  rw [← whole] at letter
  simp only [List.mem_cons, List.not_mem_nil, or_false] at among
  rcases among with rfl | rfl | rfl | rfl <;> simp at letter

theorem Statement.isWriting_of_writes {statement : Statement} (writes : statement.writes = true)
    (dialect : Dialect) : statement.IsWriting dialect := by
  cases statement with
  | insert table columns rows onDuplicate =>
    refine ⟨"INSERT ", by decide, ?_⟩
    rw [sql_insert]
    simp
  | replace table columns rows =>
    refine ⟨"REPLACE ", by decide, ?_⟩
    rw [sql_replace]
    simp
  | update table assignments predicates =>
    refine ⟨"UPDATE ", by decide, ?_⟩
    rw [sql_update]
    simp
  | delete table predicates =>
    refine ⟨"DELETE ", by decide, ?_⟩
    rw [sql_delete]
    simp
  | select projection table clause => cases writes
  | raw sql arguments => cases writes

/-- No statement that looks up tables or columns writes. -/
theorem Endpoint.LooksUp.not_isWriting {endpoint : Endpoint} {table : Identifier}
    {statement : Statement} (looks : endpoint.LooksUp table statement) (dialect : Dialect) :
    ¬statement.IsWriting dialect := by
  refine Statement.not_isWriting ?_
  cases looks with
  | tableOfFile file =>
    rw [Statement.sql_raw]
    decide
  | tableOnServer server =>
    rw [Statement.sql_raw]
    decide +kernel
  | columnsOfFile file =>
    rw [Statement.sql_raw]
    simp
  | columnsOnServer server =>
    rw [Statement.sql_raw]
    simp

namespace Gateway

variable {gateway : Gateway} {asked : Value → Prop} {statement : Statement}

theorem Looks.not_isWriting (looks : gateway.Looks asked statement) (dialect : Dialect) :
    ¬statement.IsWriting dialect := by
  cases looks with
  | select clause among chosen =>
    refine Statement.not_isWriting ?_
    rw [Statement.sql_select]
    simp
  | lookUp found => exact found.not_isWriting dialect

theorem SetsFlag.writes {hides : Bool} {condition : Value}
    (sets : gateway.SetsFlag hides condition statement) : statement.writes = true := by
  cases sets with
  | update declared updates =>
    cases updates
    rfl

end Gateway

/-- What an operation writes is a statement that writes. -/
theorem Operation.Writes.isWriting {gateway : Gateway} {operation : Operation}
    {statement : Statement} (sent : operation.Writes gateway statement) (dialect : Dialect) :
    statement.IsWriting dialect := by
  refine Statement.isWriting_of_writes ?_ dialect
  cases sent with
  | add inserts => cases inserts; rfl
  | addMany inserts => cases inserts; rfl
  | update updates => cases updates; rfl
  | ensureInserts taken inserts => cases inserts; rfl
  | ensureRevives taken dumped revives => exact revives.writes
  | upsertInserts asked given taken inserts => cases inserts; rfl
  | upsertUpdates given updates => cases updates; rfl
  | replaceOne replaces => cases replaces; rfl
  | replaceMany replaces => cases replaces; rfl
  | upsertMany upserts => cases upserts; rfl
  | disable hides => exact hides.writes
  | enable revives => exact revives.writes
  | delete deletes => cases deletes; rfl

/-! ### Statements and answers -/

namespace Session

variable {Result : Type}

/-- What a session sends, each statement with the answer of the handle. -/
def exchanges (dialect : Dialect) :
    Plan Result → Session → List (Statement × Except Failure Reply)
  | .done _, _ => []
  | .failed _, _ => []
  | .note level message rest, session => exchanges dialect rest (session.say level message)
  | .send statement rest, session =>
    match session.statement (statement.sql dialect) statement.arguments with
    | (.ok reply, session) => (statement, .ok reply) :: exchanges dialect (rest reply) session
    | (.error failure, _) => [(statement, .error failure)]

theorem map_exchanges (dialect : Dialect) (plan : Plan Result) (session : Session) :
    (session.exchanges dialect plan).map Prod.fst = session.sent dialect plan := by
  induction plan generalizing session with
  | done result => rfl
  | failed failure => rfl
  | note level message rest inductionHypothesis => exact inductionHypothesis _
  | send statement rest inductionHypothesis =>
    rw [exchanges, sent]
    rcases session.statement (statement.sql dialect) statement.arguments with
      ⟨failure | reply, next⟩
    · rfl
    · exact congrArg (List.cons statement) (inductionHypothesis reply next)

/-- A plan that only concludes sends nothing on a session and does not fail. -/
theorem exchanges_of_concludes {plan : Plan Result} {expected : Result → Prop}
    (concludes : plan.Concludes expected) (dialect : Dialect) (session : Session) :
    session.exchanges dialect plan = [] ∧ ∃ result, (session.run dialect plan).1 = .ok result := by
  induction plan generalizing session with
  | done result => exact ⟨rfl, result, rfl⟩
  | failed failure => cases concludes
  | note level message rest inductionHypothesis => exact inductionHypothesis concludes _
  | send statement rest => cases concludes

/-- Of what a plan sends that writes last, only the last statement can be one that writes; and if
the plan then fails, it fails with the answer to that statement. -/
theorem exchanges_of_writesLast {plan : Plan Result} {looks writes : Statement → Prop}
    {expected : Result → Prop} (writesLast : plan.WritesLast looks writes expected)
    (dialect : Dialect) (session : Session) :
    ∃ (looked : List (Statement × Except Failure Reply))
      (written : Option (Statement × Except Failure Reply)),
      session.exchanges dialect plan = looked ++ written.toList ∧
        (∀ exchange ∈ looked, looks exchange.1) ∧
        ∀ exchange ∈ written, writes exchange.1 ∧
          ∀ failure, (session.run dialect plan).1 = .error failure →
            exchange.2 = .error failure := by
  induction plan generalizing session with
  | done result => exact ⟨[], none, rfl, by simp, by simp⟩
  | failed failure => exact ⟨[], none, rfl, by simp, by simp⟩
  | note level message rest inductionHypothesis => exact inductionHypothesis writesLast _
  | send statement rest inductionHypothesis =>
    rw [exchanges, run]
    rcases session.statement (statement.sql dialect) statement.arguments with
      ⟨failure | reply, next⟩
    · rcases writesLast with ⟨look, -⟩ | ⟨write, -⟩
      · exact ⟨[(statement, .error failure)], none, rfl, by simpa using look, by simp⟩
      · refine ⟨[], some (statement, .error failure), rfl, by simp, ?_⟩
        rintro exchange same
        cases same
        refine ⟨write, fun other failed => ?_⟩
        cases failed
        rfl
    · rcases writesLast with ⟨look, later⟩ | ⟨write, concludes⟩
      · obtain ⟨looked, written, whole, looking, writing⟩ :=
          inductionHypothesis reply (later reply) next
        refine ⟨(statement, .ok reply) :: looked, written, congrArg (List.cons _) whole, ?_,
          writing⟩
        exact List.forall_mem_cons.mpr ⟨look, looking⟩
      · obtain ⟨nothing, result, done⟩ := exchanges_of_concludes (concludes reply) dialect next
        refine ⟨[], some (statement, .ok reply), congrArg (List.cons _) nothing, by simp, ?_⟩
        rintro exchange same
        cases same
        refine ⟨write, fun failure failed => ?_⟩
        rw [done] at failed
        cases failed

/-- Statements that do nothing to a table leave it as it is. -/
theorem foldl_eq_of_spared {Table : Type} {effect : Statement → Table → Table}
    {sent : List Statement} (spared : ∀ statement ∈ sent, effect statement = id) (table : Table) :
    sent.foldl (fun table statement => effect statement table) table = table := by
  induction sent generalizing table with
  | nil => rfl
  | cons statement rest inductionHypothesis =>
    rw [List.foldl_cons, spared statement List.mem_cons_self]
    exact inductionHypothesis (fun other later => spared other (List.mem_cons_of_mem _ later)) _

end Session

/-- Whatever an operation is asked and whatever the database answers, it writes once at most, and
after that sends nothing. If it fails, either that statement is what the handle has failed in, or no
statement that writes was sent; then a table to which other statements do nothing is as it was. -/
theorem Operation.writes_once_and_last (gateway : Gateway) (operation : Operation)
    (session : Session) :
    let dialect := gateway.endpoint.dialect
    let plan := operation.plan gateway
    ∃ (looked : List (Statement × Except Failure Reply))
      (written : Option (Statement × Except Failure Reply)),
      session.exchanges dialect plan = looked ++ written.toList ∧
        (∀ exchange ∈ looked, ¬exchange.1.IsWriting dialect) ∧
        (∀ exchange ∈ written, exchange.1.IsWriting dialect) ∧
        ∀ failure, (session.run dialect plan).1 = .error failure →
          (∃ exchange ∈ written, exchange.2 = .error failure) ∨
            written = none ∧ ∀ (Table : Type) (effect : Statement → Table → Table),
              (∀ statement, ¬statement.IsWriting dialect → effect statement = id) → ∀ table,
                (session.sent dialect plan).foldl (fun table statement => effect statement table)
                  table = table := by
  intro dialect plan
  obtain ⟨looked, written, whole, looking, writing⟩ :=
    Session.exchanges_of_writesLast (operation.writesLast gateway) dialect session
  have spared : ∀ exchange ∈ looked, ¬exchange.1.IsWriting dialect := fun exchange member =>
    (looking exchange member).not_isWriting dialect
  refine ⟨looked, written, whole, spared, fun exchange member =>
    (writing exchange member).1.isWriting dialect, fun failure failed => ?_⟩
  cases written with
  | some exchange => exact .inl ⟨exchange, rfl, (writing exchange rfl).2 failure failed⟩
  | none =>
    refine .inr ⟨rfl, fun Table effect harmless table => Session.foldl_eq_of_spared ?_ table⟩
    intro statement member
    rw [← Session.map_exchanges, whole, Option.toList_none, List.append_nil] at member
    obtain ⟨exchange, among, rfl⟩ := List.mem_map.mp member
    exact harmless _ (spared exchange among)

end TableGateway
