/-
This file says what the operations of a gateway send, whatever comes back. A read sends
one selection; an update or a deletion has predicates unless the gateway allows every
row; an insertion or a replacement has the values of its keys row by row; and everything
else only looks up which tables and columns there are.
-/

import TableGateway.Proofs.Writing

namespace TableGateway

namespace Gateway

/-- The statements of a gateway whose reads ask for some projections. -/
inductive Sends (gateway : Gateway) (asked : Value → Prop) : Statement → Prop where
  | select (clause : Clause) {projection : Value} {selected : Projection}
      (among : asked projection) (chosen : gateway.projectionOf projection = .ok selected) :
      gateway.Sends asked (.select selected gateway.table clause)
  | insert (records : List Record) (onDuplicate : Option DuplicateUpdate) {keys : List Value}
      {columns : List Identifier} (named : Identifier.ofValues? keys = .ok columns) :
      gateway.Sends asked
        (.insert gateway.table columns (Endpoint.valuesUnder keys records) onDuplicate)
  | replace (records : List Record) {keys : List Value} {columns : List Identifier}
      (named : Identifier.ofValues? keys = .ok columns) :
      gateway.Sends asked (.replace gateway.table columns (Endpoint.valuesUnder keys records))
  | update (assignments : List (Identifier × Value)) {predicates : List Predicate}
      (confined : predicates ≠ [] ∨ gateway.allowUpdateAll = true) :
      gateway.Sends asked (.update gateway.table assignments predicates)
  | delete {predicates : List Predicate}
      (confined : predicates ≠ [] ∨ gateway.allowDeleteAll = true) :
      gateway.Sends asked (.delete gateway.table predicates)
  | lookUp {statement : Statement} (found : gateway.endpoint.LooksUp gateway.table statement) :
      gateway.Sends asked statement

variable {gateway : Gateway} {asked : Value → Prop} {statement : Statement}

theorem Looks.sends (looks : gateway.Looks asked statement) : gateway.Sends asked statement := by
  cases looks with
  | select clause among chosen => exact .select clause among chosen
  | lookUp found => exact .lookUp found

theorem Inserts.sends {record : Value} {strict : Bool}
    (inserts : gateway.Inserts record strict statement) : gateway.Sends asked statement := by
  cases inserts with
  | insert written named => exact .insert _ none named

theorem ReplacesAll.sends {records : Value} {strict : Bool}
    (replaces : gateway.ReplacesAll records strict statement) : gateway.Sends asked statement := by
  cases replaces with
  | replace gathers named => exact .replace _ named

theorem Updates.sends {condition changes ensureNotDeleted : Value} {strict : Bool}
    (updates : gateway.Updates condition changes ensureNotDeleted strict statement) :
    gateway.Sends asked statement := by
  cases updates with
  | update written compiled confined named => exact .update _ confined

theorem SetsFlag.sends {hides : Bool} {condition : Value}
    (sets : gateway.SetsFlag hides condition statement) : gateway.Sends asked statement := by
  cases sets with
  | update declared updates => exact updates.sends

/-- An update of the rows of a condition sends nothing else. -/
theorem update_always (gateway : Gateway) (condition changes ensureNotDeleted : Value)
    (strict : Bool) :
    (gateway.update condition changes ensureNotDeleted strict).Always
      (gateway.Updates condition changes ensureNotDeleted strict) fun _ => True :=
  (gateway.update_writesLast condition changes ensureNotDeleted strict).always_writes

/-- A deletion of the rows of a condition sends nothing else. -/
theorem delete_always (gateway : Gateway) (condition : Value) :
    (gateway.delete condition).Always (gateway.Deletes condition) fun _ => True :=
  (gateway.delete_writesLast condition).always_writes

/-- Hiding rows looks the flag's column up and updates the rows of the condition. -/
theorem disable_always (gateway : Gateway) (condition : Value) :
    (gateway.disable condition).Always
      (fun statement => gateway.endpoint.LooksUp gateway.table statement ∨
        ∃ flag, gateway.schema.hiddenFlag = some flag ∧
          gateway.Updates condition (.dict [(flag, .bool true)]) (.bool true) true statement)
      fun _ => True := by
  refine (gateway.disable_writesLast condition).always.weaken ?_
  rintro statement (found | ⟨declared, updates⟩)
  · exact .inl found
  · exact .inr ⟨_, declared, updates⟩

end Gateway

namespace Operation

variable {gateway : Gateway} {asked : Value → Prop}

theorem Writes.sends {operation : Operation} {statement : Statement}
    (writes : operation.Writes gateway statement) : gateway.Sends asked statement := by
  cases writes with
  | add inserts => exact inserts.sends
  | addMany inserts =>
    cases inserts with
    | insert gathers named => exact .insert _ none named
  | update updates => exact updates.sends
  | ensureInserts taken inserts => exact inserts.sends
  | ensureRevives taken dumped revives => exact revives.sends
  | upsertInserts condition changes taken inserts => exact inserts.sends
  | upsertUpdates changes updates => exact updates.sends
  | replaceOne replaces => exact replaces.sends
  | replaceMany replaces => exact replaces.sends
  | upsertMany upserts =>
    cases upserts with
    | insert gathers named collides => exact .insert _ (some _) named
  | disable hides => exact hides.sends
  | enable revives => exact revives.sends
  | delete deletes =>
    cases deletes with
    | delete compiled confined => exact .delete confined

/-- What an operation sends, whatever it is asked and whatever comes back. -/
theorem sends_of_runs (gateway : Gateway) (operation : Operation) {sent : List Statement}
    {ending : Ending operation.Answer} (run : (operation.plan gateway).Runs sent ending) :
    ∀ statement ∈ sent, gateway.Sends (operation.asks gateway) statement := by
  intro statement member
  rcases (operation.writesLast gateway).always.of_runs run statement member with looks | writes
  · exact looks.sends
  · exact writes.sends

end Operation

end TableGateway
