/-
This file shows what the handle of a database file binds for an operation, and where. The
text of each statement that is sent has exactly the places that the operation fills: the
written values, column by column and row by row, then what is set for rows that collide,
then the arguments of the condition, from left to right, each with its column. So nothing
that a gateway sends is refused for the number of its arguments, and no value goes to
another column.
-/

import TableGateway.Proofs.Filling
import TableGateway.Proofs.Labels

namespace TableGateway

open Sqlite

/-! ### What is bound -/

namespace Statement

/-- The handle of a database file hands a statement's arguments on as they are meant: it refuses
them only for a value that cannot be stored; else it runs the statement's own text, opened up to one
question mark outside of quotes for each of their values, in order, each stored in its turn. -/
structure Binds (dialect : Dialect) (statement : Statement) (arguments : List Value) : Prop where
  handed : statement.arguments = arguments
  refused : ∀ failure, expand (statement.sql dialect) statement.arguments = .error failure →
    ∃ fault, failure = .invalid (.unwritable fault)
  bound : ∀ values,
    List.Forall₂ (fun value stored => storable value = .ok stored)
      (arguments.flatMap Value.parameters) values →
    ∃ text, expand (statement.sql dialect) statement.arguments = .ok ⟨text, values⟩ ∧
      Opens (statement.sql dialect).toList arguments text.toList ∧
      openMarks none text.toList = values.length

theorem binds_of_fits {dialect : Dialect} {statement : Statement}
    (fits : Fits (statement.sql dialect).toList statement.arguments) :
    statement.Binds dialect statement.arguments := by
  obtain ⟨refused, bound⟩ := fits.expand
  exact ⟨rfl, refused, bound⟩

/-- The text of a statement has some places, each with its column, and the handle of a database file
binds what is meant for them, each at its own place. -/
structure BindsExactly (dialect : Dialect) (statement : Statement)
    (places : List (Identifier × Value)) : Prop where
  labelled : Labelled (statement.sql dialect).toList places
  binds : statement.Binds dialect (places.map Prod.snd)

end Statement

/-- A handle of a database file looks its tables up by statements of its own arguments. -/
theorem Endpoint.LooksUp.binds {endpoint : Endpoint} {table : Identifier} {statement : Statement}
    (looks : endpoint.LooksUp table statement) (file : endpoint.catalog = .masterTable)
    (dialect : Dialect) : statement.Binds dialect statement.arguments := by
  have regular := looks.isRegular file
  refine Statement.binds_of_fits ?_
  cases looks <;> exact regular

namespace Operation

variable {gateway : Gateway}

/-! ### What is filled is bound -/

theorem Fills.arguments_eq {answered : List Record} {operation : Operation} {statement : Statement}
    {places : List (Identifier × Value)}
    (fills : operation.Fills gateway answered statement places) :
    statement.arguments = places.map Prod.snd := by
  have written (rows : List (List (Identifier × Value))) :
      (rows.map fun row => row.map Prod.snd).flatten = rows.flatten.map Prod.snd :=
    (List.map_flatten ..).symm
  cases fills with
  | reads => exact predicateArguments_eq _
  | inserts =>
    rw [← written]
    exact List.append_nil _
  | replaces => exact written _
  | upserts =>
    rw [List.map_append, ← written, List.map_map, Function.comp_def, List.map_id']
    rfl
  | updates =>
    rw [List.map_append, ← predicateArguments_eq]
    rfl
  | deletes => exact predicateArguments_eq _

theorem Fills.labelled {answered : List Record} {operation : Operation} {statement : Statement}
    {places : List (Identifier × Value)} (fills : operation.Fills gateway answered statement places)
    (standard : operation.IsStandard) {dialect : Dialect} (marks : dialect.style = .qmark) :
    Labelled (statement.sql dialect).toList places := by
  have table : Labelled gateway.table.quoted.toList [] :=
    labelled_of_isInert (isInert_quoted gateway.table)
  have space : Labelled " ".toList [] := labelled_of_isInert (by decide)
  have insertion : Labelled "INSERT INTO ".toList [] := labelled_of_isInert (by decide)
  cases fills with
  | @reads _ clause projection selected compiled asked chosen =>
    have word : Labelled "SELECT ".toList [] := labelled_of_isInert (by decide)
    have source : Labelled " FROM ".toList [] := labelled_of_isInert (by decide)
    have projected : Labelled selected.sql.toList [] := labelled_of_isInert
      (isInert_of_fits (Gateway.fits_projectionOf (standard.asks gateway projection asked) chosen))
    rw [Statement.sql_select, marks]
    exact (((word.append_text projected).append_text source).append_text table).append_text
      clause.labelled_sql
  | inserts given lays =>
    rw [Statement.sql_insert, marks]
    have rows := ((insertion.append_text table).append_text space).append_text
      (Statement.labelled_valuesText lays.aligned)
    have whole := rows.append_text (labelled_of_isInert (by decide : IsInert "".toList))
    rwa [List.append_nil] at whole
  | replaces given lays =>
    have word : Labelled "REPLACE INTO ".toList [] := labelled_of_isInert (by decide)
    rw [Statement.sql_replace, marks]
    exact ((word.append_text table).append_text space).append_text
      (Statement.labelled_valuesText lays.aligned)
  | upserts given lays collides =>
    rw [Statement.sql_insert, marks]
    exact (((insertion.append_text table).append_text space).append_text
      (Statement.labelled_valuesText lays.aligned)).append_text
        (Statement.labelled_duplicateText marks _)
  | updates asked formed compiled =>
    have word : Labelled "UPDATE ".toList [] := labelled_of_isInert (by decide)
    have sets : Labelled " SET ".toList [] := labelled_of_isInert (by decide)
    rw [Statement.sql_update, marks]
    exact (((word.append_text table).append_text sets).append_text
      (Statement.labelled_assignmentsText _)).append_text (labelled_whereText _)
  | deletes compiled =>
    have word : Labelled "DELETE FROM ".toList [] := labelled_of_isInert (by decide)
    rw [Statement.sql_delete, marks]
    exact (word.append_text table).append_text (labelled_whereText _)

theorem Fills.bindsExactly {answered : List Record} {operation : Operation}
    {statement : Statement} {places : List (Identifier × Value)}
    (fills : operation.Fills gateway answered statement places) (standard : operation.IsStandard)
    {dialect : Dialect} (marks : dialect.style = .qmark) :
    statement.BindsExactly dialect places := by
  have labelled := fills.labelled standard marks
  have fits := labelled.fits
  rw [← fills.arguments_eq] at fits
  have binds := Statement.binds_of_fits fits
  rw [fills.arguments_eq] at binds
  exact ⟨labelled, binds⟩

/-- On a database file, whatever an operation sends has the places that the operation fills, and
what it has for them is bound there: its written values, what it sets for rows that collide, and the
arguments of its condition, each at the place of its column. What only looks tables and columns up
binds its own arguments. -/
theorem bindsExactly_of_converses {gateway : Gateway} {handle : Sqlite.Handle}
    (file : gateway.endpoint = handle.endpoint) {operation : Operation}
    (standard : operation.IsStandard) {exchanges : List Exchange}
    {outcome : Except Failure operation.Answer}
    (talk : (operation.plan gateway).Converses exchanges outcome) :
    ∀ exchange ∈ exchanges,
      (∃ places, operation.Fills gateway (firstRows exchanges) exchange.1 places ∧
        exchange.1.BindsExactly gateway.endpoint.dialect places) ∨
      gateway.endpoint.LooksUp gateway.table exchange.1 ∧
        exchange.1.Binds gateway.endpoint.dialect exchange.1.arguments := by
  intro exchange member
  have marks : gateway.endpoint.dialect.style = .qmark := by
    rw [file]
    rfl
  have catalog : gateway.endpoint.catalog = .masterTable := by
    rw [file]
    rfl
  rcases isFilled_of_converses talk exchange member with looks | ⟨places, fills⟩
  · exact .inr ⟨looks, looks.binds catalog gateway.endpoint.dialect⟩
  · exact .inl ⟨places, fills, fills.bindsExactly standard marks⟩

/-- Users are renamed by their keys: the new name is bound at its own place, then each key of the
list in its turn, then the flag that hidden users do not have. -/
theorem bindsExactly_users :
    let naming := Operation.update
      (.dict [(.text "in", .dict [(.text "id", .list [.int 1, .int 2])])])
      (.dict [(.text "name", .text "Ada")]) (.bool true) true
    let exchanges := Session.users.exchanges Gateway.users.endpoint.dialect (naming.plan .users)
    ∃ exchange ∈ exchanges,
      exchange.1.arguments.flatMap Value.parameters =
        [.text "Ada", .int 1, .int 2, .bool false] ∧
      ((∃ places, naming.Fills .users (firstRows exchanges) exchange.1 places ∧
        exchange.1.BindsExactly Gateway.users.endpoint.dialect places) ∨
      Gateway.users.endpoint.LooksUp Gateway.users.table exchange.1 ∧
        exchange.1.Binds Gateway.users.endpoint.dialect exchange.1.arguments) := by
  intro naming exchanges
  have talk := Session.converses_exchanges Gateway.users.endpoint.dialect (naming.plan .users)
    Session.users
  have file : Gateway.users.endpoint = (Sqlite.Handle.create "users.db" true).endpoint := rfl
  have standard : naming.IsStandard := trivial
  have bound := bindsExactly_of_converses file standard talk
  exact ⟨_, List.mem_cons_self, rfl, bound _ List.mem_cons_self⟩

end Operation

end TableGateway
