/-
This file holds statements and renders them. A statement knows its columns, its
written values and its predicates; text and arguments both follow from it, so places and
arguments keep step: written values first, the value for duplicates next, and then the
values of the predicates.
-/

import TableGateway.Clause.Basic

namespace TableGateway

open Text

/-- How a handle words what happens to a row that collides on a unique key. -/
inductive DuplicateForm where
  | onConflict
  | onDuplicateKey
  deriving DecidableEq, Repr

/-- The suffix that sets a column of a row that collides on a unique key. -/
def DuplicateForm.suffix (form : DuplicateForm) (column value : String) : String :=
  match form with
  | .onConflict => " ON CONFLICT DO UPDATE SET " ++ column ++ " = " ++ value
  | .onDuplicateKey => " ON DUPLICATE KEY UPDATE " ++ column ++ " = " ++ value

/-- What statements depend on: the style of arguments a handle names, and its wording for
duplicates. -/
structure Dialect where
  styleName : Value
  duplicates : DuplicateForm

/-- The style of arguments. A statement with places of its own is only ever made in a style that is
known. -/
def Dialect.style (dialect : Dialect) : ParamStyle :=
  (ParamStyle.ofValue? dialect.styleName).getD .qmark

/-- What a row that collides on a unique key gets: a new value in a column, or the one it has. -/
structure DuplicateUpdate where
  column : Identifier
  value : Option Value

/-- What a selection gives: columns by name, or a text taken as it stands. -/
inductive Projection where
  | columns (names : List Identifier)
  | verbatim (text : String)

def Projection.sql : Projection → String
  | .columns names => quotedNames names
  | .verbatim text => text

/-- A statement. -/
inductive Statement where
  | select (projection : Projection) (table : Identifier) (clause : Clause)
  | insert (table : Identifier) (columns : List Identifier) (rows : List (List Value))
      (onDuplicate : Option DuplicateUpdate)
  | replace (table : Identifier) (columns : List Identifier) (rows : List (List Value))
  | update (table : Identifier) (assignments : List (Identifier × Value))
      (predicates : List Predicate)
  | delete (table : Identifier) (predicates : List Predicate)
  | raw (sql : String) (arguments : List Value)

namespace Statement

/-- The places of one row of values. -/
def rowText (style : ParamStyle) (width : Nat) : String :=
  "(" ++ joinWith ", " (List.replicate width style.placeholder) ++ ")"

/-- The columns and the places of rows of values. -/
def valuesText (style : ParamStyle) (columns : List Identifier) (rows : List (List Value)) :
    String :=
  "(" ++ quotedNames columns ++ ") VALUES " ++
    joinWith ", " (List.replicate rows.length (rowText style columns.length))

/-- The suffix for rows that collide on a unique key. -/
def duplicateText (dialect : Dialect) (collision : DuplicateUpdate) : String :=
  dialect.duplicates.suffix collision.column.quoted
    (if collision.value.isNone then collision.column.quoted else dialect.style.placeholder)

/-- The text that sets columns to written values. -/
def assignmentsText (style : ParamStyle) (assignments : List (Identifier × Value)) : String :=
  joinWith ", " (assignments.map fun assignment =>
    assignment.1.quoted ++ " = " ++ style.placeholder)

/-- The text of a statement. -/
def sql (dialect : Dialect) : Statement → String
  | .select projection table clause =>
    "SELECT " ++ projection.sql ++ " FROM " ++ table.quoted ++ clause.sql dialect.style
  | .insert table columns rows onDuplicate =>
    "INSERT INTO " ++ table.quoted ++ " " ++ valuesText dialect.style columns rows ++
      (match onDuplicate with
        | none => ""
        | some collision => duplicateText dialect collision)
  | .replace table columns rows =>
    "REPLACE INTO " ++ table.quoted ++ " " ++ valuesText dialect.style columns rows
  | .update table assignments predicates =>
    "UPDATE " ++ table.quoted ++ " SET " ++ assignmentsText dialect.style assignments ++
      whereText dialect.style predicates
  | .delete table predicates =>
    "DELETE FROM " ++ table.quoted ++ whereText dialect.style predicates
  | .raw sql _ => sql

/-- The arguments of a statement, in the order of their places. -/
def arguments : Statement → List Value
  | .select _ _ clause => clause.arguments
  | .insert _ _ rows onDuplicate =>
    rows.flatten ++ (onDuplicate.bind DuplicateUpdate.value).toList
  | .replace _ _ rows => rows.flatten
  | .update _ assignments predicates =>
    assignments.map Prod.snd ++ predicateArguments predicates
  | .delete _ predicates => predicateArguments predicates
  | .raw _ arguments => arguments

/-- Whether a statement writes. A raw one is not known to. -/
def writes : Statement → Bool
  | .insert .. => true
  | .replace .. => true
  | .update .. => true
  | .delete .. => true
  | .select .. => false
  | .raw .. => false

end Statement

end TableGateway
