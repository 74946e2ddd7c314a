/-
This file is a handle without a database of its own: it notes every statement and
answers with the next outcome as it stands. It knows its columns without asking.
-/

import TableGateway.Backend.Basic
import TableGateway.Endpoint

namespace TableGateway

/-- A handle that notes statements. Its address and its mark can be anything; a gateway takes the
handle only if they are what they should be. -/
structure Recorder where
  styleName : Value
  columns : List Value
  uri : Value
  mark : Value

namespace Recorder

/-- The mark that every handle carries. -/
def handleMark : Value := .text "async-dbc"

/-- The address of a handle that was given none. -/
def defaultUri : Value := .text "recording://test"

/-- The columns of the table of users. -/
def userColumns : List Value :=
  ["id", "name", "age", "score", "profile", "created_at", "deleted"].map Value.text

/-- The handle of a test database with the table of users. -/
def standard : Recorder :=
  { styleName := .text ParamStyle.qmark.name
    columns := userColumns
    uri := defaultUri
    mark := handleMark }

/-- What a gateway needs to know of the handle, if it takes it. -/
def endpoint? (recorder : Recorder) : Option Endpoint :=
  match recorder.uri with
  | .text uri =>
    if recorder.mark.equal handleMark && uri != "" then
      some
        { dialect := ⟨recorder.styleName, .onDuplicateKey⟩
          catalog := .held recorder.columns
          uri := uri
          safeUri := uri
          database := "test"
          label := "RecordingDbc"
          details := [(.text "uri", .text uri), (.text "database", .text "test")] }
    else none
  | _ => none

/-- Notes a statement and answers it. -/
def statement (backend : Backend) (sql : String) (arguments : List Value) :
    Except Failure Reply × Backend :=
  let backend := backend.emit (.query sql arguments)
  match backend.script with
  | .result rows columns affected insertId :: rest =>
    (.ok ⟨rows, columns.getD [], affected, insertId⟩, { backend with script := rest })
  | .failure error .execute :: rest => (.error error.failure, { backend with script := rest })
  | _ => (.ok .empty, backend)

end Recorder

end TableGateway
