import TableGateway.Backend.Basic
import TableGateway.Backend.Outcome
import TableGateway.Backend.Recorder
import TableGateway.Binding
import TableGateway.Calendar.Date
import TableGateway.Calendar.DateTime
import TableGateway.Calendar.IsoText
import TableGateway.Calendar.Reading
import TableGateway.Calendar.Rules
import TableGateway.Calendar.Zone
import TableGateway.Clause.Basic
import TableGateway.Clause.Limit
import TableGateway.Clause.Order
import TableGateway.Condition.Buckets
import TableGateway.Condition.Predicate
import TableGateway.Endpoint
import TableGateway.Failure
import TableGateway.Fault
import TableGateway.Formatter.Conversion
import TableGateway.Formatter.Scalar
import TableGateway.Gateway.Basic
import TableGateway.Gateway.Read
import TableGateway.Gateway.Upsert
import TableGateway.Gateway.Write
import TableGateway.Identifier
import TableGateway.Json.Fault
import TableGateway.Json.Reader
import TableGateway.Json.Writer
import TableGateway.Kind
import TableGateway.MySql.Handle
import TableGateway.MySql.Pool
import TableGateway.Named
import TableGateway.Number.Binary64
import TableGateway.Number.Decimal
import TableGateway.Number.Digits
import TableGateway.Number.IntegerText
import TableGateway.Number.Numeral
import TableGateway.Operator
import TableGateway.Plan
import TableGateway.Proofs.AllOrNothing
import TableGateway.Proofs.ArgumentCoding
import TableGateway.Proofs.Arrangement
import TableGateway.Proofs.Assertion
import TableGateway.Proofs.BulkForms
import TableGateway.Proofs.BulkWrites
import TableGateway.Proofs.Canonical
import TableGateway.Proofs.Chronology
import TableGateway.Proofs.Closing
import TableGateway.Proofs.Coherence
import TableGateway.Proofs.Compilation
import TableGateway.Proofs.Confinement
import TableGateway.Proofs.Conjunct
import TableGateway.Proofs.Conversation
import TableGateway.Proofs.Conversions
import TableGateway.Proofs.Dialogue
import TableGateway.Proofs.DigitRuns
import TableGateway.Proofs.DirectInsertion
import TableGateway.Proofs.DriverErrors
import TableGateway.Proofs.Encodable
import TableGateway.Proofs.Ensuring
import TableGateway.Proofs.Entries
import TableGateway.Proofs.EqualValues
import TableGateway.Proofs.ExactBinding
import TableGateway.Proofs.Expansion
import TableGateway.Proofs.FileCalls
import TableGateway.Proofs.FileEndings
import TableGateway.Proofs.FileLife
import TableGateway.Proofs.Filling
import TableGateway.Proofs.Fitting
import TableGateway.Proofs.FloatText
import TableGateway.Proofs.HandedOut
import TableGateway.Proofs.HiddenRows
import TableGateway.Proofs.Idempotence
import TableGateway.Proofs.IntegerReading
import TableGateway.Proofs.Joined
import TableGateway.Proofs.JsonDocument
import TableGateway.Proofs.JsonFloat
import TableGateway.Proofs.JsonNumber
import TableGateway.Proofs.JsonReading
import TableGateway.Proofs.JsonString
import TableGateway.Proofs.Labels
import TableGateway.Proofs.LastWrite
import TableGateway.Proofs.Liveness
import TableGateway.Proofs.LockLine
import TableGateway.Proofs.Malformed
import TableGateway.Proofs.Masking
import TableGateway.Proofs.NestedArguments
import TableGateway.Proofs.NoLeak
import TableGateway.Proofs.OnePool
import TableGateway.Proofs.Operation
import TableGateway.Proofs.Override
import TableGateway.Proofs.Pieces
import TableGateway.Proofs.Pinning
import TableGateway.Proofs.Places
import TableGateway.Proofs.QueueLimit
import TableGateway.Proofs.Reading
import TableGateway.Proofs.Reclassification
import TableGateway.Proofs.RecordEquality
import TableGateway.Proofs.Refusal
import TableGateway.Proofs.RegistryMoves
import TableGateway.Proofs.Repetition
import TableGateway.Proofs.Reporting
import TableGateway.Proofs.Restyling
import TableGateway.Proofs.Roster
import TableGateway.Proofs.RoundTrip
import TableGateway.Proofs.Run
import TableGateway.Proofs.Secrecy
import TableGateway.Proofs.Selection
import TableGateway.Proofs.ServerCalls
import TableGateway.Proofs.ServerEndings
import TableGateway.Proofs.ServerTasks
import TableGateway.Proofs.SettledForm
import TableGateway.Proofs.Skeleton
import TableGateway.Proofs.Spelling
import TableGateway.Proofs.Standing
import TableGateway.Proofs.StrictForm
import TableGateway.Proofs.StrictWrites
import TableGateway.Proofs.Styles
import TableGateway.Proofs.Tidiness
import TableGateway.Proofs.Timestamps
import TableGateway.Proofs.Traffic
import TableGateway.Proofs.Turns
import TableGateway.Proofs.Undecodable
import TableGateway.Proofs.Undefined
import TableGateway.Proofs.Upserting
import TableGateway.Proofs.Wording
import TableGateway.Proofs.Writing
import TableGateway.Record
import TableGateway.Registry
import TableGateway.Schedule
import TableGateway.Schema
import TableGateway.Session
import TableGateway.Settings.Basic
import TableGateway.Settings.File
import TableGateway.Settings.Loader
import TableGateway.Settings.Reference
import TableGateway.Sqlite.Handle
import TableGateway.Sqlite.Placeholders
import TableGateway.Statement
import TableGateway.Style
import TableGateway.Text.Blank
import TableGateway.Text.DecimalDigit
import TableGateway.Text.Literal
import TableGateway.Text.Printable
import TableGateway.Text.Search
import TableGateway.Text.Utf8
import TableGateway.Value.Basic
import TableGateway.Value.Equality
import TableGateway.Value.Fields
import TableGateway.Value.Literal
import TableGateway.Value.Sorting
import TableGateway.Value.Walk
