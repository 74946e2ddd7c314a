/-
This file holds everything an operation can fail with. The library's own failures
have a class, a message and a number; a class can be a special case of another. The
rest are failures of the values an operation was handed: a missing key, a value of the
wrong type, text that cannot be decoded.
-/

import TableGateway.Fault

namespace TableGateway

/-- The classes of the library's own failures. -/
inductive FailureClass where
  | sql
  | validation
  | conflict
  | notFound
  | driver
  | keyExists
  | unknownHandle
  deriving DecidableEq, Repr

namespace FailureClass

def all : List FailureClass :=
  [.sql, .validation, .conflict, .notFound, .driver, .keyExists, .unknownHandle]

/-- The name of a class. -/
def name : FailureClass → String
  | .sql => "SqlError"
  | .validation => "ValidationError"
  | .conflict => "ConflictError"
  | .notFound => "NotFoundError"
  | .driver => "DbIOError"
  | .keyExists => "KeyAlreadyExistsError"
  | .unknownHandle => "DbcNotFoundError"

/-- The number of a failure that names no other. -/
def number : FailureClass → Int
  | .sql => 40099
  | .validation => 40097
  | .conflict => 40095
  | .notFound => 40490
  | .driver => 50099
  | .keyExists => 40999
  | .unknownHandle => 50094

/-- The message of a failure that has no other. A handle that is not known has none: it is always
named. -/
def defaultMessage? : FailureClass → Option String
  | .sql => some "SQL operation failed."
  | .validation => some "Invalid arguments."
  | .conflict => some "Expected one or no row, got several."
  | .notFound => some "The requested row was not found."
  | .driver => some "Database driver error."
  | .keyExists => some "A row with the same key already exists."
  | .unknownHandle => none

/-- The class that a class is a direct special case of. -/
def parent? : FailureClass → Option FailureClass
  | .sql => none
  | .keyExists => some .driver
  | _ => some .sql

/-- Whether a failure of one class is also one of another. -/
def isA (special general : FailureClass) : Bool :=
  special == general || general == .sql || (special == .keyExists && general == .driver)

/-- The class of a name. -/
def ofName? (name : String) : Option FailureClass :=
  all.find? fun known => known.name == name

theorem ofName?_name (known : FailureClass) : ofName? known.name = some known := by
  cases known <;> decide

/-- The parent of a class holds everything of it. -/
theorem isA_of_parent? {special general : FailureClass} (parent : special.parent? = some general) :
    special.isA general = true := by
  cases special <;> simp [parent?] at parent <;> subst parent <;> decide

end FailureClass

/-- The message for a handle name nobody configured. -/
def unknownHandleMessage (name : Value) : String :=
  "[DbcRegistry] no dbc configured under name <" ++ name.plainText ++ ">"

/-- A failure of the library's own as it is told to the world: its class, its message and its
number, both as the values they were given. -/
structure Report where
  kind : FailureClass
  message : Value
  number : Value

namespace Report

/-- The report of a class with an optional message and number in place of its own. -/
def make? (known : FailureClass) (message number : Option Value) : Option Report :=
  let shown := match known, message with
    | .unknownHandle, some name => some (Value.text (unknownHandleMessage name))
    | _, some message => some message
    | known, none => known.defaultMessage?.map Value.text
  shown.map fun message =>
    { kind := known
      message := message
      number := match number with
        | none => .int known.number
        | some .null => .int known.number
        | some number => number }

/-- The status of a request for a row that is not there. -/
def notFoundStatus : Int := 404

/-- The details of a failure that answers a request: its status, number and message. -/
def details? (report : Report) : Option (List (Value × Value)) :=
  if report.kind = .notFound then
    some [(.text "status", .int notFoundStatus), (.text "code", report.number),
      (.text "message", report.message)]
  else none

end Report

/-- What is wrong with one setting. -/
inductive SettingFault where
  | unreadableInteger
  | notInteger
  | fractional
  | notFinite
  | integerTooLarge
  | notText
  | notUtf8
  | below (least : Int)
  deriving DecidableEq, Repr

/-- The code of a setting's fault. -/
def SettingFault.code : SettingFault → String
  | .unreadableInteger => "int_parsing"
  | .notInteger => "int_type"
  | .fractional => "int_from_float"
  | .notFinite => "finite_number"
  | .integerTooLarge => "int_parsing_size"
  | .notText => "string_type"
  | .notUtf8 => "string_unicode"
  | .below _ => "greater_than_equal"

/-- The wording of a setting's fault. -/
def SettingFault.message : SettingFault → String
  | .unreadableInteger =>
    "Input should be a valid integer, unable to parse string as an integer"
  | .notInteger => "Input should be a valid integer"
  | .fractional => "Input should be a valid integer, got a number with a fractional part"
  | .notFinite => "Input should be a finite number"
  | .integerTooLarge => "Unable to parse input string as an integer, exceeded maximum size"
  | .notText => "Input should be a valid string"
  | .notUtf8 => "Input should be a valid string, unable to parse raw data as a unicode string"
  | .below least => "Input should be greater than or equal to " ++ Number.integerText least

/-- What a driver was doing when it failed. -/
inductive DriverWork where
  | opening (uri : String)
  | connecting (uri : String)
  | executing (sql : String)
  deriving DecidableEq, Repr

def DriverWork.text : DriverWork → String
  | .opening uri => "opening " ++ uri
  | .connecting uri => "connecting to " ++ uri
  | .executing sql => "executing '" ++ sql ++ "'"

/-- What a handle must be given instead of a foreign object. -/
inductive ForeignPart where
  | connection
  | pool
  deriving DecidableEq, Repr

/-- The special cases among the errors of an operating system. -/
inductive SystemError where
  | permission
  | fileNotFound
  | processLookup
  | interrupted
  | childProcess
  | blocking
  | fileExists
  | notDirectory
  | isDirectory
  | brokenPipe
  | connectionAborted
  | connectionReset
  | timeout
  | connectionRefused
  deriving DecidableEq, Repr

namespace SystemError

def all : List SystemError :=
  [.permission, .fileNotFound, .processLookup, .interrupted, .childProcess, .blocking,
    .fileExists, .notDirectory, .isDirectory, .brokenPipe, .connectionAborted, .connectionReset,
    .timeout, .connectionRefused]

def name : SystemError → String
  | .permission => "PermissionError"
  | .fileNotFound => "FileNotFoundError"
  | .processLookup => "ProcessLookupError"
  | .interrupted => "InterruptedError"
  | .childProcess => "ChildProcessError"
  | .blocking => "BlockingIOError"
  | .fileExists => "FileExistsError"
  | .notDirectory => "NotADirectoryError"
  | .isDirectory => "IsADirectoryError"
  | .brokenPipe => "BrokenPipeError"
  | .connectionAborted => "ConnectionAbortedError"
  | .connectionReset => "ConnectionResetError"
  | .timeout => "TimeoutError"
  | .connectionRefused => "ConnectionRefusedError"

/-- The numbers by which the system reports a special case. -/
def numbers : SystemError → List Int
  | .permission => [1, 13]
  | .fileNotFound => [2]
  | .processLookup => [3]
  | .interrupted => [4]
  | .childProcess => [10]
  | .blocking => [11, 114, 115]
  | .fileExists => [17]
  | .notDirectory => [20]
  | .isDirectory => [21]
  | .brokenPipe => [32, 108]
  | .connectionAborted => [103]
  | .connectionReset => [104]
  | .timeout => [110]
  | .connectionRefused => [111]

/-- The special case that a number reports. -/
def ofNumber? (number : Int) : Option SystemError :=
  all.find? fun known => known.numbers.contains number

end SystemError

/-- The classes of errors that are not failures of this library. -/
inductive ErrorClass where
  | integrity
  | operational
  | interface
  | programming
  | value
  | runtime
  | system (special : Option SystemError)
  | general
  deriving DecidableEq, Repr

namespace ErrorClass

/-- The classes that an error can be raised as by name. -/
def all : List ErrorClass :=
  [.integrity, .operational, .interface, .programming, .value, .runtime, .system none, .general]

def name : ErrorClass → String
  | .integrity => "IntegrityError"
  | .operational => "OperationalError"
  | .interface => "InterfaceError"
  | .programming => "ProgrammingError"
  | .value => "ValueError"
  | .runtime => "RuntimeError"
  | .system special => (special.map SystemError.name).getD "OSError"
  | .general => "Exception"

def ofName? (name : String) : Option ErrorClass :=
  all.find? fun known => known.name == name

end ErrorClass

/-- Everything an operation can fail with. -/
inductive Failure where
  | invalid (fault : Fault)
  | severalRows (table : String) (condition : Value)
  | noRow (table : String) (condition : Value)
  | unknownHandle (name : Value)
  | driver (work : DriverWork) (detail : String)
  | duplicateKey (work : DriverWork) (detail : String)
  | queueFull (limit : Nat) (uri : String)
  | raised (report : Report)
  | settings (faults : List (String × SettingFault))
  | unhandled (kind : ErrorClass)
  | unfinished
  | noRecord (typeText : String)
  | foreignPart (part : ForeignPart)
  | undecodable
  | missingKey
  | wrongType
  | missingMember
  | unreadableNumber
  | infiniteNumber
  | unequalParts
  | tooDeep
  | signaling

namespace Failure

/-- A failure that some value is not what it should be. -/
def isInvalid : Failure → Bool
  | .invalid _ => true
  | _ => false

/-- The values that the message of a failure shows. -/
def shown : Failure → List Value
  | .invalid fault => fault.shown
  | .severalRows _ condition => [condition]
  | .noRow _ condition => [condition]
  | .unknownHandle name => [name]
  | _ => []

/-- The failure that the world is told of: one with a message that cannot be written is told as a
failure of a value. -/
def told (failure : Failure) : Failure :=
  if Value.areWritable failure.shown then failure else .unhandled .value

/-- The report of a failure of the library's own. -/
def report? : Failure → Option Report
  | .invalid fault =>
    some ⟨.validation, .text fault.message, .int FailureClass.validation.number⟩
  | .severalRows table condition =>
    some ⟨.conflict, .text ("[ConflictItems] <" ++ table ++ ":" ++ condition.literal ++
      "> expect one or none, but get rows >= 2"), .int FailureClass.conflict.number⟩
  | .noRow table condition =>
    some ⟨.notFound, .text ("[DataNotFound] <" ++ table ++ ":" ++ condition.literal ++ ">"),
      .int 40400⟩
  | .unknownHandle name =>
    some ⟨.unknownHandle, .text (unknownHandleMessage name),
      .int FailureClass.unknownHandle.number⟩
  | .driver work detail =>
    some ⟨.driver, .text ("A database error occurred during " ++ work.text ++ ": " ++ detail),
      .int FailureClass.driver.number⟩
  | .duplicateKey work detail =>
    some ⟨.keyExists,
      .text ("Unique constraint violated during " ++ work.text ++ ". Detail: " ++ detail),
      .int FailureClass.keyExists.number⟩
  | .queueFull limit uri =>
    some ⟨.driver, .text ("connection queue limit reached (" ++ Fault.countText limit ++
      " waiting) for " ++ uri), .int FailureClass.driver.number⟩
  | .raised report => some report
  | _ => none

/-- The message of a value that is of no use as what it was given for. -/
def typeMessage? : Failure → Option String
  | .noRecord typeText => some ("Cannot convert " ++ typeText ++ " to a record")
  | .foreignPart .connection =>
    some "connection must be an instance of aiosqlite.Connection"
  | .foreignPart .pool => some "pool must be an instance of aiomysql.Pool"
  | _ => none

end Failure

end TableGateway
