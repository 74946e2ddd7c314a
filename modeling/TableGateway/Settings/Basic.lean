/-
This file holds the settings of a server connection and reads them. A setting given
directly wins over the environment, the environment over a settings file, and that over
the default. Every setting that is wrong is reported, in the order of the settings.
-/

import TableGateway.Formatter.Scalar

namespace TableGateway

open Number

/-- A port, as a number or by a name. -/
inductive Port where
  | number (port : Int)
  | named (name : String)
  deriving DecidableEq, Repr

namespace Port

/-- A port as it is written in an address. -/
def text : Port → String
  | .number port => integerText port
  | .named name => name

/-- A port as a value. -/
def toValue : Port → Value
  | .number port => .int port
  | .named name => .text name

end Port

/-- How to reach a database server, and how many connections and waiting callers to allow. No limit
on waiting callers is written as zero. -/
structure Settings where
  host : String
  port : Port
  user : String
  password : String
  database : String
  connectionLimit : Nat
  queueLimit : Nat
  deriving DecidableEq, Repr

namespace Settings

/-- The settings of a local development server. -/
def default : Settings :=
  { host := "localhost"
    port := .number 3306
    user := "root"
    password := ""
    database := "test"
    connectionLimit := 20
    queueLimit := 10 }

/-- The address with something in the password's place. -/
def uriWith (settings : Settings) (shownPassword : String) : String :=
  "mysql://" ++ settings.user ++ ":" ++ shownPassword ++ "@" ++ settings.host ++ ":" ++
    settings.port.text ++ "/" ++ settings.database

/-- The address, password included. -/
def uri (settings : Settings) : String :=
  settings.uriWith settings.password

/-- The address with the password masked. -/
def safeUri (settings : Settings) : String :=
  settings.uriWith (if settings.password = "" then "" else "***")

/-! ### Reading -/

/-- The fault of a setting that a refusal to read an integer amounts to. -/
def faultOf : Refusal → SettingFault
  | .unreadableInteger => .unreadableInteger
  | .fractional => .fractional
  | .notFinite => .notFinite
  | .integerTooLarge => .integerTooLarge
  | _ => .notInteger

/-- Reads an integer out of a text with white space around it. -/
def readIntegerText (characters : String) : Except SettingFault Int :=
  (integerOf (.text (String.ofList (Text.trimBy Text.isWhiteSpace characters.toList)))).mapError
    faultOf

/-- Reads an integer setting, from a number, a text or the bytes of a text. -/
def readInteger (value : Value) : Except SettingFault Int :=
  match value with
  | .text characters => readIntegerText characters
  | .bytes octets => (Text.decode? octets).elim (.error .unreadableInteger) readIntegerText
  | value => (integerOf value).mapError faultOf

/-- Reads the port. A member of a closed set of names stands for its name. -/
def readPort (value : Value) : Except SettingFault Port :=
  match value.memberName? with
  | some name => .ok (.named name)
  | none => (readInteger value).map .number

/-- Reads an integer setting that has a least value. -/
def readAtLeast (least : Nat) (value : Value) : Except SettingFault Nat := do
  let number ← readInteger value
  if number < least then throw (.below least)
  return number.toNat

/-- Reads a text setting. -/
def readText (value : Value) : Except SettingFault String :=
  match value with
  | .text characters => .ok characters
  | .bytes octets => (Text.decode? octets).elim (.error .notUtf8) .ok
  | .byteArray octets => (Text.decode? octets).elim (.error .notUtf8) .ok
  | value => value.memberName?.elim (.error .notText) .ok

/-- What the variables of the settings start with. -/
def variableStart : String := "dbtable_"

/-- What is under the last of some variables whose name, in any case, is that of a setting. The
names hold ASCII letters only. -/
def lookupVariable {Content : Type} (named : List (String × Content)) (name : String) :
    Option Content :=
  (named.reverse.find? fun entry => entry.1.toLower == variableStart ++ name).map
    Prod.snd

/-- Where settings come from: given directly, in the environment, and in a settings file, in which
a name may be without a value. -/
structure Sources where
  given : List (String × Value)
  environment : List (String × String)
  file : List (String × Option String)

namespace Sources

/-- The value of a setting, from the first source that has it. -/
def find? (sources : Sources) (name : String) : Option Value :=
  match sources.given.lookup name with
  | some value => some value
  | none =>
    match lookupVariable sources.environment name with
    | some text => some (.text text)
    | none => (lookupVariable sources.file name).join.map Value.text

/-- Reads a setting, or takes its default; a fault is kept with the setting's name. -/
def read {Result : Type} (sources : Sources) (name : String) (fallback : Result)
    (reader : Value → Except SettingFault Result) : Except (String × SettingFault) Result :=
  match sources.find? name with
  | none => .ok fallback
  | some value => (reader value).mapError fun fault => (name, fault)

/-- Whether a setting that has a least value is given as a member of a closed set of names, which
cannot be compared with a number. -/
def isIncomparable (sources : Sources) (name : String) : Bool :=
  ((sources.find? name).bind Value.memberName?).isSome

end Sources

/-- The fault of a reading, if it is one. -/
def faultsOf {Result : Type} : Except (String × SettingFault) Result → List (String × SettingFault)
  | .ok _ => []
  | .error fault => [fault]

/-- Reads all settings, or reports every one that is wrong. -/
def load (sources : Sources) : Except Failure Settings := do
  if sources.isIncomparable "connection_limit" || sources.isIncomparable "queue_limit" then
    throw .wrongType
  let host := sources.read "host" default.host readText
  let port := sources.read "port" default.port readPort
  let user := sources.read "user" default.user readText
  let password := sources.read "password" default.password readText
  let database := sources.read "database" default.database readText
  let connectionLimit := sources.read "connection_limit" default.connectionLimit (readAtLeast 1)
  let queueLimit := sources.read "queue_limit" default.queueLimit (readAtLeast 0)
  match host, port, user, password, database, connectionLimit, queueLimit with
  | .ok host, .ok port, .ok user, .ok password, .ok database, .ok connectionLimit,
      .ok queueLimit =>
    .ok ⟨host, port, user, password, database, connectionLimit, queueLimit⟩
  | host, port, user, password, database, connectionLimit, queueLimit =>
    .error (.settings (faultsOf host ++ faultsOf port ++ faultsOf user ++ faultsOf password ++
      faultsOf database ++ faultsOf connectionLimit ++ faultsOf queueLimit))

end Settings

end TableGateway
