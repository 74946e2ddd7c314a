/-
This file holds the closed set of conversion kinds a field can have, and the shared
formatter of each kind. Text comes in two formatters, one of which trims.
-/

namespace TableGateway

/-- The kinds of values a field can hold. A field kept `asIs` converts nothing. -/
inductive Kind where
  | integer
  | float
  | boolean
  | string
  | datetime
  | json
  | asIs
  deriving DecidableEq, Repr

namespace Kind

def all : List Kind := [.integer, .float, .boolean, .string, .datetime, .json, .asIs]

/-- The name a kind is declared by. -/
def name : Kind → String
  | .integer => "integer"
  | .float => "float"
  | .boolean => "boolean"
  | .string => "string"
  | .datetime => "datetime"
  | .json => "json"
  | .asIs => "opaque"

/-- The label of a kind where it is shown as a value. -/
def label : Kind → String
  | .integer => "FormatterKind.INTEGER"
  | .float => "FormatterKind.FLOAT"
  | .boolean => "FormatterKind.BOOLEAN"
  | .string => "FormatterKind.STRING"
  | .datetime => "FormatterKind.DATETIME"
  | .json => "FormatterKind.JSON"
  | .asIs => "FormatterKind.OPAQUE"

/-- The kind of a name. -/
def ofName? (name : String) : Option Kind :=
  all.find? fun kind => kind.name == name

theorem mem_all (kind : Kind) : kind ∈ all := by
  cases kind <;> simp [all]

theorem ofName?_name (kind : Kind) : ofName? kind.name = some kind := by
  cases kind <;> decide

end Kind

/-- The formatters: one for each kind, and a second one for text that trims it. -/
inductive Formatter where
  | integer
  | float
  | boolean
  | string (strip : Bool)
  | datetime
  | json
  | asIs
  deriving DecidableEq, Repr

namespace Formatter

def kind : Formatter → Kind
  | .integer => .integer
  | .float => .float
  | .boolean => .boolean
  | .string _ => .string
  | .datetime => .datetime
  | .json => .json
  | .asIs => .asIs

/-- The formatter a kind stands for; for text, the one that does not trim. -/
def ofKind : Kind → Formatter
  | .integer => .integer
  | .float => .float
  | .boolean => .boolean
  | .string => .string false
  | .datetime => .datetime
  | .json => .json
  | .asIs => .asIs

/-- The formatter of a name: that of a kind, or the one that trims. -/
def named? (name : String) : Option Formatter :=
  if name == "trimmed_string" then some (.string true) else (Kind.ofName? name).map ofKind

/-- The class of a formatter, as messages name it. -/
def className : Formatter → String
  | .integer => "IntegerFormatter"
  | .float => "FloatFormatter"
  | .boolean => "BooleanFormatter"
  | .string _ => "StringFormatter"
  | .datetime => "DateTimeFormatter"
  | .json => "JsonFormatter"
  | .asIs => "OpaqueFormatter"

/-- A formatter where it is shown as a value. -/
def label : Formatter → String
  | .string true => "StringFormatter(strip=True)"
  | .string false => "StringFormatter(strip=False)"
  | formatter => formatter.className ++ "()"

theorem kind_ofKind (kind : Kind) : (ofKind kind).kind = kind := by
  cases kind <;> rfl

end Formatter

end TableGateway
