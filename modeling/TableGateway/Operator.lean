/-
This file holds the operators of a condition: their names in an explicit bucket and
their text in SQL.
-/

namespace TableGateway

/-- The operators a condition can use. -/
inductive Operator where
  | eq
  | ne
  | gt
  | ge
  | lt
  | le
  | isIn
  | notIn
  | like
  | is
  | isNot
  deriving DecidableEq, Repr

namespace Operator

def all : List Operator :=
  [.eq, .ne, .gt, .ge, .lt, .le, .isIn, .notIn, .like, .is, .isNot]

/-- The name of an operator, which an explicit bucket has as its key. -/
def name : Operator → String
  | .eq => "eq"
  | .ne => "ne"
  | .gt => "gt"
  | .ge => "ge"
  | .lt => "lt"
  | .le => "le"
  | .isIn => "in"
  | .notIn => "not_in"
  | .like => "like"
  | .is => "is"
  | .isNot => "is_not"

/-- The text of an operator in SQL. -/
def sql : Operator → String
  | .eq => "="
  | .ne => "!="
  | .gt => ">"
  | .ge => ">="
  | .lt => "<"
  | .le => "<="
  | .isIn => "IN"
  | .notIn => "NOT IN"
  | .like => "LIKE"
  | .is => "IS"
  | .isNot => "IS NOT"

/-- The label of an operator where it is shown as a value. -/
def label : Operator → String
  | .eq => "QueryOperator.EQ"
  | .ne => "QueryOperator.NE"
  | .gt => "QueryOperator.GT"
  | .ge => "QueryOperator.GE"
  | .lt => "QueryOperator.LT"
  | .le => "QueryOperator.LE"
  | .isIn => "QueryOperator.IN"
  | .notIn => "QueryOperator.NOT_IN"
  | .like => "QueryOperator.LIKE"
  | .is => "QueryOperator.IS"
  | .isNot => "QueryOperator.IS_NOT"

/-- Whether the operator asks for membership in a collection. -/
def isMembership : Operator → Bool
  | .isIn => true
  | .notIn => true
  | _ => false

/-- The operator of a name. -/
def ofName? (name : String) : Option Operator :=
  all.find? fun operator => operator.name == name

theorem mem_all (operator : Operator) : operator ∈ all := by
  cases operator <;> simp [all]

theorem ofName?_name (operator : Operator) : ofName? operator.name = some operator := by
  cases operator <;> decide

theorem name_injective {first second : Operator} (same : first.name = second.name) :
    first = second := by
  have found := congrArg ofName? same
  rw [ofName?_name, ofName?_name] at found
  exact Option.some.inj found

end Operator

end TableGateway
