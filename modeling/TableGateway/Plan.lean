/-
This file holds plans: what an operation does, step by step, with the database left
out. A plan may say something, send a statement and go on with the reply, fail, or be
done. When a statement fails nothing of the plan remains, so a plan does not see the
failures of its handle. What a plan says can always be written here; the limit on the
digits of an integer that is shown is left aside in what is said.
-/

import TableGateway.Statement

namespace TableGateway

/-- The levels of what is said. -/
inductive Level where
  | debug
  | info
  | warning
  | error
  deriving DecidableEq, Repr

namespace Level

def name : Level → String
  | .debug => "DEBUG"
  | .info => "INFO"
  | .warning => "WARNING"
  | .error => "ERROR"

def all : List Level := [.debug, .info, .warning, .error]

/-- The level of a name. -/
def ofName? (name : String) : Option Level :=
  all.find? fun level => level.name == name

/-- The rank of a level: the more pressing, the higher. -/
def rank : Level → Nat
  | .debug => 10
  | .info => 20
  | .warning => 30
  | .error => 40

end Level

/-- Something said on the way. -/
structure LogRecord where
  level : Level
  message : String
  deriving DecidableEq, Repr

/-- What of a log is at least as pressing as a level. -/
def LogRecord.atLeast (least : Level) (log : List LogRecord) : List LogRecord :=
  log.filter fun said => least.rank ≤ said.level.rank

/-- The outcome of a statement: its rows, the names of its columns, how many rows it touched, and
the identifier of an inserted row. -/
structure Reply where
  rows : List Record
  columns : List Value
  affected : Int
  insertId : Option Int

/-- The reply of a statement that was never sent. -/
def Reply.empty : Reply := ⟨[], [], 0, none⟩

/-- What an operation does. -/
inductive Plan (Result : Type) where
  | done (result : Result)
  | failed (failure : Failure)
  | note (level : Level) (message : String) (rest : Plan Result)
  | send (statement : Statement) (rest : Reply → Plan Result)

namespace Plan

variable {Result Next : Type}

/-- One plan after another. -/
def andThen : Plan Result → (Result → Plan Next) → Plan Next
  | .done result, next => next result
  | .failed failure, _ => .failed failure
  | .note level message rest, next => .note level message (rest.andThen next)
  | .send statement rest, next => .send statement fun reply => (rest reply).andThen next

instance : Monad Plan where
  pure := .done
  bind := andThen

theorem andThen_done (plan : Plan Result) : plan.andThen .done = plan := by
  induction plan with
  | done result => rfl
  | failed failure => rfl
  | note level message rest inductionHypothesis => rw [andThen, inductionHypothesis]
  | send statement rest inductionHypothesis =>
    rw [andThen]
    exact congrArg (send statement) (funext inductionHypothesis)

theorem andThen_assoc {Last : Type} (plan : Plan Result) (next : Result → Plan Next)
    (last : Next → Plan Last) :
    (plan.andThen next).andThen last = plan.andThen fun result => (next result).andThen last := by
  induction plan with
  | done result => rfl
  | failed failure => rfl
  | note level message rest inductionHypothesis =>
    rw [andThen, andThen, andThen, inductionHypothesis]
  | send statement rest inductionHypothesis =>
    rw [andThen, andThen, andThen]
    exact congrArg (send statement) (funext inductionHypothesis)

instance : LawfulMonad Plan :=
  LawfulMonad.mk' Plan (fun plan => andThen_done plan) (fun _ _ => rfl) andThen_assoc

/-- Says something. -/
def say (level : Level) (message : String) : Plan Unit :=
  .note level message (.done ())

/-- Sends a statement for its reply. -/
def ask (statement : Statement) : Plan Reply :=
  .send statement .done

/-- The result of a check, or its failure. -/
def ofExcept : Except Failure Result → Plan Result
  | .ok result => .done result
  | .error failure => .failed failure

/-- A check inside a plan fails the plan. -/
instance : MonadLift (Except Failure) Plan := ⟨ofExcept⟩

/-- A check whose only failures are faults, inside a plan. -/
instance : MonadLift (Except Fault) Plan := ⟨fun checked => ofExcept (orRefuse checked)⟩

/-- Sends a statement given as text, with the arguments that a value holds. -/
def askText (sql : String) (arguments : Value) : Plan Reply :=
  match arguments.arguments with
  | .ok arguments => ask (.raw sql arguments)
  | .error failure => .failed failure

/-- Fails with a fault. -/
def refuse (fault : Fault) : Plan Result :=
  .failed (.invalid fault)

end Plan

end TableGateway
