/-
This file runs tasks that take turns. A task goes on until it waits or is over, or
until it gives the others a turn; a task that somebody woke gets its turn after those
that could go on before it.
-/

namespace TableGateway

/-- Where a task stands: it can go on, it can go on after the others, it waits, or it is over. -/
inductive Standing where
  | ready
  | yielding
  | waiting
  | over
  deriving DecidableEq, Repr

/-- A state whose tasks go on step by step. -/
structure Tasks (State : Type) where
  advance : State → Nat → State
  standing : State → Nat → Standing
  ids : State → List Nat

namespace Tasks

variable {State : Type}

/-- The tasks that can go on. -/
def runnable (tasks : Tasks State) (state : State) : List Nat :=
  (tasks.ids state).filter fun id =>
    let standing := tasks.standing state id
    standing == .ready || standing == .yielding

/-- Lets the tasks in line take their turns until none can go on. The first number bounds the steps
that are taken. -/
def settle (tasks : Tasks State) : Nat → List Nat → State → State
  | 0, _, state => state
  | _, [], state => state
  | fuel + 1, id :: line, state =>
    let state := tasks.advance state id
    let woken := (tasks.runnable state).filter fun other => other != id && !line.contains other
    match tasks.standing state id with
    | .ready => tasks.settle fuel (id :: line ++ woken) state
    | .yielding => tasks.settle fuel (line ++ woken ++ [id]) state
    | _ => tasks.settle fuel (line ++ woken) state

/-- The most steps that a single task takes. -/
def longestTask : Nat := 12

/-- Lets every task that can go on do so, until none can. -/
def settleAll (tasks : Tasks State) (state : State) : State :=
  tasks.settle (longestTask * ((tasks.ids state).length + 1)) (tasks.runnable state) state

end Tasks

end TableGateway
