/-
This file is about tasks that take turns. Whatever every step of a task keeps is kept
when the tasks are let go on; and a task that is alone goes on step by step until it
rests. What can happen to statements under way, in any order, is an action; what is done
with a handle when each statement is waited for is a call.
-/

import TableGateway.Backend.Basic
import TableGateway.Schedule

namespace TableGateway

/-- What can happen next among statements under way: one more comes in, one of them goes on, or the
database will answer otherwise. -/
inductive Action where
  | enter (sql : String) (arguments : List Value)
  | advance (id : Nat)
  | script (outcomes : List Outcome)

/-- What can be done next with a handle: a statement is run to its end, the handle is closed, or the
database will answer otherwise. -/
inductive Call where
  | statement (sql : String) (arguments : List Value)
  | close
  | script (outcomes : List Outcome)

/-- The database with other outcomes to give. -/
def Backend.told (backend : Backend) (outcomes : List Outcome) : Backend :=
  { backend with script := outcomes }

namespace Tasks

variable {State : Type} {tasks : Tasks State} {id : Nat}

/-- What every step keeps is kept when the tasks in line take their turns. -/
theorem settle_keeps {kept : State → Prop}
    (step : ∀ state id, kept state → kept (tasks.advance state id)) (fuel : Nat) (line : List Nat)
    {state : State} (start : kept state) : kept (tasks.settle fuel line state) := by
  induction fuel generalizing line state with
  | zero => exact start
  | succ fuel inductionHypothesis =>
    cases line with
    | nil => exact start
    | cons first rest =>
      rw [settle]
      have next := step state first start
      split <;> exact inductionHypothesis _ next

/-- Tasks that do to the image of every state what others do to the state are let go on alike. -/
theorem settleAll_map {Other : Type} {others : Tasks Other} {image : State → Other}
    (step : ∀ state id, others.advance (image state) id = image (tasks.advance state id))
    (standing : ∀ state id, others.standing (image state) id = tasks.standing state id)
    (ids : ∀ state, others.ids (image state) = tasks.ids state) (state : State) :
    others.settleAll (image state) = image (tasks.settleAll state) := by
  have runnable (state : State) : others.runnable (image state) = tasks.runnable state := by
    simp only [Tasks.runnable, ids, standing]
  have settled (fuel : Nat) (line : List Nat) (state : State) :
      others.settle fuel line (image state) = image (tasks.settle fuel line state) := by
    induction fuel generalizing line state with
    | zero => rfl
    | succ fuel inductionHypothesis =>
      cases line with
      | nil => rfl
      | cons first rest =>
        simp only [settle, step, standing, runnable, inductionHypothesis]
        split <;> rfl
  rw [settleAll, settleAll, runnable, ids, settled]

/-! ### A task that is alone -/

/-- With turns enough, a task that is alone comes to rest in a state, and these events are seen on
the way. -/
inductive Rests (tasks : Tasks State) (seen : State → List Event) (id : Nat) :
    Nat → List Event → State → State → Prop where
  | rest {state next : State} {events : List Event} (spare : Nat)
      (moves : tasks.advance state id = next) (alone : tasks.ids next = [id])
      (ended : tasks.standing next id = .over) (sees : seen next = seen state ++ events) :
      Rests tasks seen id (spare + 1) events state next
  | go {state next last : State} {first rest : List Event} {fuel : Nat}
      (moves : tasks.advance state id = next) (alone : tasks.ids next = [id])
      (going : tasks.standing next id = .ready ∨ tasks.standing next id = .yielding)
      (sees : seen next = seen state ++ first)
      (rests : Rests tasks seen id fuel rest next last) :
      Rests tasks seen id (fuel + 1) (first ++ rest) state last

/-- Nobody else is woken by a task that is alone. -/
theorem woken_alone {state : State} (alone : tasks.ids state = [id]) (line : List Nat) :
    ((tasks.runnable state).filter fun other => other != id && !line.contains other) = [] := by
  refine List.filter_eq_nil_iff.mpr fun other member => ?_
  have among : other ∈ tasks.ids state := (List.mem_filter.mp member).1
  rw [alone, List.mem_singleton] at among
  rw [among, bne_self_eq_false, Bool.false_and]
  exact Bool.false_ne_true

variable {seen : State → List Event} {state last : State} {fuel : Nat} {events : List Event}

/-- A task that is alone is let go on until it rests. -/
theorem Rests.settle_eq (rests : tasks.Rests seen id fuel events state last) :
    tasks.settle fuel [id] state = last := by
  -- nobody else is woken, so the line is the task alone before and after each of its turns
  induction rests with
  | rest spare moves alone ended sees =>
    simp only [settle, moves, woken_alone alone, ended, List.append_nil]
    cases spare <;> rfl
  | go moves alone going sees rests later =>
    rcases going with ready | yields
    · simpa only [settle, moves, woken_alone alone, ready, List.append_nil] using later
    · simpa only [settle, moves, woken_alone alone, yields, List.append_nil, List.nil_append]
        using later

theorem Rests.seen_eq (rests : tasks.Rests seen id fuel events state last) :
    seen last = seen state ++ events := by
  induction rests with
  | rest spare moves alone ended sees => exact sees
  | go moves alone going sees rests later => rw [later, sees, List.append_assoc]

end Tasks

end TableGateway
