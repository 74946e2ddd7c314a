/-
This file follows a statement on a database file that is waited for, and so is alone on
its handle. It takes the lock, opens the connection if there is none, runs and is over;
each way in which that ends has its own events and outcome.
-/

import TableGateway.Proofs.Reporting
import TableGateway.Proofs.Turns
import TableGateway.Sqlite.Handle

namespace TableGateway.Sqlite.State

/-- The events that the database has seen. -/
def seen (state : State) : List Event :=
  state.backend.events

/-- A handle with one statement, which is in a phase. -/
def lone (path : String) (connected : Bool) (holder : Option Nat) (phase : Phase)
    (backend : Backend) : State :=
  ⟨⟨path, connected, holder, [], [⟨0, phase⟩]⟩, backend⟩

/-- A statement that is alone comes to an outcome with so many turns; these events are seen on the
way, and the connection is open or not. -/
def Comes (path : String) (connected : Bool) (holder : Option Nat) (phase : Phase)
    (backend : Backend) (fuel : Nat) (events : List Event) (left : Bool)
    (outcome : Except Failure Reply) : Prop :=
  ∃ after, turns.Rests seen 0 fuel events (lone path connected holder phase backend)
    (lone path left none (.finished outcome) after)

variable {path sql : String} {connected left : Bool} {holder : Option Nat} {phase : Phase}
  {backend : Backend} {fuel : Nat} {events : List Event} {outcome : Except Failure Reply}
  {bound : Bound} {error : DriverError} {arguments : List Value}

/-- A statement goes on by one step, which is not its last. -/
theorem Comes.step (first : List Event) {next : Bool} {locks : Option Nat} {later : Phase}
    {after : Backend} (comes : Comes path next locks later after fuel events left outcome)
    (moves : (lone path connected holder phase backend).advance 0 =
      lone path next locks later after)
    (sees : after.events = backend.events ++ first)
    (going : (lone path next locks later after).standing 0 = .ready ∨
      (lone path next locks later after).standing 0 = .yielding) :
    Comes path connected holder phase backend (fuel + 1) (first ++ events) left outcome := by
  obtain ⟨last, rests⟩ := comes
  exact ⟨last, .go moves rfl going sees rests⟩

/-! ### Running on the connection -/

/-- What a statement comes to when the database runs it. -/
def ranOf : Execution → Except DriverError Reply
  | .failed error => .error error
  | .failedFetch error => .error error
  | .answered rows columns affected insertId =>
    .ok (.normal rows (columns.getD []) affected insertId)

/-- The events of a statement that runs: its cursor is closed, unless there is none because it could
not be executed. -/
def running (backend : Backend) (bound : Bound) : List Event :=
  .execute bound.sql (some bound.values) ::
    match backend.execute.1 with
    | .failed _ => []
    | _ => [.closeCursor]

/-- The outcome of a statement that runs. -/
def ending (backend : Backend) (bound : Bound) : Except Failure Reply :=
  (ranOf backend.execute.1).mapError fun error =>
    error.surfaced (.executing bound.sql) (isDuplicate error)

/-- A statement that runs is over, and lets the lock go. -/
theorem exists_run (path : String) (phase : Phase) (backend : Backend) (bound : Bound) :
    ∃ after, (lone path true (some 0) phase backend).run 0 bound =
        lone path true none (.finished (ending backend bound)) after ∧
      after.events = backend.events ++ running backend bound := by
  have execution := backend.execute_emit (.execute bound.sql (some bound.values))
  have same := backend.events_execute
  unfold run ending running
  simp only [lone, State.emit, execution]
  cases backend.execute.1 with
  | failed error => cases error <;> exact ⟨_, rfl, same ▸ rfl⟩
  | failedFetch error =>
    cases error <;> exact ⟨_, rfl, (List.append_assoc _ _ _).trans (same ▸ rfl)⟩
  | answered rows columns affected insertId =>
    exact ⟨_, rfl, (List.append_assoc _ _ _).trans (same ▸ rfl)⟩

/-! ### The lock and the connection -/

/-- A statement that has the lock and the connection runs. -/
theorem comes_locked (path : String) (backend : Backend) (spare : Nat) (bound : Bound) :
    Comes path true (some 0) (.locked bound) backend (spare + 1) (running backend bound) true
      (ending backend bound) := by
  obtain ⟨after, runs, sees⟩ := exists_run path (.locked bound) backend bound
  exact ⟨after, .rest spare runs rfl rfl sees⟩

/-- A statement that has the lock, but no connection, opens the file. -/
theorem comes_locked_of_closed
    (comes : ∀ after, after.script = backend.script →
      Comes path false (some 0) (.opening bound) after fuel events left outcome) :
    Comes path false (some 0) (.locked bound) backend (fuel + 1) (.openFile path :: events) left
      outcome :=
  .step [.openFile path] (comes ((backend.say .info ("Opening sqlite:///" ++ path)).emit
    (.openFile path)) rfl) rfl rfl (.inr rfl)

theorem comes_opening_of_raises (raises : backend.Raises error .opening) (path : String)
    (spare : Nat) (bound : Bound) :
    Comes path false (some 0) (.opening bound) backend (spare + 1) [] false
      (.error (error.reported (.opening ("sqlite:///" ++ path)) (isDuplicate error))) := by
  obtain ⟨rest, raised⟩ := raises.errorAt_eq
  refine ⟨{ backend with script := rest }.say .error ("Error during " ++
    (DriverWork.opening ("sqlite:///" ++ path)).text ++ ": " ++ error.text),
    .rest spare ?_ rfl rfl (List.append_nil _).symm⟩
  change (lone path false (some 0) (.opening bound) backend).opened 0 bound = _
  unfold opened
  dsimp only [lone]
  rw [raised]
  rfl

theorem comes_opening (quiet : ∀ error, ¬backend.Raises error .opening) (path : String)
    (spare : Nat) (bound : Bound) :
    Comes path false (some 0) (.opening bound) backend (spare + 1) (running backend bound) true
      (ending backend bound) := by
  obtain ⟨after, runs, sees⟩ := exists_run path (.opening bound) backend bound
  refine ⟨after, .rest spare ?_ rfl rfl sees⟩
  change (lone path false (some 0) (.opening bound) backend).opened 0 bound = _
  unfold opened
  dsimp only [lone]
  rw [Backend.errorAt_of_not_raises quiet]
  exact runs

/-- A statement whose arguments fit its places takes the lock. -/
theorem comes_arrived (passed : expand sql arguments = .ok bound)
    (comes : ∀ after, after.script = backend.script →
      Comes path connected (some 0) (.locked bound) after fuel events left outcome) :
    Comes path connected none (.arrived sql arguments) backend (fuel + 1) events left
      outcome := by
  refine .step [] (comes (backend.say .debug ("Executing: SQL='" ++ bound.sql ++ "', Params=" ++
    (Value.list bound.values).literal)) rfl) ?_ (List.append_nil _).symm (.inl rfl)
  change (lone path connected none (.arrived sql arguments) backend).arrive 0 sql arguments = _
  unfold arrive
  rw [passed]
  rfl

/-! ### A statement that is waited for -/

/-- A statement that is waited for comes to an outcome, and leaves the connection open or not; the
database sees these events meanwhile. -/
def Gives (path : String) (connected : Bool) (backend : Backend) (sql : String)
    (arguments : List Value) (events : List Event) (left : Bool)
    (outcome : Except Failure Reply) : Prop :=
  ∃ after : Backend,
    (⟨.create path connected, backend⟩ : State).statement sql arguments =
        (outcome, ⟨.create path left, after⟩) ∧
      after.events = backend.events ++ events

/-- A statement that is waited for is alone on its handle. -/
theorem statement_eq_of_rests {after : Backend} (rests : turns.Rests seen 0
      (Tasks.longestTask * 2) events (lone path connected none (.arrived sql arguments) backend)
      (lone path left none (.finished outcome) after)) :
    (⟨.create path connected, backend⟩ : State).statement sql arguments =
      (outcome, ⟨.create path left, after⟩) := by
  have settled := rests.settle_eq
  change (((turns.settle (Tasks.longestTask * 2) [0] (lone path connected none
      (.arrived sql arguments) backend)).outcome? 0).getD _,
    (turns.settle (Tasks.longestTask * 2) [0] (lone path connected none
      (.arrived sql arguments) backend)).forget 0) = _
  rw [settled]
  rfl

/-- Arguments that do not fit leave everything as it was. -/
theorem statement_refused {failure : Failure} (refused : expand sql arguments = .error failure)
    (path : String) (connected : Bool) (backend : Backend) :
    (⟨.create path connected, backend⟩ : State).statement sql arguments =
      (.error failure, ⟨.create path connected, backend⟩) := by
  refine statement_eq_of_rests (.rest 23 ?_ rfl rfl (List.append_nil _).symm)
  change (lone path connected none (.arrived sql arguments) backend).arrive 0 sql arguments = _
  unfold arrive
  rw [refused]
  rfl

theorem Comes.gives (comes : Comes path connected none (.arrived sql arguments) backend
    (Tasks.longestTask * 2) events left outcome) :
    Gives path connected backend sql arguments events left outcome := by
  obtain ⟨after, rests⟩ := comes
  exact ⟨after, statement_eq_of_rests rests, rests.seen_eq⟩

/-! ### How a statement goes -/

/-- The events by which a statement comes to a connection: the file is opened if it is not open. -/
def opening (path : String) (connected : Bool) : List Event :=
  if connected then [] else [.openFile path]

section

variable (passed : expand sql arguments = .ok bound) (path : String)
include passed

/-- The file could not be opened. -/
theorem gives_unopened (raises : backend.Raises error .opening) :
    Gives path false backend sql arguments [.openFile path] false
      (.error (error.reported (.opening ("sqlite:///" ++ path)) (isDuplicate error))) := by
  refine Comes.gives (comes_arrived passed fun after script =>
    comes_locked_of_closed fun later still => ?_)
  have raises : later.Raises error .opening :=
    (Backend.raises_iff (still.trans script) error _).mpr raises
  exact comes_opening_of_raises raises path 21 bound

/-- The statement was run, on the connection that was there or on a new one. -/
theorem gives_ran (quiet : connected = false → ∀ error, ¬backend.Raises error .opening) :
    Gives path connected backend sql arguments (opening path connected ++ running backend bound)
      true (ending backend bound) := by
  refine Comes.gives (comes_arrived passed fun after script => ?_)
  cases connected with
  | true =>
    have same : after.execute.1 = backend.execute.1 := Backend.execute_congr script
    have comes := comes_locked path after 22 bound
    rw [running, ending, same] at comes
    exact comes
  | false =>
    refine comes_locked_of_closed fun later still => ?_
    have script : later.script = backend.script := still.trans script
    have quiet : ∀ error, ¬later.Raises error .opening := fun error raises =>
      quiet rfl error ((Backend.raises_iff script error _).mp raises)
    have same : later.execute.1 = backend.execute.1 := Backend.execute_congr script
    have comes := comes_opening quiet path 21 bound
    rw [running, ending, same] at comes
    exact comes

end

end TableGateway.Sqlite.State
