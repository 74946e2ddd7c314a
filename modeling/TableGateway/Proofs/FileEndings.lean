/-
This file says how statements on a database file end, in whatever order they go on. Who
has the lock and a connection runs and is over in one step, and so is who cannot open the
file; and what is over stays over.
-/

import TableGateway.Proofs.FileCalls
import TableGateway.Proofs.Roster

namespace TableGateway.Sqlite

namespace Handle

variable {handle : Handle} {id other : Nat} {old : Phase}

/-- A statement that is under way is in the phase it moved to. -/
theorem phase?_move (found : handle.phase? id = some old) (phase : Phase) :
    (handle.move id phase).phase? id = some phase := by
  rw [phase?, Option.map_eq_some_iff] at found
  obtain ⟨task, found, _⟩ := found
  exact congrArg (Option.map Task.phase)
    (Roster.find?_replaced Task.id (show Task.id ⟨id, phase⟩ = id from rfl) found)

theorem phase?_move_of_ne (differs : other ≠ id) (handle : Handle) (phase : Phase) :
    (handle.move id phase).phase? other = handle.phase? other :=
  congrArg (Option.map Task.phase) (Roster.find?_replaced_of_ne Task.id
    (show Task.id ⟨id, phase⟩ = id from rfl) differs handle.tasks)

end Handle

namespace State

variable {state : State} {id other : Nat} {old : Phase} {outcome : Except Failure Reply}
  {bound : Bound} {error : DriverError}

/-- What happens next. A statement that comes in gets a number of its own. -/
def act (state : State) : Action → State
  | .enter sql arguments => state.enter state.freshId sql arguments
  | .advance id => state.advance id
  | .script outcomes => { state with backend := state.backend.told outcomes }

/-- What happens, one thing after another. -/
def after (state : State) (actions : List Action) : State :=
  actions.foldl act state

/-! ### What is over -/

theorem outcome?_eq_some :
    state.outcome? id = some outcome ↔ state.handle.phase? id = some (.finished outcome) := by
  unfold outcome?
  split
  · rename_i found same
    rw [same]
    simp
  · rename_i other
    exact ⟨nofun, fun found => absurd found (other outcome)⟩

/-- A statement that moved on is over exactly if that is where it moved. -/
theorem outcome?_move {handle : Handle} (found : handle.phase? id = some old)
    (backend : Backend) (phase : Phase) :
    (move ⟨handle, backend⟩ id phase).outcome? id = some outcome ↔ phase = .finished outcome := by
  rw [outcome?_eq_some]
  change (handle.move id phase).phase? id = _ ↔ _
  rw [Handle.phase?_move found, Option.some.injEq]

theorem outcome?_move_of_ne (differs : other ≠ id) (state : State) (phase : Phase) :
    (state.move id phase).outcome? other = state.outcome? other := by
  unfold outcome? move
  rw [Handle.phase?_move_of_ne differs]

/-- Giving the lock on ends no statement, and none that is over goes on. -/
theorem outcome?_unlock (state : State) (id : Nat) :
    state.unlock.outcome? id = state.outcome? id := by
  unfold unlock
  split
  · rfl
  · rename_i next rest _
    dsimp only
    split
    · rename_i bound found
      -- who is woken waited, and now has the lock: it is over neither before nor after
      refine Option.ext fun outcome => ?_
      rw [outcome?_eq_some, outcome?_eq_some]
      by_cases same : id = next
      · have waits : state.handle.phase? id = some (.waiting bound) := same ▸ found
        rw [same, Handle.phase?_move found, ← same, waits]
        simp
      · rw [Handle.phase?_move_of_ne same]
        rfl
    · rfl

/-- A statement that was ended is over. -/
theorem outcome?_finish {handle : Handle} (found : handle.phase? id = some old)
    (backend : Backend) (outcome : Except Failure Reply) :
    (finish ⟨handle, backend⟩ id outcome).outcome? id = some outcome := by
  rw [finish, outcome?_unlock, outcome?_move found]

theorem outcome?_finish_of_ne (differs : other ≠ id) (state : State)
    (outcome : Except Failure Reply) :
    (state.finish id outcome).outcome? other = state.outcome? other := by
  rw [finish, outcome?_unlock, outcome?_move_of_ne differs]

/-! ### Running -/

theorem fail_eq (state : State) (id : Nat) (bound : Bound) (error : DriverError) :
    ∃ backend, state.fail id bound error = finish ⟨state.handle, backend⟩ id
      (.error (error.surfaced (.executing bound.sql) (isDuplicate error))) := by
  cases error <;> exact ⟨_, rfl⟩

/-- A statement that runs is ended with the outcome that this comes to. -/
theorem run_eq (state : State) (id : Nat) (bound : Bound) :
    ∃ backend, state.run id bound =
      finish ⟨state.handle, backend⟩ id (ending state.backend bound) := by
  have execution := state.backend.execute_emit (.execute bound.sql (some bound.values))
  unfold run ending
  simp only [State.emit, execution]
  cases state.backend.execute.1 with
  | failed error => exact fail_eq _ id bound error
  | failedFetch error => exact fail_eq _ id bound error
  | answered rows columns affected insertId => exact ⟨_, rfl⟩

theorem outcome?_run {handle : Handle} (found : handle.phase? id = some old)
    (backend : Backend) (bound : Bound) :
    (run ⟨handle, backend⟩ id bound).outcome? id = some (ending backend bound) := by
  obtain ⟨after, ran⟩ := run_eq ⟨handle, backend⟩ id bound
  rw [ran]
  exact outcome?_finish found after _

/-! ### Steps -/

/-- A step of one statement neither ends another one nor takes up one that is over. -/
theorem outcome?_advance_of_ne (differs : other ≠ id) (state : State) :
    (state.advance id).outcome? other = state.outcome? other := by
  have ran (state : State) (bound : Bound) :
      (state.run id bound).outcome? other = state.outcome? other := by
    obtain ⟨backend, ran⟩ := run_eq state id bound
    rw [ran]
    exact outcome?_finish_of_ne differs _ _
  unfold advance
  split
  · unfold arrive
    split
    · exact outcome?_move_of_ne differs state _
    · dsimp only
      split <;> exact outcome?_move_of_ne differs _ _
  · split
    · exact ran state _
    · exact outcome?_move_of_ne differs _ _
  · unfold opened
    split
    · exact outcome?_finish_of_ne differs _ _
    · exact ran _ _
  · rfl

/-- A statement that comes in leaves those under way as they are. -/
theorem phase?_enter {phase : Phase} (found : state.handle.phase? id = some phase) (other : Nat)
    (sql : String) (arguments : List Value) :
    (state.enter other sql arguments).handle.phase? id = some phase := by
  rw [Handle.phase?, Option.map_eq_some_iff] at found ⊢
  obtain ⟨task, found, is⟩ := found
  refine ⟨task, ?_, is⟩
  change (state.handle.tasks ++ _).find? _ = _
  rw [List.find?_append, found, Option.some_or]

/-- What is over stays over, whatever happens. -/
theorem outcome?_after (ended : state.outcome? id = some outcome) (actions : List Action) :
    (state.after actions).outcome? id = some outcome := by
  refine List.foldlRecOn (motive := fun later => later.outcome? id = some outcome) actions act
    ended fun later still action _ => ?_
  cases action with
  | enter sql arguments =>
    rw [outcome?_eq_some] at still ⊢
    exact phase?_enter still _ sql arguments
  | advance other =>
    by_cases same : id = other
    · have rests : later.advance other = later := by
        unfold advance
        rw [← same, outcome?_eq_some.mp still]
      rw [act, rests]
      exact still
    · exact (outcome?_advance_of_ne same later).trans still
  | script outcomes => exact still

/-- Who cannot open the file is over. -/
theorem outcome?_advance_of_raises (found : state.handle.phase? id = some (.opening bound))
    (raises : state.backend.Raises error .opening) :
    (state.advance id).outcome? id = some (.error
      (error.reported (.opening state.handle.uri) (isDuplicate error))) := by
  obtain ⟨rest, raised⟩ := raises.errorAt_eq
  have ends : state.advance id = finish ⟨state.handle, (Backend.report
      { state.backend with script := rest } (.opening state.handle.uri) error
        (isDuplicate error)).2⟩ id
      (.error (error.reported (.opening state.handle.uri) (isDuplicate error))) := by
    unfold advance
    rw [found]
    dsimp only [opened]
    rw [raised]
    rfl
  rw [ends]
  exact outcome?_finish found _ _

/-- A statement has the lock, and the connection is open or can be opened. -/
def IsReady (state : State) (id : Nat) (bound : Bound) : Prop :=
  (state.handle.phase? id = some (.locked bound) ∧ state.handle.connected = true) ∨
    (state.handle.phase? id = some (.opening bound) ∧
      ∀ error, ¬state.backend.Raises error .opening)

/-- Who can run is over after that. -/
theorem IsReady.outcome?_advance (ready : state.IsReady id bound) :
    (state.advance id).outcome? id = some (ending state.backend bound) := by
  unfold advance
  rcases ready with ⟨found, connected⟩ | ⟨found, quiet⟩
  · rw [found]
    dsimp only
    rw [if_pos connected]
    exact outcome?_run found _ _
  · rw [found]
    dsimp only [opened]
    rw [Backend.errorAt_of_not_raises quiet]
    exact outcome?_run (show Handle.phase? { state.handle with connected := true } id = _
      from found) _ _

/-- A step ends its statement with a failure of the library's own, if with a failure. -/
theorem isOwn_of_advance {failure : Failure} (under : state.outcome? id = none)
    (ends : (state.advance id).outcome? id = some (.error failure)) : failure.IsOwn := by
  cases found : state.handle.phase? id with
  | none =>
    unfold advance at ends
    rw [found] at ends
    cases under.symm.trans ends
  | some phase =>
    cases phase with
    | arrived sql arguments =>
      have arrives : state.advance id = state.arrive id sql arguments := by
        unfold advance
        rw [found]
      rw [arrives] at ends
      unfold arrive at ends
      split at ends
      · rename_i other refused
        cases (outcome?_move found _ _).mp ends
        exact (onlyRefuses_expand sql arguments).isOwn refused
      · dsimp only at ends
        split at ends <;> cases (outcome?_move found _ _).mp ends
    | waiting bound =>
      unfold advance at ends
      rw [found] at ends
      cases under.symm.trans ends
    | locked bound =>
      by_cases connected : state.handle.connected = true
      · have ready : state.IsReady id bound := .inl ⟨found, connected⟩
        exact DriverError.isOwn_mapError (Option.some.inj (ready.outcome?_advance.symm.trans ends))
      · unfold advance at ends
        rw [found] at ends
        dsimp only at ends
        rw [if_neg connected] at ends
        cases (outcome?_move found _ _).mp ends
    | opening bound =>
      by_cases raises : ∃ error, state.backend.Raises error .opening
      · obtain ⟨error, raises⟩ := raises
        have opens := outcome?_advance_of_raises found raises
        cases opens.symm.trans ends
        exact error.isOwn_reported _ _
      · have ready : state.IsReady id bound := .inr ⟨found, not_exists.mp raises⟩
        exact DriverError.isOwn_mapError (Option.some.inj (ready.outcome?_advance.symm.trans ends))
    | finished outcome => cases under.symm.trans (outcome?_eq_some.mpr found)

end State

end TableGateway.Sqlite
