/-
This file says how statements on a server end. One step ends a statement in one of six
ways only, each with its own outcome; a step of one statement leaves the others as they
are, or wakes one that waited; and what is over stays over.
-/

import TableGateway.Proofs.Reporting
import TableGateway.Proofs.ServerTasks

namespace TableGateway.MySql

/-- A statement that waited was woken. -/
inductive Phase.Wakes : Phase → Phase → Prop where
  | lock (bound : Bound) : Wakes (.waitingForLock bound) (.locked bound)
  | connection (bound : Bound) : Wakes (.waitingForConnection bound) (.granted bound)

/-- What the database may see of a statement that goes on in a phase, on a handle with some
settings. -/
inductive Phase.Does (settings : Settings) : Phase → List Event → Prop where
  | nothing (phase : Phase) : Does settings phase []
  | createPool (bound : Bound) :
    Does settings (.locked bound) [.createPool (Handle.poolParameters settings)]
  | acquire (bound : Bound) : Does settings (.needsConnection bound) [.acquire]
  | resume (bound : Bound) : Does settings (.granted bound) [.acquire]
  | run (bound : Bound) :
    Does settings (.cursorOpen bound) [.execute bound.sql bound.parameters, .closeCursor]
  | release (bound : Bound) (ran : Ran) : Does settings (.leaving bound ran) [.release]

namespace Handle

variable {handle later last : Handle} {id other : Nat} {old : Phase}

/-- A statement is in the phase it was in, or was woken. -/
def Spares (handle later : Handle) (id : Nat) : Prop :=
  later.phase? id = handle.phase? id ∨
    ∃ old new, old.Wakes new ∧ handle.phase? id = some old ∧ later.phase? id = some new

theorem Spares.trans (first : handle.Spares later id) (second : later.Spares last id) :
    handle.Spares last id := by
  rcases first with same | ⟨old, new, wakes, was, is⟩
  · rcases second with stays | ⟨old, new, wakes, was, is⟩
    · exact .inl (stays.trans same)
    · exact .inr ⟨old, new, wakes, same ▸ was, is⟩
  · rcases second with stays | ⟨middle, _, again, still, _⟩
    · exact .inr ⟨old, new, wakes, was, stays.trans is⟩
    · rw [is] at still
      cases still
      cases wakes <;> cases again

theorem spares_move (differs : other ≠ id) (handle : Handle) (phase : Phase) :
    handle.Spares (handle.move id phase) other :=
  .inl (phase?_move_of_ne differs handle phase)

/-- Waking a statement spares every statement. -/
theorem spares_wake (handle : Handle) {new : Phase} (found : handle.phase? id = some old)
    (wakes : old.Wakes new) (other : Nat) : handle.Spares (handle.move id new) other := by
  by_cases same : other = id
  · rw [same]
    exact .inr ⟨old, new, wakes, found, phase?_move found new⟩
  · exact spares_move same handle new

theorem spares_unlock (handle : Handle) (other : Nat) : handle.Spares handle.unlock other := by
  unfold unlock
  split
  · exact .inl rfl
  · dsimp only
    split
    · rename_i next rest _ _ bound found
      exact spares_wake { handle with holder := some next, queue := rest } found (.lock bound) other
    · exact .inl rfl

theorem spares_release (handle : Handle) (other : Nat) : handle.Spares handle.release other := by
  unfold release
  split
  · exact .inl rfl
  · dsimp only
    split
    · exact .inl rfl
    · split
      · rename_i pool _ _ first _ _ bound found
        exact spares_wake { handle with pool := some pool.release.2 } found (.connection bound)
          other
      · exact .inl rfl

/-- Who is over stays as it is. -/
theorem Spares.phase?_eq (spares : handle.Spares later id) (found : handle.phase? id = some old)
    (settled : ∀ new, ¬old.Wakes new) : later.phase? id = some old := by
  rcases spares with same | ⟨_, new, wakes, was, _⟩
  · exact same.trans found
  · rw [found] at was
    cases was
    exact absurd wakes (settled new)

end Handle

namespace State

variable {state : State} {id other : Nat}

/-! ### What a step leaves of the others -/

/-- A step of one statement spares the others. -/
theorem spares_advance (differs : other ≠ id) (state : State) :
    state.handle.Spares (state.advance id).handle other := by
  unfold advance
  split
  · unfold arrive
    split <;> exact Handle.spares_move differs state.handle _
  · unfold seekPool
    split
    · exact Handle.spares_move differs state.handle _
    · split <;> exact Handle.spares_move differs _ _
  · unfold enterLock
    split
    · exact (Handle.spares_move differs state.handle _).trans (Handle.spares_unlock _ other)
    · exact Handle.spares_move differs state.handle _
  · unfold created
    split <;> exact (Handle.spares_move differs _ _).trans (Handle.spares_unlock _ other)
  · unfold seekConnection
    split
    · exact .inl rfl
    · split
      · exact Handle.spares_move differs state.handle _
      · split
        · exact Handle.spares_move differs state.handle _
        · dsimp only
          split <;> exact Handle.spares_move differs _ _
  · exact Handle.spares_move differs _ _
  · unfold openCursor
    split <;> exact Handle.spares_move differs state.handle _
  · unfold run
    dsimp only
    split <;> exact Handle.spares_move differs state.handle _
  · unfold leave
    dsimp only
    have spares := Handle.spares_release state.handle other
    split <;> exact spares.trans (Handle.spares_move differs _ _)
  · exact .inl rfl

/-- A statement that is over takes no step. -/
theorem advance_of_finished {outcome : Except Failure Reply}
    (found : state.handle.phase? id = some (.finished outcome)) : state.advance id = state := by
  unfold advance
  rw [found]

/-- A statement that comes in leaves those under way as they are. -/
theorem phase?_enter {phase : Phase} (found : state.handle.phase? id = some phase) (other : Nat)
    (sql : String) (arguments : List Value) :
    (state.enter other sql arguments).handle.phase? id = some phase := by
  rw [Handle.phase?, Option.map_eq_some_iff] at found ⊢
  obtain ⟨task, found, is⟩ := found
  refine ⟨task, ?_, is⟩
  change (state.handle.tasks ++ _).find? _ = _
  rw [List.find?_append, found, Option.some_or]

/-- What a statement is that nobody wakes stays, as long as others take steps. -/
theorem phase?_act {phase : Phase} (found : state.handle.phase? id = some phase)
    (settled : ∀ new, ¬phase.Wakes new) (action : Action)
    (others : action = .advance id → ∃ outcome, phase = .finished outcome) :
    (state.act action).handle.phase? id = some phase := by
  cases action with
  | enter sql arguments => exact phase?_enter found _ sql arguments
  | advance other =>
    by_cases same : id = other
    · obtain ⟨outcome, rfl⟩ := others (by rw [same])
      rw [act, ← same, advance_of_finished found]
      exact found
    · exact (spares_advance same state).phase?_eq found settled
  | script outcomes => exact found

/-- What is over stays over, whatever happens. -/
theorem finished_after {outcome : Except Failure Reply}
    (found : state.handle.phase? id = some (.finished outcome)) (actions : List Action) :
    (state.after actions).handle.phase? id = some (.finished outcome) :=
  List.foldlRecOn (motive := fun later => later.handle.phase? id = some (.finished outcome))
    actions act found fun _ still action _ => phase?_act still nofun action fun _ => ⟨outcome, rfl⟩

/-! ### What the database sees of a step -/

/-- A step of a statement makes the database do no more than belongs to its phase. -/
theorem does_advance {phase : Phase} (found : state.handle.phase? id = some phase) :
    ∃ done, phase.Does state.handle.settings done ∧
      (state.advance id).backend.events = state.backend.events ++ done := by
  have erred (stage : Stage) := state.backend.events_errorAt stage
  have quiet {phase : Phase} {later : List Event} (same : later = state.backend.events) :
      ∃ done, phase.Does state.handle.settings done ∧ later = state.backend.events ++ done :=
    ⟨[], .nothing phase, same.trans (List.append_nil _).symm⟩
  unfold advance
  rw [found]
  cases phase with
  | arrived text given =>
    dsimp only [arrive]
    split <;> exact quiet rfl
  | needsPool bound =>
    dsimp only [seekPool]
    split
    · exact quiet rfl
    · split <;> exact quiet rfl
  | locked bound =>
    dsimp only [enterLock]
    split
    · exact quiet rfl
    · exact ⟨_, .createPool bound, rfl⟩
  | creating bound =>
    have same := erred .create
    dsimp only [created]
    split <;> rename_i raised <;> rw [raised] at same <;> exact quiet same
  | needsConnection bound =>
    have same := erred .acquire
    dsimp only [seekConnection]
    split
    · exact quiet rfl
    · split
      · exact quiet rfl
      · split <;> rename_i raised <;> rw [raised] at same
        · exact quiet ((Backend.events_reportUnlessOwn _ _ _ _).trans same)
        · split
          · exact quiet same
          · exact ⟨_, .acquire bound, congrArg (· ++ _) same⟩
  | granted bound => exact ⟨_, .resume bound, rfl⟩
  | connected bound =>
    have same := erred .cursor
    dsimp only [openCursor]
    split <;> rename_i raised <;> rw [raised] at same <;> exact quiet same
  | cursorOpen bound =>
    have execution := state.backend.execute_emit (.execute bound.sql bound.parameters)
    have same := state.backend.events_execute
    refine ⟨_, .run bound, ?_⟩
    dsimp only [run, State.emit]
    rw [execution]
    split <;> exact (congrArg (· ++ _ ++ _) same).trans (List.append_assoc _ _ _)
  | leaving bound ran =>
    dsimp only [leave]
    split
    · exact ⟨_, .release bound _, rfl⟩
    · exact ⟨_, .release bound _, Backend.events_reportUnlessOwn _ _ _ _⟩
  | _ => exact quiet rfl

/-! ### What a step does to its own statement -/

/-- A caller that asks a pool for a connection would be one too many to wait for it. -/
def IsCrowded (state : State) (pool : Pool) : Prop :=
  pool.isExhausted = true ∧ isQueueFull state.handle = true

/-- The next step of a statement ends it with an outcome: its arguments cannot be bound, creating
the pool failed, too many wait for a connection, taking one failed, or it has run and leaves. -/
def Ends (state : State) (id : Nat) (outcome : Except Failure Reply) : Prop :=
  match state.handle.phase? id with
  | some (.arrived _ arguments) =>
    ∃ failure, arguments.mapM bindable = .error failure ∧ outcome = .error failure
  | some (.creating _) =>
    ∃ error, state.backend.Raises error .create ∧ outcome = .error (error.reported
      (.connecting state.handle.settings.safeUri) (isDuplicate error))
  | some (.needsConnection bound) =>
    ∃ pool, state.handle.pool = some pool ∧
      ((state.IsCrowded pool ∧ outcome = .error
          (.queueFull state.handle.settings.queueLimit state.handle.settings.safeUri)) ∨
        (¬state.IsCrowded pool ∧ ∃ error, state.backend.Raises error .acquire ∧
          outcome = .error (error.surfaced (.executing bound.sql) (isDuplicate error))))
  | some (.leaving bound ran) =>
    outcome = ran.mapError fun error => error.surfaced (.executing bound.sql) (isDuplicate error)
  | _ => False

theorem outcome?_eq_some {outcome : Except Failure Reply} :
    state.outcome? id = some outcome ↔ state.handle.phase? id = some (.finished outcome) := by
  unfold outcome?
  split
  · rename_i found same
    rw [same]
    simp
  · rename_i other
    exact ⟨nofun, fun found => absurd found (other outcome)⟩

variable {outcome : Except Failure Reply} {bound : Bound} {old : Phase}

/-- A statement that moved on is over exactly if that is where it moved. -/
theorem moved_iff (handle : Handle) (found : handle.phase? id = some old) (phase : Phase) :
    (handle.move id phase).phase? id = some (.finished outcome) ↔ phase = .finished outcome := by
  rw [Handle.phase?_move found, Option.some.injEq]

theorem unlocked_iff (handle : Handle) :
    handle.unlock.phase? id = some (.finished outcome) ↔
      handle.phase? id = some (.finished outcome) := by
  rcases Handle.spares_unlock handle id with same | ⟨_, _, wakes, was, is⟩
  · rw [same]
  · rw [was, is]
    cases wakes <;> simp

theorem handle_fail (state : State) (id : Nat) (bound : Bound) (error : DriverError) :
    (state.fail id bound error).handle = state.handle.move id
      (.finished (.error (error.surfaced (.executing bound.sql) (isDuplicate error)))) := by
  cases error <;> rfl

theorem arrive_iff {sql : String} {arguments : List Value}
    (found : state.handle.phase? id = some (.arrived sql arguments)) :
    (state.arrive id sql arguments).handle.phase? id = some (.finished outcome) ↔
      ∃ failure, arguments.mapM bindable = .error failure ∧ outcome = .error failure := by
  unfold arrive
  split
  · rename_i failure refused
    refine (moved_iff state.handle found _).trans ?_
    rw [refused]
    simp [eq_comm]
  · rename_i values passed
    refine (moved_iff state.handle found _).trans ?_
    rw [passed]
    simp

theorem created_iff (found : state.handle.phase? id = some (.creating bound)) :
    (state.created id bound).handle.phase? id = some (.finished outcome) ↔
      ∃ error, state.backend.Raises error .create ∧ outcome = .error (error.reported
        (.connecting state.handle.settings.safeUri) (isDuplicate error)) := by
  simp only [← Backend.errorAt_eq_some]
  unfold created
  split
  · rename_i error backend raised
    refine (unlocked_iff _).trans ((moved_iff state.handle found _).trans ?_)
    simp [raised, Backend.report_fst, eq_comm]
  · rename_i backend none
    refine (unlocked_iff _).trans ((moved_iff _ found _).trans ?_)
    simp [none]

theorem seekConnection_iff (found : state.handle.phase? id = some (.needsConnection bound)) :
    (state.seekConnection id bound).handle.phase? id = some (.finished outcome) ↔
      ∃ pool, state.handle.pool = some pool ∧
        ((state.IsCrowded pool ∧ outcome = .error
            (.queueFull state.handle.settings.queueLimit state.handle.settings.safeUri)) ∨
          (¬state.IsCrowded pool ∧ ∃ error, state.backend.Raises error .acquire ∧
            outcome = .error (error.surfaced (.executing bound.sql) (isDuplicate error)))) := by
  simp only [← Backend.errorAt_eq_some]
  unfold seekConnection
  split
  · rename_i none
    simp [none, found]
  · rename_i pool pooled
    have crowded : (pool.isExhausted && isQueueFull state.handle) = true ↔ state.IsCrowded pool :=
      Bool.and_eq_true_iff
    simp only [pooled, Option.some.injEq, exists_eq_left', crowded]
    split
    · rename_i full
      refine (moved_iff state.handle found _).trans ?_
      simp [crowded.mp full, eq_comm]
    · rename_i admitted
      rw [crowded] at admitted
      split
      · rename_i error backend raised
        rw [handle_fail]
        refine (moved_iff state.handle found _).trans ?_
        simp [admitted, raised, eq_comm]
      · rename_i backend none
        split <;>
        · refine (moved_iff _ found _).trans ?_
          simp [admitted, none]

theorem leave_iff {ran : Ran} (found : state.handle.phase? id = some (.leaving bound ran)) :
    (state.leave id bound ran).handle.phase? id = some (.finished outcome) ↔
      outcome = ran.mapError fun error =>
        error.surfaced (.executing bound.sql) (isDuplicate error) := by
  have left : state.handle.release.phase? id = some (.leaving bound ran) :=
    (Handle.spares_release state.handle id).phase?_eq found nofun
  unfold leave
  dsimp only
  split
  · refine (moved_iff _ left _).trans ?_
    change _ ↔ outcome = .ok _
    simp [eq_comm]
  · rw [handle_fail]
    refine (moved_iff _ left _).trans ?_
    change _ ↔ outcome = .error _
    simp [eq_comm]

/-- A step ends its statement in these ways only. -/
theorem advance_iff (under : state.outcome? id = none) :
    (state.advance id).outcome? id = some outcome ↔ state.Ends id outcome := by
  rw [outcome?_eq_some]
  unfold advance Ends
  cases found : state.handle.phase? id with
  | none => simp [found]
  | some phase =>
    cases phase with
    | arrived sql arguments => exact arrive_iff found
    | needsPool bound =>
      unfold seekPool
      dsimp only
      split
      · exact (moved_iff _ found _).trans (by simp)
      · split <;> exact (moved_iff _ found _).trans (by simp)
    | waitingForLock bound => simp [found]
    | locked bound =>
      unfold enterLock
      dsimp only
      split
      · exact (unlocked_iff _).trans ((moved_iff _ found _).trans (by simp))
      · exact (moved_iff _ found _).trans (by simp)
    | creating bound => exact created_iff found
    | needsConnection bound => exact seekConnection_iff found
    | waitingForConnection bound => simp [found]
    | granted bound => exact (moved_iff _ found _).trans (by simp)
    | connected bound =>
      unfold openCursor
      dsimp only
      split <;> exact (moved_iff _ found _).trans (by simp)
    | cursorOpen bound =>
      unfold run
      dsimp only
      split <;> exact (moved_iff _ found _).trans (by simp)
    | leaving bound ran => exact leave_iff found
    | finished ended =>
      rw [outcome?_eq_some.mpr found] at under
      cases under

/-- A step turns its statement away exactly if that asks for a connection where too many wait. -/
theorem ends_queueFull_iff {limit : Nat} {uri : String} :
    state.Ends id (.error (.queueFull limit uri)) ↔
      (∃ bound, state.handle.phase? id = some (.needsConnection bound)) ∧
        (∃ pool, state.handle.pool = some pool ∧ state.IsCrowded pool) ∧
        limit = state.handle.settings.queueLimit ∧ uri = state.handle.settings.safeUri := by
  unfold Ends
  cases found : state.handle.phase? id with
  | none => simp
  | some phase =>
    cases phase with
    | arrived sql arguments =>
      refine ⟨?_, by simp⟩
      rintro ⟨failure, refused, same⟩
      have only := onlyRefuses_mapM onlyRefuses_bindable arguments
      rw [refused] at only
      cases only
      cases same
    | creating bound =>
      refine ⟨?_, by simp⟩
      rintro ⟨error, _, same⟩
      injection same with same
      exact absurd same.symm (error.reported_ne_queueFull _ _ limit uri)
    | needsConnection bound =>
      constructor
      · rintro ⟨pool, pooled, ⟨crowded, same⟩ | ⟨_, error, _, same⟩⟩
        · cases same
          exact ⟨⟨bound, rfl⟩, ⟨pool, pooled, crowded⟩, rfl, rfl⟩
        · injection same with same
          exact absurd same.symm (error.surfaced_ne_queueFull _ _ limit uri)
      · rintro ⟨_, ⟨pool, pooled, crowded⟩, rfl, rfl⟩
        exact ⟨pool, pooled, .inl ⟨crowded, rfl⟩⟩
    | leaving bound ran =>
      refine ⟨?_, by simp⟩
      intro same
      cases ran with
      | ok reply => cases same
      | error error =>
        injection same with same
        exact absurd same.symm (error.surfaced_ne_queueFull _ _ limit uri)
    | _ => simp

/-- Who is turned away changes nothing else. -/
theorem advance_of_isCrowded {pool : Pool}
    (asks : state.handle.phase? id = some (.needsConnection bound))
    (pooled : state.handle.pool = some pool) (crowded : state.IsCrowded pool) :
    state.advance id = state.move id (.finished (.error
      (.queueFull state.handle.settings.queueLimit state.handle.settings.safeUri))) := by
  have full : (pool.isExhausted && isQueueFull state.handle) = true :=
    Bool.and_eq_true_iff.mpr crowded
  simp only [advance, asks, seekConnection, pooled, full, if_true]

end State

end TableGateway.MySql
