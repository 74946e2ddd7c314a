/-
This file is about the errors that drivers raise. Whatever stage of a statement an error
comes up at, and whatever else is under way, the statement fails with one failure of the
library's own: an error of creating a pool or opening a file is reported as that, an error
that is the library's own already is passed on as it is, and every other one is reported
as an error of the statement.
-/

import TableGateway.Proofs.FileEndings
import TableGateway.Proofs.FileLife
import TableGateway.Proofs.NoLeak
import TableGateway.Proofs.ServerEndings

namespace TableGateway

/-! ### Reports -/

namespace DriverError

variable {error : DriverError} {work : DriverWork} {taken : Prop} {duplicate : Bool}

/-- A failure tells an error of a driver: that a key is taken, or else what went wrong, and what the
driver was doing. -/
structure Tells (failure : Failure) (error : DriverError) (work : DriverWork) (taken : Prop) :
    Prop where
  duplicate : taken → failure.report? = some ⟨.keyExists,
    .text ("Unique constraint violated during " ++ work.text ++ ". Detail: " ++ error.text),
    .int FailureClass.keyExists.number⟩
  plain : ¬taken → failure.report? = some ⟨.driver,
    .text ("A database error occurred during " ++ work.text ++ ": " ++ error.text),
    .int FailureClass.driver.number⟩

/-- A failure passes an error on that is the library's own already, and tells every other one. -/
structure Passes (failure : Failure) (error : DriverError) (work : DriverWork) (taken : Prop) :
    Prop where
  own : ∀ report, error = .own report → failure.report? = some report
  foreign : (∀ report, error ≠ .own report) → Tells failure error work taken

theorem tells_reported (agrees : duplicate = true ↔ taken) (error : DriverError)
    (work : DriverWork) : Tells (error.reported work duplicate) error work taken := by
  unfold reported
  cases duplicate with
  | true => exact ⟨fun _ => rfl, fun free => absurd (agrees.mp rfl) free⟩
  | false => exact ⟨fun is => absurd (agrees.mpr is) Bool.false_ne_true, fun _ => rfl⟩

theorem passes_surfaced (agrees : duplicate = true ↔ taken) (error : DriverError)
    (work : DriverWork) : Passes (error.surfaced work duplicate) error work taken := by
  cases error with
  | own report =>
    refine ⟨fun other same => ?_, fun foreign => absurd rfl (foreign report)⟩
    cases same
    rfl
  | foreign kind arguments => exact ⟨nofun, fun _ => tells_reported agrees _ work⟩

end DriverError

open DriverError

/-! ### A server -/

namespace MySql

/-- A server says that a unique key is taken. -/
def Taken (error : DriverError) : Prop :=
  ∃ rest, error.arguments = .int 1062 :: rest

namespace State

theorem isDuplicate_iff (error : DriverError) : isDuplicate error = true ↔ Taken error := by
  unfold isDuplicate errorNumber? Taken
  split
  · rename_i number rest same
    rw [same]
    simp
  · rename_i other
    refine ⟨nofun, fun ⟨rest, same⟩ => absurd same (other _ rest)⟩

variable {state : State} {id : Nat} {bound : Bound} {error : DriverError} {failure : Failure}

/-- Who ends in a step stays ended. -/
theorem Ends.outcome?_after {outcome : Except Failure Reply} (ends : state.Ends id outcome)
    (under : state.outcome? id = none) (actions : List Action) :
    ((state.advance id).after actions).outcome? id = some outcome :=
  outcome?_eq_some.mpr
    (finished_after (outcome?_eq_some.mp ((advance_iff under).mpr ends)) actions)

theorem outcome?_eq_none {phase : Phase} (found : state.handle.phase? id = some phase)
    (under : ∀ outcome, phase ≠ .finished outcome) : state.outcome? id = none := by
  unfold outcome?
  rw [found]
  split
  · rename_i outcome same
    exact absurd (Option.some.inj same) (under outcome)
  · rfl

/-- Who leaves with what came up is over after one more step, whatever others do meanwhile. -/
theorem outcome?_after_of_leaving
    (found : state.handle.phase? id = some (.leaving bound (.error error)))
    {actions : List Action} (goes : .advance id ∈ actions) :
    (state.after actions).outcome? id = some (.error
      (error.surfaced (.executing bound.sql) (isDuplicate error))) := by
  -- nobody wakes a statement that leaves: it stands there until its own step comes
  induction actions generalizing state with
  | nil => cases goes
  | cons action rest inductionHypothesis =>
    by_cases mine : action = .advance id
    · rw [mine]
      refine Ends.outcome?_after ?_ (outcome?_eq_none found nofun) rest
      unfold Ends
      rw [found]
      rfl
    · refine inductionHypothesis (phase?_act found nofun action fun same => absurd same mine) ?_
      exact (List.mem_cons.mp goes).resolve_left fun same => mine same.symm

/-- An error that comes up while a statement has a connection makes it leave. -/
theorem leaves_of_raises {stage : Stage}
    (stands : (state.handle.phase? id = some (.connected bound) ∧ stage = .cursor) ∨
      (state.handle.phase? id = some (.cursorOpen bound) ∧ (stage = .execute ∨ stage = .fetch)))
    (raises : state.backend.Raises error stage) :
    (state.advance id).handle.phase? id = some (.leaving bound (.error error)) := by
  unfold advance
  rcases stands with ⟨found, rfl⟩ | ⟨found, stage⟩
  · obtain ⟨rest, raised⟩ := raises.errorAt_eq
    rw [found]
    dsimp only [openCursor]
    rw [raised]
    exact Handle.phase?_move found _
  · have execution := state.backend.execute_emit (.execute bound.sql bound.parameters)
    rw [found]
    simp only [run, State.emit, execution]
    rcases stage with rfl | rfl
    · rw [Backend.execute_eq_failed.mpr raises]
      exact Handle.phase?_move found _
    · rw [Backend.execute_eq_failedFetch.mpr raises]
      exact Handle.phase?_move found _

/-- What becomes of the errors that come up on a server: who cannot create the pool fails with that;
who fails with a connection in hand does so when it has left; and no statement fails otherwise than
with a failure of the library's own. -/
structure TellsErrors (state : State) : Prop where
  creating : ∀ id bound error, state.handle.phase? id = some (.creating bound) →
    state.backend.Raises error .create →
      ∃ failure, Tells failure error (.connecting state.handle.settings.safeUri) (Taken error) ∧
        ∀ actions, ((state.advance id).after actions).outcome? id = some (.error failure)
  acquiring : ∀ id bound pool error, state.handle.phase? id = some (.needsConnection bound) →
    state.handle.pool = some pool → ¬state.IsCrowded pool →
    state.backend.Raises error .acquire →
      ∃ failure, Passes failure error (.executing bound.sql) (Taken error) ∧
        ∀ actions, ((state.advance id).after actions).outcome? id = some (.error failure)
  running : ∀ id bound error stage,
    (state.handle.phase? id = some (.connected bound) ∧ stage = .cursor) ∨
      (state.handle.phase? id = some (.cursorOpen bound) ∧ (stage = .execute ∨ stage = .fetch)) →
    state.backend.Raises error stage →
      ∃ failure, Passes failure error (.executing bound.sql) (Taken error) ∧
        ∀ actions, .advance id ∈ actions →
          ((state.advance id).after actions).outcome? id = some (.error failure)
  crowded : ∀ id bound pool, state.handle.phase? id = some (.needsConnection bound) →
    state.handle.pool = some pool → state.IsCrowded pool →
      ∃ failure : Failure, failure.report? = some ⟨.driver, .text
          ("connection queue limit reached (" ++
            Fault.countText state.handle.settings.queueLimit ++ " waiting) for " ++
            state.handle.settings.safeUri), .int FailureClass.driver.number⟩ ∧
        ∀ actions, ((state.advance id).after actions).outcome? id = some (.error failure)
  own : ∀ id failure, state.outcome? id = none →
    (state.advance id).outcome? id = some (.error failure) → failure.IsOwn

theorem Ends.isOwn (ends : state.Ends id (.error failure)) : failure.IsOwn := by
  unfold Ends at ends
  split at ends
  · obtain ⟨other, refused, same⟩ := ends
    cases same
    exact (onlyRefuses_mapM onlyRefuses_bindable _).isOwn refused
  · obtain ⟨error, _, same⟩ := ends
    cases same
    exact isOwn_reported _ _ _
  · obtain ⟨pool, _, ⟨_, same⟩ | ⟨_, error, _, same⟩⟩ := ends
    · cases same
      exact ⟨_, rfl⟩
    · cases same
      exact isOwn_surfaced _ _ _
  · exact isOwn_mapError ends.symm
  · exact ends.elim

theorem tellsErrors (state : State) : state.TellsErrors where
  creating := by
    intro id bound error found raises
    refine ⟨_, tells_reported (isDuplicate_iff error) error _, fun actions => ?_⟩
    refine Ends.outcome?_after ?_ (outcome?_eq_none found nofun) actions
    unfold Ends
    rw [found]
    exact ⟨error, raises, rfl⟩
  acquiring := by
    intro id bound pool error found pooled room raises
    refine ⟨_, passes_surfaced (isDuplicate_iff error) error _, fun actions => ?_⟩
    refine Ends.outcome?_after ?_ (outcome?_eq_none found nofun) actions
    unfold Ends
    rw [found]
    exact ⟨pool, pooled, .inr ⟨room, error, raises, rfl⟩⟩
  running := by
    intro id bound error stage stands raises
    exact ⟨_, passes_surfaced (isDuplicate_iff error) error _, fun actions goes =>
      outcome?_after_of_leaving (leaves_of_raises stands raises) goes⟩
  crowded := by
    intro id bound pool found pooled full
    refine ⟨.queueFull state.handle.settings.queueLimit state.handle.settings.safeUri, rfl,
      fun actions => ?_⟩
    refine Ends.outcome?_after ?_ (outcome?_eq_none found nofun) actions
    unfold Ends
    rw [found]
    exact ⟨pool, pooled, .inl ⟨full, rfl⟩⟩
  own := fun id failure under ends => Ends.isOwn ((advance_iff under).mp ends)

end State

end MySql

/-! ### A database file -/

namespace Sqlite

/-- A database file says that a unique key is taken. -/
def Taken (error : DriverError) : Prop :=
  (∃ arguments, error = .foreign .integrity arguments) ∧
    "UNIQUE constraint failed".toList <:+: error.text.toList

namespace State

theorem isDuplicate_iff (error : DriverError) : isDuplicate error = true ↔ Taken error := by
  unfold isDuplicate Taken
  split
  · rw [Text.holds_iff]
    simp [List.IsInfix, eq_comm]
  · rename_i other
    refine ⟨nofun, fun ⟨⟨arguments, same⟩, _⟩ => absurd same (other arguments)⟩

variable {state : State} {id : Nat} {bound : Bound} {error : DriverError} {failure : Failure}

/-- What running a statement that the database raises an error for comes to. -/
theorem ending_eq {backend : Backend} {stage : Stage}
    (stands : stage = .execute ∨ stage = .fetch) (raises : backend.Raises error stage)
    (bound : Bound) : ending backend bound = .error
      (error.surfaced (.executing bound.sql) (isDuplicate error)) := by
  unfold ending
  rcases stands with rfl | rfl
  · rw [Backend.execute_eq_failed.mpr raises]
    rfl
  · rw [Backend.execute_eq_failedFetch.mpr raises]
    rfl

/-- What becomes of the errors that come up on a database file: who cannot open it fails with that;
who fails while it runs fails at once; and no statement fails otherwise than with a failure of the
library's own. -/
structure TellsErrors (state : State) : Prop where
  opening : ∀ id bound error, state.handle.phase? id = some (.opening bound) →
    state.backend.Raises error .opening →
      ∃ failure, Tells failure error (.opening state.handle.uri) (Taken error) ∧
        ∀ actions, ((state.advance id).after actions).outcome? id = some (.error failure)
  running : ∀ id bound error stage,
    (state.handle.phase? id = some (.locked bound) ∧ state.handle.connected = true) ∨
      state.handle.phase? id = some (.opening bound) →
    stage = .execute ∨ stage = .fetch → state.backend.Raises error stage →
      ∃ failure, Passes failure error (.executing bound.sql) (Taken error) ∧
        ∀ actions, ((state.advance id).after actions).outcome? id = some (.error failure)
  own : ∀ id failure, state.outcome? id = none →
    (state.advance id).outcome? id = some (.error failure) → failure.IsOwn

theorem tellsErrors (state : State) : state.TellsErrors where
  opening := by
    intro id bound error found raises
    exact ⟨_, tells_reported (isDuplicate_iff error) error _,
      outcome?_after (outcome?_advance_of_raises found raises)⟩
  running := by
    intro id bound error stage stands at_ raises
    have quiet : ∀ error, ¬state.backend.Raises error .opening := by
      rcases at_ with rfl | rfl <;> exact raises.not_raises nofun
    have ready : state.IsReady id bound := stands.imp_right fun found => ⟨found, quiet⟩
    have ends := ready.outcome?_advance
    rw [ending_eq at_ raises] at ends
    exact ⟨_, passes_surfaced (isDuplicate_iff error) error _, outcome?_after ends⟩
  own := fun _ _ under ends => isOwn_of_advance under ends

end State

end Sqlite

/-! ### Both drivers -/

end TableGateway
