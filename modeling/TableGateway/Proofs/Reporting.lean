/-
This file is about what can go wrong with a statement before and while a driver runs it.
Binding its arguments passes, or refuses them; an error that the driver raises is at the
head of what the database will answer, and is reported in one way, or passed through where
it is the library's own.
-/

import TableGateway.Proofs.Refusal
import TableGateway.Sqlite.Placeholders

namespace TableGateway

/-! ### Binding -/

theorem onlyRefuses_mapM {Item Result : Type} {each : Item → Except Failure Result}
    (only : ∀ item, OnlyRefuses (each item)) (items : List Item) :
    OnlyRefuses (items.mapM each) := by
  induction items with
  | nil => exact .passes []
  | cons item rest inductionHypothesis =>
    rw [List.mapM_cons]
    exact (only item).bind fun _ => inductionHypothesis.bind fun _ => .passes _

theorem onlyRefuses_bindable (value : Value) : OnlyRefuses (bindable value) := by
  unfold bindable
  split
  · exact (onlyRefuses_orRefuse _).map Value.text
  · exact (onlyRefuses_orRefuse _).map Value.text
  · exact .passes _

theorem onlyRefuses_storable (value : Value) : OnlyRefuses (storable value) := by
  unfold storable
  split
  · exact .passes _
  · exact .passes _
  · exact .passes _
  · exact onlyRefuses_bindable _

namespace Sqlite

theorem onlyRefuses_placed (argument : Value) : OnlyRefuses (placed argument) := by
  unfold placed
  split
  · exact (onlyRefuses_mapM onlyRefuses_storable _).bind fun _ => .passes _
  · exact (onlyRefuses_storable _).bind fun _ => .passes _

theorem onlyRefuses_bindPlaces (sql : String) (given : Nat) (quote : Option Char)
    (text : List Char) (arguments : List Value) :
    OnlyRefuses (bindPlaces sql given quote text arguments) := by
  induction text generalizing quote arguments with
  | nil =>
    cases arguments with
    | nil => cases quote <;> exact .passes _
    | cons argument others => cases quote <;> exact .refuses _
  | cons character rest inductionHypothesis =>
    cases quote with
    | some mark => exact (inductionHypothesis _ _).bind fun _ => .passes _
    | none =>
      unfold bindPlaces
      split
      · exact (inductionHypothesis _ _).bind fun _ => .passes _
      · split
        · cases arguments with
          | nil => exact .refuses _
          | cons argument others =>
            exact (onlyRefuses_placed argument).bind fun _ =>
              (inductionHypothesis _ _).bind fun _ => .passes _
        · exact (inductionHypothesis _ _).bind fun _ => .passes _

/-- Binding arguments to the places of a statement passes, or refuses them. -/
theorem onlyRefuses_expand (sql : String) (arguments : List Value) :
    OnlyRefuses (expand sql arguments) :=
  (onlyRefuses_bindPlaces sql _ none _ arguments).bind fun _ => .passes _

end Sqlite

/-! ### Errors of a driver -/

/-- The failure that a driver's error is reported as. -/
def DriverError.reported (error : DriverError) (work : DriverWork) (duplicate : Bool) : Failure :=
  if duplicate then .duplicateKey work error.text else .driver work error.text

/-- The failure that a caller sees of an error that comes up while a statement runs. -/
def DriverError.surfaced (error : DriverError) (work : DriverWork) (duplicate : Bool) : Failure :=
  match error with
  | .own report => .raised report
  | error => error.reported work duplicate

/-- No driver's error is told as too many callers that wait. -/
theorem DriverError.reported_ne_queueFull (error : DriverError) (work : DriverWork)
    (duplicate : Bool) (limit : Nat) (uri : String) :
    error.reported work duplicate ≠ .queueFull limit uri := by
  unfold reported
  split <;> nofun

theorem DriverError.surfaced_ne_queueFull (error : DriverError) (work : DriverWork)
    (duplicate : Bool) (limit : Nat) (uri : String) :
    error.surfaced work duplicate ≠ .queueFull limit uri := by
  unfold surfaced
  split
  · nofun
  · exact error.reported_ne_queueFull work duplicate limit uri

/-- A failure of the library's own, which has a report. -/
def Failure.IsOwn (failure : Failure) : Prop :=
  ∃ report, failure.report? = some report

theorem OnlyRefuses.isOwn {Result : Type} {checked : Except Failure Result} {failure : Failure}
    (only : OnlyRefuses checked) (refused : checked = .error failure) : failure.IsOwn := by
  cases only with
  | passes => cases refused
  | refuses fault =>
    cases refused
    exact ⟨_, rfl⟩

theorem DriverError.isOwn_reported (error : DriverError) (work : DriverWork)
    (duplicate : Bool) : (error.reported work duplicate).IsOwn := by
  cases duplicate <;> exact ⟨_, rfl⟩

theorem DriverError.isOwn_surfaced (error : DriverError) (work : DriverWork)
    (duplicate : Bool) : (error.surfaced work duplicate).IsOwn := by
  cases error with
  | own report => exact ⟨report, rfl⟩
  | foreign kind arguments => exact isOwn_reported _ work duplicate

/-- A statement that ran fails with a failure of the library's own only. -/
theorem DriverError.isOwn_mapError {Result : Type} {ran : Except DriverError Result}
    {work : DriverWork} {duplicate : DriverError → Bool} {failure : Failure}
    (fails : (ran.mapError fun error => error.surfaced work (duplicate error)) = .error failure) :
    failure.IsOwn := by
  cases ran with
  | ok result => cases fails
  | error error =>
    cases fails
    exact error.isOwn_surfaced _ _

namespace Backend

variable {backend : Backend} {stage : Stage}

theorem report_fst (backend : Backend) (work : DriverWork) (error : DriverError)
    (duplicate : Bool) : (backend.report work error duplicate).1 = error.reported work duplicate :=
  rfl

/-- The database raises an error at a stage. -/
def Raises (backend : Backend) (error : DriverError) (stage : Stage) : Prop :=
  ∃ rest, backend.script = .failure error stage :: rest

/-- What the database raises depends on what it will answer only. -/
theorem raises_iff {after : Backend} (same : after.script = backend.script)
    (error : DriverError) (stage : Stage) :
    after.Raises error stage ↔ backend.Raises error stage := by
  rw [Raises, Raises, same]

/-- An error comes up at a stage exactly if the database raises it there. -/
theorem errorAt_eq_some {error : DriverError} :
    (backend.errorAt stage).1 = some error ↔ backend.Raises error stage := by
  unfold errorAt Raises
  split
  · rename_i found at_ rest script
    split
    · rename_i same
      rw [script, same]
      simp
    · rename_i differs
      rw [script]
      simp [differs]
  · rename_i other
    exact ⟨nofun, fun ⟨rest, script⟩ => absurd script (other error stage rest)⟩

/-- Where no error comes up, the database is as it was. -/
theorem errorAt_eq_none (none : (backend.errorAt stage).1 = none) :
    backend.errorAt stage = (Option.none, backend) := by
  unfold errorAt at none ⊢
  split at none
  · split at none
    · cases none
    · rename_i differs
      rw [if_neg differs]
  · rfl

/-- A raised error is taken off what the database will answer. -/
theorem Raises.errorAt_eq {error : DriverError} (raises : backend.Raises error stage) :
    ∃ rest, backend.errorAt stage = (some error, { backend with script := rest }) := by
  obtain ⟨rest, script⟩ := raises
  refine ⟨rest, ?_⟩
  unfold errorAt
  rw [script]
  exact if_pos rfl

theorem errorAt_of_not_raises (quiet : ∀ error, ¬backend.Raises error stage) :
    backend.errorAt stage = (none, backend) :=
  errorAt_eq_none (Option.eq_none_iff_forall_ne_some.mpr fun error is =>
    quiet error (errorAt_eq_some.mp is))

theorem events_errorAt (backend : Backend) (stage : Stage) :
    (backend.errorAt stage).2.events = backend.events := by
  unfold errorAt
  split
  · split <;> rfl
  · rfl

theorem events_reportUnlessOwn (backend : Backend) (work : DriverWork) (error : DriverError)
    (duplicate : Bool) :
    (backend.reportUnlessOwn work error duplicate).2.events = backend.events := by
  cases error <;> rfl

/-- At one stage at a time an error is raised. -/
theorem Raises.not_raises {error : DriverError} (raises : backend.Raises error stage)
    {other : Stage} (differs : stage ≠ other) (another : DriverError) :
    ¬backend.Raises another other := by
  rintro ⟨_, script⟩
  obtain ⟨_, is⟩ := raises
  rw [is] at script
  injection script with same
  injection same with _ same
  exact differs same

/-! ### Running -/

/-- Running does not depend on what was done before. -/
theorem execute_emit (backend : Backend) (event : Event) :
    (backend.emit event).execute = (backend.execute.1, backend.execute.2.emit event) := by
  obtain ⟨script, events, log⟩ := backend
  unfold execute emit
  dsimp only
  split <;> rfl

theorem execute_congr {after : Backend} (same : after.script = backend.script) :
    after.execute.1 = backend.execute.1 := by
  obtain ⟨script, _, _⟩ := after
  obtain ⟨_, _, _⟩ := backend
  cases same
  unfold execute
  dsimp only
  split <;> rfl

theorem events_execute (backend : Backend) : backend.execute.2.events = backend.events := by
  unfold execute
  split <;> rfl

theorem execute_eq_failed {error : DriverError} :
    backend.execute.1 = .failed error ↔ backend.Raises error .execute := by
  unfold execute Raises
  split <;> simp_all

theorem execute_eq_failedFetch {error : DriverError} :
    backend.execute.1 = .failedFetch error ↔ backend.Raises error .fetch := by
  unfold execute Raises
  split <;> simp_all

end Backend

end TableGateway
