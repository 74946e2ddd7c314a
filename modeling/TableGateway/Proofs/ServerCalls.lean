/-
This file follows a statement on a server that is waited for, and so is alone on its
handle. It looks for a pool and creates one if there is none, takes a connection, opens a
cursor, runs and leaves; each way in which that ends has its own events and outcome, and
the pool that it leaves has all its connections free.
-/

import TableGateway.Proofs.Reporting
import TableGateway.Proofs.ServerTasks

namespace TableGateway.MySql

namespace Pool

/-- A pool whose connections are all free. -/
def idle (maximum size : Nat) : Pool :=
  ⟨maximum, size, size, []⟩

theorem isExhausted_idle {maximum : Nat} (can : 0 < maximum) (size : Nat) :
    (idle maximum size).isExhausted = false := by
  refine Bool.eq_false_iff.mpr fun exhausted => ?_
  obtain ⟨empty, full⟩ := Bool.and_eq_true_iff.mp exhausted
  have none : size = 0 := eq_of_beq empty
  have grown : maximum ≤ size := of_decide_eq_true full
  omega

theorem take_idle (maximum size : Nat) :
    (idle maximum size).take = ⟨maximum, size - 1 + 1, size - 1, []⟩ := by
  cases size <;> rfl

end Pool

/-- The parameters that some values are bound as. -/
def parametersOf (values : List Value) : Option (List Value) :=
  if values.isEmpty then none else some values

namespace State

/-- The events that the database has seen. -/
def seen (state : State) : List Event :=
  state.backend.events

/-- A handle with one statement, which is in a phase. -/
def lone (settings : Settings) (pool : Option Pool) (holder : Option Nat) (phase : Phase)
    (backend : Backend) : State :=
  ⟨⟨settings, pool, holder, [], 0, 0, [⟨0, phase⟩]⟩, backend⟩

/-- A statement that is alone comes to an outcome with so many turns; these events are seen on the
way, and it leaves a pool. -/
def Comes (settings : Settings) (pool : Option Pool) (holder : Option Nat) (phase : Phase)
    (backend : Backend) (fuel : Nat) (events : List Event) (left : Option Pool)
    (outcome : Except Failure Reply) : Prop :=
  ∃ after, turns.Rests seen 0 fuel events (lone settings pool holder phase backend)
    (lone settings left none (.finished outcome) after)

variable {settings : Settings} {pool left : Option Pool} {holder : Option Nat} {phase : Phase}
  {backend : Backend} {fuel maximum size : Nat} {events : List Event}
  {outcome : Except Failure Reply} {bound : Bound} {error : DriverError}

/-- A statement goes on by one step, which is not its last. -/
theorem Comes.step (first : List Event) {next : Option Pool} {locks : Option Nat} {later : Phase}
    {after : Backend} (comes : Comes settings next locks later after fuel events left outcome)
    (moves : (lone settings pool holder phase backend).advance 0 =
      lone settings next locks later after)
    (sees : after.events = backend.events ++ first)
    (going : (lone settings next locks later after).standing 0 = .ready ∨
      (lone settings next locks later after).standing 0 = .yielding) :
    Comes settings pool holder phase backend (fuel + 1) (first ++ events) left outcome := by
  obtain ⟨last, rests⟩ := comes
  exact ⟨last, .go moves rfl going sees rests⟩

/-- A statement takes its last step. -/
theorem Comes.last (spare : Nat) (after : Backend)
    (moves : (lone settings pool holder phase backend).advance 0 =
      lone settings left none (.finished outcome) after)
    (sees : after.events = backend.events ++ events) :
    Comes settings pool holder phase backend (spare + 1) events left outcome :=
  ⟨after, .rest spare moves rfl rfl sees⟩

/-! ### A connection in hand -/

/-- A statement that leaves gives its connection back. -/
theorem comes_leaving (settings : Settings) (backend : Backend) (spare maximum size free : Nat)
    (bound : Bound) (ran : Ran) :
    Comes settings (some ⟨maximum, size, free, []⟩) none (.leaving bound ran) backend (spare + 1)
      [.release] (some ⟨maximum, size, free + 1, []⟩)
      (ran.mapError fun error => error.surfaced (.executing bound.sql) (isDuplicate error)) := by
  cases ran with
  | ok reply => exact .last spare _ rfl rfl
  | error error => cases error <;> exact .last spare _ rfl rfl

/-- What a statement comes to when the database runs it. -/
def ranOf : Execution → Ran
  | .failed error => .error error
  | .failedFetch error => .error error
  | .answered rows columns affected insertId => .ok (replyOf rows columns affected insertId)

/-- A statement that has a cursor runs, closes it and leaves. -/
theorem comes_cursorOpen (settings : Settings) (backend : Backend) (spare maximum size free : Nat)
    (bound : Bound) :
    Comes settings (some ⟨maximum, size, free, []⟩) none (.cursorOpen bound) backend (spare + 2)
      [.execute bound.sql bound.parameters, .closeCursor, .release]
      (some ⟨maximum, size, free + 1, []⟩)
      ((ranOf backend.execute.1).mapError fun error =>
        error.surfaced (.executing bound.sql) (isDuplicate error)) := by
  refine .step [.execute bound.sql bound.parameters, .closeCursor] (comes_leaving settings
    ((backend.execute.2.emit (.execute bound.sql bound.parameters)).emit .closeCursor)
    spare maximum size free bound _) ?_ ?_ (.inl rfl)
  · change State.run _ 0 bound = _
    have execution := backend.execute_emit (.execute bound.sql bound.parameters)
    unfold run
    simp only [lone, State.emit, execution]
    split <;> rename_i is <;> rw [is] <;> rfl
  · have same := backend.events_execute
    simp only [Backend.emit, same, List.append_assoc, List.cons_append, List.nil_append]

/-- A statement whose cursor cannot be opened leaves at once. -/
theorem comes_connected_of_raises (raises : backend.Raises error .cursor) (settings : Settings)
    (spare maximum size free : Nat) (bound : Bound) :
    Comes settings (some ⟨maximum, size, free, []⟩) none (.connected bound) backend (spare + 2)
      [.release] (some ⟨maximum, size, free + 1, []⟩)
      (.error (error.surfaced (.executing bound.sql) (isDuplicate error))) := by
  obtain ⟨rest, raised⟩ := raises.errorAt_eq
  refine .step [] (comes_leaving settings { backend with script := rest } spare maximum size free
    bound (.error error)) ?_ (List.append_nil _).symm (.inl rfl)
  change State.openCursor _ 0 bound = _
  unfold openCursor
  dsimp only [lone]
  rw [raised]
  rfl

/-- A statement that has a connection opens a cursor, runs, closes it and leaves. -/
theorem comes_connected (quiet : ∀ error, ¬backend.Raises error .cursor) (settings : Settings)
    (spare maximum size free : Nat) (bound : Bound) :
    Comes settings (some ⟨maximum, size, free, []⟩) none (.connected bound) backend (spare + 3)
      [.execute bound.sql bound.parameters, .closeCursor, .release]
      (some ⟨maximum, size, free + 1, []⟩)
      ((ranOf backend.execute.1).mapError fun error =>
        error.surfaced (.executing bound.sql) (isDuplicate error)) := by
  refine .step [] (comes_cursorOpen settings backend spare maximum size free bound) ?_
    (List.append_nil _).symm (.inl rfl)
  change State.openCursor _ 0 bound = _
  unfold openCursor
  dsimp only [lone]
  rw [Backend.errorAt_of_not_raises quiet]
  rfl

/-! ### A pool in hand -/

/-- A statement that gets no connection is over. -/
theorem comes_needsConnection_of_raises (raises : backend.Raises error .acquire)
    (can : 0 < maximum) (settings : Settings) (size spare : Nat) (bound : Bound) :
    Comes settings (some (.idle maximum size)) none (.needsConnection bound) backend (spare + 1)
      [] (some (.idle maximum size))
      (.error (error.surfaced (.executing bound.sql) (isDuplicate error))) := by
  obtain ⟨rest, raised⟩ := raises.errorAt_eq
  have free := Pool.isExhausted_idle can size
  have moves : (lone settings (some (.idle maximum size)) none (.needsConnection bound)
      backend).advance 0 = State.fail (lone settings (some (.idle maximum size)) none
        (.needsConnection bound) { backend with script := rest }) 0 bound error := by
    change (lone settings (some (.idle maximum size)) none (.needsConnection bound)
      backend).seekConnection 0 bound = _
    unfold seekConnection
    dsimp only [lone]
    rw [free, raised]
    rfl
  cases error <;> exact .last spare _ moves (List.append_nil _).symm

/-- A statement that takes a free connection goes on with it. -/
theorem comes_needsConnection (quiet : ∀ error, ¬backend.Raises error .acquire)
    (can : 0 < maximum)
    (comes : ∀ after, after.script = backend.script →
      Comes settings (some ⟨maximum, size - 1 + 1, size - 1, []⟩) none (.connected bound) after
        fuel events left outcome) :
    Comes settings (some (.idle maximum size)) none (.needsConnection bound) backend (fuel + 1)
      (.acquire :: events) left outcome := by
  have free := Pool.isExhausted_idle can size
  refine .step [.acquire] (comes ((backend.emit .acquire).say .debug
    "Acquired connection from pool.") rfl) ?_ rfl (.inl rfl)
  change (lone settings (some (.idle maximum size)) none (.needsConnection bound)
    backend).seekConnection 0 bound = _
  unfold seekConnection
  dsimp only [lone]
  rw [free, Backend.errorAt_of_not_raises quiet, Pool.take_idle]
  rfl

/-! ### Looking for a pool -/

/-- The events by which a statement comes to a pool: it creates one if there is none. -/
def opening (settings : Settings) (pool : Option Pool) : List Event :=
  if pool.isSome then [] else [.createPool (Handle.poolParameters settings)]

variable {sql : String} {arguments values : List Value}

/-- A statement whose arguments can be bound looks for the pool. -/
theorem comes_arrived (passed : arguments.mapM bindable = .ok values)
    (comes : ∀ after, after.script = backend.script →
      Comes settings pool none (.needsPool ⟨sql, parametersOf values⟩) after fuel events left
        outcome) :
    Comes settings pool none (.arrived sql arguments) backend (fuel + 1) events left outcome := by
  refine .step [] (comes (backend.say .debug ("Executing: SQL='" ++ sql ++ "', Params=" ++
    (((parametersOf values).map Value.list).getD .null).literal)) rfl) ?_
    (List.append_nil _).symm (.inl rfl)
  change (lone settings pool none (.arrived sql arguments) backend).arrive 0 sql arguments = _
  unfold arrive
  rw [passed]
  rfl

/-- Without a pool, a statement asks for one under the lock. -/
theorem comes_needsPool
    (comes : ∀ after, after.script = backend.script →
      Comes settings none (some 0) (.creating bound) after fuel events left outcome) :
    Comes settings none none (.needsPool bound) backend (fuel + 2)
      (.createPool (Handle.poolParameters settings) :: events) left outcome := by
  have locked : Comes settings none (some 0) (.locked bound) backend (fuel + 1)
      (.createPool (Handle.poolParameters settings) :: events) left outcome :=
    .step [.createPool (Handle.poolParameters settings)] (comes ((backend.say .info
      ("Creating connection pool for " ++ settings.safeUri)).emit
        (.createPool (Handle.poolParameters settings))) rfl) rfl rfl (.inr rfl)
  exact .step [] locked rfl (List.append_nil _).symm (.inl rfl)

theorem comes_creating_of_raises (raises : backend.Raises error .create) (settings : Settings)
    (spare : Nat) (bound : Bound) :
    Comes settings none (some 0) (.creating bound) backend (spare + 1) [] none
      (.error (error.reported (.connecting settings.safeUri) (isDuplicate error))) := by
  obtain ⟨rest, raised⟩ := raises.errorAt_eq
  refine .last spare ({ backend with script := rest }.say .error ("Error during " ++
    (DriverWork.connecting settings.safeUri).text ++ ": " ++ error.text)) ?_
    (List.append_nil _).symm
  change (lone settings none (some 0) (.creating bound) backend).created 0 bound = _
  unfold created
  dsimp only [lone]
  rw [raised]
  rfl

theorem comes_creating (quiet : ∀ error, ¬backend.Raises error .create)
    (comes : Comes settings (some (.create settings.connectionLimit)) none
      (.needsConnection bound) backend fuel events left outcome) :
    Comes settings none (some 0) (.creating bound) backend (fuel + 1) events left outcome := by
  refine .step [] comes ?_ (List.append_nil _).symm (.inl rfl)
  change (lone settings none (some 0) (.creating bound) backend).created 0 bound = _
  unfold created
  dsimp only [lone]
  rw [Backend.errorAt_of_not_raises quiet]
  rfl

/-- A statement that comes to a pool has it, or has created it. -/
theorem comes_pooled {mine : Pool} (passed : arguments.mapM bindable = .ok values)
    (hand : pool.getD (.create settings.connectionLimit) = mine)
    (quiet : pool = none → ∀ error, ¬backend.Raises error .create)
    (comes : ∀ spare after, after.script = backend.script →
      Comes settings (some mine) none (.needsConnection ⟨sql, parametersOf values⟩) after
        (spare + fuel) events left outcome) :
    Comes settings pool none (.arrived sql arguments) backend (fuel + 4)
      (opening settings pool ++ events) left outcome := by
  subst hand
  -- creating the pool takes two turns that are to spare where there is one
  refine comes_arrived passed fun after script => ?_
  cases pool with
  | none =>
    refine comes_needsPool fun later still => ?_
    have script : later.script = backend.script := still.trans script
    have calm : ∀ error, ¬later.Raises error .create := fun error raises =>
      quiet rfl error ((Backend.raises_iff script error _).mp raises)
    exact comes_creating calm (Nat.zero_add fuel ▸ comes 0 later script)
  | some pool =>
    have rests := comes 2 after script
    rw [Nat.add_comm] at rests
    exact .step [] rests rfl (List.append_nil _).symm (.inl rfl)

/-! ### A statement that is waited for -/

/-- A statement that is waited for comes to an outcome, and leaves a pool; the database sees these
events meanwhile. -/
def Gives (settings : Settings) (pool : Option Pool) (backend : Backend) (sql : String)
    (arguments : List Value) (events : List Event) (left : Option Pool)
    (outcome : Except Failure Reply) : Prop :=
  ∃ after : Backend,
    (⟨.create settings pool, backend⟩ : State).statement sql arguments =
        (outcome, ⟨.create settings left, after⟩) ∧
      after.events = backend.events ++ events

/-- A statement that is waited for is alone on its handle. -/
theorem statement_eq_of_rests {after : Backend} (rests : turns.Rests seen 0
      (Tasks.longestTask * 2) events (lone settings pool none (.arrived sql arguments) backend)
      (lone settings left none (.finished outcome) after)) :
    (⟨.create settings pool, backend⟩ : State).statement sql arguments =
      (outcome, ⟨.create settings left, after⟩) := by
  have settled := rests.settle_eq
  change (((turns.settle (Tasks.longestTask * 2) [0] (lone settings pool none
      (.arrived sql arguments) backend)).outcome? 0).getD _,
    (turns.settle (Tasks.longestTask * 2) [0] (lone settings pool none
      (.arrived sql arguments) backend)).forget 0) = _
  rw [settled]
  rfl

/-- Arguments that cannot be bound leave everything as it was. -/
theorem statement_refused {failure : Failure} (refused : arguments.mapM bindable = .error failure)
    (settings : Settings) (pool : Option Pool) (backend : Backend) (sql : String) :
    (⟨.create settings pool, backend⟩ : State).statement sql arguments =
      (.error failure, ⟨.create settings pool, backend⟩) := by
  refine statement_eq_of_rests (.rest 23 ?_ rfl rfl (List.append_nil _).symm)
  change (lone settings pool none (.arrived sql arguments) backend).arrive 0 sql arguments = _
  unfold arrive
  rw [refused]
  rfl

theorem Comes.gives (comes : Comes settings pool none (.arrived sql arguments) backend
    (Tasks.longestTask * 2) events left outcome) :
    Gives settings pool backend sql arguments events left outcome := by
  obtain ⟨after, rests⟩ := comes
  exact ⟨after, statement_eq_of_rests rests, rests.seen_eq⟩

/-! ### How a statement goes -/

/-- The pool could not be created. -/
theorem gives_uncreated (passed : arguments.mapM bindable = .ok values)
    (raises : backend.Raises error .create) (settings : Settings) (sql : String) :
    Gives settings none backend sql arguments [.createPool (Handle.poolParameters settings)] none
      (.error (error.reported (.connecting settings.safeUri) (isDuplicate error))) := by
  refine Comes.gives (comes_arrived passed fun after script =>
    comes_needsPool fun later still => ?_)
  have raises : later.Raises error .create :=
    (Backend.raises_iff (still.trans script) error _).mpr raises
  exact comes_creating_of_raises raises settings 20 _

section

variable (passed : arguments.mapM bindable = .ok values)
  (hand : pool.getD (.create settings.connectionLimit) = .idle maximum size) (can : 0 < maximum)
  (sql : String)
include passed hand can

/-- The pool gave no connection. -/
theorem gives_unacquired (raises : backend.Raises error .acquire) :
    Gives settings pool backend sql arguments (opening settings pool ++ [])
      (some (.idle maximum size))
      (.error (error.surfaced (.executing sql) (isDuplicate error))) := by
  refine Comes.gives (comes_pooled passed hand (fun _ => raises.not_raises nofun)
    fun spare after script => ?_)
  have raises : after.Raises error .acquire := (Backend.raises_iff script error _).mpr raises
  exact comes_needsConnection_of_raises raises can settings size (spare + 19) _

/-- The connection gave no cursor. -/
theorem gives_cursorless (raises : backend.Raises error .cursor) :
    Gives settings pool backend sql arguments (opening settings pool ++ [.acquire, .release])
      (some (.idle maximum (size - 1 + 1)))
      (.error (error.surfaced (.executing sql) (isDuplicate error))) := by
  refine Comes.gives (comes_pooled passed hand (fun _ => raises.not_raises nofun)
    fun spare after script => ?_)
  have raises : after.Raises error .cursor := (Backend.raises_iff script error _).mpr raises
  refine comes_needsConnection (raises.not_raises nofun) can fun later still => ?_
  have raises : later.Raises error .cursor := (Backend.raises_iff still error _).mpr raises
  exact comes_connected_of_raises raises settings (spare + 17) maximum _ _ _

/-- The statement was run. -/
theorem gives_ran (uncreated : pool = none → ∀ error, ¬backend.Raises error .create)
    (unacquired : ∀ error, ¬backend.Raises error .acquire)
    (cursorless : ∀ error, ¬backend.Raises error .cursor) :
    Gives settings pool backend sql arguments
      (opening settings pool ++
        [.acquire, .execute sql (parametersOf values), .closeCursor, .release])
      (some (.idle maximum (size - 1 + 1)))
      ((ranOf backend.execute.1).mapError fun error =>
        error.surfaced (.executing sql) (isDuplicate error)) := by
  refine Comes.gives (comes_pooled passed hand uncreated fun spare after script => ?_)
  have unacquired : ∀ error, ¬after.Raises error .acquire := fun error raises =>
    unacquired error ((Backend.raises_iff script error _).mp raises)
  refine comes_needsConnection unacquired can fun later still => ?_
  have script : later.script = backend.script := still.trans script
  have cursorless : ∀ error, ¬later.Raises error .cursor := fun error raises =>
    cursorless error ((Backend.raises_iff script error _).mp raises)
  have same : later.execute.1 = backend.execute.1 := Backend.execute_congr script
  exact same ▸ comes_connected cursorless settings (spare + 16) maximum _ _ _

end

end State

end TableGateway.MySql
