/-
This file is about the handle of a server on which each statement is waited for. Whatever
was done before and whatever comes up, a statement gives back what it took: its cursor is
closed and its connection given back, once each and in this order, and between statements
the pool has all its connections.
-/

import TableGateway.Proofs.ServerCalls

namespace TableGateway

/-! ### The limit of connections -/

namespace Settings

theorem le_of_readAtLeast {least number : Nat} {value : Value}
    (reads : readAtLeast least value = .ok number) : least ≤ number := by
  unfold readAtLeast at reads
  cases integer : readInteger value with
  | error fault =>
    rw [integer] at reads
    cases reads
  | ok read =>
    rw [integer] at reads
    change (if read < least then Except.error (SettingFault.below least)
      else Except.ok read.toNat) = _ at reads
    split at reads
    · cases reads
    · cases reads
      omega

/-- The value of a setting is its default, or what its reader gave. -/
theorem of_read {Result : Type} {sources : Sources} {name : String} {fallback result : Result}
    {reader : Value → Except SettingFault Result}
    (reads : sources.read name fallback reader = .ok result) :
    result = fallback ∨ ∃ value, reader value = .ok result := by
  unfold Sources.read at reads
  split at reads
  · cases reads
    exact .inl rfl
  · rename_i value _
    cases given : reader value with
    | error fault =>
      rw [given] at reads
      cases reads
    | ok read =>
      rw [given] at reads
      cases reads
      exact .inr ⟨value, given⟩

/-- Settings that were read allow for a connection. -/
theorem connectionLimit_pos {sources : Sources} {settings : Settings}
    (loads : Settings.load sources = .ok settings) : 0 < settings.connectionLimit := by
  unfold load at loads
  split at loads
  · cases loads
  · dsimp only [bind, Except.bind, pure, Except.pure] at loads
    split at loads
    · rename_i reads _
      cases loads
      rcases of_read reads with default | ⟨value, given⟩
      · rw [default]
        exact Nat.succ_pos 19
      · exact le_of_readAtLeast given
    · cases loads

end Settings

namespace MySql.State

/-! ### Between statements -/

/-- What is done next with the handle, when each statement is waited for. -/
def call (state : State) : Call → State
  | .statement sql arguments => (state.statement sql arguments).2
  | .close => state.close
  | .script outcomes => { state with backend := state.backend.told outcomes }

/-- What is done, one thing after another. -/
def calls (state : State) (done : List Call) : State :=
  done.foldl call state

/-- No statement is under way, and the pool, if there is one, has all its connections. -/
inductive AtRest : State → Prop where
  | of {settings : Settings} (can : 0 < settings.connectionLimit) {pool : Option Pool}
      (idle : ∀ given, pool = some given → ∃ maximum size, 0 < maximum ∧
        given = .idle maximum size)
      (backend : Backend) : AtRest ⟨.create settings pool, backend⟩

variable {settings : Settings} {pool : Option Pool} {state : State}

/-- The pool in hand, or the one that is created, has all its connections. -/
theorem exists_idle (can : 0 < settings.connectionLimit)
    (idle : ∀ given, pool = some given → ∃ maximum size, 0 < maximum ∧
      given = .idle maximum size) :
    ∃ maximum size, 0 < maximum ∧
      pool.getD (.create settings.connectionLimit) = .idle maximum size := by
  cases pool with
  | none => exact ⟨settings.connectionLimit, min 1 settings.connectionLimit, can, rfl⟩
  | some given => exact idle given rfl

/-- A statement creates a pool first if there is none, fails with a failure of the library's own
only, and leaves no pool, or one with all its connections. -/
theorem exists_gives {arguments values : List Value} {maximum size : Nat}
    (passed : arguments.mapM bindable = .ok values) (can : 0 < maximum)
    (hand : pool.getD (.create settings.connectionLimit) = .idle maximum size)
    (backend : Backend) (sql : String) :
    ∃ events left outcome,
      Gives settings pool backend sql arguments (opening settings pool ++ events) left outcome ∧
        (∀ given, left = some given → ∃ size, given = .idle maximum size) ∧
          ∀ failure, outcome = .error failure → failure.IsOwn := by
  -- one error at most comes up, at the first stage that the statement reaches and it belongs to
  by_cases uncreated : pool = none ∧ ∃ error, backend.Raises error .create
  · obtain ⟨rfl, error, raises⟩ := uncreated
    refine ⟨[], _, _, gives_uncreated passed raises settings sql, nofun, ?_⟩
    rintro _ ⟨⟩
    exact error.isOwn_reported _ _
  have created : pool = none → ∀ error, ¬backend.Raises error .create :=
    fun none error raises => uncreated ⟨none, error, raises⟩
  by_cases unacquired : ∃ error, backend.Raises error .acquire
  · obtain ⟨error, raises⟩ := unacquired
    refine ⟨_, _, _, gives_unacquired passed hand can sql raises,
      fun given is => ⟨_, (Option.some.inj is).symm⟩, ?_⟩
    rintro _ ⟨⟩
    exact error.isOwn_surfaced _ _
  by_cases cursorless : ∃ error, backend.Raises error .cursor
  · obtain ⟨error, raises⟩ := cursorless
    refine ⟨_, _, _, gives_cursorless passed hand can sql raises,
      fun given is => ⟨_, (Option.some.inj is).symm⟩, ?_⟩
    rintro _ ⟨⟩
    exact error.isOwn_surfaced _ _
  · exact ⟨_, _, _, gives_ran passed hand can sql created (not_exists.mp unacquired)
      (not_exists.mp cursorless), fun given is => ⟨_, (Option.some.inj is).symm⟩,
      fun failure is => DriverError.isOwn_mapError is⟩

theorem AtRest.call (rests : state.AtRest) (next : Call) : (state.call next).AtRest := by
  obtain ⟨can, idle, backend⟩ := rests
  cases next with
  | statement sql arguments =>
    cases passed : arguments.mapM bindable with
    | error failure =>
      rw [State.call, statement_refused passed]
      exact .of can idle backend
    | ok values =>
      obtain ⟨maximum, size, able, hand⟩ := exists_idle can idle
      obtain ⟨events, left, outcome, ⟨after, gives, _⟩, free, _⟩ :=
        exists_gives passed able hand backend sql
      rw [State.call, gives]
      refine .of can (fun given is => ?_) after
      obtain ⟨size, is⟩ := free given is
      exact ⟨maximum, size, able, is⟩
  | close =>
    rename_i settings pool
    have none : ∀ given, (none : Option Pool) = some given → ∃ maximum size, 0 < maximum ∧
        given = .idle maximum size := fun _ is => nomatch is
    cases pool with
    | none => exact .of can none backend
    | some given => exact .of can none _
  | script outcomes => exact .of can idle (backend.told outcomes)

theorem AtRest.calls (rests : state.AtRest) (done : List Call) : (state.calls done).AtRest := by
  induction done generalizing state with
  | nil => exact rests
  | cons next later inductionHypothesis => exact inductionHypothesis (rests.call next)

theorem atRest_start (can : 0 < settings.connectionLimit) {given : Option Nat}
    (able : ∀ maximum, given = some maximum → 0 < maximum) (backend : Backend) :
    (start settings given backend).AtRest := by
  refine .of can (fun pool is => ?_) backend
  obtain ⟨maximum, given, rfl⟩ := Option.map_eq_some_iff.mp is
  exact ⟨maximum, min 1 maximum, able maximum given, rfl⟩

/-! ### Giving back -/

/-- What the handle of a server does when no statement is under way. A statement creates a pool if
there is none; who gets no pool, or no connection, does no more; who gets a connection gives it
back last, and closes its cursor before that if it got one. -/
structure TidiesUp (state : State) : Prop where
  refuses : ∀ sql arguments failure, arguments.mapM bindable = .error failure →
    state.call (.statement sql arguments) = state
  uncreated : ∀ sql arguments values error, arguments.mapM bindable = .ok values →
    state.handle.pool = none → state.backend.Raises error .create →
      (state.call (.statement sql arguments)).seen =
          state.seen ++ [.createPool (Handle.poolParameters state.handle.settings)] ∧
        (state.call (.statement sql arguments)).handle.pool = none
  creates : ∀ sql arguments values, arguments.mapM bindable = .ok values →
    state.handle.pool = none →
      ∃ events, (state.call (.statement sql arguments)).seen = state.seen ++
        .createPool (Handle.poolParameters state.handle.settings) :: events
  unacquired : ∀ sql arguments values error, arguments.mapM bindable = .ok values →
    state.backend.Raises error .acquire →
      (state.call (.statement sql arguments)).seen =
          state.seen ++ opening state.handle.settings state.handle.pool ∧
        (state.call (.statement sql arguments)).handle.pool.isSome = true
  cursorless : ∀ sql arguments values error, arguments.mapM bindable = .ok values →
    state.backend.Raises error .cursor →
      (state.call (.statement sql arguments)).seen =
          state.seen ++ opening state.handle.settings state.handle.pool ++ [.acquire, .release] ∧
        (state.call (.statement sql arguments)).handle.pool.isSome = true
  runs : ∀ sql arguments values, arguments.mapM bindable = .ok values →
    (state.handle.pool = none → ∀ error, ¬state.backend.Raises error .create) →
    (∀ error, ¬state.backend.Raises error .acquire) →
    (∀ error, ¬state.backend.Raises error .cursor) →
      (state.call (.statement sql arguments)).seen =
          state.seen ++ opening state.handle.settings state.handle.pool ++
            [.acquire, .execute sql (parametersOf values), .closeCursor, .release] ∧
        (state.call (.statement sql arguments)).handle.pool.isSome = true
  frees : ∀ next pool, (state.call next).handle.pool = some pool →
    pool.free = pool.size ∧ pool.waiting = []
  closes : state.handle.pool.isSome = true →
    (state.call .close).seen = state.seen ++ [.closePool, .waitClosed] ∧
      (state.call .close).handle.pool = none
  closed : state.handle.pool = none → state.call .close = state

/-- The events and the pool of a statement that is waited for. -/
theorem Gives.call_eq {backend : Backend} {sql : String} {arguments : List Value}
    {events : List Event} {left : Option Pool} {outcome : Except Failure Reply}
    (gives : Gives settings pool backend sql arguments events left outcome) :
    (call ⟨.create settings pool, backend⟩ (.statement sql arguments)).seen =
        backend.events ++ events ∧
      (call ⟨.create settings pool, backend⟩ (.statement sql arguments)).handle.pool = left := by
  obtain ⟨after, gives, sees⟩ := gives
  rw [call, gives]
  exact ⟨sees, rfl⟩

/-- All connections of a pool are free when no statement is under way. -/
theorem AtRest.frees (rests : state.AtRest) {pool : Pool} (is : state.handle.pool = some pool) :
    pool.free = pool.size ∧ pool.waiting = [] := by
  obtain ⟨_, idle, _⟩ := rests
  obtain ⟨maximum, size, _, rfl⟩ := idle pool is
  exact ⟨rfl, rfl⟩

theorem AtRest.tidiesUp (rests : state.AtRest) : state.TidiesUp := by
  have after := fun next => rests.call next
  obtain ⟨can, idle, backend⟩ := rests
  rename_i settings pool
  obtain ⟨maximum, size, able, hand⟩ := exists_idle can idle
  have isSome {size : Nat} {left : Option Pool} (is : left = some (.idle maximum size)) :
      left.isSome = true := is ▸ rfl
  refine ⟨?refuses, ?uncreated, ?creates, ?unacquired, ?cursorless, ?runs,
    fun next pool is => (after next).frees is, ?closes, ?closed⟩
  case refuses =>
    intro sql arguments failure refused
    rw [State.call, statement_refused refused]
  case uncreated =>
    rintro sql arguments values error passed rfl raises
    exact (gives_uncreated passed raises settings sql).call_eq
  case creates =>
    rintro sql arguments values passed rfl
    obtain ⟨events, left, outcome, gives, _⟩ := exists_gives passed able hand backend sql
    exact ⟨events, gives.call_eq.1⟩
  case unacquired =>
    intro sql arguments values error passed raises
    obtain ⟨sees, left⟩ := (gives_unacquired passed hand able sql raises).call_eq
    rw [List.append_nil] at sees
    exact ⟨sees, isSome left⟩
  case cursorless =>
    intro sql arguments values error passed raises
    obtain ⟨sees, left⟩ := (gives_cursorless passed hand able sql raises).call_eq
    rw [← List.append_assoc] at sees
    exact ⟨sees, isSome left⟩
  case runs =>
    intro sql arguments values passed uncreated unacquired cursorless
    obtain ⟨sees, left⟩ :=
      (gives_ran passed hand able sql uncreated unacquired cursorless).call_eq
    rw [← List.append_assoc] at sees
    exact ⟨sees, isSome left⟩
  case closes =>
    intro has
    cases pool with
    | none => cases has
    | some given => exact ⟨List.append_assoc _ _ _, rfl⟩
  case closed =>
    rintro rfl
    rfl

/-- Whatever was done before, the handle of a server leaks neither a connection nor a cursor.
Settings that were read allow for a connection; a pool that may have none keeps its callers waiting.
-/
theorem calls_tidiesUp (can : 0 < settings.connectionLimit) {given : Option Nat}
    (able : ∀ maximum, given = some maximum → 0 < maximum) (backend : Backend)
    (done : List Call) : ((start settings given backend).calls done).TidiesUp :=
  ((atRest_start can able backend).calls done).tidiesUp

/-- With the default settings, a pool of two connections is given and closed; the next statement
creates another one, gets no cursor, and gives its connection back. -/
theorem calls_tidiesUp_default :
    (((start .default (some 2) ⟨[.failure (.foreign .operational []) .cursor], [], []⟩).calls
        [.close]).call (.statement "SELECT 1" [])).seen =
      [.closePool, .waitClosed, .createPool (Handle.poolParameters .default), .acquire,
        .release] := by
  have can : 0 < Settings.default.connectionLimit :=
    Settings.connectionLimit_pos (show Settings.load ⟨[], [], []⟩ = .ok .default from rfl)
  have able : ∀ maximum, some 2 = some maximum → 0 < maximum := by
    rintro _ ⟨⟩
    exact Nat.two_pos
  exact ((calls_tidiesUp can able _ [.close]).cursorless "SELECT 1" [] []
    (.foreign .operational []) rfl ⟨[], rfl⟩).1

end MySql.State

end TableGateway
