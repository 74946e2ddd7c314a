/-
This file is about the life of a database file's connection, when each statement on the
handle is waited for. The connection is opened by the first statement that needs it and
again by the first one after it was closed; nothing runs without it; and a cursor is
closed exactly if the statement could be executed.
-/

import TableGateway.Proofs.FileCalls

namespace TableGateway.Sqlite.State

/-- A handle with a connection given to it, or without. -/
def start (path : String) (connected : Bool) (backend : Backend) : State :=
  ⟨.create path connected, backend⟩

/-- What is done next with the handle, when each statement is waited for. -/
def call (state : State) : Call → State
  | .statement sql arguments => (state.statement sql arguments).2
  | .close => state.close
  | .script outcomes => { state with backend := state.backend.told outcomes }

/-- What is done, one thing after another. -/
def calls (state : State) (done : List Call) : State :=
  done.foldl call state

variable {path sql : String} {connected held : Bool} {backend : Backend} {state : State}
  {events : List Event} {arguments : List Value} {bound : Bound} {next : Call}

/-! ### The course of a call -/

/-- How a call goes: what it makes the database do, and whether the connection is open then. -/
inductive Course (path : String) (connected : Bool) (backend : Backend) :
    Call → List Event → Bool → Prop where
  | refused {sql : String} {arguments : List Value} {failure : Failure}
      (refused : expand sql arguments = .error failure) :
      Course path connected backend (.statement sql arguments) [] connected
  | unopened {sql : String} {arguments : List Value} {bound : Bound} {error : DriverError}
      (passed : expand sql arguments = .ok bound) (none : connected = false)
      (raises : backend.Raises error .opening) :
      Course path connected backend (.statement sql arguments) [.openFile path] false
  | ran {sql : String} {arguments : List Value} {bound : Bound}
      (passed : expand sql arguments = .ok bound)
      (quiet : connected = false → ∀ error, ¬backend.Raises error .opening) :
      Course path connected backend (.statement sql arguments)
        (opening path connected ++ running backend bound) true
  | closed (has : connected = true) : Course path connected backend .close [.close] false
  | idle (none : connected = false) : Course path connected backend .close [] false
  | told (outcomes : List Outcome) : Course path connected backend (.script outcomes) [] connected

/-- Every call goes in one of these ways, and leaves no statement under way. -/
theorem exists_course (path : String) (connected : Bool) (backend : Backend) (next : Call) :
    ∃ events held after, Course path connected backend next events held ∧
      (start path connected backend).call next = start path held after ∧
      after.events = backend.events ++ events := by
  cases next with
  | statement sql arguments =>
    cases passed : expand sql arguments with
    | error failure =>
      exact ⟨[], connected, backend, .refused passed,
        congrArg Prod.snd (statement_refused passed path connected backend),
        (List.append_nil _).symm⟩
    | ok bound =>
      by_cases raises : connected = false ∧ ∃ error, backend.Raises error .opening
      · obtain ⟨rfl, error, raises⟩ := raises
        obtain ⟨after, unopened, sees⟩ := gives_unopened passed path raises
        exact ⟨_, false, after, .unopened passed rfl raises, congrArg Prod.snd unopened, sees⟩
      · have quiet : connected = false → ∀ error, ¬backend.Raises error .opening :=
          fun none error fails => raises ⟨none, error, fails⟩
        obtain ⟨after, ran, sees⟩ := gives_ran passed path quiet
        exact ⟨_, true, after, .ran passed quiet, congrArg Prod.snd ran, sees⟩
  | close =>
    cases connected with
    | true => exact ⟨_, false, backend.emit .close, .closed rfl, rfl, rfl⟩
    | false => exact ⟨_, false, backend, .idle rfl, rfl, (List.append_nil _).symm⟩
  | script outcomes =>
    exact ⟨[], connected, backend.told outcomes, .told outcomes, rfl, (List.append_nil _).symm⟩

/-- A call that loses the connection closes it. -/
theorem Course.closes (course : Course path connected backend next events held)
    (has : connected = true) (none : held = false) : .close ∈ events := by
  cases course with
  | closed => exact List.mem_singleton_self _
  | refused => exact absurd (has.symm.trans none) Bool.noConfusion
  | told => exact absurd (has.symm.trans none) Bool.noConfusion
  | unopened _ closed => exact absurd (has.symm.trans closed) Bool.noConfusion
  | idle closed => exact absurd (has.symm.trans closed) Bool.noConfusion
  | ran => cases none

/-- Calls one after another leave no statement under way, and the database sees more and more. Who
loses the connection meanwhile has closed it. -/
theorem exists_calls (path : String) (connected : Bool) (backend : Backend) (done : List Call) :
    ∃ events held after, (start path connected backend).calls done = start path held after ∧
      after.events = backend.events ++ events ∧
      (connected = true → held = false → .close ∈ events) := by
  induction done generalizing connected backend with
  | nil =>
    refine ⟨[], connected, backend, rfl, (List.append_nil _).symm, fun has none => ?_⟩
    rw [has] at none
    cases none
  | cons next later inductionHypothesis =>
    obtain ⟨first, middle, between, course, goes, sees⟩ :=
      exists_course path connected backend next
    obtain ⟨rest, held, after, ends, seesMore, closes⟩ := inductionHypothesis middle between
    refine ⟨first ++ rest, held, after, ?_, ?_, fun has none => ?_⟩
    · rw [calls, List.foldl_cons, goes]
      exact ends
    · rw [seesMore, sees, List.append_assoc]
    · cases middle with
      | true => exact List.mem_append_right _ (closes rfl none)
      | false => exact List.mem_append_left _ (course.closes has rfl)

/-! ### Opening on demand -/

/-- A call opens the file, and that succeeds. -/
def Opens (state : State) (next : Call) : Prop :=
  (∃ events path, (state.call next).seen = state.seen ++ events ∧ .openFile path ∈ events) ∧
    (state.call next).handle.connected = true

/-- What the handle of a database file does when no statement is under way. The file is opened for a
statement that needs it, and only then; a statement runs on an open connection only, and its cursor
is closed if it could be executed. -/
structure OpensOnDemand (state : State) : Prop where
  refuses : ∀ sql arguments failure, expand sql arguments = .error failure →
    state.call (.statement sql arguments) = state
  opens : ∀ next events, (state.call next).seen = state.seen ++ events →
    ((∃ path, .openFile path ∈ events) ↔ state.handle.connected = false ∧
      ∃ sql arguments bound, next = .statement sql arguments ∧
        expand sql arguments = .ok bound)
  opensOnce : ∀ first between second, state.Opens first →
    ((state.call first).calls between).Opens second →
      ∃ events, ((state.call first).calls between).seen = (state.call first).seen ++ events ∧
        .close ∈ events
  executes : ∀ next events, (state.call next).seen = state.seen ++ events →
    ∀ sql parameters, .execute sql parameters ∈ events →
      (state.call next).handle.connected = true ∧ (state.handle.connected = true ∨
        ∃ rest, events = .openFile state.handle.path :: rest)
  unopened : ∀ sql arguments bound error, expand sql arguments = .ok bound →
    state.handle.connected = false → state.backend.Raises error .opening →
      (state.call (.statement sql arguments)).seen =
          state.seen ++ [.openFile state.handle.path] ∧
        (state.call (.statement sql arguments)).handle.connected = false
  failed : ∀ sql arguments bound error, expand sql arguments = .ok bound →
    state.backend.Raises error .execute →
      (state.call (.statement sql arguments)).seen =
          state.seen ++ opening state.handle.path state.handle.connected ++
            [.execute bound.sql (some bound.values)] ∧
        (state.call (.statement sql arguments)).handle.connected = true
  ran : ∀ sql arguments bound, expand sql arguments = .ok bound →
    (state.handle.connected = false → ∀ error, ¬state.backend.Raises error .opening) →
    (∀ error, ¬state.backend.Raises error .execute) →
      (state.call (.statement sql arguments)).seen =
          state.seen ++ opening state.handle.path state.handle.connected ++
            [.execute bound.sql (some bound.values), .closeCursor] ∧
        (state.call (.statement sql arguments)).handle.connected = true
  closes : state.handle.connected = true →
    (state.call .close).seen = state.seen ++ [.close] ∧
      (state.call .close).handle.connected = false
  closed : state.handle.connected = false → state.call .close = state

theorem running_eq_failed {error : DriverError} (raises : backend.Raises error .execute)
    (bound : Bound) : running backend bound = [.execute bound.sql (some bound.values)] := by
  rw [running, Backend.execute_eq_failed.mpr raises]

theorem running_eq (quiet : ∀ error, ¬backend.Raises error .execute) (bound : Bound) :
    running backend bound = [.execute bound.sql (some bound.values), .closeCursor] := by
  unfold running
  split
  · rename_i error failed
    exact absurd (Backend.execute_eq_failed.mp failed) (quiet error)
  · rfl

theorem openFile_notMem_running (path : String) (backend : Backend) (bound : Bound) :
    .openFile path ∉ running backend bound := by
  unfold running
  split <;> simp

/-- A call opens the file exactly if it is a statement that has no connection. -/
theorem Course.openFile_iff (course : Course path connected backend next events held) :
    (∃ path, .openFile path ∈ events) ↔ connected = false ∧ ∃ sql arguments bound,
      next = .statement sql arguments ∧ expand sql arguments = .ok bound := by
  cases course with
  | refused refused =>
    refine ⟨nofun, ?_⟩
    rintro ⟨_, _, _, _, ⟨⟩, passed⟩
    rw [refused] at passed
    cases passed
  | unopened passed none =>
    exact ⟨fun _ => ⟨none, _, _, _, rfl, passed⟩, fun _ => ⟨path, List.mem_cons_self⟩⟩
  | ran passed =>
    cases connected with
    | true =>
      exact ⟨fun ⟨other, member⟩ => absurd member (openFile_notMem_running other backend _),
        nofun⟩
    | false => exact ⟨fun _ => ⟨rfl, _, _, _, rfl, passed⟩, fun _ => ⟨path, List.mem_cons_self⟩⟩
  | closed has =>
    refine ⟨fun ⟨_, member⟩ => absurd member (by simp), ?_⟩
    rintro ⟨_, _, _, _, ⟨⟩, _⟩
  | idle =>
    refine ⟨nofun, ?_⟩
    rintro ⟨_, _, _, _, ⟨⟩, _⟩
  | told =>
    refine ⟨nofun, ?_⟩
    rintro ⟨_, _, _, _, ⟨⟩, _⟩

/-- Nothing runs without a connection. -/
theorem Course.executes (course : Course path connected backend next events held) {sql : String}
    {parameters : Option (List Value)} (member : .execute sql parameters ∈ events) :
    held = true ∧ (connected = true ∨ ∃ rest, events = .openFile path :: rest) := by
  cases course with
  | ran =>
    cases connected with
    | true => exact ⟨rfl, .inl rfl⟩
    | false => exact ⟨rfl, .inr ⟨_, rfl⟩⟩
  | unopened => simp at member
  | closed => simp at member
  | refused => cases member
  | idle => cases member
  | told => cases member

/-- A statement that has a connection, or can open one, runs. -/
theorem call_of_quiet (passed : expand sql arguments = .ok bound)
    (quiet : connected = false → ∀ error, ¬backend.Raises error .opening) (path : String) :
    ((start path connected backend).call (.statement sql arguments)).seen =
        backend.events ++ opening path connected ++ running backend bound ∧
      ((start path connected backend).call (.statement sql arguments)).handle.connected =
        true := by
  obtain ⟨after, ran, sees⟩ := gives_ran passed path quiet
  rw [start, call, ran, List.append_assoc]
  exact ⟨sees, rfl⟩

theorem opensOnDemand_start (path : String) (connected : Bool) (backend : Backend) :
    (start path connected backend).OpensOnDemand := by
  refine ⟨?refuses, ?opens, ?opensOnce, ?executes, ?unopened, ?failed, ?ran, ?closes, ?closed⟩
  case refuses =>
    intro sql arguments failure refused
    exact congrArg Prod.snd (statement_refused refused path connected backend)
  case opens =>
    intro next events sees
    obtain ⟨others, held, after, course, goes, same⟩ :=
      exists_course path connected backend next
    rw [goes] at sees
    cases List.append_cancel_left (same.symm.trans sees)
    exact course.openFile_iff
  case opensOnce =>
    -- the first call leaves a connection and the second finds none: it was closed in between
    rintro first between second ⟨_, holds⟩ ⟨⟨events, other, sees, member⟩, _⟩
    obtain ⟨_, held, after, _, goes, _⟩ := exists_course path connected backend first
    rw [goes] at holds sees ⊢
    obtain ⟨later, kept, last, ends, seesMore, closes⟩ := exists_calls path held after between
    rw [ends] at sees ⊢
    obtain ⟨opening, _, _, course, goes, same⟩ := exists_course path kept last second
    rw [goes] at sees
    cases List.append_cancel_left (same.symm.trans sees)
    have lost : kept = false := (course.openFile_iff.mp ⟨other, member⟩).1
    exact ⟨later, seesMore, closes holds lost⟩
  case executes =>
    intro next events sees sql parameters member
    obtain ⟨others, held, after, course, goes, same⟩ :=
      exists_course path connected backend next
    rw [goes] at sees ⊢
    cases List.append_cancel_left (same.symm.trans sees)
    exact course.executes member
  case unopened =>
    rintro sql arguments bound error passed rfl raises
    have raises : backend.Raises error .opening := raises
    obtain ⟨after, unopened, sees⟩ := gives_unopened passed path raises
    rw [start, call, unopened]
    exact ⟨sees, rfl⟩
  case failed =>
    intro sql arguments bound error passed raises
    rw [← running_eq_failed raises]
    exact call_of_quiet passed (fun _ => raises.not_raises nofun) path
  case ran =>
    intro sql arguments bound passed quiet ran
    rw [← running_eq ran]
    exact call_of_quiet passed quiet path
  case closes =>
    rintro rfl
    exact ⟨rfl, rfl⟩
  case closed =>
    rintro rfl
    rfl

/-- Whatever was done before, the handle of a database file opens its connection on demand. -/
theorem calls_opensOnDemand (path : String) (connected : Bool) (backend : Backend)
    (done : List Call) : ((start path connected backend).calls done).OpensOnDemand := by
  obtain ⟨_, held, after, ends, _⟩ := exists_calls path connected backend done
  rw [ends]
  exact opensOnDemand_start path held after

end TableGateway.Sqlite.State
