/-
This file follows the arguments of one statement to the driver, while any other statements
are under way on the same handle. What a statement executes is made of its own arguments,
and one that was refused for them does nothing at all. So a list or a mapping reaches a
database file as its JSON text wherever it stands; a server gets it as it is where it
stands among the items of a tuple.
-/

import TableGateway.Proofs.ArgumentCoding
import TableGateway.Proofs.FileEndings
import TableGateway.Proofs.ServerCalls
import TableGateway.Proofs.ServerEndings

namespace TableGateway

/-! ### What is executed -/

namespace Backend

variable {allowed permitted : String → Option (List Value) → Prop} {earlier later : Backend}

/-- What was executed between two moments is of some sort only. -/
def ExecutesOnly (allowed : String → Option (List Value) → Prop) (earlier later : Backend) : Prop :=
  ∃ events, later.events = earlier.events ++ events ∧
    ∀ text parameters, .execute text parameters ∈ events → allowed text parameters

theorem executesOnly_of_same (same : later.events = earlier.events) :
    ExecutesOnly allowed earlier later :=
  ⟨[], same.trans (List.append_nil _).symm, nofun⟩

theorem ExecutesOnly.mono (only : ExecutesOnly allowed earlier later)
    (weakens : ∀ text parameters, allowed text parameters → permitted text parameters) :
    ExecutesOnly permitted earlier later := by
  obtain ⟨events, sees, executes⟩ := only
  exact ⟨events, sees, fun text parameters member =>
    weakens text parameters (executes text parameters member)⟩

end Backend

open Backend (ExecutesOnly executesOnly_of_same)

variable {sql : String} {arguments : List Value}

/-! ### A server -/

namespace MySql

/-- A statement with its arguments as they are handed to a server. -/
def Codes (sql : String) (arguments : List Value) (bound : Bound) : Prop :=
  ∃ values, arguments.mapM bindable = .ok values ∧ bound = ⟨sql, parametersOf values⟩

/-- A statement is in a phase with its own text and arguments; if these were refused, that is how it
is over. -/
def Phase.Follows (sql : String) (arguments : List Value) : Phase → Prop
  | .arrived own given => own = sql ∧ given = arguments
  | .finished outcome =>
    ∀ failure, arguments.mapM bindable = .error failure → outcome = .error failure
  | .needsPool bound | .waitingForLock bound | .locked bound | .creating bound
  | .needsConnection bound | .waitingForConnection bound | .granted bound | .connected bound
  | .cursorOpen bound | .leaving bound _ => Codes sql arguments bound

theorem Codes.follows_finished {bound : Bound} (codes : Codes sql arguments bound)
    (outcome : Except Failure Reply) : (Phase.finished outcome).Follows sql arguments := by
  obtain ⟨values, passed, _⟩ := codes
  intro failure refused
  rw [passed] at refused
  cases refused

namespace Handle

variable {handle later : Handle} {id : Nat} {old phase : Phase}

/-- A statement is under way, or over, with its own text and arguments. -/
def Follows (sql : String) (arguments : List Value) (handle : Handle) (id : Nat) : Prop :=
  ∃ phase, handle.phase? id = some phase ∧ phase.Follows sql arguments

theorem follows_move (same : later.tasks = handle.tasks) (found : handle.phase? id = some old)
    (follows : phase.Follows sql arguments) : (later.move id phase).Follows sql arguments id := by
  rw [phase?, ← same] at found
  exact ⟨phase, phase?_move found phase, follows⟩

theorem Follows.spares (follows : handle.Follows sql arguments id)
    (spares : handle.Spares later id) : later.Follows sql arguments id := by
  obtain ⟨phase, found, own⟩ := follows
  rcases spares with same | ⟨old, new, wakes, was, is⟩
  · exact ⟨phase, same.trans found, own⟩
  · rw [found] at was
    cases was
    cases wakes <;> exact ⟨_, is, own⟩

theorem Follows.unlock (follows : handle.Follows sql arguments id) :
    handle.unlock.Follows sql arguments id :=
  follows.spares (spares_unlock handle id)

end Handle

namespace State

variable {state : State} {id : Nat} {bound : Bound}

/-- A step of a statement goes on with its own text and arguments. -/
theorem follows_advance_self (follows : state.handle.Follows sql arguments id) :
    (state.advance id).handle.Follows sql arguments id := by
  obtain ⟨phase, found, own⟩ := follows
  have stays (handle : Handle) (is : handle.phase? id = some phase) :
      handle.Follows sql arguments id := ⟨phase, is, own⟩
  unfold advance
  rw [found]
  cases phase with
  | arrived text given =>
    obtain ⟨rfl, rfl⟩ := own
    dsimp only [arrive]
    split
    · rename_i failure refused
      refine Handle.follows_move rfl found fun other fails => ?_
      rw [refused] at fails
      cases fails
      rfl
    · rename_i values passed
      exact Handle.follows_move rfl found ⟨values, passed, rfl⟩
  | needsPool bound =>
    dsimp only [seekPool]
    split
    · exact Handle.follows_move rfl found own
    · split <;> exact Handle.follows_move rfl found own
  | waitingForLock bound => exact stays _ found
  | locked bound =>
    dsimp only [enterLock]
    split
    · refine Handle.Follows.unlock ?_
      exact Handle.follows_move rfl found own
    · exact Handle.follows_move rfl found own
  | creating bound =>
    dsimp only [created]
    split
    · exact (Handle.follows_move rfl found (own.follows_finished _)).unlock
    · refine Handle.Follows.unlock ?_
      exact Handle.follows_move rfl found own
  | needsConnection bound =>
    dsimp only [seekConnection]
    split
    · exact stays _ found
    · split
      · exact Handle.follows_move rfl found (own.follows_finished _)
      · split
        · rw [handle_fail]
          exact Handle.follows_move rfl found (own.follows_finished _)
        · split <;> exact Handle.follows_move rfl found own
  | waitingForConnection bound => exact stays _ found
  | granted bound => exact Handle.follows_move rfl found own
  | connected bound =>
    dsimp only [openCursor]
    split <;> exact Handle.follows_move rfl found own
  | cursorOpen bound =>
    dsimp only [run]
    split <;> exact Handle.follows_move rfl found own
  | leaving bound ran =>
    have left : state.handle.release.phase? id = some (.leaving bound ran) :=
      (Handle.spares_release state.handle id).phase?_eq found nofun
    dsimp only [leave]
    split
    · exact Handle.follows_move rfl left (own.follows_finished _)
    · rw [handle_fail]
      exact Handle.follows_move rfl left (own.follows_finished _)
  | finished outcome => exact stays _ found

theorem follows_act (follows : state.handle.Follows sql arguments id) (action : Action) :
    (state.act action).handle.Follows sql arguments id := by
  cases action with
  | enter text given =>
    obtain ⟨phase, found, own⟩ := follows
    exact ⟨phase, phase?_enter found _ text given, own⟩
  | advance other =>
    by_cases same : id = other
    · subst same
      exact follows_advance_self follows
    · exact follows.spares (spares_advance same state)
  | script outcomes => exact follows

/-- Whatever happens after a statement came in, it goes on with its own text and arguments. -/
theorem follows_after (state : State) (sql : String) (arguments : List Value)
    (since : List Action) :
    ((state.act (.enter sql arguments)).after since).handle.Follows sql arguments
      state.freshId := by
  refine List.foldlRecOn (motive := fun later => later.handle.Follows sql arguments state.freshId)
    since act ?_ fun later follows action _ => follows_act follows action
  refine ⟨.arrived sql arguments, ?_, rfl, rfl⟩
  exact congrArg (Option.map Task.phase)
    (Roster.find?_concat Task.id state.freshId_fresh rfl)

/-- What a step of a statement executes is its own text, with its own arguments as they are handed
to a server. -/
theorem executesOnly_advance (follows : state.handle.Follows sql arguments id) :
    ExecutesOnly (fun text parameters => Codes sql arguments ⟨text, parameters⟩)
      state.backend (state.advance id).backend := by
  obtain ⟨phase, found, own⟩ := follows
  obtain ⟨done, does, sees⟩ := does_advance found
  refine ⟨done, sees, fun text parameters member => ?_⟩
  cases does with
  | nothing => cases member
  | run bound =>
    rcases List.mem_cons.mp member with here | later
    · cases here
      exact own
    · cases List.mem_singleton.mp later
  | _ => cases List.mem_singleton.mp member

/-- A statement that was refused is over after its next step, and has done nothing. -/
theorem advance_of_refused (follows : state.handle.Follows sql arguments id) {failure : Failure}
    (refused : arguments.mapM bindable = .error failure) :
    (state.advance id).outcome? id = some (.error failure) ∧
      (state.advance id).backend = state.backend := by
  obtain ⟨phase, found, own⟩ := follows
  have unbound {bound : Bound} (codes : Codes sql arguments bound) : False := by
    obtain ⟨values, passed, _⟩ := codes
    rw [passed] at refused
    cases refused
  unfold advance
  rw [found, outcome?_eq_some]
  cases phase with
  | arrived text given =>
    obtain ⟨rfl, rfl⟩ := own
    dsimp only [arrive]
    rw [refused]
    exact ⟨Handle.phase?_move found _, rfl⟩
  | finished outcome =>
    cases own failure refused
    exact ⟨found, rfl⟩
  | _ => exact (unbound own).elim

end State

end MySql

/-! ### A database file -/

namespace Sqlite

/-- A text and what is bound to its places are those of a statement with its arguments. -/
def Codes (sql : String) (arguments : List Value) (text : String)
    (parameters : Option (List Value)) : Prop :=
  ∃ values, expand sql arguments = .ok ⟨text, values⟩ ∧ parameters = some values

/-- A statement is in a phase with its own text and arguments; if these were refused, that is how it
is over. -/
def Phase.Follows (sql : String) (arguments : List Value) : Phase → Prop
  | .arrived own given => own = sql ∧ given = arguments
  | .waiting bound | .locked bound | .opening bound => expand sql arguments = .ok bound
  | .finished outcome =>
    ∀ failure, expand sql arguments = .error failure → outcome = .error failure

theorem follows_finished {bound : Bound} (passed : expand sql arguments = .ok bound)
    (outcome : Except Failure Reply) : (Phase.finished outcome).Follows sql arguments := by
  intro failure refused
  rw [passed] at refused
  cases refused

/-- A statement is under way, or over, with its own text and arguments. -/
def Handle.Follows (sql : String) (arguments : List Value) (handle : Handle) (id : Nat) : Prop :=
  ∃ phase, handle.phase? id = some phase ∧ phase.Follows sql arguments

/-- A statement goes on with its own text and arguments when some statement moves. -/
theorem Handle.Follows.move {handle later : Handle} {id other : Nat} {phase : Phase}
    (follows : handle.Follows sql arguments id) (same : later.tasks = handle.tasks)
    (own : other = id → phase.Follows sql arguments) :
    (later.move other phase).Follows sql arguments id := by
  obtain ⟨old, found, was⟩ := follows
  rw [phase?, ← same] at found
  by_cases mine : id = other
  · subst mine
    exact ⟨phase, phase?_move found phase, own rfl⟩
  · exact ⟨old, (phase?_move_of_ne mine later phase).trans found, was⟩

namespace State

variable {state : State} {id : Nat} {bound : Bound}

theorem follows_unlock (follows : state.handle.Follows sql arguments id) :
    state.unlock.handle.Follows sql arguments id := by
  unfold unlock
  split
  · exact follows
  · rename_i next rest _
    dsimp only
    split
    · rename_i bound found
      refine follows.move rfl fun same => ?_
      -- who is woken has bound its arguments before
      obtain ⟨phase, is, own⟩ := follows
      subst same
      cases is.symm.trans (show state.handle.phase? next = some (.waiting bound) from found)
      exact own
    · exact follows

theorem follows_finish {later : State} {other : Nat}
    (follows : state.handle.Follows sql arguments id)
    (same : later.handle.tasks = state.handle.tasks)
    (own : other = id → ∃ bound, expand sql arguments = .ok bound)
    (outcome : Except Failure Reply) :
    (later.finish other outcome).handle.Follows sql arguments id := by
  refine follows_unlock (follows.move same fun mine => ?_)
  obtain ⟨bound, passed⟩ := own mine
  exact follows_finished passed outcome

theorem follows_run {later : State} {other : Nat}
    (follows : state.handle.Follows sql arguments id)
    (same : later.handle.tasks = state.handle.tasks)
    (own : other = id → ∃ bound, expand sql arguments = .ok bound) (bound : Bound) :
    (later.run other bound).handle.Follows sql arguments id := by
  obtain ⟨backend, ran⟩ := run_eq later other bound
  rw [ran]
  exact follows_finish follows (by exact same) own _

theorem follows_advance (follows : state.handle.Follows sql arguments id) (other : Nat) :
    (state.advance other).handle.Follows sql arguments id := by
  have own (phase : Phase) (found : state.handle.phase? other = some phase) (mine : other = id) :
      phase.Follows sql arguments := by
    obtain ⟨old, is, was⟩ := follows
    subst mine
    cases is.symm.trans found
    exact was
  unfold advance
  split
  · rename_i text given found
    unfold arrive
    split
    · rename_i failure refused
      refine follows.move rfl fun mine => ?_
      obtain ⟨rfl, rfl⟩ := own _ found mine
      intro other fails
      rw [refused] at fails
      cases fails
      rfl
    · rename_i bound passed
      have codes (mine : other = id) : expand sql arguments = .ok bound := by
        obtain ⟨rfl, rfl⟩ := own _ found mine
        exact passed
      dsimp only
      split <;> exact follows.move rfl codes
  · rename_i bound found
    split
    · exact follows_run follows rfl (fun mine => ⟨bound, own _ found mine⟩) bound
    · exact follows.move rfl fun mine => own (.locked bound) found mine
  · rename_i bound found
    have codes (mine : other = id) : ∃ bound, expand sql arguments = .ok bound :=
      ⟨bound, own _ found mine⟩
    unfold opened
    split
    · exact follows_finish follows (by rfl) codes _
    · exact follows_run follows (by rfl) codes bound
  · exact follows

theorem follows_act (follows : state.handle.Follows sql arguments id) (action : Action) :
    (state.act action).handle.Follows sql arguments id := by
  cases action with
  | enter text given =>
    obtain ⟨phase, found, own⟩ := follows
    exact ⟨phase, phase?_enter found _ text given, own⟩
  | advance other => exact follows_advance follows other
  | script outcomes => exact follows

theorem follows_after (state : State) (sql : String) (arguments : List Value)
    (since : List Action) :
    ((state.act (.enter sql arguments)).after since).handle.Follows sql arguments
      state.freshId := by
  refine List.foldlRecOn (motive := fun later => later.handle.Follows sql arguments state.freshId)
    since act ?_ fun later follows action _ => follows_act follows action
  refine ⟨.arrived sql arguments, ?_, rfl, rfl⟩
  exact congrArg (Option.map Task.phase)
    (Roster.find?_concat Task.id (Roster.fresh_not_mem Task.id state.handle.tasks) rfl)

theorem backend_finish (state : State) (id : Nat) (outcome : Except Failure Reply) :
    (state.finish id outcome).backend = state.backend := by
  unfold finish unlock
  split
  · rfl
  · dsimp only
    split <;> rfl

theorem seen_fail (state : State) (id : Nat) (bound : Bound) (error : DriverError) :
    (state.fail id bound error).seen = state.seen := by
  unfold seen fail
  dsimp only
  rw [backend_finish]
  exact Backend.events_reportUnlessOwn _ _ _ _

theorem seen_run (state : State) (id : Nat) (bound : Bound) :
    (state.run id bound).seen = state.seen ++ running state.backend bound := by
  have execution := state.backend.execute_emit (.execute bound.sql (some bound.values))
  have same := state.backend.events_execute
  unfold run running
  dsimp only [State.emit]
  rw [execution]
  cases state.backend.execute.1 with
  | failed error => exact (seen_fail _ _ _ _).trans (congrArg (· ++ _) same)
  | failedFetch error =>
    refine (seen_fail _ _ _ _).trans ?_
    exact (congrArg (· ++ _ ++ _) same).trans (List.append_assoc _ _ _)
  | answered rows columns affected insertId =>
    refine (congrArg Backend.events (backend_finish _ _ _)).trans ?_
    exact (congrArg (· ++ _ ++ _) same).trans (List.append_assoc _ _ _)

/-- A statement that runs executes nothing but itself. -/
theorem eq_of_mem_running {backend : Backend} {text : String} {parameters : Option (List Value)}
    (member : .execute text parameters ∈ running backend bound) :
    text = bound.sql ∧ parameters = some bound.values := by
  rcases List.mem_cons.mp member with here | later
  · cases here
    exact ⟨rfl, rfl⟩
  · split at later
    · cases later
    · cases List.mem_singleton.mp later

/-- What a step of a statement executes is its own text, with its own arguments in their places. -/
theorem executesOnly_advance (follows : state.handle.Follows sql arguments id) :
    ExecutesOnly (Codes sql arguments) state.backend (state.advance id).backend := by
  have ran {later : State} {bound : Bound} (same : later.seen = state.seen)
      (passed : expand sql arguments = .ok bound) :
      ExecutesOnly (Codes sql arguments) state.backend (later.run id bound).backend := by
    refine ⟨_, (seen_run later id bound).trans (congrArg (· ++ _) same), ?_⟩
    intro text parameters member
    obtain ⟨rfl, rfl⟩ := eq_of_mem_running member
    exact ⟨bound.values, passed, rfl⟩
  have erred := state.backend.events_errorAt .opening
  obtain ⟨phase, found, own⟩ := follows
  unfold advance
  rw [found]
  cases phase with
  | arrived text given =>
    dsimp only [arrive]
    split
    · exact executesOnly_of_same rfl
    · split <;> exact executesOnly_of_same rfl
  | locked bound =>
    dsimp only
    split
    · exact ran rfl own
    · exact ⟨[.openFile _], rfl, nofun⟩
  | opening bound =>
    dsimp only [opened]
    split <;> rename_i raised <;> rw [raised] at erred
    · exact executesOnly_of_same ((congrArg Backend.events (backend_finish _ _ _)).trans erred)
    · exact ran erred own
  | _ => exact executesOnly_of_same rfl

/-- A statement that was refused is over after its next step, and has done nothing. -/
theorem advance_of_refused (follows : state.handle.Follows sql arguments id) {failure : Failure}
    (refused : expand sql arguments = .error failure) :
    (state.advance id).outcome? id = some (.error failure) ∧
      (state.advance id).backend = state.backend := by
  obtain ⟨phase, found, own⟩ := follows
  have unbound {bound : Bound} (passed : expand sql arguments = .ok bound) : False := by
    rw [passed] at refused
    cases refused
  unfold advance
  rw [found]
  cases phase with
  | arrived text given =>
    obtain ⟨rfl, rfl⟩ := own
    dsimp only [arrive]
    rw [refused]
    exact ⟨(outcome?_move found _ _).mpr rfl, rfl⟩
  | finished outcome =>
    cases own failure refused
    exact ⟨outcome?_eq_some.mpr found, rfl⟩
  | waiting bound => exact (unbound own).elim
  | locked bound => exact (unbound own).elim
  | opening bound => exact (unbound own).elim

end State

end Sqlite

/-! ### Both drivers -/

open Value (IsUnwritable HidesNested ReachesAs)

/-- A statement on a database file takes a step, whatever its last one was. If that executes the
statement, each argument, and each item of a tuple, reaches the file as it should; and if one of
them has no JSON text, the statement is refused and nothing is done. -/
structure Sqlite.State.HandsOver (sql : String) (arguments : List Value) (state : State)
    (id : Nat) : Prop where
  executes : ExecutesOnly
    (fun _ parameters => ∃ values, parameters = some values ∧
      List.Forall₂ ReachesAs (arguments.flatMap Value.parameters) values)
    state.backend (state.advance id).backend
  refuses : (∃ value ∈ arguments.flatMap Value.parameters, value.IsUnwritable) →
    ∃ fault, (state.advance id).outcome? id = some (.error (.invalid fault)) ∧
      (state.advance id).backend = state.backend

/-- A statement on a server takes a step, whatever its last one was. If that executes the statement,
each argument reaches the server as it should, but a tuple as it is; so the items of tuples do too
exactly if none of them is a list or a mapping. If an argument has no JSON text, the statement is
refused and nothing is done. -/
structure MySql.State.HandsOver (sql : String) (arguments : List Value) (state : State)
    (id : Nat) : Prop where
  executes : ExecutesOnly
    (fun text parameters => ∃ values, text = sql ∧ parameters = parametersOf values ∧
      List.Forall₂ HandedAs arguments values ∧
        (List.Forall₂ ReachesAs (arguments.flatMap Value.parameters)
            (values.flatMap Value.parameters) ↔
          ∀ argument ∈ arguments, ¬argument.HidesNested))
    state.backend (state.advance id).backend
  refuses : (∃ value ∈ arguments, value.IsUnwritable) →
    ∃ fault, (state.advance id).outcome? id = some (.error (.invalid fault)) ∧
      (state.advance id).backend = state.backend

/-- What becomes of the arguments of a statement. Whatever else is done on a handle before it comes
in and while it is under way, both drivers hand its arguments over as they should, except that a
server gets tuples as they are. Who is waited for, and for whom nothing goes wrong on the way, is
executed: on a file if the arguments can be bound to its places, on a server if each of them can be
bound, whatever is in its tuples. -/
structure EncodesArguments (sql : String) (arguments : List Value) : Prop where
  file : ∀ path connected backend before since,
    let entered := Sqlite.State.after ⟨.create path connected, backend⟩ before
    ((entered.act (.enter sql arguments)).after since).HandsOver sql arguments entered.freshId
  fileRuns : ∀ path connected backend bound, Sqlite.expand sql arguments = .ok bound →
    (connected = false → ∀ error, ¬Backend.Raises backend error .opening) →
      ∃ events outcome,
        Sqlite.State.Gives path connected backend sql arguments events true outcome ∧
        .execute bound.sql (some bound.values) ∈ events
  server : ∀ settings given backend before since,
    let entered := (MySql.State.start settings given backend).after before
    ((entered.act (.enter sql arguments)).after since).HandsOver sql arguments entered.freshId
  serverRuns : ∀ (settings : Settings) pool backend maximum size,
    (∀ argument ∈ arguments, ¬argument.IsUnwritable) →
    pool.getD (.create settings.connectionLimit) = .idle maximum size → 0 < maximum →
    (pool = none → ∀ error, ¬Backend.Raises backend error .create) →
    (∀ error, ¬backend.Raises error .acquire) → (∀ error, ¬backend.Raises error .cursor) →
      ∃ values events left outcome, arguments.mapM bindable = .ok values ∧
        MySql.State.Gives settings pool backend sql arguments events left outcome ∧
          .execute sql (MySql.parametersOf values) ∈ events

theorem Sqlite.Handle.Follows.handsOver {state : Sqlite.State} {id : Nat}
    (follows : state.handle.Follows sql arguments id) : state.HandsOver sql arguments id where
  executes := by
    refine (State.executesOnly_advance follows).mono ?_
    rintro text parameters ⟨values, passed, rfl⟩
    exact ⟨values, rfl, reachesAs_of_expand passed⟩
  refuses := by
    intro unwritable
    obtain ⟨fault, refused⟩ := expand_of_isUnwritable unwritable
    exact ⟨fault, State.advance_of_refused follows refused⟩

theorem MySql.Handle.Follows.handsOver {state : MySql.State} {id : Nat}
    (follows : state.handle.Follows sql arguments id) : state.HandsOver sql arguments id where
  executes := by
    refine (State.executesOnly_advance follows).mono ?_
    rintro text parameters ⟨values, passed, is⟩
    cases is
    exact ⟨values, rfl, rfl, handedAs_of_mapM passed, reachesAs_iff_of_mapM passed⟩
  refuses := by
    intro unwritable
    obtain ⟨fault, refused⟩ := mapM_of_isUnwritable unwritable
    exact ⟨fault, State.advance_of_refused follows refused⟩

/-- Both drivers hand the arguments of every statement over as they should, except that a server
gets tuples as they are. -/
theorem encodesArguments (sql : String) (arguments : List Value) :
    EncodesArguments sql arguments where
  file := fun _ _ _ _ since => (Sqlite.State.follows_after _ sql arguments since).handsOver
  fileRuns := by
    intro path connected backend bound passed quiet
    refine ⟨_, _, Sqlite.State.gives_ran passed path quiet, ?_⟩
    exact List.mem_append_right _ List.mem_cons_self
  server := fun _ _ _ _ since => (MySql.State.follows_after _ sql arguments since).handsOver
  serverRuns := by
    intro settings pool backend maximum size writable hand can uncreated unacquired cursorless
    obtain ⟨values, passed⟩ := MySql.exists_mapM writable
    refine ⟨values, _, _, _, passed, MySql.State.gives_ran passed hand can sql uncreated unacquired
      cursorless, ?_⟩
    exact List.mem_append_right _ (List.mem_cons_of_mem _ List.mem_cons_self)

/-- A list in a tuple reaches a server as it is. -/
theorem encodesArguments_listInTuple :
    ∃ events left outcome,
      MySql.State.Gives .default none .empty "SELECT 1 IN %s" [.tuple [.list [.int 1, .int 2]]]
        events left outcome ∧
      .execute "SELECT 1 IN %s" (some [.tuple [.list [.int 1, .int 2]]]) ∈ events := by
  have writable : ∀ argument ∈ [Value.tuple [.list [.int 1, .int 2]]],
      ¬argument.IsUnwritable := by
    intro argument member unwritable
    cases List.mem_singleton.mp member
    cases unwritable.1
  have quiet (stage : Stage) (error : DriverError) : ¬Backend.empty.Raises error stage :=
    fun ⟨_, script⟩ => nomatch script
  obtain ⟨values, events, left, outcome, passed, gives, member⟩ :=
    (encodesArguments "SELECT 1 IN %s" [.tuple [.list [.int 1, .int 2]]]).serverRuns .default none
      .empty 20 1 writable rfl (Nat.succ_pos 19) (fun _ => quiet .create) (quiet .acquire)
      (quiet .cursor)
  cases passed
  exact ⟨events, left, outcome, gives, member⟩

end TableGateway
