/-
This file is about what can be done with a registry: a name gets settings, the handle of
a name is asked for, the handles in use are listed or closed all at once, and a handle is
used. A handle once made is there for good and keeps its settings, whatever its name gets
later; in use it is as long as its name gets no other settings and nothing closes all
handles. A name stands for one handle at most, and no handle comes into use twice.
-/

import TableGateway.Proofs.Entries
import TableGateway.Proofs.NoLeak
import TableGateway.Registry

namespace TableGateway

/-! ### Using a handle -/

namespace MySql

namespace State

variable {state : State}

theorem keeps_statement (state : State) (sql : String) (arguments : List Value) :
    state.handle.Keeps (state.statement sql arguments).2.handle := by
  have step (later : State) (id : Nat) (keeps : state.handle.Keeps later.handle) :
      state.handle.Keeps (turns.advance later id).handle := keeps.trans (keeps_advance later id)
  have settled : state.handle.Keeps
      (turns.settleAll (state.enter state.freshId sql arguments)).handle :=
    Tasks.settle_keeps step _ _ ⟨rfl, fun has => has⟩
  exact settled.trans ⟨rfl, fun has => has⟩

theorem settings_call (state : State) (next : Call) :
    (state.call next).handle.settings = state.handle.settings := by
  cases next with
  | statement sql arguments => exact (state.keeps_statement sql arguments).1
  | close =>
    rw [call, close]
    split <;> rfl
  | script outcomes => rfl

/-- Who closes has no pool afterwards; if there was one, it was closed. -/
theorem close_eq (state : State) :
    state.close.handle = { state.handle with pool := none } ∧
      state.close.backend.events = state.backend.events ++
        if state.handle.pool.isSome then [.closePool, .waitClosed] else [] := by
  unfold close
  split
  · rename_i has
    exact ⟨rfl, List.append_assoc _ _ _⟩
  · rename_i without
    have none : state.handle.pool = none := Option.not_isSome_iff_eq_none.mp without
    refine ⟨?_, (List.append_nil _).symm⟩
    rw [← none]

/-- A pool goes away only by being closed. -/
theorem closes_of_call {next : Call} (has : state.handle.pool.isSome = true)
    (lost : (state.call next).handle.pool = none) :
    next = .close ∧
      (state.call next).backend.events =
        state.backend.events ++ [.closePool, .waitClosed] := by
  cases next with
  | statement sql arguments =>
    have kept := (state.keeps_statement sql arguments).2 has
    rw [call] at lost
    rw [lost] at kept
    cases kept
  | close =>
    refine ⟨rfl, (state.close_eq).2.trans ?_⟩
    rw [if_pos has]
  | script outcomes =>
    rw [show (state.call (.script outcomes)).handle.pool = state.handle.pool from rfl] at lost
    rw [lost] at has
    cases has

end State

end MySql

namespace Registry

open MySql (State)

/-- What can be done next with a registry, in which handles have texts as names: a name gets
settings, its handle is asked for, the handles in use are listed, all of them are closed, or one is
used. -/
inductive Move where
  | set (name : String) (settings : Settings)
  | get (name : String)
  | pool
  | closeAll
  | use (id : Nat) (call : Call)

/-- The registry after something was done with one handle and the database behind all. -/
def onHandle (registry : Registry) (id : Nat) (change : State → State) : Registry :=
  match registry.handle? id with
  | none => registry
  | some handle => registry.putBack id (change ⟨handle, registry.backend⟩)

/-- What is done next. Listing the handles in use changes nothing. -/
def move (registry : Registry) : Move → Registry
  | .set name settings => (registry.set (.text name) settings).toOption.getD registry
  | .get name => (registry.get (.text name)).2
  | .pool => registry
  | .closeAll => registry.closeAll
  | .use id call => registry.onHandle id fun state => state.call call

/-- What is done, one thing after another. -/
def after (registry : Registry) (moves : List Move) : Registry :=
  moves.foldl move registry

theorem after_append (registry : Registry) (first second : List Move) :
    registry.after (first ++ second) = (registry.after first).after second :=
  List.foldl_append

variable {registry : Registry} {name other : String} {id : Nat} {settings : Settings}

/-! ### One handle at a time -/

section

variable (registry : Registry) (id : Nat) (change : State → State)

theorem cached_onHandle : (registry.onHandle id change).cached = registry.cached := by
  unfold onHandle
  split <;> rfl

theorem configurations_onHandle :
    (registry.onHandle id change).configurations = registry.configurations := by
  unfold onHandle
  split <;> rfl

theorem length_onHandle :
    (registry.onHandle id change).handles.length = registry.handles.length := by
  unfold onHandle
  split
  · rfl
  · exact List.length_set

theorem backend_onHandle :
    (registry.onHandle id change).backend =
      (registry.handle? id).elim registry.backend fun handle =>
        (change ⟨handle, registry.backend⟩).backend := by
  unfold onHandle
  split <;> rename_i found <;> rw [found] <;> rfl

/-- A handle that is used becomes what the use makes of it. -/
theorem handle?_onHandle_self :
    (registry.onHandle id change).handle? id =
      (registry.handle? id).map fun handle => (change ⟨handle, registry.backend⟩).handle := by
  unfold onHandle
  split
  · rename_i missing
    rw [missing]
    rfl
  · rename_i handle found
    rw [found]
    exact List.getElem?_set_self (List.getElem?_eq_some_iff.mp found).1

theorem handle?_onHandle_of_ne {other : Nat} (differs : other ≠ id) :
    (registry.onHandle id change).handle? other = registry.handle? other := by
  unfold onHandle
  split
  · rfl
  · exact List.getElem?_set_ne differs.symm

end

/-- Closing a handle that is in use is closing that handle, and saying so. -/
theorem closeOne_eq (registry : Registry) (key : Value) (id : Nat) :
    registry.closeOne key id =
      (registry.say .debug ("[DbcRegistry] closing <" ++ key.plainText ++ ">")).onHandle id
        State.close :=
  rfl

/-! ### Setting a name -/

theorem configurations_set (registry : Registry) (name : String) (settings : Settings) :
    (registry.move (.set name settings)).configurations =
      registry.configurations.put (.text name) settings := by
  show (registry.configured (.text name) settings).configurations = _
  unfold configured
  split <;> rfl

theorem handles_set (registry : Registry) (name : String) (settings : Settings) :
    (registry.move (.set name settings)).handles = registry.handles := by
  show (registry.configured (.text name) settings).handles = _
  unfold configured
  split <;> rfl

/-- A name that gets other settings has no handle in use any more. -/
theorem cached_set (registry : Registry) (name : String) (settings : Settings) :
    (registry.move (.set name settings)).cached =
      if (registry.configurations.named? name).isSome then registry.cached.erase (.text name)
      else registry.cached := by
  show (registry.configured (.text name) settings).cached = _
  unfold configured Entries.named?
  split <;> rename_i found <;> rw [found] <;> rfl

/-! ### Asking for a handle -/

/-- The registry with a new handle in use for a name. -/
def made (registry : Registry) (name : String) (settings : Settings) : Registry :=
  { registry.say .debug (MySql.Handle.createdMessage settings) with
    handles := registry.handles ++ [.create settings none]
    cached := registry.cached.put (.text name) registry.handles.length }

theorem get_of_cached (found : registry.cached.named? name = some id) :
    registry.get (.text name) = (.ok id, registry) := by
  show registry.handleOf (.text name) = _
  unfold handleOf
  rw [show registry.cached.get? (.text name) = some id from found]

theorem get_of_unknown (unused : registry.cached.named? name = none)
    (unknown : registry.configurations.named? name = none) :
    registry.get (.text name) = (.error (.unknownHandle (.text name)), registry) := by
  show registry.handleOf (.text name) = _
  unfold handleOf
  rw [show registry.cached.get? (.text name) = none from unused,
    show registry.configurations.get? (.text name) = none from unknown]

theorem get_of_configured (unused : registry.cached.named? name = none)
    (found : registry.configurations.named? name = some settings) :
    registry.get (.text name) = (.ok registry.handles.length, registry.made name settings) := by
  show registry.handleOf (.text name) = _
  unfold handleOf
  rw [show registry.cached.get? (.text name) = none from unused,
    show registry.configurations.get? (.text name) = some settings from found]
  rfl

/-- Asking for a handle gives the one in use, or fails, or makes one. -/
theorem get_cases (registry : Registry) (name : String) :
    (∃ id, registry.cached.named? name = some id ∧
        registry.get (.text name) = (.ok id, registry)) ∨
      (registry.cached.named? name = none ∧ registry.configurations.named? name = none ∧
        registry.get (.text name) = (.error (.unknownHandle (.text name)), registry)) ∨
      ∃ settings, registry.cached.named? name = none ∧
        registry.configurations.named? name = some settings ∧
        registry.get (.text name) = (.ok registry.handles.length, registry.made name settings) := by
  cases used : registry.cached.named? name with
  | some id => exact .inl ⟨id, rfl, get_of_cached used⟩
  | none =>
    cases known : registry.configurations.named? name with
    | none => exact .inr (.inl ⟨rfl, rfl, get_of_unknown used known⟩)
    | some settings => exact .inr (.inr ⟨settings, rfl, rfl, get_of_configured used known⟩)

/-- Asking for a handle changes nothing, or makes one. -/
theorem move_get (registry : Registry) (name : String) :
    registry.move (.get name) = registry ∨
      ∃ settings, registry.cached.named? name = none ∧
        registry.configurations.named? name = some settings ∧
        registry.move (.get name) = registry.made name settings := by
  rw [move]
  rcases registry.get_cases name with
    ⟨_, _, gives⟩ | ⟨_, _, gives⟩ | ⟨settings, unused, found, gives⟩
  · exact .inl (congrArg Prod.snd gives)
  · exact .inl (congrArg Prod.snd gives)
  · exact .inr ⟨settings, unused, found, congrArg Prod.snd gives⟩

theorem handle?_made_of_some {handle : MySql.Handle} (found : registry.handle? id = some handle)
    (name : String) (settings : Settings) :
    (registry.made name settings).handle? id = some handle :=
  (List.getElem?_append_left (List.getElem?_eq_some_iff.mp found).1).trans found

theorem handle?_made_last (registry : Registry) (name : String) (settings : Settings) :
    (registry.made name settings).handle? registry.handles.length =
      some (.create settings none) :=
  List.getElem?_concat_length

/-! ### Closing all -/

/-- Handles closed one after another. -/
def closeEach (registry : Registry) (entries : Entries Nat) : Registry :=
  entries.foldl (fun registry (key, id) => registry.closeOne key id) registry

theorem configurations_closeEach (registry : Registry) (entries : Entries Nat) :
    (registry.closeEach entries).configurations = registry.configurations := by
  induction entries generalizing registry with
  | nil => rfl
  | cons entry rest inductionHypothesis =>
    exact (inductionHypothesis _).trans (configurations_onHandle _ _ _)

theorem length_closeEach (registry : Registry) (entries : Entries Nat) :
    (registry.closeEach entries).handles.length = registry.handles.length := by
  induction entries generalizing registry with
  | nil => rfl
  | cons entry rest inductionHypothesis =>
    exact (inductionHypothesis _).trans (length_onHandle _ _ _)

/-- Handles that are closed have no pool, and all others are as they were. -/
theorem handle?_closeEach (registry : Registry) (entries : Entries Nat) (id : Nat) :
    (registry.closeEach entries).handle? id =
      (registry.handle? id).map fun handle =>
        if id ∈ entries.map Prod.snd then { handle with pool := none } else handle := by
  induction entries generalizing registry with
  | nil => exact Option.map_id'.symm
  | cons entry rest inductionHypothesis =>
    obtain ⟨key, closed⟩ := entry
    refine (inductionHypothesis (registry.closeOne key closed)).trans ?_
    rw [closeOne_eq, List.map_cons]
    by_cases same : id = closed
    · subst same
      rw [handle?_onHandle_self, Option.map_map]
      refine Option.map_congr fun handle _ => ?_
      rw [Function.comp_apply, (State.close_eq _).1, if_pos List.mem_cons_self]
      split <;> rfl
    · rw [handle?_onHandle_of_ne _ _ _ same]
      simp only [List.mem_cons, same, false_or]
      rfl

theorem handle?_closeAll (registry : Registry) (id : Nat) :
    registry.closeAll.handle? id =
      (registry.handle? id).map fun handle =>
        if id ∈ registry.cached.map Prod.snd then { handle with pool := none } else handle :=
  handle?_closeEach registry registry.cached id

end Registry

end TableGateway
