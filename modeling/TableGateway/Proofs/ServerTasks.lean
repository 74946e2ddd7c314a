/-
This file is about the statements under way on the handle of a server: what phase each is
in after one of them has moved, how many are in phases of some sort, and which states the
handle can come to when they go on in any order.
-/

import TableGateway.MySql.Handle
import TableGateway.Proofs.Roster
import TableGateway.Proofs.Turns

namespace TableGateway.MySql

namespace Handle

variable {handle : Handle} {id other : Nat} {old : Phase}

/-- A statement that is under way is in the phase it moved to. -/
theorem phase?_move (found : handle.phase? id = some old) (phase : Phase) :
    (handle.move id phase).phase? id = some phase := by
  rw [phase?, Option.map_eq_some_iff] at found
  obtain ⟨task, found, _⟩ := found
  exact congrArg (Option.map Task.phase)
    (Roster.find?_replaced Task.id (show Task.id ⟨id, phase⟩ = id from rfl) found)

theorem phase?_move_of_ne (differs : other ≠ id) (handle : Handle) (phase : Phase) :
    (handle.move id phase).phase? other = handle.phase? other :=
  congrArg (Option.map Task.phase) (Roster.find?_replaced_of_ne Task.id
    (show Task.id ⟨id, phase⟩ = id from rfl) differs handle.tasks)

theorem ids_move (handle : Handle) (id : Nat) (phase : Phase) :
    (handle.move id phase).tasks.map Task.id = handle.tasks.map Task.id :=
  Roster.numbers_replaced Task.id (show Task.id ⟨id, phase⟩ = id from rfl) handle.tasks

/-! ### Sorts of phases -/

/-- A statement is in a phase of some sort. -/
def Is (handle : Handle) (sort : Phase → Bool) (id : Nat) : Prop :=
  ∃ phase, handle.phase? id = some phase ∧ sort phase = true

/-- How many statements are in phases of some sort. -/
def count (handle : Handle) (sort : Phase → Bool) : Nat :=
  handle.tasks.countP fun task => sort task.phase

theorem is_move (found : handle.phase? id = some old) (phase : Phase) (sort : Phase → Bool)
    (other : Nat) :
    (handle.move id phase).Is sort other ↔
      if other = id then sort phase = true else handle.Is sort other := by
  by_cases same : other = id
  · subst same
    rw [if_pos rfl, Is, phase?_move found]
    exact ⟨fun ⟨_, is, of⟩ => (Option.some.inj is) ▸ of, fun of => ⟨phase, rfl, of⟩⟩
  · rw [if_neg same, Is, phase?_move_of_ne same]
    rfl

theorem is_iff (found : handle.phase? id = some old) (sort : Phase → Bool) :
    handle.Is sort id ↔ sort old = true :=
  ⟨fun ⟨_, is, of⟩ => (Option.some.inj (found.symm.trans is)) ▸ of, fun of => ⟨old, found, of⟩⟩

/-- A count changes by the statement that moved. -/
theorem count_move (distinct : (handle.tasks.map Task.id).Nodup)
    (found : handle.phase? id = some old) (phase : Phase) (sort : Phase → Bool) :
    (handle.move id phase).count sort + (sort old).toNat =
      handle.count sort + (sort phase).toNat := by
  rw [phase?, Option.map_eq_some_iff] at found
  obtain ⟨task, found, rfl⟩ := found
  exact Roster.countP_replaced Task.id (fun task => sort task.phase) distinct found

/-- A sort that both phases are of, or neither, is as it was. -/
theorem is_move_of_same (found : handle.phase? id = some old) (phase : Phase)
    (sort : Phase → Bool) (same : sort phase = sort old) (other : Nat) :
    (handle.move id phase).Is sort other ↔ handle.Is sort other := by
  rw [is_move found]
  split
  · rename_i isSelf
    rw [isSelf, is_iff found, same]
  · rfl

theorem count_move_of_same (distinct : (handle.tasks.map Task.id).Nodup)
    (found : handle.phase? id = some old) (phase : Phase) (sort : Phase → Bool)
    (same : sort phase = sort old) : (handle.move id phase).count sort = handle.count sort := by
  have counted := count_move distinct found phase sort
  rw [same] at counted
  omega

/-- A statement that comes in is of no sort that arriving is not of. -/
theorem is_enter (handle : Handle) (id : Nat) (sql : String) (arguments : List Value)
    (sort : Phase → Bool) (none : sort (.arrived sql arguments) = false) (other : Nat) :
    Is { handle with tasks := handle.tasks ++ [⟨id, .arrived sql arguments⟩] } sort other ↔
      handle.Is sort other := by
  unfold Is phase?
  rw [List.find?_append]
  cases found : handle.tasks.find? fun task => task.id == other with
  | some task => rfl
  | none =>
    by_cases isNew : id = other
    · simp [isNew, none]
    · simp [isNew]

/-- Who is in a phase of some sort is counted. -/
theorem count_pos (is : handle.phase? id = some old) {sort : Phase → Bool}
    (of : sort old = true) : 0 < handle.count sort := by
  rw [phase?, Option.map_eq_some_iff] at is
  obtain ⟨task, found, rfl⟩ := is
  exact List.countP_pos_iff.mpr ⟨task, List.mem_of_find?_eq_some found, of⟩

/-! ### What stays -/

/-- A handle has the settings of another one, and a pool if that has one. -/
def Keeps (handle later : Handle) : Prop :=
  later.settings = handle.settings ∧ (handle.pool.isSome = true → later.pool.isSome = true)

theorem Keeps.refl (handle : Handle) : handle.Keeps handle :=
  ⟨rfl, id⟩

theorem Keeps.trans {middle later : Handle} (keeps : handle.Keeps middle)
    (keepsOn : middle.Keeps later) : handle.Keeps later :=
  ⟨keepsOn.1.trans keeps.1, fun has => keepsOn.2 (keeps.2 has)⟩

theorem keeps_move (handle : Handle) (id : Nat) (phase : Phase) :
    handle.Keeps (handle.move id phase) :=
  ⟨rfl, fun has => has⟩

theorem keeps_unlock (handle : Handle) : handle.Keeps handle.unlock := by
  unfold unlock
  split
  · exact ⟨rfl, fun has => has⟩
  · dsimp only
    split <;> exact ⟨rfl, fun has => has⟩

theorem keeps_release (handle : Handle) : handle.Keeps handle.release := by
  unfold release
  split
  · exact .refl handle
  · dsimp only
    split
    · exact ⟨rfl, fun _ => rfl⟩
    · split <;> exact ⟨rfl, fun _ => rfl⟩

end Handle

namespace State

/-- A handle with a pool of so many connections given to it, or without a pool. -/
def start (settings : Settings) (given : Option Nat) (backend : Backend) : State :=
  ⟨Handle.create settings (given.map Pool.create), backend⟩

/-- What happens next. A statement that comes in gets a number of its own. -/
def act (state : State) : Action → State
  | .enter sql arguments => state.enter state.freshId sql arguments
  | .advance id => state.advance id
  | .script outcomes => { state with backend := state.backend.told outcomes }

/-- What happens, one thing after another. -/
def after (state : State) (actions : List Action) : State :=
  actions.foldl act state

/-- A step of a statement may create a pool, but takes none away. -/
theorem keeps_advance (state : State) (id : Nat) :
    state.handle.Keeps (state.advance id).handle := by
  unfold advance
  split
  · unfold arrive
    split <;> exact state.handle.keeps_move id _
  · unfold seekPool
    split
    · exact state.handle.keeps_move id _
    · split <;> exact ⟨rfl, fun has => has⟩
  · unfold enterLock
    split
    · exact (state.handle.keeps_move id _).trans (Handle.keeps_unlock _)
    · exact state.handle.keeps_move id _
  · unfold created
    split
    · exact (state.handle.keeps_move id _).trans (Handle.keeps_unlock _)
    · refine Handle.Keeps.trans ?_ (Handle.keeps_unlock _)
      exact ⟨rfl, fun _ => rfl⟩
  · unfold seekConnection
    split
    · exact .refl _
    · split
      · exact state.handle.keeps_move id _
      · split
        · exact state.handle.keeps_move id _
        · dsimp only
          split <;> exact ⟨rfl, fun _ => rfl⟩
  · exact ⟨rfl, fun has => has⟩
  · unfold openCursor
    split <;> exact state.handle.keeps_move id _
  · unfold run
    dsimp only
    split <;> exact state.handle.keeps_move id _
  · unfold leave
    dsimp only
    split <;> exact state.handle.keeps_release.trans (Handle.keeps_move _ id _)
  · exact .refl _

/-- Whatever happens, the handle keeps its settings, and its pool if it has one. -/
theorem keeps_act (state : State) (action : Action) :
    state.handle.Keeps (state.act action).handle := by
  cases action with
  | enter sql arguments => exact ⟨rfl, fun has => has⟩
  | advance id => exact keeps_advance state id
  | script outcomes => exact .refl _

theorem keeps_after (state : State) (actions : List Action) :
    state.handle.Keeps (state.after actions).handle :=
  List.foldlRecOn (motive := fun later => state.handle.Keeps later.handle) actions act (.refl _)
    fun later keeps action _ => keeps.trans (keeps_act later action)

/-- No statement has a fresh number. -/
theorem freshId_fresh (state : State) : state.freshId ∉ state.handle.tasks.map Task.id :=
  Roster.fresh_not_mem Task.id state.handle.tasks

end State

end TableGateway.MySql
