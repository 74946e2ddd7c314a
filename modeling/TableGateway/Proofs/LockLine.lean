/-
This file is about the lock under which the handle of a server creates its pool. Who waits
for the lock is in its line, once each; who holds it has it; while somebody waits, somebody
has it. Whoever is past the lock finds a pool. Every step keeps this, in any order.
-/

import TableGateway.Proofs.QueueLimit

namespace TableGateway.MySql

namespace Phase

/-- A statement that is in line for the lock. -/
def awaitsLock : Phase → Bool
  | .waitingForLock _ => true
  | _ => false

/-- A statement that is past the creation of the pool and not over. -/
def isPast : Phase → Bool
  | .needsConnection _ => true
  | .waitingForConnection _ => true
  | .granted _ => true
  | .connected _ => true
  | .cursorOpen _ => true
  | .leaving _ _ => true
  | _ => false

end Phase

namespace Handle

/-- The line of the lock is of those who wait for it, and who is past it finds a pool. -/
structure Lines (handle : Handle) : Prop where
  distinct : handle.queue.Nodup
  line : ∀ id, id ∈ handle.queue ↔ handle.Is Phase.awaitsLock id
  past : ∀ id, handle.Is Phase.isPast id → handle.pool.isSome = true

/-- The holder of the lock has it, and nobody waits for a lock that is free. -/
structure Lined (handle : Handle) : Prop extends handle.Lines where
  held : ∀ id, handle.holder = some id → handle.Is Phase.hasLock id
  free : handle.holder = none → handle.queue = []

variable {handle : Handle} {id : Nat} {old new : Phase}

/-- A statement may move that does not get in line or leave it. -/
theorem Lines.move (lines : handle.Lines) (found : handle.phase? id = some old)
    (line : new.awaitsLock = old.awaitsLock)
    (past : new.isPast = true → handle.pool.isSome = true) : (handle.move id new).Lines where
  distinct := lines.distinct
  line other :=
    (lines.line other).trans (is_move_of_same found new Phase.awaitsLock line other).symm
  past := by
    intro other
    rw [is_move found]
    split
    · exact past
    · exact lines.past other

/-- A statement may move that does not let the lock go either. -/
theorem Lined.move (lined : handle.Lined) (found : handle.phase? id = some old)
    (line : new.awaitsLock = old.awaitsLock) (held : old.hasLock = true → new.hasLock = true)
    (past : new.isPast = true → handle.pool.isSome = true) : (handle.move id new).Lined where
  toLines := lined.toLines.move found line past
  held := by
    intro other holds
    have has := lined.held other holds
    rw [is_move found]
    split
    · rename_i same
      exact held ((is_iff found _).mp (same ▸ has))
    · exact has
  free := lined.free

/-- A pool may change, or be made. -/
theorem Lined.repool (lined : handle.Lined) {next : Option Pool}
    (stays : handle.pool.isSome = true → next.isSome = true) (waiting : Nat) :
    { handle with pool := next, waiting := waiting }.Lined :=
  ⟨⟨lined.distinct, lined.line, fun id is => stays (lined.past id is)⟩, lined.held, lined.free⟩

/-- Who is first in line for the lock is given it. -/
theorem Lines.unlock_eq (lines : handle.Lines) {next : Nat} {rest : List Nat}
    (line : handle.queue = next :: rest) :
    ∃ bound, handle.phase? next = some (.waitingForLock bound) ∧
      handle.unlock = { handle with holder := some next, queue := rest }.move next
        (.locked bound) := by
  obtain ⟨phase, found, awaits⟩ := (lines.line next).mp (line ▸ List.mem_cons_self)
  cases phase with
  | waitingForLock bound =>
    refine ⟨bound, found, ?_⟩
    simp only [unlock, line]
    rw [show phase? { handle with holder := some next, queue := rest } next =
      some (.waitingForLock bound) from found]
  | _ => exact absurd awaits Bool.false_ne_true

theorem unlock_of_nil (line : handle.queue = []) :
    handle.unlock = { handle with holder := none } := by
  simp only [unlock, line]

/-- Whoever let the lock go, its line is in order. -/
theorem Lines.unlock (lines : handle.Lines) : handle.unlock.Lined := by
  cases line : handle.queue with
  | nil =>
    rw [unlock_of_nil line]
    exact ⟨⟨lines.distinct, lines.line, lines.past⟩, nofun, fun _ => line⟩
  | cons next rest =>
    obtain ⟨absent, distinct⟩ := List.nodup_cons.mp (line ▸ lines.distinct)
    obtain ⟨bound, found, given⟩ := lines.unlock_eq line
    have waits : phase? { handle with holder := some next, queue := rest } next =
        some (.waitingForLock bound) := found
    rw [given]
    refine ⟨⟨distinct, fun other => ?_, fun other => ?_⟩, fun other holds => ?_, nofun⟩
    · refine Iff.trans ?_ (is_move waits (.locked bound) Phase.awaitsLock other).symm
      show other ∈ rest ↔ _
      split
      · rename_i same
        rw [same]
        exact ⟨fun among => absurd among absent, nofun⟩
      · rename_i differs
        refine Iff.trans ?_ (lines.line other)
        rw [line, List.mem_cons]
        exact ⟨.inr, fun among => among.resolve_left differs⟩
    · rw [is_move waits]
      split
      · exact nofun
      · exact lines.past other
    · obtain rfl := Option.some.inj holds
      exact ⟨_, phase?_move waits _, rfl⟩

/-- Who finds the lock free takes it. -/
theorem Lined.locks (lined : handle.Lined) {bound : Bound}
    (found : handle.phase? id = some (.needsPool bound)) :
    ({ handle with holder := some id }.move id (.locked bound)).Lined := by
  refine ⟨⟨lined.distinct, ?_, ?_⟩, ?_, nofun⟩
  · intro other
    exact (lined.line other).trans
      (is_move_of_same found (.locked bound) Phase.awaitsLock rfl other).symm
  · intro other past
    exact lined.past other
      ((is_move_of_same found (.locked bound) Phase.isPast rfl other).mp past)
  · rintro other ⟨⟩
    exact ⟨_, phase?_move found _, rfl⟩

/-- Who finds the lock taken gets in line for it. -/
theorem Lined.waits (lined : handle.Lined) {bound : Bound}
    (found : handle.phase? id = some (.needsPool bound)) (taken : handle.holder ≠ none) :
    ({ handle with queue := handle.queue ++ [id] }.move id (.waitingForLock bound)).Lined := by
  have apart : id ∉ handle.queue := by
    rw [lined.line, is_iff found]
    exact Bool.false_ne_true
  refine ⟨⟨?_, fun other => ?_, ?_⟩, ?_, fun free => absurd free taken⟩
  · exact (List.perm_append_singleton id handle.queue).nodup_iff.mpr
      (List.nodup_cons.mpr ⟨apart, lined.distinct⟩)
  · refine Iff.trans ?_ (is_move found (.waitingForLock bound) Phase.awaitsLock other).symm
    show other ∈ handle.queue ++ [id] ↔ _
    rw [List.mem_append, List.mem_singleton, lined.line]
    split
    · rename_i same
      exact ⟨fun _ => rfl, fun _ => .inr same⟩
    · rename_i differs
      exact ⟨fun among => among.resolve_right differs, .inl⟩
  · intro other past
    exact lined.past other
      ((is_move_of_same found (.waitingForLock bound) Phase.isPast rfl other).mp past)
  · intro other holds
    exact (is_move_of_same found (.waitingForLock bound) Phase.hasLock rfl other).mpr
      (lined.held other holds)

/-- While somebody waits for the lock, somebody has it. -/
theorem Lined.exists_hasLock (lined : handle.Lined) (awaits : handle.Is Phase.awaitsLock id) :
    ∃ holder, handle.Is Phase.hasLock holder := by
  have among := (lined.line id).mpr awaits
  cases held : handle.holder with
  | none =>
    rw [lined.free held] at among
    cases among
  | some holder => exact ⟨holder, lined.held holder held⟩

/-- A connection that is given back does not touch the lock. -/
theorem Lined.release (lined : handle.Lined) : handle.release.Lined := by
  unfold Handle.release
  split
  · exact lined
  · rename_i pool pooled
    have given : { handle with pool := some pool.release.2 }.Lined :=
      lined.repool (fun _ => rfl) handle.waiting
    dsimp only
    split
    · exact given
    · split
      · rename_i found
        exact given.move found rfl nofun fun _ => rfl
      · exact given

end Handle

/-! ### Steps and runs -/

namespace State

variable {state : State} {id : Nat} {bound : Bound}

theorem lined_fail (lined : state.handle.Lined) {old : Phase}
    (found : state.handle.phase? id = some old) (line : old.awaitsLock = false)
    (lock : old.hasLock = false) (bound : Bound) (error : DriverError) :
    (state.fail id bound error).handle.Lined := by
  rw [handle_fail]
  have unheld : old.hasLock ≠ true := Bool.eq_false_iff.mp lock
  exact lined.move found line.symm (fun has => absurd has unheld) nofun

theorem lined_seekPool (lined : state.handle.Lined)
    (found : state.handle.phase? id = some (.needsPool bound)) :
    (state.seekPool id bound).handle.Lined := by
  unfold seekPool
  split
  · rename_i pooled
    exact lined.move found rfl nofun fun _ => pooled
  · split
    · exact lined.locks found
    · rename_i taken
      refine lined.waits found fun free => taken ?_
      rw [free, lined.free free]
      rfl

theorem lined_enterLock (lined : state.handle.Lined)
    (found : state.handle.phase? id = some (.locked bound)) :
    (state.enterLock id bound).handle.Lined := by
  unfold enterLock
  split
  · rename_i pooled
    have moved : (state.handle.move id (.needsConnection bound)).Lines :=
      lined.toLines.move found rfl fun _ => pooled
    exact moved.unlock
  · exact lined.move found rfl (fun _ => rfl) nofun

theorem lined_created (lined : state.handle.Lined)
    (found : state.handle.phase? id = some (.creating bound)) :
    (state.created id bound).handle.Lined := by
  unfold created
  split
  · rename_i error backend _
    have moved : (state.handle.move id (.finished (.error (backend.report
        (.connecting state.handle.settings.safeUri) error (isDuplicate error)).1))).Lines :=
      lined.toLines.move found rfl nofun
    exact moved.unlock
  · have made : { state.handle with
        pool := some (Pool.create state.handle.settings.connectionLimit) }.Lined :=
      lined.repool (fun _ => rfl) state.handle.waiting
    have moved : ({ state.handle with
        pool := some (Pool.create state.handle.settings.connectionLimit) }.move id
          (.needsConnection bound)).Lines :=
      made.toLines.move found rfl fun _ => rfl
    exact moved.unlock

theorem lined_seekConnection (lined : state.handle.Lined)
    (found : state.handle.phase? id = some (.needsConnection bound)) :
    (state.seekConnection id bound).handle.Lined := by
  unfold seekConnection
  split
  · exact lined
  · split
    · exact lined.move found rfl nofun nofun
    · split
      · rename_i error backend _
        have told : ({ state with backend := backend } : State).handle.Lined := lined
        exact lined_fail told found rfl rfl bound error
      · dsimp only
        split
        · exact (lined.repool (fun _ => rfl) (state.handle.waiting + 1)).move found rfl nofun
            fun _ => rfl
        · exact (lined.repool (fun _ => rfl) state.handle.waiting).move found rfl nofun fun _ => rfl

/-- Every step of a statement keeps the line of the lock. -/
theorem lined_advance (lined : state.handle.Lined) (id : Nat) :
    (state.advance id).handle.Lined := by
  have past {phase : Phase} (found : state.handle.phase? id = some phase)
      (is : phase.isPast = true) : state.handle.pool.isSome = true :=
    lined.past id ⟨phase, found, is⟩
  unfold advance
  split
  · rename_i found
    unfold arrive
    split <;> exact lined.move found rfl nofun nofun
  · exact lined_seekPool lined ‹_›
  · exact lined_enterLock lined ‹_›
  · exact lined_created lined ‹_›
  · exact lined_seekConnection lined ‹_›
  · rename_i found
    exact (lined.repool (fun is => is) _).move found rfl nofun fun _ => past found rfl
  · rename_i found
    unfold openCursor
    split <;> exact lined.move found rfl nofun fun _ => past found rfl
  · rename_i found
    unfold run
    dsimp only
    split <;> exact lined.move found rfl nofun fun _ => past found rfl
  · rename_i ran found
    have left : state.handle.release.phase? id = some (.leaving _ ran) :=
      (Handle.spares_release state.handle id).phase?_eq found nofun
    unfold leave
    dsimp only
    split
    · exact lined.release.move left rfl nofun nofun
    · rw [handle_fail]
      exact lined.release.move left rfl nofun nofun
  · exact lined

theorem lined_act (action : Action) (lined : state.handle.Lined) :
    (state.act action).handle.Lined := by
  cases action with
  | enter sql arguments =>
    have same := Handle.is_enter state.handle state.freshId sql arguments
    exact ⟨⟨lined.distinct, fun other => (lined.line other).trans (same _ rfl other).symm,
      fun other is => lined.past other ((same _ rfl other).mp is)⟩,
      fun other holds => (same _ rfl other).mpr (lined.held other holds), lined.free⟩
  | advance id => exact lined_advance lined id
  | script outcomes => exact lined

theorem lined_start (settings : Settings) (given : Option Nat) (backend : Backend) :
    (start settings given backend).handle.Lined := by
  refine ⟨⟨List.nodup_nil, fun id => ⟨nofun, ?_⟩, ?_⟩, nofun, fun _ => rfl⟩
  · rintro ⟨_, found, _⟩
    cases found
  · rintro id ⟨_, found, _⟩
    cases found

/-- The lock keeps its line whatever happens. -/
theorem lined_after (settings : Settings) (given : Option Nat) (backend : Backend)
    (actions : List Action) : ((start settings given backend).after actions).handle.Lined :=
  List.foldlRecOn (motive := fun state => state.handle.Lined) actions act
    (lined_start settings given backend) fun _ lined action _ => lined_act action lined

end State

end TableGateway.MySql
