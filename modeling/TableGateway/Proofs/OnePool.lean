/-
This file proves that the handle of a server creates one pool, however many statements come
to it at once. Attempts at a pool come one after another, each failed one before the next
begins, and after the first that succeeds there are none. Who makes an attempt that fails
fails with it, and the lock goes to the first in line, whose next step is an attempt.
Everybody who is past the lock uses the one pool that there is.
-/

import TableGateway.Proofs.DriverErrors
import TableGateway.Proofs.LockLine

namespace TableGateway

/-- Whether something done is the creation of a pool. -/
def Event.isCreatePool : Event → Bool
  | .createPool _ => true
  | _ => false

/-- A failure of a driver, or of a class that is a special case of that. -/
def Failure.IsOfDriver (failure : Failure) : Prop :=
  ∃ report, failure.report? = some report ∧ report.kind.isA .driver = true

theorem DriverError.Tells.isOfDriver {failure : Failure} {error : DriverError} {work : DriverWork}
    {taken : Prop} (tells : DriverError.Tells failure error work taken) : failure.IsOfDriver := by
  by_cases isTaken : taken
  · exact ⟨_, tells.duplicate isTaken, rfl⟩
  · exact ⟨_, tells.plain isTaken, rfl⟩

namespace MySql

/-- What is done with a pool that is there: nothing, or a connection is taken or given back, or a
caller gets in line. -/
inductive Pool.Uses : Option Pool → Option Pool → Prop where
  | keeps (pool : Option Pool) : Uses pool pool
  | takes (pool : Pool) : Uses (some pool) (some pool.take)
  | waits (pool : Pool) (caller : Nat) : Uses (some pool) (some (pool.wait caller))
  | releases (pool : Pool) : Uses (some pool) (some pool.release.2)

/-! ### Attempts at a pool -/

/-- What becomes of an attempt of a statement at creating the pool. -/
inductive Creation where
  | begins (id : Nat)
  | fails (id : Nat)
  | succeeds (id : Nat)

/-- Whether an attempt begins. -/
def Creation.isBeginning : Creation → Bool
  | .begins _ => true
  | _ => false

/-- Attempts in order: no two are under way at once, each ends for who began it, and none begins
after one has succeeded. -/
inductive Creation.AreOrdered : List Creation → Prop where
  | none : AreOrdered []
  | begun (id : Nat) : AreOrdered [.begins id]
  | made (id : Nat) : AreOrdered [.begins id, .succeeds id]
  | failed (id : Nat) {rest : List Creation} (later : AreOrdered rest) :
    AreOrdered (.begins id :: .fails id :: rest)

namespace State

/-- What happens next to an attempt at the pool, if anything does. -/
def creation? (state : State) : Action → Option Creation
  | .advance id =>
    match state.handle.phase? id with
    | some (.locked _) => if state.handle.pool.isSome then none else some (.begins id)
    | some (.creating _) =>
      some (if (state.backend.errorAt .create).1.isSome then .fails id else .succeeds id)
    | _ => none
  | _ => none

/-- What happens to attempts at the pool, one thing after another. -/
def creations (state : State) : List Action → List Creation
  | [] => []
  | action :: rest => (state.creation? action).toList ++ (state.act action).creations rest

/-- How often the driver was asked to create a pool. -/
def poolsAsked (state : State) : Nat :=
  state.backend.events.countP Event.isCreatePool

/-- What is true of a handle that had no pool at first, after some attempts at one: they were made
in order, it has a pool exactly if one succeeded, and from then on it keeps that pool. Who is past
the lock finds it; its connections in use are those that callers have, and its line is of those who
wait for one. Who fails to create the pool fails, nobody else does, and the first in line is the
next to try, or whoever comes to the free lock if there is none. -/
structure MakesOnePool (first : State) (created : List Creation) (state : State) : Prop where
  ordered : Creation.AreOrdered created
  asks : state.poolsAsked = first.poolsAsked + created.countP Creation.isBeginning
  makes : state.handle.pool.isSome = true ↔ ∃ id, .succeeds id ∈ created
  alone : ∀ id other, state.handle.Is Phase.isCreating id → state.handle.Is Phase.isCreating other →
    id = other
  creates : ∀ id, state.creation? (.advance id) = some (.succeeds id) →
    (state.advance id).handle.pool = some (.create first.handle.settings.connectionLimit)
  keeps : ∀ action, state.handle.pool.isSome = true →
    Pool.Uses state.handle.pool (state.act action).handle.pool
  past : ∀ id, state.handle.Is Phase.isPast id → state.handle.pool.isSome = true
  serves : ∀ pool, state.handle.pool = some pool →
    pool.inUse = state.handle.count Phase.holds ∧
      ∀ id, id ∈ pool.waiting ↔ state.handle.Is Phase.isInLine id
  fails : ∀ id, state.creation? (.advance id) = some (.fails id) →
    ∃ failure : Failure, failure.IsOfDriver ∧
      (∀ actions, ((state.advance id).after actions).outcome? id = some (.error failure)) ∧
      ∀ other, other ≠ id → (state.advance id).outcome? other = state.outcome? other
  retries : ∀ id next rest, state.creation? (.advance id) = some (.fails id) →
    state.handle.queue = next :: rest → ∀ actions, .advance next ∉ actions →
      ((state.advance id).after actions).creation? (.advance next) = some (.begins next)
  frees : ∀ id, state.creation? (.advance id) = some (.fails id) → state.handle.queue = [] →
    (state.advance id).handle.holder = none
  admits : ∀ id bound, state.handle.pool = none → state.handle.holder = none →
    state.handle.phase? id = some (.needsPool bound) →
      (state.advance id).creation? (.advance id) = some (.begins id)
  attends : ∀ id, state.handle.Is Phase.awaitsLock id →
    id ∈ state.handle.queue ∧ ∃ holder, state.handle.Is Phase.hasLock holder

/-! ### What a step does about the pool -/

/-- Something happens to an attempt at the pool: who has the lock and finds no pool begins one, and
the attempt of who is creating it fails or succeeds. -/
inductive Attempts (state : State) : Action → Creation → Prop where
  | begins {id : Nat} {bound : Bound} (found : state.handle.phase? id = some (.locked bound))
      (unpooled : state.handle.pool = none) : Attempts state (.advance id) (.begins id)
  | fails {id : Nat} {bound : Bound} {error : DriverError}
      (found : state.handle.phase? id = some (.creating bound))
      (raises : state.backend.Raises error .create) : Attempts state (.advance id) (.fails id)
  | succeeds {id : Nat} {bound : Bound} (found : state.handle.phase? id = some (.creating bound))
      (quiet : (state.backend.errorAt .create).1 = none) :
      Attempts state (.advance id) (.succeeds id)

variable {state : State} {id : Nat} {action : Action} {creation : Creation}

theorem creation?_eq_some_iff :
    state.creation? action = some creation ↔ state.Attempts action creation := by
  constructor
  · intro happens
    cases action with
    | advance id =>
      rw [creation?] at happens
      cases found : state.handle.phase? id with
      | none =>
        rw [found] at happens
        cases happens
      | some phase =>
        rw [found] at happens
        cases phase with
        | locked bound =>
          obtain ⟨unpooled, same⟩ := Option.ite_none_left_eq_some.mp happens
          cases same
          exact .begins found (Option.not_isSome_iff_eq_none.mp unpooled)
        | creating bound =>
          cases raised : (state.backend.errorAt .create).1 with
          | none =>
            rw [raised] at happens
            cases happens
            exact .succeeds found raised
          | some error =>
            rw [raised] at happens
            cases happens
            exact .fails found (Backend.errorAt_eq_some.mp raised)
        | _ => cases happens
    | _ => cases happens
  · rintro (⟨found, unpooled⟩ | ⟨found, raises⟩ | ⟨found, quiet⟩)
    · rw [creation?, found, unpooled]
      rfl
    · rw [creation?, found, Backend.errorAt_eq_some.mpr raises]
      rfl
    · rw [creation?, found, quiet]
      rfl

theorem uses_release (handle : Handle) : Pool.Uses handle.pool handle.release.pool := by
  unfold Handle.release
  split
  · rename_i unpooled
    exact unpooled ▸ .keeps _
  · rename_i pool pooled
    rw [pooled]
    dsimp only
    split
    · exact .releases pool
    · split <;> exact .releases pool

theorem pool_unlock (handle : Handle) : handle.unlock.pool = handle.pool := by
  unfold Handle.unlock
  split
  · rfl
  · dsimp only
    split <;> rfl

/-- Who is in another phase is not creating the pool. -/
theorem not_isCreating {handle : Handle} {phase : Phase} (found : handle.phase? id = some phase)
    (other : phase.isCreating = false) : ¬handle.Is Phase.isCreating id := by
  rw [Handle.is_iff found, other]
  exact Bool.false_ne_true

/-- A step without the lock uses the pool at most, and begins no attempt at one. -/
theorem uses_advance {phase : Phase} (found : state.handle.phase? id = some phase)
    (lock : phase.hasLock = false) :
    Pool.Uses state.handle.pool (state.advance id).handle.pool ∧
      ¬(state.advance id).handle.Is Phase.isCreating id := by
  have moved (handle : Handle) (pool : Pool.Uses state.handle.pool handle.pool)
      (still : handle.phase? id = some phase) {next : Phase} (other : next.isCreating = false) :
      Pool.Uses state.handle.pool (handle.move id next).pool ∧
        ¬(handle.move id next).Is Phase.isCreating id :=
    ⟨pool, not_isCreating (Handle.phase?_move still next) other⟩
  unfold advance
  rw [found]
  cases phase with
  | arrived sql arguments =>
    dsimp only [arrive]
    split <;> exact moved state.handle (.keeps _) found rfl
  | needsPool bound =>
    dsimp only [seekPool]
    split
    · exact moved state.handle (.keeps _) found rfl
    · split
      · exact moved { state.handle with holder := some id } (.keeps _) found rfl
      · exact moved { state.handle with queue := state.handle.queue ++ [id] } (.keeps _) found rfl
  | locked bound => cases lock
  | creating bound => cases lock
  | needsConnection bound =>
    dsimp only [seekConnection]
    split
    · exact ⟨.keeps _, not_isCreating found rfl⟩
    · rename_i pool pooled
      have taken (next : Pool) (uses : Pool.Uses (some pool) (some next)) :
          Pool.Uses state.handle.pool (some next) := pooled ▸ uses
      split
      · exact moved state.handle (.keeps _) found rfl
      · split
        · rw [handle_fail]
          exact moved state.handle (.keeps _) found rfl
        · split
          · exact moved { state.handle with
              pool := some (pool.wait id), waiting := state.handle.waiting + 1 }
              (taken _ (.waits pool id)) found rfl
          · exact moved { state.handle with pool := some pool.take } (taken _ (.takes pool)) found
              rfl
  | granted bound =>
    exact moved { state.handle with waiting := state.handle.waiting - 1 } (.keeps _) found rfl
  | connected bound =>
    dsimp only [openCursor]
    split <;> exact moved state.handle (.keeps _) found rfl
  | cursorOpen bound =>
    dsimp only [run]
    split <;> exact moved state.handle (.keeps _) found rfl
  | leaving bound ran =>
    have left : state.handle.release.phase? id = some (.leaving bound ran) :=
      (Handle.spares_release state.handle id).phase?_eq found nofun
    dsimp only [leave]
    split
    · exact moved state.handle.release (uses_release state.handle) left rfl
    · rw [handle_fail]
      exact moved state.handle.release (uses_release state.handle) left rfl
  | _ => exact ⟨.keeps _, not_isCreating found rfl⟩

/-- Whether a statement is creating the pool is its own affair. -/
theorem isCreating_iff_of_spares {handle later : Handle} (spares : handle.Spares later id) :
    later.Is Phase.isCreating id ↔ handle.Is Phase.isCreating id := by
  rcases spares with same | ⟨_, _, wakes, was, is⟩
  · rw [Handle.Is, same, Handle.Is]
  · rw [Handle.is_iff was, Handle.is_iff is]
    cases wakes <;> rfl

theorem poolsAsked_of_events {later : State} {done : List Event}
    (sees : later.backend.events = state.backend.events ++ done) :
    later.poolsAsked = state.poolsAsked + done.countP Event.isCreatePool := by
  rw [poolsAsked, sees, List.countP_append]
  rfl

/-- Only who has the lock asks for a pool, and only before it is creating one. -/
theorem poolsAsked_advance {phase : Phase} (found : state.handle.phase? id = some phase)
    (other : ∀ bound, phase ≠ .locked bound) :
    (state.advance id).poolsAsked = state.poolsAsked := by
  obtain ⟨done, does, sees⟩ := does_advance found
  have nothing : done.countP Event.isCreatePool = 0 := by
    cases does with
    | createPool bound => exact absurd rfl (other bound)
    | _ => rfl
  rw [poolsAsked_of_events sees, nothing, Nat.add_zero]

theorem advance_of_pool {bound : Bound} (found : state.handle.phase? id = some (.locked bound))
    (pooled : state.handle.pool.isSome = true) :
    (state.advance id).handle = (state.handle.move id (.needsConnection bound)).unlock ∧
      (state.advance id).poolsAsked = state.poolsAsked := by
  unfold advance
  rw [found]
  dsimp only [enterLock]
  rw [if_pos pooled]
  exact ⟨rfl, rfl⟩

theorem advance_of_begins {bound : Bound} (found : state.handle.phase? id = some (.locked bound))
    (unpooled : state.handle.pool = none) :
    (state.advance id).handle = state.handle.move id (.creating bound) ∧
      (state.advance id).poolsAsked = state.poolsAsked + 1 := by
  have missing : ¬state.handle.pool.isSome = true := by
    rw [unpooled]
    exact Bool.false_ne_true
  unfold advance
  rw [found]
  dsimp only [enterLock]
  rw [if_neg missing]
  exact ⟨rfl, List.countP_append⟩

theorem advance_of_fails {bound : Bound} {error : DriverError}
    (found : state.handle.phase? id = some (.creating bound))
    (raises : state.backend.Raises error .create) :
    ∃ outcome, (state.advance id).handle = (state.handle.move id (.finished outcome)).unlock := by
  obtain ⟨rest, raised⟩ := raises.errorAt_eq
  unfold advance
  rw [found]
  dsimp only [created]
  rw [raised]
  exact ⟨_, rfl⟩

theorem advance_of_succeeds {bound : Bound}
    (found : state.handle.phase? id = some (.creating bound))
    (quiet : (state.backend.errorAt .create).1 = none) :
    (state.advance id).handle =
      ({ state.handle with
        pool := some (.create state.handle.settings.connectionLimit) }.move id
          (.needsConnection bound)).unlock := by
  unfold advance
  rw [found]
  dsimp only [created]
  rw [Backend.errorAt_eq_none quiet]
  rfl

/-- Whatever has nothing to do with attempts at the pool uses it at most. -/
theorem quiet_act (quiet : state.creation? action = none) :
    Pool.Uses state.handle.pool (state.act action).handle.pool ∧
      (∀ other, (state.act action).handle.Is Phase.isCreating other ↔
        state.handle.Is Phase.isCreating other) ∧
      (state.act action).poolsAsked = state.poolsAsked := by
  cases action with
  | enter sql arguments =>
    exact ⟨.keeps _, Handle.is_enter state.handle state.freshId sql arguments _ rfl, rfl⟩
  | script outcomes => exact ⟨.keeps _, fun _ => .rfl, rfl⟩
  | advance id =>
    have others (idle : ¬state.handle.Is Phase.isCreating id)
        (still : ¬(state.advance id).handle.Is Phase.isCreating id) (other : Nat) :
        (state.advance id).handle.Is Phase.isCreating other ↔
          state.handle.Is Phase.isCreating other := by
      by_cases same : other = id
      · rw [same]
        exact ⟨fun is => absurd is still, fun is => absurd is idle⟩
      · exact isCreating_iff_of_spares (spares_advance same state)
    show Pool.Uses _ (state.advance id).handle.pool ∧ _
    cases found : state.handle.phase? id with
    | none =>
      have stays : state.advance id = state := by
        unfold advance
        rw [found]
      rw [act, stays]
      exact ⟨.keeps _, fun _ => .rfl, rfl⟩
    | some phase =>
      cases phase with
      | locked bound =>
        rw [creation?, found] at quiet
        have pooled : state.handle.pool.isSome = true := by
          by_contra unpooled
          exact absurd quiet (by simp [unpooled])
        obtain ⟨moved, asks⟩ := advance_of_pool found pooled
        refine ⟨?_, others (not_isCreating found rfl) ?_, asks⟩
        · rw [moved, pool_unlock]
          exact .keeps _
        · rw [moved, isCreating_iff_of_spares (Handle.spares_unlock _ id)]
          exact not_isCreating (Handle.phase?_move found _) rfl
      | creating bound =>
        rw [creation?, found] at quiet
        cases quiet
      | _ =>
        obtain ⟨uses, idle⟩ := uses_advance found rfl
        refine ⟨uses, others (not_isCreating found rfl) idle, poolsAsked_advance found ?_⟩
        rintro _ ⟨⟩

/-- The driver is asked for a pool whenever an attempt begins, and at no other time. -/
theorem poolsAsked_act (state : State) (action : Action) :
    (state.act action).poolsAsked =
      state.poolsAsked + (state.creation? action).toList.countP Creation.isBeginning := by
  cases happens : state.creation? action with
  | none => exact (quiet_act happens).2.2
  | some creation =>
    cases creation?_eq_some_iff.mp happens with
    | begins found unpooled => exact (advance_of_begins found unpooled).2
    | fails found raises => exact poolsAsked_advance found nofun
    | succeeds found quiet => exact poolsAsked_advance found nofun

theorem poolsAsked_after (state : State) (actions : List Action) :
    (state.after actions).poolsAsked =
      state.poolsAsked + (state.creations actions).countP Creation.isBeginning := by
  induction actions generalizing state with
  | nil => rfl
  | cons action rest inductionHypothesis =>
    rw [creations, List.countP_append, ← Nat.add_assoc, ← poolsAsked_act]
    exact inductionHypothesis (state.act action)

end State

/-! ### One attempt after another -/

/-- How far a handle has come with its pool. -/
inductive Progress where
  | unmade
  | making (id : Nat)
  | made

/-- What happens to attempts leads from how far a handle has come to how far it comes. -/
inductive Progress.Leads : Progress → List Creation → Progress → Prop where
  | nothing (progress : Progress) : Leads progress [] progress
  | begins (id : Nat) {rest : List Creation} {last : Progress}
      (later : Leads (.making id) rest last) : Leads .unmade (.begins id :: rest) last
  | fails (id : Nat) {rest : List Creation} {last : Progress} (later : Leads .unmade rest last) :
    Leads (.making id) (.fails id :: rest) last
  | succeeds (id : Nat) {rest : List Creation} {last : Progress} (later : Leads .made rest last) :
    Leads (.making id) (.succeeds id :: rest) last

namespace Progress

variable {progress middle last : Progress} {done rest : List Creation}

theorem Leads.append (first : progress.Leads done middle) (second : middle.Leads rest last) :
    progress.Leads (done ++ rest) last := by
  induction first with
  | nothing => exact second
  | begins id _ inductionHypothesis => exact .begins id (inductionHypothesis second)
  | fails id _ inductionHypothesis => exact .fails id (inductionHypothesis second)
  | succeeds id _ inductionHypothesis => exact .succeeds id (inductionHypothesis second)

/-- From a handle without a pool, attempts are in order; once there is one there are none. -/
theorem Leads.areOrdered (leads : progress.Leads done last) :
    match progress with
    | .unmade => Creation.AreOrdered done
    | .making id => Creation.AreOrdered (.begins id :: done)
    | .made => done = [] := by
  induction leads with
  | nothing progress =>
    cases progress with
    | unmade => exact .none
    | making id => exact .begun id
    | made => rfl
  | begins id _ inductionHypothesis => exact inductionHypothesis
  | fails id _ inductionHypothesis => exact .failed id inductionHypothesis
  | succeeds id _ nothing =>
    cases nothing
    exact .made id

theorem Leads.eq_made_iff (leads : progress.Leads done last) :
    last = .made ↔ progress = .made ∨ ∃ id, .succeeds id ∈ done := by
  induction leads with
  | nothing => simp
  | begins id _ inductionHypothesis => simpa using inductionHypothesis
  | fails id _ inductionHypothesis => simpa using inductionHypothesis
  | succeeds id _ inductionHypothesis =>
    refine ⟨fun _ => .inr ⟨id, List.mem_cons_self⟩, fun _ => ?_⟩
    exact inductionHypothesis.mpr (.inl rfl)

end Progress

theorem Pool.Uses.eq_none {later : Option Pool} (uses : Pool.Uses none later) : later = none := by
  cases uses
  rfl

namespace Handle

variable {maximum : Nat} {handle : Handle} {id other : Nat}

/-- How far a handle has come: it has no pool and nobody is creating one, somebody is, or it has
one. -/
inductive HasCome (handle : Handle) : Progress → Prop where
  | unmade (unpooled : handle.pool = none) (idle : ∀ id, ¬handle.Is Phase.isCreating id) :
    HasCome handle .unmade
  | making {id : Nat} (creating : handle.Is Phase.isCreating id) : HasCome handle (.making id)
  | made (pooled : handle.pool.isSome = true) : HasCome handle .made

theorem Is.hasLock (creating : handle.Is Phase.isCreating id) : handle.Is Phase.hasLock id := by
  obtain ⟨phase, found, is⟩ := creating
  cases phase with
  | creating bound => exact ⟨_, found, rfl⟩
  | _ => cases is

/-- One statement at most has the lock. -/
theorem Sound.alone (sound : handle.Sound maximum) (has : handle.Is Phase.hasLock id)
    (hasToo : handle.Is Phase.hasLock other) : id = other :=
  Option.some.inj ((sound.locked id has).symm.trans (sound.locked other hasToo))

theorem HasCome.isSome_iff (sound : handle.Sound maximum) {progress : Progress}
    (has : handle.HasCome progress) : handle.pool.isSome = true ↔ progress = .made := by
  cases has with
  | unmade unpooled => simp [unpooled]
  | making creating => simp [sound.creating _ creating]
  | made pooled => simp [pooled]

end Handle

namespace State

variable {maximum : Nat} {state : State} {progress : Progress}

/-- An attempt begins where there is no pool and nobody creates one, and ends for who began it. -/
theorem hasCome_act (sound : state.handle.Sound maximum) (has : state.handle.HasCome progress)
    (action : Action) :
    ∃ next, progress.Leads (state.creation? action).toList next ∧
      (state.act action).handle.HasCome next := by
  cases happens : state.creation? action with
  | none =>
    obtain ⟨uses, same, _⟩ := quiet_act happens
    refine ⟨progress, .nothing _, ?_⟩
    cases has with
    | unmade unpooled idle =>
      rw [unpooled] at uses
      exact .unmade uses.eq_none fun id is => idle id ((same id).mp is)
    | making creating => exact .making ((same _).mpr creating)
    | made pooled => exact .made ((keeps_act state action).2 pooled)
  | some creation =>
    cases creation?_eq_some_iff.mp happens with
    | @begins id bound found unpooled =>
      cases has with
      | unmade _ idle =>
        refine ⟨.making id, .begins id (.nothing _), .making ?_⟩
        rw [act, (advance_of_begins found unpooled).1]
        exact ⟨_, Handle.phase?_move found _, rfl⟩
      | making creating =>
        obtain rfl := sound.alone creating.hasLock ⟨_, found, rfl⟩
        exact absurd creating (not_isCreating found rfl)
      | made pooled =>
        rw [unpooled] at pooled
        cases pooled
    | @fails id bound error found raises =>
      have creates : state.handle.Is Phase.isCreating id := ⟨_, found, rfl⟩
      cases has with
      | unmade _ idle => exact absurd creates (idle id)
      | making creating =>
        obtain rfl := sound.alone creates.hasLock creating.hasLock
        obtain ⟨outcome, moved⟩ := advance_of_fails found raises
        refine ⟨.unmade, .fails id (.nothing _), .unmade ?_ fun other is => ?_⟩
        · rw [act, moved, pool_unlock]
          exact sound.creating id creates
        · rw [act, moved, isCreating_iff_of_spares (Handle.spares_unlock _ other),
            Handle.is_move found] at is
          split at is
          · cases is
          · rename_i differs
            exact differs (sound.alone is.hasLock creates.hasLock)
      | made pooled =>
        rw [sound.creating id creates] at pooled
        cases pooled
    | @succeeds id bound found quiet =>
      have creates : state.handle.Is Phase.isCreating id := ⟨_, found, rfl⟩
      cases has with
      | unmade _ idle => exact absurd creates (idle id)
      | making creating =>
        obtain rfl := sound.alone creates.hasLock creating.hasLock
        refine ⟨.made, .succeeds id (.nothing _), .made ?_⟩
        rw [act, advance_of_succeeds found quiet, pool_unlock]
        rfl
      | made pooled =>
        rw [sound.creating id creates] at pooled
        cases pooled

theorem hasCome_after (sound : state.handle.Sound maximum) (has : state.handle.HasCome progress)
    (actions : List Action) :
    ∃ last, progress.Leads (state.creations actions) last ∧
      (state.after actions).handle.HasCome last := by
  induction actions generalizing state progress with
  | nil => exact ⟨progress, .nothing _, has⟩
  | cons action rest inductionHypothesis =>
    obtain ⟨next, first, has⟩ := hasCome_act sound has action
    obtain ⟨last, later, come⟩ := inductionHypothesis (sound_act action sound) has
    exact ⟨last, first.append later, come⟩

/-! ### The next attempt -/

/-- Who has the lock on a handle without a pool tries next, whatever others do meanwhile. -/
theorem begins_after_of_locked (sound : state.handle.Sound maximum) {id : Nat} {bound : Bound}
    (found : state.handle.phase? id = some (.locked bound)) (unpooled : state.handle.pool = none)
    {actions : List Action} (others : .advance id ∉ actions) :
    (state.after actions).creation? (.advance id) = some (.begins id) := by
  induction actions generalizing state with
  | nil => exact creation?_eq_some_iff.mpr (.begins found unpooled)
  | cons action rest inductionHypothesis =>
    have still := phase?_act found nofun action fun mine =>
      absurd mine.symm (List.ne_of_not_mem_cons others)
    refine inductionHypothesis (sound_act action sound) still ?_
      (List.not_mem_of_not_mem_cons others)
    -- nobody else has the lock, so no attempt can end meanwhile
    have alone {other : Nat} {awaited : Bound}
        (creating : state.handle.phase? other = some (.creating awaited)) : False := by
      obtain rfl := sound.alone ⟨_, found, rfl⟩ ⟨_, creating, rfl⟩
      rw [found] at creating
      cases creating
    cases happens : state.creation? action with
    | none =>
      have uses := (quiet_act happens).1
      rw [unpooled] at uses
      exact uses.eq_none
    | some creation =>
      cases creation?_eq_some_iff.mp happens with
      | begins locked _ =>
        rw [act, (advance_of_begins locked unpooled).1]
        exact unpooled
      | fails creating _ => exact (alone creating).elim
      | succeeds creating _ => exact (alone creating).elim

/-- Who is spared ends no sooner. -/
theorem outcome?_of_spares {later : State} {id : Nat}
    (spares : state.handle.Spares later.handle id) : later.outcome? id = state.outcome? id := by
  unfold outcome?
  rcases spares with same | ⟨_, _, wakes, was, is⟩
  · rw [same]
  · rw [was, is]
    cases wakes <;> rfl

/-- A pool that is there is used, and not made again. -/
theorem uses_act (sound : state.handle.Sound maximum) (pooled : state.handle.pool.isSome = true)
    (action : Action) : Pool.Uses state.handle.pool (state.act action).handle.pool := by
  have created {id : Nat} {bound : Bound}
      (found : state.handle.phase? id = some (.creating bound)) : False := by
    rw [sound.creating id ⟨_, found, rfl⟩] at pooled
    cases pooled
  cases happens : state.creation? action with
  | none => exact (quiet_act happens).1
  | some creation =>
    cases creation?_eq_some_iff.mp happens with
    | begins _ unpooled =>
      rw [unpooled] at pooled
      cases pooled
    | fails found _ => exact (created found).elim
    | succeeds found _ => exact (created found).elim

section Fails

variable {id next : Nat} {rest : List Nat}

/-- Who fails to create the pool fails with that for good, and nobody else fails. -/
theorem ends_of_fails (fails : state.creation? (.advance id) = some (.fails id)) :
    ∃ failure : Failure, failure.IsOfDriver ∧
      (∀ actions, ((state.advance id).after actions).outcome? id = some (.error failure)) ∧
      ∀ other, other ≠ id → (state.advance id).outcome? other = state.outcome? other := by
  cases creation?_eq_some_iff.mp fails with
  | fails found raises =>
    obtain ⟨failure, tells, ends⟩ := (tellsErrors state).creating id _ _ found raises
    exact ⟨failure, tells.isOfDriver, ends, fun other differs =>
      outcome?_of_spares (spares_advance differs state)⟩

/-- Who waits first for the lock when an attempt fails has it then, and tries next. -/
theorem begins_after_of_fails (sound : state.handle.Sound maximum) (lined : state.handle.Lined)
    (fails : state.creation? (.advance id) = some (.fails id))
    (line : state.handle.queue = next :: rest) {actions : List Action}
    (others : .advance next ∉ actions) :
    ((state.advance id).after actions).creation? (.advance next) = some (.begins next) := by
  cases creation?_eq_some_iff.mp fails with
  | fails found raises =>
    obtain ⟨outcome, moved⟩ := advance_of_fails found raises
    have lines : (state.handle.move id (.finished outcome)).Lines :=
      lined.toLines.move found rfl nofun
    obtain ⟨bound, waits, given⟩ := lines.unlock_eq line
    have locked : (state.advance id).handle.phase? next = some (.locked bound) := by
      rw [moved, given]
      exact Handle.phase?_move waits _
    refine begins_after_of_locked (sound_advance sound id) locked ?_ others
    rw [moved, pool_unlock]
    exact sound.creating id ⟨_, found, rfl⟩

/-- Where nobody waits for the lock when an attempt fails, the lock is free then. -/
theorem holder_of_fails (fails : state.creation? (.advance id) = some (.fails id))
    (line : state.handle.queue = []) : (state.advance id).handle.holder = none := by
  cases creation?_eq_some_iff.mp fails with
  | fails found raises =>
    obtain ⟨outcome, moved⟩ := advance_of_fails found raises
    have empty : (state.handle.move id (.finished outcome)).queue = [] := line
    rw [moved, Handle.unlock_of_nil empty]

/-- Who comes to a free lock on a handle without a pool tries next. -/
theorem begins_of_needsPool (lined : state.handle.Lined) {bound : Bound}
    (unpooled : state.handle.pool = none) (free : state.handle.holder = none)
    (found : state.handle.phase? id = some (.needsPool bound)) :
    (state.advance id).creation? (.advance id) = some (.begins id) := by
  have line := lined.free free
  have taken : state.advance id =
      { state with handle := { state.handle with holder := some id } }.move id (.locked bound) := by
    simp [advance, found, seekPool, unpooled, free, line]
  have locked : (state.advance id).handle.phase? id = some (.locked bound) := by
    rw [taken]
    exact Handle.phase?_move found _
  refine creation?_eq_some_iff.mpr (.begins locked ?_)
  rw [taken]
  exact unpooled

end Fails

/-- Whatever the order in which statements come to a handle without a pool and go on, it creates one
pool at most, and all use that. -/
theorem makesOnePool_after (settings : Settings) (backend : Backend) (actions : List Action) :
    MakesOnePool (start settings none backend) ((start settings none backend).creations actions)
      ((start settings none backend).after actions) := by
  have sound := sound_after settings none backend actions
  have lined := lined_after settings none backend actions
  have kept := keeps_after (start settings none backend) actions
  obtain ⟨last, leads, come⟩ := hasCome_after (sound_start settings none backend)
    (.unmade rfl fun id ⟨_, found, _⟩ => nomatch found) actions
  refine ⟨leads.areOrdered, poolsAsked_after _ actions, ?makes, ?alone, ?creates,
    fun action pooled => uses_act sound pooled action, lined.past, ?serves,
    fun id fails => ends_of_fails fails,
    fun id next rest fails line actions => begins_after_of_fails sound lined fails line,
    fun id fails line => holder_of_fails fails line,
    fun id bound unpooled free found => begins_of_needsPool lined unpooled free found,
    fun id awaits => ⟨(lined.line id).mpr awaits, lined.exists_hasLock awaits⟩⟩
  case makes => exact (come.isSome_iff sound).trans (leads.eq_made_iff.trans (by simp))
  case alone =>
    intro id other creating creatingToo
    exact sound.alone creating.hasLock creatingToo.hasLock
  case creates =>
    intro id succeeds
    cases creation?_eq_some_iff.mp succeeds with
    | succeeds found quiet =>
      rw [advance_of_succeeds found quiet, pool_unlock, kept.1]
      rfl
  case serves =>
    intro pool pooled
    have serves := sound.pooled pool pooled
    exact ⟨((keepsOrder_of_sound sound).uses pool pooled).1, serves.line⟩

end State

end MySql

end TableGateway
