/-
This file proves that the handle of a server keeps its promises about connections
whatever the order in which statements go on: it uses no more connections than its pool
may have, lets no more callers wait than its limit says, counts those who wait exactly,
and has every connection back when all statements are over. Every step of a statement
keeps one invariant, which ties the counter, the pool and its line to the phases.
-/

import TableGateway.Proofs.ServerEndings

namespace TableGateway.MySql

namespace Phase

/-- A statement that is in line for a connection. -/
def isInLine : Phase → Bool
  | .waitingForConnection _ => true
  | _ => false

/-- A statement that entered the wait for a connection and has not gone on since. -/
def waits : Phase → Bool
  | .waitingForConnection _ => true
  | .granted _ => true
  | _ => false

/-- A statement that has a connection. -/
def holds : Phase → Bool
  | .granted _ => true
  | .connected _ => true
  | .cursorOpen _ => true
  | .leaving _ _ => true
  | _ => false

/-- A statement that has the lock. -/
def hasLock : Phase → Bool
  | .locked _ => true
  | .creating _ => true
  | _ => false

/-- A statement that is creating the pool. -/
def isCreating : Phase → Bool
  | .creating _ => true
  | _ => false

end Phase

/-! ### The invariant -/

/-- What is true of the pool of a handle: each of its connections is free or in use, and the
callers in its line wait for one because there is none. -/
structure Pool.Serves (pool : Pool) (maximum : Nat) (handle : Handle) : Prop where
  maximum_eq : pool.maximum = maximum
  bounded : pool.size ≤ maximum
  balanced : pool.free + handle.count Phase.holds = pool.size
  distinct : pool.waiting.Nodup
  line : ∀ id, id ∈ pool.waiting ↔ handle.Is Phase.isInLine id
  exhausted : pool.waiting ≠ [] → pool.isExhausted = true

/-- What is true of a handle whatever the order of steps. -/
structure Handle.Sound (maximum : Nat) (handle : Handle) : Prop where
  distinct : (handle.tasks.map Task.id).Nodup
  locked : ∀ id, handle.Is Phase.hasLock id → handle.holder = some id
  creating : ∀ id, handle.Is Phase.isCreating id → handle.pool = none
  unpooled : handle.pool = none →
    handle.count Phase.holds = 0 ∧ ∀ id, ¬handle.Is Phase.isInLine id
  planned : handle.pool = none → handle.settings.connectionLimit = maximum
  counted : handle.waiting = handle.count Phase.waits
  limited : 0 < handle.settings.queueLimit → handle.waiting ≤ handle.settings.queueLimit
  pooled : ∀ pool, handle.pool = some pool → pool.Serves maximum handle

theorem Pool.Serves.isExhausted_iff {pool : Pool} {maximum : Nat} {handle : Handle}
    (serves : pool.Serves maximum handle) :
    pool.isExhausted = true ↔ pool.free = 0 ∧ pool.size = maximum := by
  have bounded := serves.bounded
  have same := serves.maximum_eq
  simp only [Pool.isExhausted, Bool.and_eq_true, beq_iff_eq, decide_eq_true_eq]
  omega

namespace Handle

variable {maximum : Nat} {handle : Handle} {id : Nat} {old new : Phase}

/-- Nobody has the lock, after the statement that had it moved on. -/
theorem Sound.nobody (sound : handle.Sound maximum) (found : handle.phase? id = some old)
    (had : old.hasLock = true) (left : new.hasLock = false) (other : Nat) :
    ¬(handle.move id new).Is Phase.hasLock other := by
  rw [is_move found]
  split
  · rw [left]
    exact Bool.false_ne_true
  · rename_i differs
    intro has
    have holder := sound.locked id ((is_iff found _).mpr had)
    rw [sound.locked other has] at holder
    exact differs (Option.some.inj holder)

/-- A statement may move with what it changes of the pool and of the counter. -/
theorem Sound.shift (sound : handle.Sound maximum) (found : handle.phase? id = some old)
    {next : Option Pool} {waiting : Nat} (lock : new.hasLock = true → handle.holder = some id)
    (creating : ∀ other, (handle.move id new).Is Phase.isCreating other → next = none)
    (unpooled : next = none → handle.pool = none ∧ new.holds = old.holds ∧
      new.isInLine = old.isInLine)
    (counted : waiting + old.waits.toNat = handle.waiting + new.waits.toNat)
    (limited : 0 < handle.settings.queueLimit → waiting ≤ handle.settings.queueLimit)
    (pooled : ∀ pool, next = some pool → pool.Serves maximum (handle.move id new)) :
    ({ handle with pool := next, waiting := waiting }.move id new).Sound maximum where
  distinct := by
    rw [ids_move]
    exact sound.distinct
  locked := by
    intro other has
    have has : (handle.move id new).Is Phase.hasLock other := has
    rw [is_move found] at has
    split at has
    · rename_i same
      rw [same]
      exact lock has
    · exact sound.locked other has
  creating := creating
  unpooled := by
    intro none
    obtain ⟨without, holds, line⟩ := unpooled none
    obtain ⟨idle, unlined⟩ := sound.unpooled without
    exact ⟨(count_move_of_same sound.distinct found new Phase.holds holds).trans idle,
      fun other is => unlined other ((is_move_of_same found new Phase.isInLine line other).mp is)⟩
  planned none := sound.planned (unpooled none).1
  counted := by
    have moved := count_move sound.distinct found new Phase.waits
    have before := sound.counted
    change waiting = (handle.move id new).count Phase.waits
    omega
  limited := limited
  pooled := by
    intro pool is
    have serves := pooled pool is
    exact ⟨serves.maximum_eq, serves.bounded, serves.balanced, serves.distinct, serves.line,
      serves.exhausted⟩

/-- A statement that keeps its part in the pool may move. -/
theorem Sound.move (sound : handle.Sound maximum) (found : handle.phase? id = some old)
    (holds : new.holds = old.holds) (line : new.isInLine = old.isInLine)
    (waits : new.waits = old.waits) (lock : new.hasLock = true → handle.holder = some id)
    (creating : new.isCreating = true → handle.pool = none) :
    (handle.move id new).Sound maximum := by
  refine sound.shift found lock ?_ (fun none => ⟨none, holds, line⟩) ?_ sound.limited ?_
  · intro other
    rw [is_move found]
    split
    · exact creating
    · exact sound.creating other
  · rw [waits]
  · intro pool is
    have serves := sound.pooled pool is
    have holders := count_move_of_same sound.distinct found new Phase.holds holds
    have inLine := is_move_of_same found new Phase.isInLine line
    exact ⟨serves.maximum_eq, serves.bounded, holders.symm ▸ serves.balanced, serves.distinct,
      fun other => (serves.line other).trans (inLine other).symm, serves.exhausted⟩

/-- The lock may change its holder and its line, as long as who has it is its holder. -/
theorem Sound.relock (sound : handle.Sound maximum) {holder : Option Nat} (queue : List Nat)
    (locked : ∀ other, handle.Is Phase.hasLock other → holder = some other) :
    { handle with holder := holder, queue := queue }.Sound maximum :=
  ⟨sound.distinct, locked, sound.creating, sound.unpooled, sound.planned, sound.counted,
    sound.limited, fun pool is =>
      have serves := sound.pooled pool is
      ⟨serves.maximum_eq, serves.bounded, serves.balanced, serves.distinct, serves.line,
        serves.exhausted⟩⟩

/-- A lock that nobody has may be given to the first in line. -/
theorem Sound.unlock (sound : handle.Sound maximum)
    (nobody : ∀ other, ¬handle.Is Phase.hasLock other) : handle.unlock.Sound maximum := by
  unfold Handle.unlock
  split
  · exact sound.relock _ fun other has => absurd has (nobody other)
  · rename_i next rest _
    have given : { handle with holder := some next, queue := rest }.Sound maximum :=
      sound.relock _ fun other has => absurd has (nobody other)
    dsimp only
    split
    · rename_i bound found
      exact given.move found rfl rfl rfl (fun _ => rfl) Bool.noConfusion
    · exact given

/-- A new pool serves a handle that had none. -/
theorem Sound.created (sound : handle.Sound maximum) {bound : Bound}
    (found : handle.phase? id = some (.creating bound)) :
    ({ handle with pool := some (Pool.create handle.settings.connectionLimit) }.move id
      (.needsConnection bound)).Sound maximum := by
  have none := sound.creating id ((is_iff found _).mpr rfl)
  obtain ⟨idle, unlined⟩ := sound.unpooled none
  refine sound.shift found nofun ?_ nofun rfl sound.limited ?_
  · rintro other ⟨phase, is, creates⟩
    have lock : phase.hasLock = true := by
      cases phase <;> first | rfl | exact absurd creates Bool.false_ne_true
    exact absurd ⟨phase, is, lock⟩ (sound.nobody found rfl rfl other)
  · rintro pool ⟨⟩
    have holds := count_move_of_same sound.distinct found (.needsConnection bound) Phase.holds rfl
    refine ⟨sound.planned none, ?_, ?_, List.nodup_nil, fun other => ?_, nofun⟩
    · rw [sound.planned none]
      exact Nat.min_le_right 1 maximum
    · rw [holds, idle]
      rfl
    · rw [is_move_of_same found (.needsConnection bound) Phase.isInLine rfl]
      exact ⟨nofun, fun is => absurd is (unlined other)⟩

/-! ### Connections -/

variable {pool : Pool} {bound : Bound}

/-- Who asks a pool that has a connection to give takes it. -/
theorem Sound.takes (sound : handle.Sound maximum) (pooled : handle.pool = some pool)
    (found : handle.phase? id = some (.needsConnection bound)) (free : pool.isExhausted = false) :
    ({ handle with pool := some pool.take }.move id (.connected bound)).Sound maximum := by
  have serves := sound.pooled pool pooled
  have roomy : pool.free = 0 → pool.size < maximum := by
    intro empty
    rw [← serves.maximum_eq]
    simpa [Pool.isExhausted, empty] using free
  have holds := count_move sound.distinct found (.connected bound) Phase.holds
  have balanced := serves.balanced
  have taken : pool.take.maximum = pool.maximum ∧ pool.take.waiting = pool.waiting ∧
      pool.take.size ≤ maximum ∧
      pool.take.free + (handle.count Phase.holds + 1) = pool.take.size := by
    unfold Pool.take
    split
    · rename_i empty
      exact ⟨rfl, rfl, roomy empty, by dsimp only; omega⟩
    · exact ⟨rfl, rfl, serves.bounded, by dsimp only; omega⟩
  obtain ⟨maximum_eq, line, bounded, sum⟩ := taken
  refine sound.shift found nofun ?_ nofun rfl sound.limited ?_
  · intro other creates
    rw [is_move_of_same found (.connected bound) Phase.isCreating rfl] at creates
    rw [sound.creating other creates] at pooled
    cases pooled
  · rintro _ ⟨⟩
    refine ⟨maximum_eq.trans serves.maximum_eq, bounded, ?_, line ▸ serves.distinct,
      fun other => ?_, fun waited => ?_⟩
    · change _ + 0 = _ + 1 at holds
      omega
    · rw [line, is_move_of_same found (.connected bound) Phase.isInLine rfl]
      exact serves.line other
    · rw [line] at waited
      rw [serves.exhausted waited] at free
      cases free

/-- Who asks a pool without a connection to give gets in line. -/
theorem Sound.waits (sound : handle.Sound maximum) (pooled : handle.pool = some pool)
    (found : handle.phase? id = some (.needsConnection bound)) (full : pool.isExhausted = true)
    (admitted : 0 < handle.settings.queueLimit → handle.waiting < handle.settings.queueLimit) :
    ({ handle with pool := some (pool.wait id), waiting := handle.waiting + 1 }.move id
      (.waitingForConnection bound)).Sound maximum := by
  have serves := sound.pooled pool pooled
  have apart : id ∉ pool.waiting := by
    rw [serves.line, is_iff found]
    exact Bool.false_ne_true
  refine sound.shift found nofun ?_ nofun rfl admitted ?_
  · intro other creates
    rw [is_move_of_same found (.waitingForConnection bound) Phase.isCreating rfl] at creates
    rw [sound.creating other creates] at pooled
    cases pooled
  · rintro _ ⟨⟩
    refine ⟨serves.maximum_eq, serves.bounded, ?_, ?_, fun other => ?_, fun _ => full⟩
    · rw [count_move_of_same sound.distinct found (.waitingForConnection bound) Phase.holds rfl]
      exact serves.balanced
    · exact (List.perm_append_singleton id pool.waiting).nodup_iff.mpr
        (List.nodup_cons.mpr ⟨apart, serves.distinct⟩)
    · rw [is_move found, Pool.wait, List.mem_append, List.mem_singleton, serves.line]
      split
      · rename_i same
        exact ⟨fun _ => rfl, fun _ => .inr same⟩
      · rename_i differs
        exact ⟨fun among => among.resolve_right differs, .inl⟩

/-- Who was given a connection while it waited goes on with it. -/
theorem Sound.resumes (sound : handle.Sound maximum)
    (found : handle.phase? id = some (.granted bound)) :
    ({ handle with waiting := handle.waiting - 1 }.move id (.connected bound)).Sound maximum := by
  have counted := sound.counted
  have someone : 0 < handle.count Phase.waits := count_pos found rfl
  refine sound.shift found nofun ?_ (fun none => ⟨none, rfl, rfl⟩) ?_ ?_ ?_
  · intro other creates
    rw [is_move_of_same found (.connected bound) Phase.isCreating rfl] at creates
    exact sound.creating other creates
  · change _ + 1 = _ + 0
    omega
  · intro limit
    have within := sound.limited limit
    omega
  · intro pool is
    have serves := sound.pooled pool is
    refine ⟨serves.maximum_eq, serves.bounded, ?_, serves.distinct, fun other => ?_,
      serves.exhausted⟩
    · rw [count_move_of_same sound.distinct found (.connected bound) Phase.holds rfl]
      exact serves.balanced
    · rw [is_move_of_same found (.connected bound) Phase.isInLine rfl]
      exact serves.line other

/-- Who leaves hands its connection over to the first in line. -/
theorem Sound.handsOver (sound : handle.Sound maximum) (pooled : handle.pool = some pool)
    {first : Nat} {rest : List Nat} (line : pool.waiting = first :: rest) {awaited : Bound}
    (waited : handle.phase? first = some (.waitingForConnection awaited)) {ran : Ran}
    (found : handle.phase? id = some (.leaving bound ran)) (differs : id ≠ first)
    (outcome : Except Failure Reply) :
    (({ handle with pool := some { pool with waiting := rest } }.move first
      (.granted awaited)).move id (.finished outcome)).Sound maximum := by
  have serves := sound.pooled pool pooled
  obtain ⟨fresh, distinct⟩ := List.nodup_cons.mp (line ▸ serves.distinct)
  have granted := phase?_move_of_ne differs handle (.granted awaited)
  rw [found] at granted
  have distinctIds : ((handle.move first (.granted awaited)).tasks.map Task.id).Nodup := by
    rw [ids_move]
    exact sound.distinct
  have same (sort : Phase → Bool) (left : sort (.finished outcome) = sort (.leaving bound ran))
      (has : sort (.granted awaited) = sort (.waitingForConnection awaited)) (other : Nat) :
      ((handle.move first (.granted awaited)).move id (.finished outcome)).Is sort other ↔
        handle.Is sort other :=
    (is_move_of_same granted (.finished outcome) sort left other).trans
      (is_move_of_same waited (.granted awaited) sort has other)
  refine ⟨?_, fun other has => ?_, fun other creates => ?_, nofun, nofun, ?_, sound.limited, ?_⟩
  · rw [ids_move, ids_move]
    exact sound.distinct
  · exact sound.locked other ((same Phase.hasLock rfl rfl other).mp has)
  · rw [sound.creating other ((same Phase.isCreating rfl rfl other).mp creates)] at pooled
    cases pooled
  · exact (sound.counted.trans
      (count_move_of_same sound.distinct waited (.granted awaited) Phase.waits rfl).symm).trans
        (count_move_of_same distinctIds granted (.finished outcome) Phase.waits rfl).symm
  · rintro _ ⟨⟩
    -- the connection changes hands: one statement more has one, then one less
    refine ⟨serves.maximum_eq, serves.bounded, ?_, distinct, fun other => ?_, fun _ => ?_⟩
    · have taken := count_move sound.distinct waited (.granted awaited) Phase.holds
      have left := count_move distinctIds granted (.finished outcome) Phase.holds
      have balanced := serves.balanced
      change _ + 0 = _ + 1 at taken
      change _ + 1 = _ + 0 at left
      change pool.free +
        ((handle.move first (.granted awaited)).move id (.finished outcome)).count Phase.holds =
          pool.size
      omega
    · have inLine := serves.line other
      rw [line, List.mem_cons] at inLine
      have still := is_move_of_same granted (.finished outcome) Phase.isInLine rfl other
      rw [is_move waited] at still
      refine Iff.trans ?_ still.symm
      split
      · rename_i isFirst
        rw [isFirst]
        exact ⟨fun among => absurd among fresh, fun is => absurd is Bool.false_ne_true⟩
      · rename_i notFirst
        exact ⟨fun among => inLine.mp (.inr among), fun is => (inLine.mpr is).resolve_left notFirst⟩
    · exact serves.exhausted (line ▸ List.cons_ne_nil first rest)

/-- Who leaves gives its connection back: it is free, or the first in line has it. -/
theorem Sound.leaves (sound : handle.Sound maximum) {ran : Ran}
    (found : handle.phase? id = some (.leaving bound ran)) (outcome : Except Failure Reply) :
    (handle.release.move id (.finished outcome)).Sound maximum := by
  have used : 0 < handle.count Phase.holds := count_pos found rfl
  cases pooled : handle.pool with
  | none =>
    have idle := (sound.unpooled pooled).1
    omega
  | some pool =>
    have serves := sound.pooled pool pooled
    cases line : pool.waiting with
    | nil =>
      have released : handle.release =
          { handle with pool := some { pool with free := pool.free + 1 } } := by
        simp only [release, pooled, Pool.release, line]
      have holds := count_move sound.distinct found (.finished outcome) Phase.holds
      have balanced := serves.balanced
      rw [released]
      refine sound.shift found nofun ?_ nofun rfl sound.limited ?_
      · intro other creates
        rw [is_move_of_same found (.finished outcome) Phase.isCreating rfl] at creates
        rw [sound.creating other creates] at pooled
        cases pooled
      · rintro _ ⟨⟩
        refine ⟨serves.maximum_eq, serves.bounded, ?_, serves.distinct, fun other => ?_,
          fun waited => absurd line waited⟩
        · change _ + 1 = _ + 0 at holds
          dsimp only
          omega
        · rw [is_move_of_same found (.finished outcome) Phase.isInLine rfl]
          exact serves.line other
    | cons first rest =>
      obtain ⟨phase, waited, inLine⟩ := (serves.line first).mp (line ▸ List.mem_cons_self)
      cases phase with
      | waitingForConnection awaited =>
        have released : handle.release =
            { handle with pool := some { pool with waiting := rest } }.move first
              (.granted awaited) := by
          simp only [release, pooled, Pool.release, line]
          rw [show phase? { handle with pool := some { pool with waiting := rest } } first =
            some (.waitingForConnection awaited) from waited]
        have differs : id ≠ first := by
          rintro rfl
          rw [found] at waited
          cases waited
        rw [released]
        exact sound.handsOver pooled line waited found differs outcome
      | _ => exact absurd inLine Bool.false_ne_true

/-- A statement that comes in is in no phase that matters to the pool. -/
theorem Sound.enters (sound : handle.Sound maximum) (fresh : id ∉ handle.tasks.map Task.id)
    (sql : String) (arguments : List Value) :
    Sound maximum { handle with tasks := handle.tasks ++ [⟨id, .arrived sql arguments⟩] } := by
  have same_count (sort : Phase → Bool) (none : sort (.arrived sql arguments) = false) :
      count { handle with tasks := handle.tasks ++ [⟨id, .arrived sql arguments⟩] } sort =
        handle.count sort := by
    simp only [count, List.countP_append, List.countP_cons, none, Bool.false_eq_true, if_false,
      List.countP_nil, Nat.add_zero]
  have same := is_enter handle id sql arguments
  refine ⟨?_, fun other has => ?_, fun other creates => ?_, fun without => ?_, sound.planned, ?_,
    sound.limited, fun pool is => ?_⟩
  · rw [List.map_append]
    exact (List.perm_append_singleton id (handle.tasks.map Task.id)).nodup_iff.mpr
      (List.nodup_cons.mpr ⟨fresh, sound.distinct⟩)
  · exact sound.locked other ((same Phase.hasLock rfl other).mp has)
  · exact sound.creating other ((same Phase.isCreating rfl other).mp creates)
  · obtain ⟨idle, unlined⟩ := sound.unpooled without
    exact ⟨(same_count Phase.holds rfl).trans idle,
      fun other is => unlined other ((same Phase.isInLine rfl other).mp is)⟩
  · exact sound.counted.trans (same_count Phase.waits rfl).symm
  · have serves := sound.pooled pool is
    exact ⟨serves.maximum_eq, serves.bounded,
      (same_count Phase.holds rfl).symm ▸ serves.balanced, serves.distinct,
      fun other => (serves.line other).trans (same Phase.isInLine rfl other).symm,
      serves.exhausted⟩

end Handle

/-! ### Steps and runs -/

namespace State

variable {maximum : Nat} {state : State} {id : Nat} {bound : Bound}

theorem sound_fail (sound : state.handle.Sound maximum) {old : Phase}
    (found : state.handle.phase? id = some old) (holds : old.holds = false)
    (line : old.isInLine = false) (waits : old.waits = false) (bound : Bound)
    (error : DriverError) : (state.fail id bound error).handle.Sound maximum :=
  sound.move found holds.symm line.symm waits.symm nofun nofun

theorem sound_arrive (sound : state.handle.Sound maximum) {sql : String} {arguments : List Value}
    (found : state.handle.phase? id = some (.arrived sql arguments)) :
    (state.arrive id sql arguments).handle.Sound maximum := by
  unfold arrive
  split
  · exact sound.move found rfl rfl rfl nofun nofun
  · exact sound.move found rfl rfl rfl nofun nofun

theorem sound_seekPool (sound : state.handle.Sound maximum)
    (found : state.handle.phase? id = some (.needsPool bound)) :
    (state.seekPool id bound).handle.Sound maximum := by
  unfold seekPool
  split
  · exact sound.move found rfl rfl rfl nofun nofun
  · split
    · rename_i unlocked
      have none : state.handle.holder = none := by
        simpa using (Bool.and_eq_true_iff.mp unlocked).1
      have taken : { state.handle with holder := some id }.Sound maximum := by
        refine sound.relock state.handle.queue fun other has => ?_
        have holder := sound.locked other has
        rw [none] at holder
        cases holder
      exact taken.move found rfl rfl rfl (fun _ => rfl) nofun
    · have lined : { state.handle with queue := state.handle.queue ++ [id] }.Sound maximum :=
        sound.relock _ sound.locked
      exact lined.move found rfl rfl rfl nofun nofun

theorem sound_enterLock (sound : state.handle.Sound maximum)
    (found : state.handle.phase? id = some (.locked bound)) :
    (state.enterLock id bound).handle.Sound maximum := by
  unfold enterLock
  split
  · have moved : (state.handle.move id (.needsConnection bound)).Sound maximum :=
      sound.move found rfl rfl rfl nofun nofun
    exact moved.unlock (sound.nobody found rfl rfl)
  · rename_i without
    refine sound.move found rfl rfl rfl (fun _ => ?_) fun _ => ?_
    · exact sound.locked id ((Handle.is_iff found _).mpr rfl)
    · simpa using without

theorem sound_created (sound : state.handle.Sound maximum)
    (found : state.handle.phase? id = some (.creating bound)) :
    (state.created id bound).handle.Sound maximum := by
  unfold created
  split
  · rename_i error backend _
    have moved : (state.handle.move id (.finished (.error (backend.report
        (.connecting state.handle.settings.safeUri) error (isDuplicate error)).1))).Sound
          maximum :=
      sound.move found rfl rfl rfl nofun nofun
    exact moved.unlock (sound.nobody found rfl rfl)
  · have moved := sound.created found
    exact moved.unlock (sound.nobody found rfl rfl)

theorem sound_seekConnection (sound : state.handle.Sound maximum)
    (found : state.handle.phase? id = some (.needsConnection bound)) :
    (state.seekConnection id bound).handle.Sound maximum := by
  unfold seekConnection
  split
  · exact sound
  · rename_i pool pooled
    split
    · exact sound.move found rfl rfl rfl nofun nofun
    · rename_i admitted
      split
      · rename_i error backend _
        have told : ({ state with backend := backend } : State).handle.Sound maximum := sound
        exact sound_fail told found rfl rfl rfl bound error
      · dsimp only
        split
        · rename_i full
          refine sound.waits pooled found full fun limit => ?_
          simpa [full, isQueueFull, limit] using admitted
        · rename_i free
          exact sound.takes pooled found (by simpa using free)

theorem sound_openCursor (sound : state.handle.Sound maximum)
    (found : state.handle.phase? id = some (.connected bound)) :
    (state.openCursor id bound).handle.Sound maximum := by
  unfold openCursor
  split <;> exact sound.move found rfl rfl rfl nofun nofun

theorem sound_run (sound : state.handle.Sound maximum)
    (found : state.handle.phase? id = some (.cursorOpen bound)) :
    (state.run id bound).handle.Sound maximum := by
  unfold run
  dsimp only
  split <;> exact sound.move found rfl rfl rfl nofun nofun

theorem sound_leave (sound : state.handle.Sound maximum) {ran : Ran}
    (found : state.handle.phase? id = some (.leaving bound ran)) :
    (state.leave id bound ran).handle.Sound maximum := by
  unfold leave
  dsimp only
  split <;> exact sound.leaves found _

/-- Every step of a statement keeps the invariant. -/
theorem sound_advance (sound : state.handle.Sound maximum) (id : Nat) :
    (state.advance id).handle.Sound maximum := by
  unfold advance
  split
  · exact sound_arrive sound ‹_›
  · exact sound_seekPool sound ‹_›
  · exact sound_enterLock sound ‹_›
  · exact sound_created sound ‹_›
  · exact sound_seekConnection sound ‹_›
  · exact sound.resumes ‹_›
  · exact sound_openCursor sound ‹_›
  · exact sound_run sound ‹_›
  · exact sound_leave sound ‹_›
  · exact sound

theorem sound_act (action : Action) (sound : state.handle.Sound maximum) :
    (state.act action).handle.Sound maximum := by
  cases action with
  | enter sql arguments => exact sound.enters state.freshId_fresh sql arguments
  | advance id => exact sound_advance sound id
  | script outcomes => exact sound

/-- A new handle keeps the invariant. -/
theorem sound_start (settings : Settings) (given : Option Nat) (backend : Backend) :
    (start settings given backend).handle.Sound (given.getD settings.connectionLimit) := by
  have nobody (sort : Phase → Bool) (id : Nat) :
      ¬(start settings given backend).handle.Is sort id := by
    rintro ⟨_, found, _⟩
    cases found
  refine ⟨List.nodup_nil, fun id has => absurd has (nobody _ id),
    fun id creates => absurd creates (nobody _ id), fun _ => ⟨rfl, nobody _⟩, fun none => ?_, rfl,
    fun _ => Nat.zero_le _, fun pool is => ?_⟩
  · cases given with
    | none => rfl
    | some size => cases none
  · cases given with
    | none => cases is
    | some size =>
      cases is
      exact ⟨rfl, Nat.min_le_right 1 size, rfl, List.nodup_nil,
        fun id => ⟨nofun, fun is => absurd is (nobody _ id)⟩, nofun⟩

/-- The invariant holds whatever happens. -/
theorem sound_after (settings : Settings) (given : Option Nat) (backend : Backend)
    (actions : List Action) :
    ((start settings given backend).after actions).handle.Sound
      (given.getD settings.connectionLimit) :=
  List.foldlRecOn
    (motive := fun state => state.handle.Sound (given.getD settings.connectionLimit)) actions act
    (sound_start settings given backend) fun _ sound action _ => sound_act action sound

/-! ### Connections and callers -/

/-- What the handle of a server keeps to, with a pool of at most so many connections. -/
structure KeepsOrder (maximum : Nat) (state : State) : Prop where
  counts : state.handle.waiting = state.handle.count Phase.waits
  limits : 0 < state.handle.settings.queueLimit →
    state.handle.waiting ≤ state.handle.settings.queueLimit
  uses : ∀ pool, state.handle.pool = some pool →
    pool.inUse = state.handle.count Phase.holds ∧ pool.inUse ≤ maximum
  waits : ∀ pool id, state.handle.pool = some pool → state.handle.Is Phase.isInLine id →
    pool.free = 0 ∧ pool.size = maximum
  refuses : ∀ id, state.outcome? id = none →
    ((state.advance id).outcome? id = some (.error
        (.queueFull state.handle.settings.queueLimit state.handle.settings.safeUri)) ↔
      (∃ bound, state.handle.phase? id = some (.needsConnection bound)) ∧
        (∃ pool, state.handle.pool = some pool ∧ pool.free = 0 ∧ pool.size = maximum) ∧
        0 < state.handle.settings.queueLimit ∧
        state.handle.settings.queueLimit ≤ state.handle.waiting)
  turnsAway : ∀ id, state.outcome? id = none → ∀ limit uri,
    (state.advance id).outcome? id = some (.error (.queueFull limit uri)) →
      state.advance id = state.move id (.finished (.error (.queueFull limit uri)))
  empties : (∀ task ∈ state.handle.tasks, ∃ outcome, task.phase = .finished outcome) →
    state.handle.waiting = 0 ∧
      ∀ pool, state.handle.pool = some pool → pool.free = pool.size ∧ pool.waiting = []

/-- When all statements are over, none is in a phase that an outcome is not of. -/
theorem count_eq_zero
    (ended : ∀ task ∈ state.handle.tasks, ∃ outcome, task.phase = .finished outcome)
    {sort : Phase → Bool} (none : ∀ outcome, sort (.finished outcome) = false) :
    state.handle.count sort = 0 := by
  refine List.countP_eq_zero.mpr fun task member => ?_
  obtain ⟨outcome, finished⟩ := ended task member
  rw [finished, none]
  exact Bool.false_ne_true

theorem keepsOrder_of_sound (sound : state.handle.Sound maximum) : state.KeepsOrder maximum where
  counts := sound.counted
  limits := sound.limited
  uses := by
    intro pool pooled
    have serves := sound.pooled pool pooled
    have balanced := serves.balanced
    have bounded := serves.bounded
    unfold Pool.inUse
    omega
  waits := by
    intro pool id pooled inLine
    have serves := sound.pooled pool pooled
    have member := (serves.line id).mpr inLine
    exact serves.isExhausted_iff.mp (serves.exhausted (List.ne_nil_of_mem member))
  refuses := by
    intro id under
    rw [advance_iff under, ends_queueFull_iff]
    constructor
    · rintro ⟨asks, ⟨pool, pooled, exhausted, full⟩, _⟩
      have exact_ := (sound.pooled pool pooled).isExhausted_iff.mp exhausted
      have reached := Bool.and_eq_true_iff.mp full
      exact ⟨asks, ⟨pool, pooled, exact_⟩, of_decide_eq_true reached.1, of_decide_eq_true reached.2⟩
    · rintro ⟨asks, ⟨pool, pooled, exact_⟩, limit, reached⟩
      have exhausted := (sound.pooled pool pooled).isExhausted_iff.mpr exact_
      have full : isQueueFull state.handle = true :=
        Bool.and_eq_true_iff.mpr ⟨decide_eq_true limit, decide_eq_true reached⟩
      exact ⟨asks, ⟨pool, pooled, exhausted, full⟩, rfl, rfl⟩
  turnsAway := by
    intro id under limit uri refused
    obtain ⟨⟨bound, asks⟩, ⟨pool, pooled, crowded⟩, rfl, rfl⟩ :=
      ends_queueFull_iff.mp ((advance_iff under).mp refused)
    exact advance_of_isCrowded asks pooled crowded
  empties := by
    intro ended
    refine ⟨sound.counted.trans (count_eq_zero ended fun _ => rfl), fun pool pooled => ?_⟩
    have serves := sound.pooled pool pooled
    have balanced := serves.balanced
    rw [count_eq_zero ended fun _ => rfl] at balanced
    refine ⟨balanced, List.eq_nil_iff_forall_not_mem.mpr fun id member => ?_⟩
    obtain ⟨phase, found, inLine⟩ := (serves.line id).mp member
    have counted := Handle.count_pos found inLine
    rw [count_eq_zero ended fun _ => rfl] at counted
    cases counted

/-- The handle of a server keeps to its pool and to its limit, whatever the order in which
statements come in, go on, fail and end. -/
theorem keepsOrder_after (settings : Settings) (given : Option Nat) (backend : Backend)
    (actions : List Action) :
    ((start settings given backend).after actions).KeepsOrder
      (given.getD settings.connectionLimit) :=
  keepsOrder_of_sound (sound_after settings given backend actions)

end State

end TableGateway.MySql
