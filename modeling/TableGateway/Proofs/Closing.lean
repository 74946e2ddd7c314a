/-
This file proves what closing all handles does to the handles that were ever given for a
name. One that is still in use is closed, and holds no pool afterwards. One whose name got
settings again was taken out of use as it was: nothing closed it then, and closing all
handles passes it over, so that a pool that it holds stays open.
-/

import TableGateway.Proofs.Coherence

namespace TableGateway.Registry

variable {registry : Registry} {name : String} {id : Nat}

/-! ### Handles in use -/

theorem Sound.mem_inUse_iff (sound : registry.Sound) (id : Nat) :
    id ∈ registry.cached.map Prod.snd ↔ ∃ name, registry.cached.named? name = some id := by
  constructor
  · intro among
    obtain ⟨entry, member, rfl⟩ := List.mem_map.mp among
    obtain ⟨name, isName⟩ := sound.named entry member
    exact ⟨name, Entries.named?_of_mem sound.distinct (isName ▸ member)⟩
  · rintro ⟨name, used⟩
    exact List.mem_map.mpr ⟨_, Entries.mem_of_named? used, rfl⟩

/-- No handle is in use twice. -/
theorem Sound.nodup_inUse (sound : registry.Sound) : (registry.cached.map Prod.snd).Nodup := by
  refine List.pairwise_map.mpr (sound.distinct.imp_of_mem ?_)
  intro ⟨key, id⟩ ⟨other, idToo⟩ member memberToo differs same
  cases (show id = idToo from same)
  obtain ⟨name, rfl⟩ := sound.named _ member
  obtain ⟨nameToo, rfl⟩ := sound.named _ memberToo
  have same := sound.apart name nameToo id (Entries.named?_of_mem sound.distinct member)
    (Entries.named?_of_mem sound.distinct memberToo)
  subst same
  exact Bool.false_ne_true (differs.symm.trans (Value.text_equal_self name))

/-! ### Pools -/

/-- A handle holds an open pool. -/
def holdsPool (registry : Registry) (id : Nat) : Bool :=
  (registry.handle? id).any fun handle => handle.pool.isSome

/-- What is seen of the database when a handle is closed. -/
def closing (registry : Registry) (id : Nat) : List Event :=
  if registry.holdsPool id then [.closePool, .waitClosed] else []

theorem handle?_say (registry : Registry) (level : Level) (message : String) (id : Nat) :
    (registry.say level message).handle? id = registry.handle? id :=
  rfl

theorem events_closeOne (registry : Registry) (key : Value) (id : Nat) :
    (registry.closeOne key id).backend.events =
      registry.backend.events ++ registry.closing id := by
  rw [closeOne_eq, backend_onHandle, closing, holdsPool, handle?_say]
  cases registry.handle? id with
  | none => exact (List.append_nil _).symm
  | some handle => exact (MySql.State.close_eq _).2

theorem holdsPool_congr {other : Registry} (same : other.handle? id = registry.handle? id) :
    other.holdsPool id = registry.holdsPool id :=
  congrArg _ same

/-- Different handles that are closed one after another close the pools that they hold. -/
theorem events_closeEach {entries : Entries Nat} (distinct : (entries.map Prod.snd).Nodup)
    (registry : Registry) :
    (registry.closeEach entries).backend.events =
      registry.backend.events ++ (entries.map Prod.snd).flatMap registry.closing := by
  induction entries generalizing registry with
  | nil => exact (List.append_nil _).symm
  | cons entry rest inductionHypothesis =>
    obtain ⟨key, id⟩ := entry
    obtain ⟨missing, distinctLater⟩ := List.nodup_cons.mp distinct
    -- closing the first handle leaves the others as they are
    have others : (rest.map Prod.snd).flatMap (registry.closeOne key id).closing =
        (rest.map Prod.snd).flatMap registry.closing := by
      refine congrArg List.flatten (List.map_congr_left fun other member => ?_)
      have differs : other ≠ id := fun same => missing (same ▸ member)
      rw [closing, closing, closeOne_eq, holdsPool_congr (handle?_onHandle_of_ne _ _ _ differs)]
      rfl
    refine (inductionHypothesis distinctLater _).trans ?_
    rw [others, events_closeOne, List.append_assoc]
    rfl

theorem holdsPool_closeAll (registry : Registry) (id : Nat) :
    registry.closeAll.holdsPool id =
      (registry.holdsPool id && !decide (id ∈ registry.cached.map Prod.snd)) := by
  rw [holdsPool, holdsPool, handle?_closeAll]
  cases registry.handle? id with
  | none => rfl
  | some handle =>
    by_cases used : id ∈ registry.cached.map Prod.snd
    · simp [used]
    · simp [used]

theorem exists_handle_of_holdsPool (holds : registry.holdsPool id = true) :
    ∃ handle, registry.handle? id = some handle ∧ handle.pool.isSome = true := by
  rw [holdsPool] at holds
  cases found : registry.handle? id with
  | none =>
    rw [found] at holds
    cases holds
  | some handle =>
    rw [found] at holds
    exact ⟨handle, rfl, holds⟩

/-- A handle loses its pool only by being closed, itself or with all that are in use. -/
theorem closes_of_lost (holds : registry.holdsPool id = true) {next : Move}
    (lost : (registry.move next).holdsPool id = false) :
    next = .use id .close ∧
        (registry.move next).backend.events =
          registry.backend.events ++ [.closePool, .waitClosed] ∨
      next = .closeAll ∧ id ∈ registry.cached.map Prod.snd := by
  obtain ⟨handle, found, has⟩ := exists_handle_of_holdsPool holds
  by_cases all : next = .closeAll
  · subst all
    rw [show (registry.move .closeAll).holdsPool id = _ from holdsPool_closeAll registry id,
      holds, Bool.true_and, Bool.not_eq_false', decide_eq_true_eq] at lost
    exact .inr ⟨rfl, lost⟩
  by_cases used : ∃ call, next = .use id call
  · obtain ⟨call, rfl⟩ := used
    have becomes : (registry.move (.use id call)).handle? id =
        some (MySql.State.call ⟨handle, registry.backend⟩ call).handle :=
      (handle?_onHandle_self registry id _).trans (congrArg _ found)
    rw [holdsPool, becomes] at lost
    have without := Option.not_isSome_iff_eq_none.mp (Bool.eq_false_iff.mp lost)
    obtain ⟨rfl, events⟩ := MySql.State.closes_of_call has without
    refine .inl ⟨rfl, ?_⟩
    rw [show (registry.move (.use id .close)).backend = _ from backend_onHandle registry id _,
      found]
    exact events
  · have same := handle?_move found (fun call is => used ⟨call, is⟩) all
    rw [holdsPool_congr (same.trans found.symm), holds] at lost
    cases lost

/-! ### Handles that were given -/

/-- A handle was given for a name at some time, and this was done since. -/
def Given (done : List Move) (name : String) (id : Nat) (since : List Move) : Prop :=
  ∃ before, done = before ++ .get name :: since ∧
    ((empty.after before).get (.text name)).1 = .ok id

variable {done since : List Move}

theorem Given.inUse (given : Given done name id since)
    (keeps : ∀ next ∈ since, ¬next.Renews name) :
    id ∈ (empty.after done).cached.map Prod.snd := by
  obtain ⟨before, rfl, gives⟩ := given
  have sound := (sound_after before).move (.get name)
  rw [(sound_after _).mem_inUse_iff, after_append]
  exact ⟨name, sound.stays_after (used_of_get gives) keeps⟩

theorem Given.outOfUse (given : Given done name id since)
    (renewed : ∃ next ∈ since, next.Renews name) :
    id ∉ (empty.after done).cached.map Prod.snd := by
  obtain ⟨before, rfl, gives⟩ := given
  have sound := (sound_after before).move (.get name)
  rw [(sound_after _).mem_inUse_iff, after_append]
  rintro ⟨other, used⟩
  exact (sound.retired_after_of_renews (used_of_get gives) renewed).2 other used

/-- What closing all handles does after something was done. A handle that was given for a name and
is still in use is closed. One that went out of use since, its name having got settings again or all
handles having been closed, is passed over, with the pool that it may hold. The pools that are
closed are those of the handles in use, in the order in which these came into use, and no pool is
lost in any other way than by being closed. -/
structure ClosesInUse (done : List Move) : Prop where
  closes : ∀ name id since, Given done name id since → (∀ next ∈ since, ¬next.Renews name) →
    (empty.after (done ++ [.closeAll])).holdsPool id = false
  passesOver : ∀ name id since, Given done name id since → (∃ next ∈ since, next.Renews name) →
    (empty.after (done ++ [.closeAll])).handle? id = (empty.after done).handle? id
  events : (empty.after (done ++ [.closeAll])).backend.events =
    (empty.after done).backend.events ++
      ((empty.after done).cached.map Prod.snd).flatMap (empty.after done).closing
  loses : ∀ next id, (empty.after done).holdsPool id = true →
    (empty.after (done ++ [next])).holdsPool id = false →
      next = .use id .close ∧
          (empty.after (done ++ [next])).backend.events =
            (empty.after done).backend.events ++ [.closePool, .waitClosed] ∨
        next = .closeAll ∧ id ∈ (empty.after done).cached.map Prod.snd

/-- Closing all handles closes those in use, and only those, whatever was done before. -/
theorem closesInUse_after (done : List Move) : ClosesInUse done := by
  have sound := sound_after done
  refine ⟨?closes, ?passesOver, ?events, ?loses⟩
  case closes =>
    intro name id since given keeps
    rw [after_concat]
    refine (holdsPool_closeAll _ id).trans ?_
    rw [decide_eq_true (given.inUse keeps), Bool.not_true, Bool.and_false]
  case passesOver =>
    intro name id since given renewed
    rw [after_concat]
    refine (handle?_closeAll _ id).trans ?_
    simp only [if_neg (given.outOfUse renewed)]
    exact Option.map_id'
  case events =>
    rw [after_concat]
    exact events_closeEach sound.nodup_inUse _
  case loses =>
    intro next id holds lost
    rw [after_concat] at lost ⊢
    exact closes_of_lost holds lost

/-- A handle runs a statement and its name gets settings again; closing all handles then closes
nothing, and the pool stays open. -/
theorem closesInUse_reconfigured :
    (empty.after [.set "a" .default, .get "a", .use 0 (.statement "SELECT 1" []),
      .set "a" .default, .closeAll]).holdsPool 0 = true := by
  have given : Given [.set "a" .default, .get "a", .use 0 (.statement "SELECT 1" []),
      .set "a" .default] "a" 0 [.use 0 (.statement "SELECT 1" []), .set "a" .default] :=
    ⟨[.set "a" .default], rfl, rfl⟩
  have passed := (closesInUse_after _).passesOver "a" 0 _ given
    ⟨.set "a" .default, List.mem_cons_of_mem _ List.mem_cons_self, rfl⟩
  exact (holdsPool_congr passed).trans (by rfl)

end TableGateway.Registry
