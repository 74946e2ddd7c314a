/-
This file proves that a registry is coherent whatever was done with it. A name has the
settings that it got last; its handle, once asked for, was made from these and stays the
same until the name gets settings again or all handles are closed, after which another
one is made; and what is done with one name leaves all others alone.
-/

import Mathlib.Data.List.Induction
import TableGateway.Proofs.RegistryMoves

namespace TableGateway.Registry

/-! ### What was done with a name -/

namespace Move

/-- The settings that a name gets, if it gets any. -/
def settings? (name : String) : Move → Option Settings
  | .set other settings => if other = name then some settings else none
  | _ => none

/-- A name has to have a new handle: it got settings, or all handles were closed. -/
def Renews (name : String) : Move → Prop
  | .set other _ => other = name
  | .closeAll => True
  | _ => False

/-- A move is about a name. -/
def IsAbout (name : String) : Move → Prop
  | .set other _ => other = name
  | .get other => other = name
  | _ => False

end Move

/-- The settings that a name got last. -/
def lastSet? (name : String) (done : List Move) : Option Settings :=
  done.reverse.findSome? (Move.settings? name)

theorem lastSet?_concat (name : String) (done : List Move) (next : Move) :
    lastSet? name (done ++ [next]) = (next.settings? name).or (lastSet? name done) := by
  rw [lastSet?, List.reverse_concat, List.findSome?_cons]
  cases next.settings? name <;> rfl

theorem after_concat (registry : Registry) (done : List Move) (next : Move) :
    registry.after (done ++ [next]) = (registry.after done).move next :=
  registry.after_append done [next]

/-! ### Handles in use -/

/-- The handles in use are those of different names, each made from the settings of its name. -/
structure Sound (registry : Registry) : Prop where
  named : ∀ entry ∈ registry.cached, ∃ name, entry.1 = .text name
  distinct : registry.cached.AreDistinct
  made : ∀ name id, registry.cached.named? name = some id →
    ∃ handle, registry.handle? id = some handle ∧
      registry.configurations.named? name = some handle.settings
  apart : ∀ name other id, registry.cached.named? name = some id →
    registry.cached.named? other = some id → name = other

variable {registry : Registry} {name other : String} {id : Nat} {settings : Settings}

theorem sound_empty : Sound .empty :=
  ⟨nofun, .nil, nofun, nofun⟩

/-- A handle in use has been made. -/
theorem Sound.lt_length (sound : registry.Sound) (found : registry.cached.named? name = some id) :
    id < registry.handles.length := by
  obtain ⟨handle, is, _⟩ := sound.made name id found
  exact (List.getElem?_eq_some_iff.mp is).1

/-- After a name got settings, it has no handle in use. -/
theorem Sound.named?_cached_set (sound : registry.Sound) (name : String) (settings : Settings)
    (other : String) :
    (registry.move (.set name settings)).cached.named? other =
      if other = name then none else registry.cached.named? other := by
  rw [cached_set]
  by_cases same : other = name
  · subst same
    rw [if_pos rfl]
    split
    · exact Entries.named?_erase_self _ _
    · rename_i unknown
      -- a name without settings has no handle to drop
      refine Option.eq_none_iff_forall_ne_some.mpr fun id found => unknown ?_
      obtain ⟨handle, _, configured⟩ := sound.made other id found
      rw [configured]
      rfl
  · rw [if_neg same]
    split
    · exact Entries.named?_erase_of_ne same _
    · rfl

theorem named?_configurations_set (registry : Registry) (name : String) (settings : Settings)
    (other : String) :
    (registry.move (.set name settings)).configurations.named? other =
      if other = name then some settings else registry.configurations.named? other := by
  rw [configurations_set]
  by_cases same : other = name
  · rw [if_pos same, same, Entries.named?_put]
  · rw [if_neg same, Entries.named?_put_of_ne _ _ same]

theorem named?_cached_made (registry : Registry) (name : String) (settings : Settings)
    (other : String) :
    (registry.made name settings).cached.named? other =
      if other = name then some registry.handles.length else registry.cached.named? other := by
  by_cases same : other = name
  · rw [if_pos same, same]
    exact Entries.named?_put _ _ _
  · rw [if_neg same]
    exact Entries.named?_put_of_ne _ _ same

theorem Sound.set (sound : registry.Sound) (name : String) (settings : Settings) :
    (registry.move (.set name settings)).Sound where
  named := by
    intro entry member
    rw [cached_set] at member
    split at member
    · exact sound.named entry (List.mem_filter.mp member).1
    · exact sound.named entry member
  distinct := by
    rw [cached_set]
    split
    · exact Entries.areDistinct_erase sound.distinct _
    · exact sound.distinct
  made := by
    intro other id found
    rw [sound.named?_cached_set] at found
    obtain ⟨differs, found⟩ := Option.ite_none_left_eq_some.mp found
    rw [named?_configurations_set, if_neg differs, handle?, handles_set]
    exact sound.made other id found
  apart := by
    intro first second id found foundToo
    rw [sound.named?_cached_set] at found foundToo
    exact sound.apart first second id (Option.ite_none_left_eq_some.mp found).2
      (Option.ite_none_left_eq_some.mp foundToo).2

theorem Sound.made_of_configured (sound : registry.Sound)
    (found : registry.configurations.named? name = some settings) :
    (registry.made name settings).Sound where
  named := by
    intro entry member
    rcases Entries.mem_put member with old | ⟨_, here | among⟩
    · exact sound.named entry old
    · exact ⟨name, here⟩
    · obtain ⟨same, member, is⟩ := List.mem_map.mp among
      exact is ▸ sound.named same member
  distinct := Entries.areDistinct_put sound.distinct _ _
  made := by
    intro other id used
    rw [named?_cached_made] at used
    split at used
    · rename_i same
      cases used
      subst same
      exact ⟨_, registry.handle?_made_last other settings, found⟩
    · obtain ⟨handle, is, configured⟩ := sound.made other id used
      exact ⟨handle, handle?_made_of_some is name settings, configured⟩
  apart := by
    -- the new handle has a number that no handle in use has
    have fresh (other : String) (used : registry.cached.named? other =
        some registry.handles.length) : False :=
      Nat.lt_irrefl _ (sound.lt_length used)
    intro first second id used usedToo
    rw [named?_cached_made] at used usedToo
    split at used <;> split at usedToo
    · rename_i isFirst isSecond
      exact isFirst.trans isSecond.symm
    · cases used
      exact (fresh second usedToo).elim
    · cases usedToo
      exact (fresh first used).elim
    · exact sound.apart first second id used usedToo

theorem Sound.use (sound : registry.Sound) (id : Nat) (call : Call) :
    (registry.move (.use id call)).Sound := by
  have cached : (registry.move (.use id call)).cached = registry.cached :=
    cached_onHandle registry id _
  have configurations : (registry.move (.use id call)).configurations = registry.configurations :=
    configurations_onHandle registry id _
  refine ⟨cached ▸ sound.named, cached ▸ sound.distinct, ?_, cached ▸ sound.apart⟩
  intro name used found
  rw [cached] at found
  rw [configurations]
  obtain ⟨handle, is, configured⟩ := sound.made name used found
  by_cases same : used = id
  · subst same
    -- whatever is done with a handle, it has the settings that it was made from
    refine ⟨_, (handle?_onHandle_self registry used _).trans (congrArg _ is), ?_⟩
    rw [MySql.State.settings_call]
    exact configured
  · exact ⟨handle, (handle?_onHandle_of_ne registry id _ same).trans is, configured⟩

theorem sound_closeAll (registry : Registry) : registry.closeAll.Sound :=
  ⟨nofun, .nil, nofun, nofun⟩

theorem Sound.move (sound : registry.Sound) (next : Move) : (registry.move next).Sound := by
  cases next with
  | set name settings => exact sound.set name settings
  | get name =>
    rcases registry.move_get name with same | ⟨_, _, found, makes⟩
    · rw [same]
      exact sound
    · exact makes ▸ sound.made_of_configured found
  | pool => exact sound
  | closeAll => exact registry.sound_closeAll
  | use id call => exact sound.use id call

theorem Sound.after (sound : registry.Sound) (moves : List Move) :
    (registry.after moves).Sound := by
  induction moves generalizing registry with
  | nil => exact sound
  | cons next later inductionHypothesis => exact inductionHypothesis (sound.move next)

theorem sound_after (done : List Move) : (empty.after done).Sound :=
  sound_empty.after done

/-! ### What becomes of a name -/

/-- A name has the settings that it was given last. -/
theorem named?_configurations_move (registry : Registry) (next : Move) (name : String) :
    (registry.move next).configurations.named? name =
      (next.settings? name).or (registry.configurations.named? name) := by
  cases next with
  | set other settings =>
    rw [named?_configurations_set, Move.settings?]
    by_cases same : name = other
    · rw [if_pos same, if_pos same.symm]
      rfl
    · rw [if_neg same, if_neg (Ne.symm same)]
      rfl
  | get other =>
    rcases registry.move_get other with same | ⟨_, _, _, makes⟩
    · rw [same]
      rfl
    · rw [makes]
      rfl
  | pool => rfl
  | closeAll =>
    exact congrArg (Entries.named? · name) (configurations_closeEach registry registry.cached)
  | use id call => exact congrArg (Entries.named? · name) (configurations_onHandle registry id _)

theorem named?_configurations_after (done : List Move) (name : String) :
    (empty.after done).configurations.named? name = lastSet? name done := by
  induction done using List.reverseRecOn with
  | nil => rfl
  | append_singleton done next inductionHypothesis =>
    rw [after_concat, named?_configurations_move, lastSet?_concat, inductionHypothesis]

theorem isSome_configurations_after (known : (registry.configurations.named? name).isSome = true)
    (moves : List Move) :
    ((registry.after moves).configurations.named? name).isSome = true := by
  induction moves generalizing registry with
  | nil => exact known
  | cons next later inductionHypothesis =>
    refine inductionHypothesis ?_
    rw [named?_configurations_move, Option.isSome_or, known, Bool.or_true]

/-- A handle in use stays in use while its name gets no settings and nothing closes all handles. -/
theorem Sound.stays_move (sound : registry.Sound) (used : registry.cached.named? name = some id)
    {next : Move} (keeps : ¬next.Renews name) :
    (registry.move next).cached.named? name = some id := by
  cases next with
  | set other settings => rw [sound.named?_cached_set, if_neg (Ne.symm keeps), used]
  | get other =>
    rcases registry.move_get other with same | ⟨settings, unused, _, makes⟩
    · rw [same, used]
    · have differs : name ≠ other := by
        rintro rfl
        rw [unused] at used
        cases used
      rw [makes, named?_cached_made, if_neg differs, used]
  | pool => exact used
  | closeAll => exact (keeps trivial).elim
  | use other call =>
    exact (congrArg (Entries.named? · name) (cached_onHandle registry other _)).trans used

theorem Sound.stays_after (sound : registry.Sound) (used : registry.cached.named? name = some id)
    {moves : List Move} (keeps : ∀ next ∈ moves, ¬next.Renews name) :
    (registry.after moves).cached.named? name = some id := by
  induction moves generalizing registry with
  | nil => exact used
  | cons next later inductionHypothesis =>
    obtain ⟨keepsFirst, keepsLater⟩ := List.forall_mem_cons.mp keeps
    exact inductionHypothesis (sound.move next) (sound.stays_move used keepsFirst) keepsLater

/-- A handle was made, and is in use for no name. -/
def Retired (registry : Registry) (id : Nat) : Prop :=
  id < registry.handles.length ∧ ∀ name, registry.cached.named? name ≠ some id

theorem length_move (registry : Registry) (next : Move) :
    registry.handles.length ≤ (registry.move next).handles.length := by
  cases next with
  | set other settings => exact Nat.le_of_eq (congrArg _ (handles_set registry other settings).symm)
  | get other =>
    rcases registry.move_get other with same | ⟨_, _, _, makes⟩
    · exact Nat.le_of_eq (congrArg (·.handles.length) same.symm)
    · rw [makes, made, List.length_append]
      exact Nat.le_add_right _ 1
  | pool => exact Nat.le_refl _
  | closeAll => exact Nat.le_of_eq (length_closeEach registry registry.cached).symm
  | use other call => exact Nat.le_of_eq (length_onHandle registry other _).symm

theorem Sound.retired_of_renews (sound : registry.Sound)
    (used : registry.cached.named? name = some id) {next : Move} (renews : next.Renews name) :
    (registry.move next).Retired id := by
  refine ⟨Nat.lt_of_lt_of_le (sound.lt_length used) (registry.length_move next), ?_⟩
  intro other
  cases next with
  | set own settings =>
    have isName : own = name := renews
    rw [sound.named?_cached_set]
    split
    · exact nofun
    · rename_i differs
      -- the handle was in use for this name alone
      exact fun usedToo => differs ((sound.apart other name id usedToo used).trans isName.symm)
  | closeAll => exact nofun
  | _ => exact renews.elim

/-- A retired handle never comes into use again. -/
theorem Sound.retired_move (sound : registry.Sound) (retired : registry.Retired id)
    (next : Move) : (registry.move next).Retired id := by
  refine ⟨Nat.lt_of_lt_of_le retired.1 (registry.length_move next), ?_⟩
  intro other
  cases next with
  | set own settings =>
    rw [sound.named?_cached_set]
    split
    · exact nofun
    · exact retired.2 other
  | get own =>
    rcases registry.move_get own with same | ⟨settings, unused, _, makes⟩
    · rw [same]
      exact retired.2 other
    · rw [makes, named?_cached_made]
      split
      · exact fun same => Nat.lt_irrefl _ (Option.some.inj same ▸ retired.1)
      · exact retired.2 other
  | pool => exact retired.2 other
  | closeAll => exact nofun
  | use used call =>
    rw [show (registry.move (.use used call)).cached = registry.cached from
      cached_onHandle registry used _]
    exact retired.2 other

theorem Sound.retired_after (sound : registry.Sound) (retired : registry.Retired id)
    (moves : List Move) : (registry.after moves).Retired id := by
  induction moves generalizing registry with
  | nil => exact retired
  | cons next later inductionHypothesis =>
    exact inductionHypothesis (sound.move next) (sound.retired_move retired next)

/-- A handle in use is retired as soon as its name gets settings or all handles are closed. -/
theorem Sound.retired_after_of_renews (sound : registry.Sound)
    (used : registry.cached.named? name = some id) {moves : List Move}
    (renewed : ∃ next ∈ moves, next.Renews name) : (registry.after moves).Retired id := by
  obtain ⟨next, member, renews⟩ := renewed
  induction moves generalizing registry with
  | nil => cases member
  | cons first later inductionHypothesis =>
    by_cases retires : first.Renews name
    · exact (sound.move first).retired_after (sound.retired_of_renews used retires) later
    · rcases List.mem_cons.mp member with rfl | among
      · exact (retires renews).elim
      · exact inductionHypothesis (sound.move first) (sound.stays_move used retires) among

/-! ### Asking again -/

/-- The handle that was asked for is in use. -/
theorem used_of_get (gives : (registry.get (.text name)).1 = .ok id) :
    (registry.move (.get name)).cached.named? name = some id := by
  rw [Registry.move]
  rcases registry.get_cases name with
    ⟨_, used, is⟩ | ⟨_, _, is⟩ | ⟨settings, _, _, is⟩ <;> rw [is] at gives ⊢ <;> cases gives
  · exact used
  · exact (named?_cached_made registry name settings name).trans (if_pos rfl)

theorem exists_get (known : (registry.configurations.named? name).isSome = true) :
    ∃ id, (registry.get (.text name)).1 = .ok id := by
  rcases registry.get_cases name with ⟨id, _, is⟩ | ⟨_, unknown, _⟩ | ⟨_, _, _, is⟩
  · exact ⟨id, congrArg Prod.fst is⟩
  · rw [unknown] at known
    cases known
  · exact ⟨_, congrArg Prod.fst is⟩

theorem Retired.get_ne (retired : registry.Retired id) (name : String) :
    (registry.get (.text name)).1 ≠ .ok id := by
  rcases registry.get_cases name with ⟨_, used, is⟩ | ⟨_, _, is⟩ | ⟨_, _, _, is⟩ <;> rw [is]
  · exact fun same => retired.2 name (used.trans (congrArg some (Except.ok.inj same)))
  · exact nofun
  · exact fun same => Nat.lt_irrefl _ (Except.ok.inj same ▸ retired.1)

/-- Who has a handle has settings. -/
theorem Sound.isSome_of_get (sound : registry.Sound)
    (gives : (registry.get (.text name)).1 = .ok id) :
    (registry.configurations.named? name).isSome = true := by
  rcases registry.get_cases name with ⟨_, used, _⟩ | ⟨_, _, is⟩ | ⟨_, _, found, _⟩
  · obtain ⟨_, _, configured⟩ := sound.made name _ used
    exact configured ▸ rfl
  · rw [is] at gives
    cases gives
  · exact found ▸ rfl

/-- A name that never got settings has none. -/
theorem lastSet?_eq_none_iff (name : String) (done : List Move) :
    lastSet? name done = none ↔ ∀ settings, Move.set name settings ∉ done := by
  rw [lastSet?, List.findSome?_eq_none_iff]
  constructor
  · intro none settings member
    have some := none _ (List.mem_reverse.mpr member)
    rw [Move.settings?, if_pos rfl] at some
    cases some
  · intro never next member
    cases next with
    | set other settings =>
      refine if_neg ?_
      rintro rfl
      exact never settings (List.mem_reverse.mp member)
    | _ => rfl

/-- Asking again gives the same handle as long as the name gets no settings and nothing closes all
handles, and another one after that. -/
theorem Sound.get_again (sound : registry.Sound)
    (gives : (registry.get (.text name)).1 = .ok id) (between : List Move) :
    ∃ later, (((registry.move (.get name)).after between).get (.text name)).1 = .ok later ∧
      (later = id ↔ ∀ next ∈ between, ¬next.Renews name) := by
  have soundToo := sound.move (.get name)
  have used := used_of_get gives
  by_cases renewed : ∃ next ∈ between, next.Renews name
  · have retired := soundToo.retired_after_of_renews used renewed
    have known : ((registry.move (.get name)).configurations.named? name).isSome = true :=
      isSome_configurations_after (sound.isSome_of_get gives) [.get name]
    obtain ⟨later, givesLater⟩ := exists_get (isSome_configurations_after known between)
    refine ⟨later, givesLater, fun same => ?_, fun keeps => ?_⟩
    · exact (retired.get_ne name (same ▸ givesLater)).elim
    · obtain ⟨next, member, renews⟩ := renewed
      exact (keeps next member renews).elim
  · have keeps : ∀ next ∈ between, ¬next.Renews name :=
      fun next member renews => renewed ⟨next, member, renews⟩
    have still := soundToo.stays_after used keeps
    exact ⟨id, congrArg Prod.fst (get_of_cached still), fun _ => keeps, fun _ => rfl⟩

/-- What is done with one name leaves the settings and the handle of another name alone. -/
theorem Sound.spares_move (sound : registry.Sound) {next : Move} (other : ¬next.IsAbout name)
    (notAll : next ≠ .closeAll) :
    (registry.move next).configurations.named? name = registry.configurations.named? name ∧
      (registry.move next).cached.named? name = registry.cached.named? name := by
  cases next with
  | set own settings =>
    have differs : name ≠ own := Ne.symm other
    rw [named?_configurations_set, sound.named?_cached_set, if_neg differs, if_neg differs]
    exact ⟨rfl, rfl⟩
  | get own =>
    have differs : name ≠ own := Ne.symm other
    rcases registry.move_get own with same | ⟨settings, _, _, makes⟩
    · rw [same]
      exact ⟨rfl, rfl⟩
    · rw [makes, named?_cached_made, if_neg differs]
      exact ⟨rfl, rfl⟩
  | pool => exact ⟨rfl, rfl⟩
  | closeAll => exact (notAll rfl).elim
  | use id call =>
    exact ⟨congrArg (Entries.named? · name) (configurations_onHandle registry id _),
      congrArg (Entries.named? · name) (cached_onHandle registry id _)⟩

/-- A handle changes only when it is used, or closed with all others. -/
theorem handle?_move {handle : MySql.Handle} (found : registry.handle? id = some handle)
    {next : Move} (unused : ∀ call, next ≠ .use id call) (notAll : next ≠ .closeAll) :
    (registry.move next).handle? id = some handle := by
  cases next with
  | set own settings => rw [handle?, handles_set, ← handle?, found]
  | get own =>
    rcases registry.move_get own with same | ⟨settings, _, _, makes⟩
    · rw [same, found]
    · rw [makes, handle?_made_of_some found]
  | pool => exact found
  | closeAll => exact (notAll rfl).elim
  | use other call =>
    have differs : id ≠ other := by
      rintro rfl
      exact unused call rfl
    exact (handle?_onHandle_of_ne registry other _ differs).trans found

/-! ### Coherence -/

/-- What can be told of a registry from what was done with it. A handle in use is that of a name,
and was made from the settings that the name got last; a name has the settings that it got last.
Asking for the handle of a name that got settings gives one, the same as before until the name gets
settings again or all handles are closed; asking for another one fails and changes nothing. What is
done with one name leaves all others alone; closing all handles leaves the settings. -/
structure Coherent (done : List Move) : Prop where
  cached : ∀ key id, (key, id) ∈ (empty.after done).cached → ∃ name handle,
    key = .text name ∧ (empty.after done).handle? id = some handle ∧
      (empty.after done).configurations.named? name = some handle.settings ∧
        lastSet? name done = some handle.settings
  configured : ∀ name, (empty.after done).configurations.named? name = lastSet? name done
  again : ∀ name id between, ((empty.after done).get (.text name)).1 = .ok id →
    ∃ later, ((empty.after (done ++ .get name :: between)).get (.text name)).1 = .ok later ∧
      (later = id ↔ ∀ next ∈ between, ¬next.Renews name)
  known : ∀ name settings, .set name settings ∈ done →
    ∃ id, ((empty.after done).get (.text name)).1 = .ok id
  unknown : ∀ name, (∀ settings, .set name settings ∉ done) →
    (empty.after done).get (.text name) =
      (.error (.unknownHandle (.text name)), empty.after done)
  spares : ∀ name next, ¬next.IsAbout name → next ≠ .closeAll →
    (empty.after (done ++ [next])).configurations.named? name =
        (empty.after done).configurations.named? name ∧
      (empty.after (done ++ [next])).cached.named? name =
        (empty.after done).cached.named? name ∧
      ∀ id handle, (empty.after done).cached.named? name = some id →
        (empty.after done).handle? id = some handle → (∀ call, next ≠ .use id call) →
          (empty.after (done ++ [next])).handle? id = some handle
  closes : (empty.after (done ++ [.closeAll])).cached = [] ∧
    (empty.after (done ++ [.closeAll])).configurations = (empty.after done).configurations

/-- A registry is coherent, whatever was done with it. -/
theorem coherent_after (done : List Move) : Coherent done := by
  have sound := sound_after done
  refine ⟨?cached, named?_configurations_after done, ?again, ?known, ?unknown, ?spares, ?closes⟩
  case cached =>
    intro key id member
    obtain ⟨name, rfl⟩ := sound.named _ member
    have found := Entries.named?_of_mem sound.distinct member
    obtain ⟨handle, is, configured⟩ := sound.made name id found
    refine ⟨name, handle, rfl, is, configured, ?_⟩
    rw [← named?_configurations_after, configured]
  case again =>
    intro name id between gives
    rw [after_append]
    exact sound.get_again gives between
  case known =>
    intro name settings member
    refine exists_get (Option.isSome_iff_ne_none.mpr fun none => ?_)
    rw [named?_configurations_after, lastSet?_eq_none_iff] at none
    exact none settings member
  case unknown =>
    intro name never
    have unknown : (empty.after done).configurations.named? name = none :=
      (named?_configurations_after done name).trans ((lastSet?_eq_none_iff name done).mpr never)
    refine get_of_unknown (Option.eq_none_iff_forall_ne_some.mpr fun id used => ?_) unknown
    obtain ⟨handle, _, configured⟩ := sound.made name id used
    rw [unknown] at configured
    cases configured
  case spares =>
    intro name next other notAll
    rw [after_concat]
    obtain ⟨configurations, cached⟩ := sound.spares_move other notAll
    exact ⟨configurations, cached, fun id handle _ found unused =>
      handle?_move found unused notAll⟩
  case closes =>
    rw [after_concat]
    exact ⟨rfl, configurations_closeEach _ _⟩

end TableGateway.Registry
