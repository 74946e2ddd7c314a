/-
This file proves that nobody learns a password. Two runs do the same with handles, with a
registry of them and with gateways on them, in settings that differ in their passwords
only. Whatever is answered, apart from the address that has the password in it, whatever
fails, and whatever is said is the same in both; and so is all that the database is asked
to do, apart from the password that a pool is created with.
-/

import Mathlib.Data.List.Forall2
import TableGateway.Proofs.Masking
import TableGateway.Proofs.RegistryMoves
import TableGateway.Proofs.ServerTasks

namespace TableGateway

/-! ### Plans on the handle of a server -/

/-- The handle of a server that a session is about. -/
def Session.server? : Session → Option MySql.State
  | ⟨.server handle, backend⟩ => some ⟨handle, backend⟩
  | _ => none

namespace MySql.State

variable {Result : Type}

/-- A handle of a server as a session. -/
def session (state : State) : Session :=
  ⟨.server state.handle, state.backend⟩

/-- Runs a plan on the handle of a server. -/
def perform (state : State) (dialect : Dialect) (plan : Plan Result) :
    Except Failure Result × State :=
  let (outcome, session) := Session.run dialect plan state.session
  (outcome, session.server?.getD state)

/-- A plan on the handle of a server comes to the same with the password masked. -/
theorem exists_run_session (dialect : Dialect) (plan : Plan Result) (state : State) :
    ∃ outcome later, Session.run dialect plan state.session = (outcome, session later) ∧
      Session.run dialect plan state.masked.session = (outcome, session later.masked) := by
  induction plan generalizing state with
  | done result => exact ⟨_, state, rfl, rfl⟩
  | failed failure => exact ⟨_, state, rfl, rfl⟩
  | note level message rest inductionHypothesis =>
    exact inductionHypothesis (state.say level message)
  | send statement rest inductionHypothesis =>
    have masked := state.masked_statement (statement.sql dialect) statement.arguments
    have sent (state : State) : state.session.statement (statement.sql dialect)
        statement.arguments = ((state.statement (statement.sql dialect) statement.arguments).1,
          session (state.statement (statement.sql dialect) statement.arguments).2) := rfl
    rw [Session.run, Session.run, sent, sent, masked]
    rcases state.statement (statement.sql dialect) statement.arguments with
      ⟨failure | reply, later⟩
    · exact ⟨_, later, rfl, rfl⟩
    · exact inductionHypothesis reply later

theorem masked_perform (state : State) (dialect : Dialect) (plan : Plan Result) :
    state.masked.perform dialect plan =
      ((state.perform dialect plan).1, (state.perform dialect plan).2.masked) := by
  obtain ⟨outcome, later, runs, runsMasked⟩ := exists_run_session dialect plan state
  rw [perform, perform, runs, runsMasked]
  rfl

end MySql.State

/-! ### Registries -/

theorem MySql.Handle.map_masked_concat (handles : List Handle) (settings : Settings)
    (pool : Option Pool) :
    handles.map masked ++ [create settings.masked pool] =
      (handles ++ [create settings pool]).map masked := by
  rw [List.map_append]
  rfl

namespace Registry

/-- A registry with all its passwords masked. -/
def masked (registry : Registry) : Registry where
  configurations := registry.configurations.mapContents Settings.masked
  cached := registry.cached
  handles := registry.handles.map MySql.Handle.masked
  backend := registry.backend.masked

variable (registry : Registry) (name : Value) (settings : Settings) (id : Nat)

theorem handle?_masked :
    registry.masked.handle? id = (registry.handle? id).map MySql.Handle.masked :=
  List.getElem?_map

theorem masked_configured :
    registry.masked.configured name settings.masked =
      (registry.configured name settings).masked := by
  have found := registry.configurations.get?_mapContents Settings.masked name
  have put := registry.configurations.put_mapContents Settings.masked name settings
  unfold configured
  rw [show registry.masked.configurations.get? name = _ from found, settings.safeUri_masked]
  cases registry.configurations.get? name with
  | none => exact congrArg (fun configurations => mk configurations _ _ _) put
  | some previous =>
    rw [Option.map_some]
    dsimp only
    rw [previous.safeUri_masked]
    exact congrArg (fun configurations => mk configurations _ _ _) put

theorem masked_get :
    registry.masked.get name = ((registry.get name).1, (registry.get name).2.masked) := by
  have found := registry.configurations.get?_mapContents Settings.masked name
  unfold get
  cases checkName name with
  | error failure => rfl
  | ok _ =>
    dsimp only
    unfold handleOf
    rw [show registry.masked.cached.get? name = registry.cached.get? name from rfl,
      show registry.masked.configurations.get? name = _ from found]
    cases registry.cached.get? name with
    | some id => rfl
    | none =>
      cases registry.configurations.get? name with
      | none => rfl
      | some settings =>
        rw [Option.map_some]
        dsimp only
        rw [MySql.Handle.createdMessage_masked,
          show registry.masked.handles.length = registry.handles.length from List.length_map _]
        exact congrArg (fun handles => (_, mk _ _ handles _))
          (MySql.Handle.map_masked_concat registry.handles settings none)

theorem masked_putBack (state : MySql.State) :
    registry.masked.putBack id state.masked = (registry.putBack id state).masked :=
  congrArg (fun handles => mk _ _ handles _) List.map_set.symm

variable {change : MySql.State → MySql.State}

theorem masked_onHandle (commutes : ∀ state, change state.masked = (change state).masked) :
    registry.masked.onHandle id change = (registry.onHandle id change).masked := by
  unfold onHandle
  rw [handle?_masked]
  cases registry.handle? id with
  | none => rfl
  | some handle =>
    rw [Option.map_some]
    dsimp only
    rw [show change ⟨handle.masked, registry.masked.backend⟩ = _ from
      commutes ⟨handle, registry.backend⟩]
    exact masked_putBack registry id _

theorem masked_closeEach (entries : Entries Nat) :
    registry.masked.closeEach entries = (registry.closeEach entries).masked := by
  induction entries generalizing registry with
  | nil => rfl
  | cons entry rest inductionHypothesis =>
    obtain ⟨key, id⟩ := entry
    have closed : registry.masked.closeOne key id = (registry.closeOne key id).masked :=
      masked_onHandle (registry.say .debug _) id MySql.State.masked_close
    refine (congrArg (closeEach · rest) closed).trans ?_
    exact inductionHypothesis (registry.closeOne key id)

theorem masked_closeAll : registry.masked.closeAll = registry.closeAll.masked :=
  congrArg (fun closed : Registry => { closed with cached := [] })
    (registry.masked_closeEach registry.cached)

end Registry

/-! ### Worlds -/

/-- A registry, with every handle ever made, and the gateways that were built, each on a handle. -/
structure World where
  registry : Registry
  gateways : List (Nat × Gateway)

/-- What can be done next. A handle is made from settings, with a pool given to it or without; a
name of the registry gets settings, its handle is asked for, the handles in use are listed, or all
of them are closed; on a handle a statement is waited for, or many are under way; a handle is
closed, is asked for its address with the password, or is described; and a gateway is built on a
handle, is described, or is asked to do something. -/
inductive Deed where
  | construct (settings : Settings) (given : Option Nat)
  | set (name : Value) (settings : Settings)
  | get (name : Value)
  | pool
  | closeAll
  | statement (id : Nat) (sql : String) (arguments : List Value)
  | act (id : Nat) (action : Action)
  | outcome (id task : Nat)
  | close (id : Nat)
  | uri (id : Nat)
  | describe (id : Nat)
  | build (id : Nat) (table : Value) (schema : Schema) (options : GatewayOptions)
  | describeGateway (number : Nat)
  | operate (number : Nat) (operation : Operation)

/-- What comes back of a deed. -/
inductive Answer where
  | done
  | missing
  | failed (failure : Failure)
  | made (number : Nat)
  | inUse (handles : Entries Nat)
  | reply (outcome : Except Failure Reply)
  | ended (outcome : Option (Except Failure Reply))
  | uri (text : String)
  | handle (safeUri database label : String) (details : Record)
  | gateway (text literal : String) (details : Record) (placeholder : Except Failure String)
  | answered (operation : Operation) (outcome : Except Failure operation.Answer)

/-- An answer without the address that has the password in it. -/
def Answer.blanked : Answer → Answer
  | .uri _ => .uri ""
  | answer => answer

namespace World

/-- Nothing made and nothing built. -/
def empty : World := ⟨.empty, []⟩

/-- Does something with a handle, if there is one of that number. -/
def onHandle (world : World) (id : Nat) (change : MySql.State → Answer × MySql.State) :
    Answer × World :=
  match world.registry.handle? id with
  | none => (.missing, world)
  | some handle =>
    let (answer, state) := change ⟨handle, world.registry.backend⟩
    (answer, { world with registry := world.registry.putBack id state })

/-- A handle is made from settings. -/
def construct (world : World) (settings : Settings) (given : Option Nat) : Answer × World :=
  (.made world.registry.handles.length, { world with registry :=
    { world.registry.say .debug (MySql.Handle.createdMessage settings) with
      handles := world.registry.handles ++ [.create settings (given.map MySql.Pool.create)] } })

/-- A gateway is built on a handle. -/
def build (world : World) (id : Nat) (table : Value) (schema : Schema)
    (options : GatewayOptions) : Answer × World :=
  match world.registry.handle? id with
  | none => (.missing, world)
  | some handle =>
    let (outcome, state) := MySql.State.perform ⟨handle, world.registry.backend⟩
      handle.endpoint.dialect (Gateway.create table (some handle.endpoint) (some schema) options)
    let registry := world.registry.putBack id state
    match outcome with
    | .error failure => (.failed failure, { world with registry := registry })
    | .ok gateway => (.made world.gateways.length, ⟨registry, world.gateways ++ [(id, gateway)]⟩)

/-- What a handle tells of itself. -/
def describe (handle : MySql.Handle) : Answer :=
  .handle handle.endpoint.safeUri handle.endpoint.database handle.endpoint.label
    handle.endpoint.details

/-- What a gateway tells of itself. -/
def describeGateway (gateway : Gateway) : Answer :=
  .gateway gateway.text gateway.literal gateway.details gateway.placeholder

/-- What is done next, and what comes back of it. -/
def step (world : World) : Deed → Answer × World
  | .construct settings given => world.construct settings given
  | .set name settings =>
    match world.registry.set name settings with
    | .error failure => (.failed failure, world)
    | .ok registry => (.done, { world with registry := registry })
  | .get name =>
    match world.registry.get name with
    | (.error failure, registry) => (.failed failure, { world with registry := registry })
    | (.ok id, registry) => (.made id, { world with registry := registry })
  | .pool => (.inUse world.registry.cached, world)
  | .closeAll => (.done, { world with registry := world.registry.closeAll })
  | .statement id sql arguments => world.onHandle id fun state =>
    let (outcome, state) := state.statement sql arguments
    (.reply outcome, state)
  | .act id action => world.onHandle id fun state => (.done, state.act action)
  | .outcome id task => world.onHandle id fun state => (.ended (state.outcome? task), state)
  | .close id => world.onHandle id fun state => (.done, state.close)
  | .uri id => world.onHandle id fun state => (.uri state.handle.endpoint.uri, state)
  | .describe id => world.onHandle id fun state => (describe state.handle, state)
  | .build id table schema options => world.build id table schema options
  | .describeGateway number =>
    match world.gateways[number]? with
    | none => (.missing, world)
    | some (_, gateway) => (describeGateway gateway, world)
  | .operate number operation =>
    match world.gateways[number]? with
    | none => (.missing, world)
    | some (id, gateway) => world.onHandle id fun state =>
      let (outcome, state) := state.perform gateway.endpoint.dialect (operation.plan gateway)
      (.answered operation outcome, state)

/-- What is done, one thing after another, and all that comes back. -/
def run : World → List Deed → List Answer × World
  | world, [] => ([], world)
  | world, deed :: rest =>
    let (answer, world) := world.step deed
    let (answers, world) := world.run rest
    (answer :: answers, world)

/-- A world with all passwords masked. -/
def masked (world : World) : World :=
  ⟨world.registry.masked, world.gateways.map fun entry => (entry.1, entry.2.masked)⟩

end World

/-- A deed with the password masked, if it has one. -/
def Deed.masked : Deed → Deed
  | .construct settings given => .construct settings.masked given
  | .set name settings => .set name settings.masked
  | deed => deed

namespace World

variable (world : World)

/-- An answer and a world come of a world with all passwords masked that are those that come of the
world itself, masked. -/
def Masks (masked plain : Answer × World) : Prop :=
  masked.1.blanked = plain.1.blanked ∧ masked.2 = plain.2.masked

theorem masks_onHandle {change : MySql.State → Answer × MySql.State} (id : Nat)
    (agrees : ∀ state, (change state.masked).1.blanked = (change state).1.blanked ∧
      (change state.masked).2 = (change state).2.masked) :
    Masks (world.masked.onHandle id change) (world.onHandle id change) := by
  unfold onHandle
  rw [show world.masked.registry.handle? id = _ from world.registry.handle?_masked id]
  cases world.registry.handle? id with
  | none => exact ⟨rfl, rfl⟩
  | some handle =>
    rw [Option.map_some]
    dsimp only
    obtain ⟨answers, changes⟩ := agrees ⟨handle, world.registry.backend⟩
    refine ⟨answers, ?_⟩
    rw [show change ⟨handle.masked, world.masked.registry.backend⟩ =
      change (MySql.State.masked ⟨handle, world.registry.backend⟩) from rfl, changes]
    exact congrArg (World.mk · _) (world.registry.masked_putBack id _)

theorem masks_construct (settings : Settings) (given : Option Nat) :
    Masks (world.masked.construct settings.masked given) (world.construct settings given) := by
  unfold construct
  rw [MySql.Handle.createdMessage_masked,
    show world.masked.registry.handles.length = world.registry.handles.length from
      List.length_map _]
  exact ⟨rfl, congrArg (fun handles => World.mk (Registry.mk _ _ handles _) _)
    (MySql.Handle.map_masked_concat world.registry.handles settings _)⟩

theorem masks_build (id : Nat) (table : Value) (schema : Schema) (options : GatewayOptions) :
    Masks (world.masked.build id table schema options) (world.build id table schema options) := by
  unfold build
  rw [show world.masked.registry.handle? id = _ from world.registry.handle?_masked id]
  cases world.registry.handle? id with
  | none => exact ⟨rfl, rfl⟩
  | some handle =>
    rw [Option.map_some]
    dsimp only
    -- the gateway is built from what the handle tells, and the handle says so
    have restored (state : MySql.State) :
        world.masked.registry.putBack id state.masked = (world.registry.putBack id state).masked :=
      world.registry.masked_putBack id state
    rw [handle.endpoint_masked]
    rcases Gateway.create_cases table schema options with ⟨failure, fails⟩ | ⟨built, creates⟩
    · rw [fails, fails]
      exact ⟨rfl, congrArg (World.mk · _) (restored ⟨handle, world.registry.backend⟩)⟩
    · obtain ⟨plain, same⟩ := creates handle.endpoint
      rw [plain, (creates handle.endpoint.masked).1, same]
      refine ⟨congrArg Answer.made (List.length_map _), ?_⟩
      have listed : world.masked.gateways ++ [(id, (built handle.endpoint).masked)] =
          (world.gateways ++ [(id, built handle.endpoint)]).map fun entry =>
            (entry.1, entry.2.masked) := by
        rw [List.map_append]
        rfl
      refine Eq.trans (congrArg (World.mk · _) ?_) (congrArg (World.mk _) listed)
      exact restored (MySql.State.say ⟨handle, world.registry.backend⟩ .info _)

/-- A step does to a masked world what it does to the world, masked. -/
theorem masks_step (deed : Deed) : Masks (world.masked.step deed.masked) (world.step deed) := by
  cases deed with
  | construct settings given => exact world.masks_construct settings given
  | set name settings =>
    have masked := world.registry.masked_configured name settings
    unfold step
    dsimp only [Deed.masked, Registry.set]
    cases Registry.checkName name with
    | error failure => exact ⟨rfl, rfl⟩
    | ok _ => exact ⟨rfl, congrArg (World.mk · _) masked⟩
  | get name =>
    have masked := world.registry.masked_get name
    unfold step
    dsimp only [Deed.masked]
    rw [show world.masked.registry.get name = _ from masked]
    rcases world.registry.get name with ⟨failure | id, registry⟩ <;> exact ⟨rfl, rfl⟩
  | pool => exact ⟨rfl, rfl⟩
  | closeAll => exact ⟨rfl, congrArg (World.mk · _) world.registry.masked_closeAll⟩
  | statement id sql arguments =>
    refine world.masks_onHandle id fun state => ?_
    dsimp only
    rw [state.masked_statement]
    exact ⟨rfl, rfl⟩
  | act id action =>
    refine world.masks_onHandle id fun state => ⟨rfl, ?_⟩
    cases action with
    | enter sql arguments => rfl
    | advance task => exact state.masked_advance task
    | script outcomes => rfl
  | outcome id task => exact world.masks_onHandle id fun state => ⟨rfl, rfl⟩
  | close id => exact world.masks_onHandle id fun state => ⟨rfl, state.masked_close⟩
  | uri id => exact world.masks_onHandle id fun state => ⟨rfl, rfl⟩
  | describe id =>
    refine world.masks_onHandle id fun state => ⟨?_, rfl⟩
    dsimp only [describe]
    rw [show state.masked.handle.endpoint = _ from state.handle.endpoint_masked]
    rfl
  | build id table schema options => exact world.masks_build id table schema options
  | describeGateway number =>
    unfold step
    dsimp only [Deed.masked]
    rw [show world.masked.gateways[number]? = _ from List.getElem?_map]
    rcases world.gateways[number]? with _ | ⟨id, gateway⟩ <;> exact ⟨rfl, rfl⟩
  | operate number operation =>
    unfold step
    dsimp only [Deed.masked]
    rw [show world.masked.gateways[number]? = _ from List.getElem?_map]
    rcases world.gateways[number]? with _ | ⟨id, gateway⟩
    · exact ⟨rfl, rfl⟩
    · rw [Option.map_some]
      dsimp only
      -- both gateways send the same, each on its own handle
      rw [operation.plan_masked gateway]
      refine world.masks_onHandle id fun state => ?_
      dsimp only
      rw [show state.masked.perform gateway.masked.endpoint.dialect _ = _ from
        state.masked_perform gateway.endpoint.dialect (operation.plan gateway)]
      exact ⟨rfl, rfl⟩

theorem masks_run (deeds : List Deed) :
    (world.masked.run (deeds.map Deed.masked)).1.map Answer.blanked =
        (world.run deeds).1.map Answer.blanked ∧
      (world.masked.run (deeds.map Deed.masked)).2 = (world.run deeds).2.masked := by
  induction deeds generalizing world with
  | nil => exact ⟨rfl, rfl⟩
  | cons deed rest inductionHypothesis =>
    obtain ⟨answer, next⟩ := world.masks_step deed
    obtain ⟨answers, last⟩ := inductionHypothesis (world.step deed).2
    rw [List.map_cons, run, run]
    dsimp only
    rw [next]
    exact ⟨congrArg₂ List.cons answer answers, last⟩

end World

/-! ### Passwords -/

/-- Settings that differ in their passwords only, of which neither is empty. -/
def Settings.Alike (settings other : Settings) : Prop :=
  other = { settings with password := other.password } ∧
    settings.password ≠ "" ∧ other.password ≠ ""

/-- The same deed, but for the password in it. -/
inductive Deed.Alike : Deed → Deed → Prop where
  | same (deed : Deed) : Alike deed deed
  | construct {settings other : Settings} (alike : settings.Alike other) (given : Option Nat) :
      Alike (.construct settings given) (.construct other given)
  | set {settings other : Settings} (alike : settings.Alike other) (name : Value) :
      Alike (.set name settings) (.set name other)

/-- An event without the password that a pool is created with. -/
def Event.withoutPassword : Event → Event
  | .createPool parameters => .createPool (parameters.erase (.text "password"))
  | event => event

theorem Settings.Alike.masked_eq {settings other : Settings} (alike : settings.Alike other) :
    settings.masked = other.masked := by
  obtain ⟨same, some, someToo⟩ := alike
  have masks : Settings.maskOf settings.password = Settings.maskOf other.password := by
    rw [Settings.maskOf, Settings.maskOf, if_neg some, if_neg someToo]
  rw [Settings.masked, masks]
  conv => rhs; rw [same]
  rfl

theorem Deed.Alike.masked_eq {deed other : Deed} (alike : deed.Alike other) :
    deed.masked = other.masked := by
  cases alike with
  | same deed => rfl
  | construct alike given => exact congrArg (Deed.construct · given) alike.masked_eq
  | set alike name => exact congrArg (Deed.set name) alike.masked_eq

/-- A parameter that has the password is left out, masked or not. -/
theorem Event.withoutPassword_masked (event : Event) :
    event.masked.withoutPassword = event.withoutPassword := by
  have leftOut (parameters : Record) :
      Entries.erase (parameters.map maskedParameter) (.text "password") =
        parameters.erase (.text "password") := by
    induction parameters with
    | nil => rfl
    | cons entry rest inductionHypothesis =>
      rw [Entries.erase] at inductionHypothesis
      rw [List.map_cons, Entries.erase, Entries.erase, List.filter_cons, List.filter_cons,
        inductionHypothesis]
      rcases maskedParameter_cases entry with same | ⟨masked, plain⟩
      · rw [same]
        rfl
      · rw [masked, plain, Value.text_equal_self]
        rfl
  cases event with
  | createPool parameters => exact congrArg Event.createPool (leftOut parameters)
  | _ => rfl

/-- Two runs that differ in passwords only. All answers are the same, apart from the addresses that
have the password in them, and so is all that is said; the database is asked to do the same, apart
from the passwords that pools are created with. -/
theorem World.keepsSecrets {deeds others : List Deed}
    (alike : List.Forall₂ Deed.Alike deeds others) :
    (World.empty.run deeds).1.map Answer.blanked = (World.empty.run others).1.map Answer.blanked ∧
      (World.empty.run deeds).2.registry.backend.log =
        (World.empty.run others).2.registry.backend.log ∧
      (World.empty.run deeds).2.registry.backend.events.map Event.withoutPassword =
        (World.empty.run others).2.registry.backend.events.map Event.withoutPassword := by
  have same : deeds.map Deed.masked = others.map Deed.masked := by
    induction alike with
    | nil => rfl
    | cons here _ inductionHypothesis =>
      rw [List.map_cons, List.map_cons, here.masked_eq, inductionHypothesis]
  -- both runs are compared with the one run in which all passwords are masked
  obtain ⟨answers, last⟩ := World.empty.masks_run deeds
  obtain ⟨answersToo, lastToo⟩ := World.empty.masks_run others
  rw [same] at answers last
  have worlds : (World.empty.run deeds).2.masked = (World.empty.run others).2.masked :=
    last.symm.trans lastToo
  refine ⟨answers.symm.trans answersToo, congrArg (·.registry.backend.log) worlds, ?_⟩
  have masked := congrArg (·.registry.backend.events.map Event.withoutPassword) worlds
  -- what is left out does not depend on whether it was masked before
  have unmasked (events : List Event) :
      (events.map Event.masked).map Event.withoutPassword = events.map Event.withoutPassword := by
    rw [List.map_map]
    exact List.map_congr_left fun event _ => event.withoutPassword_masked
  exact (unmasked _).symm.trans (masked.trans (unmasked _))

/-- A handle is made with one password or with another one, runs a statement, is described and
closed; the same is said in both runs. -/
theorem World.keepsSecrets_twoPasswords :
    (World.empty.run [.construct { Settings.default with password := "secret" } none,
        .statement 0 "SELECT 1" [], .uri 0, .describe 0, .close 0]).2.registry.backend.log =
      (World.empty.run [.construct { Settings.default with password := "hidden" } none,
        .statement 0 "SELECT 1" [], .uri 0, .describe 0, .close 0]).2.registry.backend.log := by
  have alike : Settings.Alike { Settings.default with password := "secret" }
      { Settings.default with password := "hidden" } := ⟨rfl, by decide, by decide⟩
  exact (World.keepsSecrets (.cons (.construct alike none)
    (List.forall₂_same.mpr fun deed _ => .same deed))).2.1

end TableGateway
