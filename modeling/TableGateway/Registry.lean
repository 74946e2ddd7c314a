/-
This file keeps named settings of servers, and the handles made from them. A handle is
made when its name is first asked for and then stays, until its name gets other settings
or all handles are closed.
-/

import TableGateway.MySql.Handle

namespace TableGateway

/-- Named settings, the handles in use by name, and every handle ever made. A handle is told by its
place in the order of their making. -/
structure Registry where
  configurations : Entries Settings
  cached : Entries Nat
  handles : List MySql.Handle
  backend : Backend

namespace Registry

/-- Nothing configured. -/
def empty : Registry := ⟨[], [], [], .empty⟩

/-- Says something. -/
def say (registry : Registry) (level : Level) (message : String) : Registry :=
  { registry with backend := registry.backend.say level message }

/-- Names are values that can be keys. -/
def checkName (name : Value) : Except Failure Unit :=
  if name.isHashable then .ok () else .error .wrongType

/-- The registry with settings under a name. A handle made from other settings is no longer the
handle of the name. -/
def configured (registry : Registry) (name : Value) (settings : Settings) : Registry :=
  let registry := match registry.configurations.get? name with
    | some previous =>
      let registry := (registry.say .info
        ("[DbcRegistry] interrupt connecting to " ++ previous.safeUri)).say .info
          ("[DbcRegistry] reconnect <" ++ name.plainText ++ "> to " ++ settings.safeUri)
      { registry with cached := registry.cached.erase name }
    | none => registry.say .info
        ("[DbcRegistry] connect <" ++ name.plainText ++ "> to " ++ settings.safeUri)
  { registry with configurations := registry.configurations.put name settings }

/-- Sets the settings of a name. -/
def set (registry : Registry) (name : Value) (settings : Settings) : Except Failure Registry := do
  checkName name
  return registry.configured name settings

/-- The handle of a name, made now if there is none. -/
def handleOf (registry : Registry) (name : Value) : Except Failure Nat × Registry :=
  match registry.cached.get? name with
  | some id => (.ok id, registry)
  | none =>
    match registry.configurations.get? name with
    | none => (.error (.unknownHandle name), registry)
    | some settings =>
      let id := registry.handles.length
      let registry := registry.say .debug (MySql.Handle.createdMessage settings)
      (.ok id, { registry with
        handles := registry.handles ++ [.create settings none]
        cached := registry.cached.put name id })

/-- Gives the handle of a name. -/
def get (registry : Registry) (name : Value) : Except Failure Nat × Registry :=
  match checkName name with
  | .ok _ => registry.handleOf name
  | .error failure => (.error failure, registry)

/-- The handle of a number. -/
def handle? (registry : Registry) (id : Nat) : Option MySql.Handle :=
  registry.handles[id]?

/-- The registry with one handle, and the database behind all of them, as some use left them. -/
def putBack (registry : Registry) (id : Nat) (state : MySql.State) : Registry :=
  { registry with handles := registry.handles.set id state.handle, backend := state.backend }

/-- Runs a statement on the handle of a name. -/
def query (registry : Registry) (name : Value) (sql : String) (arguments : Value) :
    Except Failure Reply × Registry :=
  match registry.get name with
  | (.error failure, registry) => (.error failure, registry)
  | (.ok id, registry) =>
    match arguments.arguments, registry.handle? id with
    | .error failure, _ => (.error failure, registry)
    | .ok _, none => (.error .unfinished, registry)
    | .ok arguments, some handle =>
      let (outcome, state) := MySql.State.statement ⟨handle, registry.backend⟩ sql arguments
      (outcome, registry.putBack id state)

/-- Closes the handle of a name. -/
def closeOne (registry : Registry) (name : Value) (id : Nat) : Registry :=
  let registry := registry.say .debug ("[DbcRegistry] closing <" ++ name.plainText ++ ">")
  match registry.handle? id with
  | none => registry
  | some handle => registry.putBack id (MySql.State.close ⟨handle, registry.backend⟩)

/-- Closes the handles in use, in the order in which they came into use, and forgets them. The
settings stay. -/
def closeAll (registry : Registry) : Registry :=
  let registry := registry.cached.foldl (fun registry (name, id) => registry.closeOne name id)
    registry
  { registry with cached := [] }

end Registry

end TableGateway
