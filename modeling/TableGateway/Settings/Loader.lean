/-
This file keeps what settings are read from, and the settings that were read last
where they are shared. Shared settings are read once and then stay until they are cleared;
settings are told apart by the order in which they were read.
-/

import TableGateway.Settings.Basic
import TableGateway.Settings.Reference

namespace TableGateway.Settings

/-- The environment, the text of the settings file, the shared settings and how many have been read
so far. -/
structure Loader where
  environment : Named String
  file : String
  shared : Option (Nat × Settings)
  count : Nat

namespace Loader

/-- No environment, no file, nothing read. -/
def fresh : Loader := ⟨[], "", none, 0⟩

/-- The character that ends texts of the system, and so cannot be in one. -/
def terminator : Char := '\x00'

/-- Checks that the environment can hold a variable of a name with a text. A name holds no equals
sign and is not empty. -/
def checkVariable (name text : String) : Except Failure Unit :=
  if terminator ∈ name.toList ∨ terminator ∈ text.toList ∨ '=' ∈ name.toList then
    .error (.unhandled .value)
  else if name = "" then .error (.unhandled (.system none))
  else .ok ()

/-- Sets a variable of the environment. -/
def set (loader : Loader) (name text : String) : Except Failure Loader := do
  checkVariable name text
  return { loader with environment := loader.environment.put name text }

/-- Takes a variable out of the environment. -/
def unset (loader : Loader) (name : String) : Loader :=
  { loader with environment := loader.environment.erase name }

/-- Writes the settings file. -/
def writeFile (loader : Loader) (text : String) : Loader :=
  { loader with file := text }

/-- The values of the settings file in the environment as it is now. -/
def fileValues (loader : Loader) : List (String × Option String) :=
  let environment := loader.environment.map fun (name, text) => (name, some text.toList)
  (resolve environment (readFile loader.file)).map fun (name, value) =>
    (name, value.map String.ofList)

/-- Reads new settings. -/
def read (loader : Loader) (given : List (String × Value)) :
    Except Failure (Nat × Settings) × Loader :=
  match Settings.load ⟨given, loader.environment, loader.fileValues⟩ with
  | .ok settings => (.ok (loader.count, settings), { loader with count := loader.count + 1 })
  | .error failure => (.error failure, loader)

/-- The shared settings, read now if they have not been read. -/
def get (loader : Loader) : Except Failure (Nat × Settings) × Loader :=
  match loader.shared with
  | some known => (.ok known, loader)
  | none =>
    match loader.read [] with
    | (.ok read, loader) => (.ok read, { loader with shared := some read })
    | (.error failure, loader) => (.error failure, loader)

/-- Forgets the shared settings. -/
def clear (loader : Loader) : Loader :=
  { loader with shared := none }

end Loader

end TableGateway.Settings
