/-
This file resolves the references in the values of a settings file: `$` and a name in
braces, the name with a text to fall back on if it likes. A name stands for the value it
has further up in the file, and else for its value in the environment.
-/

import TableGateway.Named
import TableGateway.Settings.File

namespace TableGateway.Settings

/-- The values that names have so far, those without one included. -/
abbrev Bindings := Named (Option (List Char))

/-- A reference: the name, the text to fall back on if one is given, and how many characters the
reference takes. -/
structure Reference where
  name : List Char
  fallback : Option (List Char)
  length : Nat

/-- Whether a character can be part of the name in a reference. -/
def isReferenceName (character : Char) : Bool :=
  character != '\x7d' && character != ':'

/-- The reference that a text begins with, if it does. -/
def reference? : List Char → Option Reference
  | '$' :: '\x7b' :: rest =>
    let name := rest.takeWhile isReferenceName
    match rest.dropWhile isReferenceName with
    | '\x7d' :: _ => some ⟨name, none, name.length + 3⟩
    | ':' :: '-' :: rest =>
      let fallback := rest.takeWhile (· != '\x7d')
      if fallback.length < rest.length then
        some ⟨name, some fallback, name.length + fallback.length + 5⟩
      else none
    | _ => none
  | _ => none

/-- What a reference stands for: the value of its name, nothing if the name is known to have none,
and the text to fall back on if the name is not known. -/
def Reference.resolve (known : Bindings) (reference : Reference) : List Char :=
  match known.lookup (String.ofList reference.name) with
  | some value => value.getD []
  | none => reference.fallback.getD []

/-- A text with its references resolved. The number counts the characters that still belong to the
reference last resolved. -/
def expandFrom (known : Bindings) : Nat → List Char → List Char
  | _, [] => []
  | skipped + 1, _ :: rest => expandFrom known skipped rest
  | 0, character :: rest =>
    match reference? (character :: rest) with
    | some reference => reference.resolve known ++ expandFrom known (reference.length - 1) rest
    | none => character :: expandFrom known 0 rest

/-- A text with its references resolved. -/
def expand (known : Bindings) (characters : List Char) : List Char :=
  expandFrom known 0 characters

/-- The values of a file: each may refer to the ones before it and to the environment. -/
def resolve (environment : Bindings) (assignments : List Assignment) : Bindings :=
  assignments.foldl
    (fun bindings assignment =>
      bindings.put assignment.name
        (assignment.value.map (expand (bindings ++ environment))))
    []

/-! ### Texts without references -/

theorem reference?_eq_none {character : Char} (rest : List Char) (other : character ≠ '$') :
    reference? (character :: rest) = none := by
  unfold reference?
  split
  · rename_i same
    exact absurd (List.cons.inj same).1 other
  · rfl

/-- A text without a dollar sign stands for itself. -/
theorem expand_of_not_mem (known : Bindings) (characters : List Char)
    (absent : '$' ∉ characters) : expand known characters = characters := by
  unfold expand
  induction characters with
  | nil => rfl
  | cons character rest inductionHypothesis =>
    have other : character ≠ '$' := fun same => absent (same ▸ List.mem_cons_self)
    rw [expandFrom, reference?_eq_none rest other]
    exact congrArg (character :: ·)
      (inductionHypothesis fun member => absent (List.mem_cons_of_mem _ member))

end TableGateway.Settings
