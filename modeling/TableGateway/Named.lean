/-
This file keeps things under names, in the order in which the names were first put. A
name put again keeps its place. What a name has is what was last put under it, and
putting something under one name leaves all others alone.
-/

namespace TableGateway

/-- Things under names, in order. -/
abbrev Named (Content : Type) := List (String × Content)

namespace Named

variable {Content : Type}

/-- Puts something under a name: in the name's place if it is there already, else at the end. -/
def put (named : Named Content) (name : String) (content : Content) : Named Content :=
  match named with
  | [] => [(name, content)]
  | (own, old) :: rest =>
    if own = name then (own, content) :: rest else (own, old) :: put rest name content

/-- The names without one of them. -/
def erase (named : Named Content) (name : String) : Named Content :=
  named.filter fun entry => entry.1 != name

theorem lookup_put (named : Named Content) (name : String) (content : Content) :
    (named.put name content).lookup name = some content := by
  induction named with
  | nil => simp [put]
  | cons entry rest inductionHypothesis =>
    obtain ⟨own, old⟩ := entry
    by_cases same : own = name
    · simp [put, same]
    · have other : (name == own) = false := by simp [Ne.symm same]
      simp only [put, if_neg same, List.lookup_cons, other, inductionHypothesis]

theorem lookup_put_of_ne (named : Named Content) {name other : String} (content : Content)
    (different : other ≠ name) : (named.put name content).lookup other = named.lookup other := by
  have unequal : (other == name) = false := by simp [different]
  induction named with
  | nil => simp only [put, List.lookup_cons, unequal]
  | cons entry rest inductionHypothesis =>
    obtain ⟨own, old⟩ := entry
    by_cases same : own = name
    · subst same
      simp only [put, if_true, List.lookup_cons, unequal]
    · simp only [put, if_neg same, List.lookup_cons, inductionHypothesis]

end Named

end TableGateway
