/-
This file says which predicates come of a condition that pins columns to scalars. Nothing
in such a condition overrides anything else, so its buckets say all that it says, though in
another order; and each thing said is that a column is equal to a value, or is null.
-/

import Mathlib.Data.List.Perm.Basic
import TableGateway.Proofs.Dialogue

namespace TableGateway

namespace Assertion

/-- Something said is not overridden by something said later: it is said under another operator, or
of another key. -/
def IsKept (first later : Assertion) : Prop :=
  first.operator = later.operator → first.key.equal later.key = false

/-- An entry with a scalar says one thing. -/
theorem ofEntry_of_isScalar (key : Value) {value : Value} (scalar : value.isScalar = true) :
    ofEntry key value = [ofField key value] := by
  unfold ofEntry
  split
  · cases scalar
  · rfl

end Assertion

/-! ### Buckets in which nothing is overridden -/

namespace Buckets

/-- What is taken without overriding anything is said besides the rest. -/
theorem assertions_take_perm {buckets : Buckets} {assertion : Assertion}
    (kept : ∀ said ∈ buckets.assertions, said.IsKept assertion) :
    (buckets.take assertion).assertions.Perm (buckets.assertions ++ [assertion]) := by
  obtain ⟨operator, key, value⟩ := assertion
  unfold take
  induction buckets with
  | nil => exact .refl _
  | cons bucket rest inductionHypothesis =>
    obtain ⟨own, fields⟩ := bucket
    rw [assertions_cons, List.forall_mem_append] at kept
    obtain ⟨here, later⟩ := kept
    by_cases same : own = operator
    · have new : ∀ entry ∈ fields, entry.1.equal key = false := fun entry member =>
        here _ (List.mem_map_of_mem member) same
      rw [assign, if_pos same, Entries.put_of_new new, assertions_cons, assertions_cons,
        Assertion.ofFields, List.map_append, same, List.append_assoc, List.append_assoc]
      exact List.perm_append_comm.append_left _
    · rw [assign, if_neg same, assertions_cons, assertions_cons, List.append_assoc]
      exact (inductionHypothesis later).append_left _

theorem assertions_foldl_take_perm {buckets : Buckets} {said : List Assertion}
    (apart : said.Pairwise Assertion.IsKept)
    (kept : ∀ earlier ∈ buckets.assertions, ∀ later ∈ said, earlier.IsKept later) :
    (said.foldl take buckets).assertions.Perm (buckets.assertions ++ said) := by
  induction said generalizing buckets with
  | nil => rw [List.append_nil]; exact .refl _
  | cons assertion rest inductionHypothesis =>
    obtain ⟨apartFirst, apartRest⟩ := List.pairwise_cons.mp apart
    have taken := assertions_take_perm fun earlier member =>
      kept earlier member assertion List.mem_cons_self
    have keptRest : ∀ earlier ∈ (buckets.take assertion).assertions, ∀ later ∈ rest,
        earlier.IsKept later := by
      intro earlier member later among
      rcases List.mem_append.mp (taken.mem_iff.mp member) with before | last
      · exact kept earlier before later (List.mem_cons_of_mem _ among)
      · exact List.mem_singleton.mp last ▸ apartFirst later among
    have whole := (inductionHypothesis apartRest keptRest).trans (taken.append_right rest)
    rwa [List.append_assoc, List.singleton_append] at whole

end Buckets

/-- Where nothing that a condition says overrides anything, classified buckets say all of it. -/
theorem assertions_classifyEntries_perm {enableUndefined : Bool} {buckets classified : Buckets}
    {entries : List (Value × Value)}
    (passed : classifyEntries enableUndefined buckets entries = .ok classified)
    (apart : (Record.assertions entries).Pairwise Assertion.IsKept)
    (kept : ∀ earlier ∈ buckets.assertions, ∀ later ∈ Record.assertions entries,
      earlier.IsKept later) :
    classified.assertions.Perm (buckets.assertions ++ Record.assertions entries) := by
  induction entries generalizing buckets with
  | nil =>
    cases passed
    rw [show Record.assertions [] = [] from rfl, List.append_nil]
  | cons entry rest inductionHypothesis =>
    obtain ⟨key, value⟩ := entry
    obtain ⟨middle, first, passed⟩ := ok_of_bind passed
    rw [Record.assertions_cons] at apart kept ⊢
    obtain ⟨apartFirst, apartRest, across⟩ := List.pairwise_append.mp apart
    have taken : middle.assertions.Perm (buckets.assertions ++ Assertion.ofEntry key value) := by
      rw [classifyEntry_eq_ok first, ← buckets.assertions_opened key value]
      refine Buckets.assertions_foldl_take_perm apartFirst fun earlier member later among => ?_
      rw [Buckets.assertions_opened] at member
      exact kept earlier member later (List.mem_append_left _ among)
    have keptRest : ∀ earlier ∈ middle.assertions, ∀ later ∈ Record.assertions rest,
        earlier.IsKept later := by
      intro earlier member later among
      rcases List.mem_append.mp (taken.mem_iff.mp member) with before | now
      · exact kept earlier before later (List.mem_append_right _ among)
      · exact across earlier now later among
    have whole := (inductionHypothesis passed apartRest keptRest).trans (taken.append_right _)
    rwa [List.append_assoc] at whole

/-! ### Pins -/

/-- The predicate that a column has a value, which for null is a null check. -/
def Predicate.pin (column : Identifier) (value : Value) : Predicate :=
  ⟨column, if value.isNull then .is else .eq, .single value⟩

/-- A column that is said to have a scalar becomes a pin. -/
theorem Assertion.eq_pin_of_becomes {column : Identifier} {value : Value} {predicate : Predicate}
    (scalar : value.isScalar = true)
    (becomes : (ofField (.text column.name) value).Becomes predicate) :
    predicate = .pin column value := by
  obtain ⟨other, operator, argument⟩ := predicate
  obtain ⟨sameOperator, sameName⟩ := becomes.names
  rw [key_ofField] at sameName
  have sameColumn : other = column := Identifier.ext_name (Value.text.inj sameName).symm
  simp only at sameOperator
  subst sameColumn sameOperator
  cases value with
  | undefined => cases scalar
  | null =>
    have positive : Operator.is ≠ .isNot := by decide
    exact congrArg (Predicate.mk _ _) (becomes.argument_eq_single rfl positive)
  | _ => exact congrArg (Predicate.mk _ _) (becomes.argument_eq rfl)

theorem eq_pins_of_forall₂ {written : List (Identifier × Value)} {predicates : List Predicate}
    (scalars : ∀ assignment ∈ written, assignment.2.isScalar = true)
    (become : List.Forall₂ Assertion.Becomes
      (written.map fun assignment => .ofField (.text assignment.1.name) assignment.2) predicates) :
    predicates = written.map fun assignment => .pin assignment.1 assignment.2 := by
  rw [List.forall₂_map_left_iff] at become
  induction become with
  | nil => rfl
  | cons first _ inductionHypothesis =>
    obtain ⟨scalar, others⟩ := List.forall_mem_cons.mp scalars
    rw [List.map_cons, Assertion.eq_pin_of_becomes scalar first, inductionHypothesis others]

/-- A condition that pins columns to scalars has their pins for predicates. -/
theorem perm_pins {written : List (Identifier × Value)} {enableUndefined : Bool}
    {buckets : Buckets} {predicates : List Predicate}
    (distinct : (Record.ofColumns written).AreDistinct)
    (scalars : ∀ assignment ∈ written, assignment.2.isScalar = true)
    (classified : classify (Record.ofColumns written) enableUndefined = .ok buckets)
    (became : Predicate.ofBuckets buckets.toRecord = .ok predicates) :
    predicates.Perm (written.map fun assignment => .pin assignment.1 assignment.2) := by
  have said : (Record.ofColumns written).assertions = written.map fun assignment =>
      Assertion.ofField (.text assignment.1.name) assignment.2 := by
    rw [Record.assertions, Record.ofColumns, List.flatMap_map, List.map_eq_flatMap]
    refine List.flatMap_congr fun assignment member => ?_
    exact Assertion.ofEntry_of_isScalar _ (scalars assignment member)
  have apart : (Record.ofColumns written).assertions.Pairwise Assertion.IsKept := by
    rw [said, List.pairwise_map]
    refine (List.pairwise_map.mp distinct).imp fun {first later} different _ => ?_
    rwa [Assertion.key_ofField, Assertion.key_ofField]
  have whole : buckets.assertions.Perm (written.map fun assignment =>
      Assertion.ofField (.text assignment.1.name) assignment.2) := by
    rw [← said]
    exact assertions_classifyEntries_perm classified apart
      fun earlier member => absurd member List.not_mem_nil
  -- what is said becomes predicates in its own order, and these are the same in another order
  obtain ⟨pins, become, permuted⟩ :=
    List.perm_comp_forall₂ whole.symm (Assertion.forall₂_becomes_toRecord became)
  have isPins := eq_pins_of_forall₂ scalars become
  rw [← isPins]
  exact permuted.symm

end TableGateway
