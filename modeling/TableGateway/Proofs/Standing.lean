/-
This file says which of the things that a condition says count. Something stands if
nothing is said later of an equal key under the same operator. Of each name, classified
buckets have what stands and nothing else.
-/

import TableGateway.Proofs.Override
import TableGateway.Proofs.Tidiness

namespace TableGateway

namespace Assertion

/-- Of what is said from left to right, something stands if nothing is said later of an equal key
under the same operator. -/
def Stands (said : List Assertion) (assertion : Assertion) : Prop :=
  ∃ before after, said = before ++ assertion :: after ∧
    ∀ later ∈ after, later.operator = assertion.operator → later.key.equal assertion.key = false

theorem Stands.mem {said : List Assertion} {assertion : Assertion}
    (stands : Stands said assertion) : assertion ∈ said := by
  obtain ⟨before, after, rfl, -⟩ := stands
  exact List.mem_append_right _ List.mem_cons_self

variable {operator : Operator} {name : String} {value : Value} {said : List Assertion}

theorem isAbout_eq_false_iff {assertion : Assertion} :
    assertion.isAbout operator name = false ↔
      (assertion.operator = operator → assertion.key.equal (.text name) = false) := by
  simp only [isAbout, Bool.and_eq_false_iff, decide_eq_false_iff_not, Decidable.imp_iff_not_or]

/-- Where nothing is said last of a name, nothing is said of it. -/
theorem isAbout_of_last?_eq_none (nothing : last? operator name said = none) :
    ∀ assertion ∈ said, assertion.isAbout operator name = false := by
  induction said with
  | nil => exact fun _ member => absurd member List.not_mem_nil
  | cons first rest inductionHypothesis =>
    obtain ⟨later, now⟩ := Option.or_eq_none_iff.mp nothing
    refine List.forall_mem_cons.mpr ⟨?_, inductionHypothesis later⟩
    refine Bool.eq_false_iff.mpr fun about => ?_
    rw [if_pos about] at now
    cases now

/-- What is said last of a name is what stands of it. -/
theorem last?_eq_some_iff :
    last? operator name said = some value ↔ Stands said ⟨operator, .text name, value⟩ := by
  constructor
  · intro last
    induction said with
    | nil => cases last
    | cons first rest inductionHypothesis =>
      rw [last?] at last
      cases later : last? operator name rest with
      | some own =>
        rw [later, Option.some_or] at last
        cases last
        obtain ⟨before, after, rfl, silent⟩ := inductionHypothesis later
        exact ⟨first :: before, after, rfl, silent⟩
      | none =>
        rw [later, Option.none_or] at last
        obtain ⟨about, same⟩ := Option.ite_none_right_eq_some.mp last
        rw [isAbout, Bool.and_eq_true, decide_eq_true_iff, Value.equal_text_iff] at about
        have isFirst : first = ⟨operator, .text name, value⟩ := by
          obtain ⟨own, key, content⟩ := first
          obtain ⟨rfl, rfl⟩ := about
          rw [← Option.some.inj same]
        refine ⟨[], rest, by rw [isFirst]; rfl, fun other member => ?_⟩
        exact isAbout_eq_false_iff.mp (isAbout_of_last?_eq_none later other member)
  · rintro ⟨before, after, rfl, silent⟩
    have later : last? operator name after = none :=
      last?_eq_none fun other member => isAbout_eq_false_iff.mpr (silent other member)
    have about : isAbout operator name ⟨operator, .text name, value⟩ = true := by
      rw [isAbout, Value.text_equal_self, decide_eq_true rfl, Bool.and_true]
    rw [last?_append, last?, later, if_pos about, Option.none_or, Option.some_or]

end Assertion

/-! ### What buckets have of a name -/

namespace Buckets

variable {buckets : Buckets} {operator : Operator} {name : String} {value : Value}

theorem mem_assertions_of_value? (had : buckets.value? operator name = some value) :
    ⟨operator, .text name, value⟩ ∈ buckets.assertions := by
  induction buckets with
  | nil => cases had
  | cons bucket rest inductionHypothesis =>
    obtain ⟨own, fields⟩ := bucket
    rw [value?] at had
    rw [assertions_cons]
    split at had
    · rename_i same
      rw [same]
      refine List.mem_append_left _ ?_
      exact List.mem_map_of_mem (Entries.mem_of_named? had)
    · exact List.mem_append_right _ (inductionHypothesis had)

theorem mem_assertions_iff_value? (tidy : buckets.AreTidy) :
    ⟨operator, .text name, value⟩ ∈ buckets.assertions ↔
      buckets.value? operator name = some value :=
  ⟨fun member => value?_of_mem tidy member rfl, mem_assertions_of_value?⟩

end Buckets

/-- What classified buckets say of a name is what stands of it in the condition. -/
theorem mem_assertions_iff_stands_of_name {record : Record} {enableUndefined : Bool}
    {buckets : Buckets} (classified : classify record enableUndefined = .ok buckets)
    {operator : Operator} {name : String} {value : Value} :
    ⟨operator, .text name, value⟩ ∈ buckets.assertions ↔
      Assertion.Stands record.assertions ⟨operator, .text name, value⟩ := by
  have tidy : buckets.AreTidy := areTidy_classifyEntries Buckets.areTidy_nil classified
  rw [Buckets.mem_assertions_iff_value? tidy, value?_classifyEntries classified,
    ← Assertion.last?_eq_some_iff]
  exact Iff.of_eq (congrArg (· = some value) Option.or_none)

/-- Where classified buckets have names for keys, the condition says things of names only. -/
theorem exists_name_of_said {record : Record} {enableUndefined : Bool} {buckets : Buckets}
    (classified : classify record enableUndefined = .ok buckets)
    (named : ∀ assertion ∈ buckets.assertions, ∃ name, assertion.key = .text name)
    {assertion : Assertion} (said : assertion ∈ record.assertions) :
    ∃ name, assertion.key = .text name ∧ ∃ kept ∈ buckets.assertions,
      kept.operator = assertion.operator ∧ kept.key = .text name := by
  -- what is said leaves its key named in the buckets, so the key is the name that stands there
  have isNamed : buckets.Names assertion.operator assertion.key :=
    names_classifyEntries classified said
  obtain ⟨kept, member, sameOperator, sameKey⟩ := isNamed.exists_mem_assertions
  obtain ⟨name, isName⟩ := named kept member
  refine ⟨name, ?_, kept, member, sameOperator, isName⟩
  rcases sameKey with same | equal
  · rw [← same, isName]
  · rw [isName] at equal
    exact (Value.text_equal_iff name _).mp equal

/-- Where classified buckets have names for keys, they say exactly what stands in the condition. -/
theorem mem_assertions_iff_stands {record : Record} {enableUndefined : Bool} {buckets : Buckets}
    (classified : classify record enableUndefined = .ok buckets)
    (named : ∀ assertion ∈ buckets.assertions, ∃ name, assertion.key = .text name)
    (assertion : Assertion) :
    assertion ∈ buckets.assertions ↔ Assertion.Stands record.assertions assertion := by
  constructor
  · intro member
    obtain ⟨name, isName⟩ := named assertion member
    obtain ⟨operator, key, value⟩ := assertion
    cases isName
    exact (mem_assertions_iff_stands_of_name classified).mp member
  · intro stands
    obtain ⟨name, keyName, _⟩ := exists_name_of_said classified named stands.mem
    obtain ⟨operator, key, value⟩ := assertion
    cases keyName
    exact (mem_assertions_iff_stands_of_name classified).mpr stands

end TableGateway
