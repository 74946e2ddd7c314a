/-
This file reads conditions and buckets as what they say: of a field, under an operator,
a value. A condition says its entries from left to right, an explicit bucket all of its
fields and any other entry one thing; what the classified buckets have of a field is what
the condition said last, and they say nothing exactly if the condition says nothing.
-/

import TableGateway.Proofs.Entries
import TableGateway.Proofs.Run

namespace TableGateway

/-- Something said of a field: the value that it has under an operator. -/
structure Assertion where
  operator : Operator
  key : Value
  value : Value

namespace Assertion

/-- What the fields of a bucket say. -/
def ofFields (operator : Operator) (fields : List (Value × Value)) : List Assertion :=
  fields.map fun field => ⟨operator, field.1, field.2⟩

/-- What a flat field says: null and `undefined` are null checks, all else is an equality. -/
def ofField (key : Value) : Value → Assertion
  | .null => ⟨.is, key, .null⟩
  | .undefined => ⟨.isNot, key, .null⟩
  | value => ⟨.eq, key, value⟩

@[simp] theorem key_ofField (key value : Value) : (ofField key value).key = key := by
  cases value <;> rfl

/-- What an entry of a condition says. -/
def ofEntry (key value : Value) : List Assertion :=
  match operatorOfKey? key, value with
  | some operator, .dict fields => ofFields operator fields
  | _, value => [ofField key value]

/-- Whether something is said of a name under an operator. -/
def isAbout (operator : Operator) (name : String) (assertion : Assertion) : Bool :=
  assertion.operator = operator && assertion.key.equal (.text name)

/-- The value that is said last of a name under an operator. -/
def last? (operator : Operator) (name : String) : List Assertion → Option Value
  | [] => none
  | assertion :: rest =>
    (last? operator name rest).or
      (if assertion.isAbout operator name then some assertion.value else none)

theorem last?_append (operator : Operator) (name : String) (first second : List Assertion) :
    last? operator name (first ++ second) =
      (last? operator name second).or (last? operator name first) := by
  induction first with
  | nil => simp [last?]
  | cons assertion rest inductionHypothesis =>
    simp only [List.cons_append, last?, inductionHypothesis, Option.or_assoc]

end Assertion

/-- What a condition says, from left to right. -/
def Record.assertions (record : Record) : List Assertion :=
  record.flatMap fun entry => Assertion.ofEntry entry.1 entry.2

theorem Record.assertions_cons (key value : Value) (rest : Record) :
    Record.assertions ((key, value) :: rest) =
      Assertion.ofEntry key value ++ rest.assertions := rfl

namespace Buckets

/-- What buckets say, in their order. -/
def assertions (buckets : Buckets) : List Assertion :=
  buckets.flatMap fun bucket => Assertion.ofFields bucket.1 bucket.2

/-- What buckets have of a name under an operator. -/
def value? (operator : Operator) (name : String) : Buckets → Option Value
  | [] => none
  | (own, fields) :: rest =>
    if own = operator then fields.named? name else value? operator name rest

/-- The buckets with something more said. -/
def take (buckets : Buckets) (assertion : Assertion) : Buckets :=
  buckets.assign assertion.operator assertion.key assertion.value

/-- The buckets with the bucket of an entry in them, if the entry is an explicit one. -/
def opened (buckets : Buckets) (key value : Value) : Buckets :=
  match operatorOfKey? key, value with
  | some operator, .dict _ => buckets.touch operator
  | _, _ => buckets

end Buckets

/-! ### Classifying is taking what is said -/

theorem mergeBucket_eq_ok {operator : Operator} {buckets merged : Buckets}
    {fields : List (Value × Value)}
    (passed : mergeBucket operator buckets fields = .ok merged) :
    merged = (Assertion.ofFields operator fields).foldl Buckets.take buckets := by
  induction fields generalizing buckets with
  | nil =>
    cases passed
    rfl
  | cons field rest inductionHypothesis =>
    obtain ⟨_, _, passed⟩ := ok_of_bind passed
    exact inductionHypothesis passed

theorem classifyField_eq_ok {enableUndefined : Bool} {buckets classified : Buckets}
    {key value : Value}
    (passed : classifyField enableUndefined buckets key value = .ok classified) :
    classified = buckets.take (.ofField key value) := by
  obtain ⟨_, _, passed⟩ := ok_of_bind passed
  cases value with
  | undefined =>
    cases enableUndefined with
    | false => cases passed
    | true =>
      cases passed
      rfl
  | _ =>
    cases passed
    rfl

/-- An entry of a condition is classified by taking what it says. -/
theorem classifyEntry_eq_ok {enableUndefined : Bool} {buckets classified : Buckets}
    {key value : Value}
    (passed : classifyEntry enableUndefined buckets key value = .ok classified) :
    classified = (Assertion.ofEntry key value).foldl Buckets.take (buckets.opened key value) := by
  unfold classifyEntry at passed
  unfold Assertion.ofEntry Buckets.opened
  cases named : operatorOfKey? key with
  | none =>
    rw [named] at passed
    exact classifyField_eq_ok passed
  | some operator =>
    rw [named] at passed
    cases value with
    | dict fields => exact mergeBucket_eq_ok passed
    | _ => exact classifyField_eq_ok passed

/-- What stays when an operator is named, and when something that entries say is taken, stays
when the entries are classified. -/
theorem holds_classifyEntries (holds : Buckets → Prop) {enableUndefined : Bool}
    {buckets classified : Buckets} {entries : List (Value × Value)}
    (touches : ∀ before operator, holds before → holds (before.touch operator))
    (takes : ∀ assertion ∈ Record.assertions entries, ∀ before, holds before →
      holds (before.take assertion))
    (passed : classifyEntries enableUndefined buckets entries = .ok classified)
    (first : holds buckets) : holds classified := by
  induction entries generalizing buckets with
  | nil =>
    cases passed
    exact first
  | cons entry rest inductionHypothesis =>
    obtain ⟨middle, classifies, passed⟩ := ok_of_bind passed
    obtain ⟨here, later⟩ := List.forall_mem_append.mp takes
    refine inductionHypothesis later passed ?_
    have opens : holds (buckets.opened entry.1 entry.2) := by
      unfold Buckets.opened
      split
      · exact touches buckets _ first
      · exact first
    rw [classifyEntry_eq_ok classifies]
    exact List.foldlRecOn _ _ opens fun before holding assertion said =>
      here assertion said before holding

/-! ### What was said last -/

namespace Buckets

theorem value?_touch (buckets : Buckets) (touched operator : Operator) (name : String) :
    (buckets.touch touched).value? operator name = buckets.value? operator name := by
  induction buckets with
  | nil => simp [touch, value?, Entries.named?, Entries.get?]
  | cons bucket rest inductionHypothesis =>
    obtain ⟨own, fields⟩ := bucket
    by_cases same : own = touched
    · simp only [touch, if_pos same]
    · simp only [touch, if_neg same, value?, inductionHypothesis]

theorem value?_opened (buckets : Buckets) (key value : Value) (operator : Operator)
    (name : String) :
    (buckets.opened key value).value? operator name = buckets.value? operator name := by
  unfold opened
  split
  · exact value?_touch _ _ _ _
  · rfl

/-- What is taken last is what the buckets have. -/
theorem value?_take (buckets : Buckets) (assertion : Assertion) (operator : Operator)
    (name : String) :
    (buckets.take assertion).value? operator name =
      if assertion.isAbout operator name then some assertion.value
      else buckets.value? operator name := by
  obtain ⟨told, key, value⟩ := assertion
  unfold take
  induction buckets with
  | nil =>
    by_cases same : told = operator
    · simp [assign, value?, same, Assertion.isAbout, Entries.named?, Entries.get?]
    · simp [assign, value?, same, Assertion.isAbout]
  | cons bucket rest inductionHypothesis =>
    obtain ⟨own, fields⟩ := bucket
    simp only [Assertion.isAbout] at inductionHypothesis ⊢
    by_cases here : own = told
    · subst here
      by_cases same : own = operator
      · simp [assign, value?, same, Entries.named?_put_key]
      · simp [assign, value?, same]
    · by_cases same : own = operator
      · subst same
        have other : ¬told = own := fun isOwn => here isOwn.symm
        simp [assign, value?, here, other]
      · simp [assign, value?, here, same, inductionHypothesis]

theorem value?_foldl_take (buckets : Buckets) (said : List Assertion) (operator : Operator)
    (name : String) :
    (said.foldl take buckets).value? operator name =
      (Assertion.last? operator name said).or (buckets.value? operator name) := by
  induction said generalizing buckets with
  | nil => rfl
  | cons assertion rest inductionHypothesis =>
    rw [List.foldl_cons, inductionHypothesis, value?_take, Assertion.last?, Option.or_assoc]
    by_cases about : assertion.isAbout operator name = true
    · simp only [if_pos about, Option.some_or]
    · simp only [if_neg about, Option.none_or]

end Buckets

/-- What classified buckets have of a name is what the entries said last of it, or else what was
there before. -/
theorem value?_classifyEntries {enableUndefined : Bool} {buckets classified : Buckets}
    {entries : List (Value × Value)}
    (passed : classifyEntries enableUndefined buckets entries = .ok classified)
    (operator : Operator) (name : String) :
    classified.value? operator name =
      (Assertion.last? operator name (Record.assertions entries)).or
        (buckets.value? operator name) := by
  induction entries generalizing buckets with
  | nil =>
    cases passed
    rfl
  | cons entry rest inductionHypothesis =>
    obtain ⟨key, value⟩ := entry
    obtain ⟨middle, first, passed⟩ := ok_of_bind passed
    rw [inductionHypothesis passed, classifyEntry_eq_ok first, Buckets.value?_foldl_take,
      Buckets.value?_opened, Record.assertions_cons, Assertion.last?_append, Option.or_assoc]

/-! ### Saying nothing -/

namespace Buckets

theorem assertions_cons (operator : Operator) (fields : Record) (rest : Buckets) :
    Buckets.assertions ((operator, fields) :: rest) =
      Assertion.ofFields operator fields ++ rest.assertions := rfl

/-- A bucket that is only named says nothing. -/
theorem assertions_touch (buckets : Buckets) (operator : Operator) :
    (buckets.touch operator).assertions = buckets.assertions := by
  induction buckets with
  | nil => rfl
  | cons bucket rest inductionHypothesis =>
    obtain ⟨own, fields⟩ := bucket
    by_cases same : own = operator
    · rw [touch, if_pos same]
    · rw [touch, if_neg same, assertions_cons, assertions_cons, inductionHypothesis]

theorem assertions_opened (buckets : Buckets) (key value : Value) :
    (buckets.opened key value).assertions = buckets.assertions := by
  unfold opened
  split
  · exact assertions_touch _ _
  · rfl

/-- Buckets that have taken something say something. -/
theorem assertions_take_ne_nil (buckets : Buckets) (assertion : Assertion) :
    (buckets.take assertion).assertions ≠ [] := by
  have kept (fields : Record) : Entries.put fields assertion.key assertion.value ≠ [] := by
    cases fields with
    | nil => exact List.cons_ne_nil _ _
    | cons entry rest =>
      rw [Entries.put]
      split
      · exact List.cons_ne_nil _ _
      · exact List.cons_ne_nil _ _
  unfold take
  induction buckets with
  | nil => exact List.cons_ne_nil _ _
  | cons bucket rest inductionHypothesis =>
    obtain ⟨own, fields⟩ := bucket
    by_cases same : own = assertion.operator
    · rw [assign, if_pos same, assertions_cons]
      exact List.append_ne_nil_of_left_ne_nil
        (fun empty => kept fields (List.map_eq_nil_iff.mp empty)) _
    · rw [assign, if_neg same, assertions_cons]
      exact List.append_ne_nil_of_right_ne_nil _ inductionHypothesis

theorem assertions_foldl_take_eq_nil_iff (buckets : Buckets) (said : List Assertion) :
    (said.foldl take buckets).assertions = [] ↔ said = [] ∧ buckets.assertions = [] := by
  induction said generalizing buckets with
  | nil => exact ⟨fun nothing => ⟨rfl, nothing⟩, fun both => both.2⟩
  | cons assertion rest inductionHypothesis =>
    rw [List.foldl_cons, inductionHypothesis]
    constructor
    · rintro ⟨_, nothing⟩
      exact absurd nothing (buckets.assertions_take_ne_nil assertion)
    · rintro ⟨nothing, _⟩
      exact absurd nothing (List.cons_ne_nil _ _)

end Buckets

/-- Classified buckets say nothing exactly if nothing was there and nothing is said. -/
theorem assertions_classifyEntries_eq_nil_iff {enableUndefined : Bool}
    {buckets classified : Buckets} {entries : List (Value × Value)}
    (passed : classifyEntries enableUndefined buckets entries = .ok classified) :
    classified.assertions = [] ↔ Record.assertions entries = [] ∧ buckets.assertions = [] := by
  induction entries generalizing buckets with
  | nil =>
    cases passed
    exact ⟨fun nothing => ⟨rfl, nothing⟩, fun both => both.2⟩
  | cons entry rest inductionHypothesis =>
    obtain ⟨key, value⟩ := entry
    obtain ⟨middle, first, passed⟩ := ok_of_bind passed
    rw [inductionHypothesis passed, classifyEntry_eq_ok first,
      Buckets.assertions_foldl_take_eq_nil_iff, Buckets.assertions_opened,
      Record.assertions_cons, List.append_eq_nil_iff]
    exact ⟨fun ⟨later, now, before⟩ => ⟨⟨now, later⟩, before⟩,
      fun ⟨⟨now, later⟩, before⟩ => ⟨later, now, before⟩⟩

end TableGateway
