/-
This file says what a condition can still say of a name that is forced to false. The name
is put where the condition mentions it first, so whatever comes behind that place is said
later. In a mapping only one thing can come behind it and be an equality of the name: an
explicit bucket of equalities that names it.
-/

import TableGateway.Proofs.Assertion

namespace TableGateway

/-! ### The place of a key that is put -/

namespace Entries

variable {Content : Type}

/-- The entries before the first mention of a key. -/
def before (entries : Entries Content) (key : Value) : Entries Content :=
  entries.takeWhile fun entry => !entry.1.equal key

/-- The entries behind the first mention of a key. -/
def behind (entries : Entries Content) (key : Value) : Entries Content :=
  (entries.dropWhile fun entry => !entry.1.equal key).tail

/-- Something put under a key stands where the key is mentioned first, under the key as it was
mentioned there. -/
theorem put_eq (entries : Entries Content) (key : Value) (content : Content) :
    ∃ own, (own = key ∨ own.equal key = true) ∧
      entries.put key content = entries.before key ++ (own, content) :: entries.behind key := by
  induction entries with
  | nil => exact ⟨key, .inl rfl, rfl⟩
  | cons entry rest inductionHypothesis =>
    obtain ⟨own, old⟩ := entry
    by_cases same : own.equal key = true
    · refine ⟨own, .inr same, ?_⟩
      simp only [put, before, behind, same, if_true, List.takeWhile_cons, List.dropWhile_cons,
        Bool.not_true, Bool.false_eq_true, if_false, List.nil_append, List.tail_cons]
    · obtain ⟨first, mentioned, split⟩ := inductionHypothesis
      refine ⟨first, mentioned, ?_⟩
      simp only [put, before, behind, same, if_false, List.takeWhile_cons, List.dropWhile_cons,
        Bool.not_false, if_true, List.cons_append, split, Bool.false_eq_true]

end Entries

namespace Record

/-- What is said when a key is put with a truth value: all that the entries before and behind say,
and in its place that the key is equal to the value. -/
theorem assertions_put (record : Record) (key : Value) (truth : Bool) :
    ∃ own, (own = key ∨ own.equal key = true) ∧
      Record.assertions (record.put key (.bool truth)) =
        Record.assertions (record.before key) ++
          ⟨.eq, own, .bool truth⟩ :: Record.assertions (record.behind key) := by
  obtain ⟨own, mentioned, split⟩ := record.put_eq key (.bool truth)
  refine ⟨own, mentioned, ?_⟩
  have single : Assertion.ofEntry own (.bool truth) = [⟨.eq, own, .bool truth⟩] := by
    unfold Assertion.ofEntry
    cases operatorOfKey? own <;> rfl
  rw [split, Record.assertions, List.flatMap_append, List.flatMap_cons, single]
  rfl

/-- What a record says last of the equality of a name, behind the place where it mentions it
first. -/
def equalityBehind? (record : Record) (name : String) : Option Value :=
  Assertion.last? .eq name (Record.assertions (record.behind (.text name)))

/-- A record goes on to say that a name is equal to something that is not false. -/
def Overrides (record : Record) (name : String) : Prop :=
  ∃ value, record.equalityBehind? name = some value ∧ value ≠ .bool false

/-- A name forced to false is false, unless something else is said of it behind its place. -/
theorem last?_assertions_put (record : Record) (name : String) :
    Assertion.last? .eq name (Record.assertions (record.put (.text name) (.bool false))) =
      some ((record.equalityBehind? name).getD (.bool false)) := by
  obtain ⟨own, mentioned, split⟩ := record.assertions_put (.text name) false
  have isName : own = .text name := by
    rcases mentioned with same | equal
    · exact same
    · exact (Value.equal_text_iff own name).mp equal
  have about : Assertion.isAbout .eq name ⟨.eq, own, .bool false⟩ = true := by
    rw [isName]
    simp only [Assertion.isAbout, decide_true, Bool.true_and]
    exact Value.text_equal_self name
  rw [split, Assertion.last?_append, Assertion.last?, if_pos about]
  unfold equalityBehind?
  cases Assertion.last? .eq name (Record.assertions (record.behind (.text name))) with
  | none => rfl
  | some value => rfl

theorem getD_equalityBehind?_eq_false_iff (record : Record) (name : String) :
    (record.equalityBehind? name).getD (.bool false) = .bool false ↔ ¬record.Overrides name := by
  unfold Overrides
  cases record.equalityBehind? name with
  | none => simp
  | some value => simp

end Record

/-! ### Conditions that override -/

theorem operatorOfKey?_eq_some {key : Value} {operator : Operator}
    (named : operatorOfKey? key = some operator) : key = .text operator.name := by
  cases key with
  | text name =>
    have found : Operator.all.find? (fun operator => operator.name == name) = some operator := named
    have held := List.find?_some found
    rw [beq_iff_eq.mp held]
  | _ => cases named

namespace Assertion

theorem last?_eq_none {operator : Operator} {name : String} {said : List Assertion}
    (silent : ∀ assertion ∈ said, assertion.isAbout operator name = false) :
    last? operator name said = none := by
  induction said with
  | nil => rfl
  | cons assertion rest inductionHypothesis =>
    have later := inductionHypothesis
      fun other member => silent other (List.mem_cons_of_mem _ member)
    rw [last?, later, silent assertion List.mem_cons_self]
    rfl

/-- An entry under another key says nothing of the equality of a name, unless it is the bucket of
equalities. -/
theorem last?_ofEntry_eq_none {key value : Value} {name : String} (other : key ≠ .text name)
    (noBucket : ∀ fields, key = .text Operator.eq.name → value ≠ .dict fields) :
    last? .eq name (ofEntry key value) = none := by
  have unequal : key.equal (.text name) = false :=
    Bool.eq_false_iff.mpr fun equal => other ((Value.equal_text_iff key name).mp equal)
  have flat : last? .eq name [ofField key value] = none := by
    refine last?_eq_none fun assertion member => ?_
    have sameKey : assertion.key = key := by
      rw [List.mem_singleton.mp member]
      cases value <;> rfl
    rw [isAbout, sameKey, unequal, Bool.and_false]
  unfold ofEntry
  split
  · rename_i operator fields named
    refine last?_eq_none fun assertion member => ?_
    obtain ⟨field, _, rfl⟩ := List.mem_map.mp member
    have different : operator ≠ .eq := by
      intro same
      rw [same] at named
      exact noBucket fields (operatorOfKey?_eq_some named) rfl
    simp only [isAbout, different, decide_false, Bool.false_and]
  · exact flat

end Assertion

namespace Record

theorem behind_cons (key value mentioned : Value) (rest : Record) :
    Entries.behind ((key, value) :: rest) mentioned =
      if key.equal mentioned then rest else Entries.behind rest mentioned := by
  unfold Entries.behind
  by_cases same : key.equal mentioned = true
  · simp only [List.dropWhile_cons, same, Bool.not_true, Bool.false_eq_true, if_false, if_true,
      List.tail_cons]
  · simp only [List.dropWhile_cons, same, Bool.not_false, Bool.false_eq_true, if_false, if_true]

/-- Among distinct keys, a name is not mentioned again behind its first mention. -/
theorem key_ne_of_mem_behind {record : Record} (distinct : record.AreDistinct) {name : String}
    {entry : Value × Value} (member : entry ∈ record.behind (.text name)) :
    entry.1 ≠ .text name := by
  induction record with
  | nil => exact absurd member List.not_mem_nil
  | cons first rest inductionHypothesis =>
    obtain ⟨key, value⟩ := first
    obtain ⟨apart, distinctRest⟩ := List.pairwise_cons.mp distinct
    rw [behind_cons] at member
    by_cases same : key.equal (.text name) = true
    · rw [if_pos same] at member
      intro again
      have different : key.equal entry.1 = false := apart entry member
      rw [again, same] at different
      cases different
    · rw [if_neg same] at member
      exact inductionHypothesis distinctRest member

/-- Among distinct keys other than a name, only the bucket of equalities says that the name is equal
to something. -/
theorem last?_assertions_eq_some_iff {entries : Record} (distinct : entries.AreDistinct)
    {name : String} (others : ∀ entry ∈ entries, entry.1 ≠ .text name) (value : Value) :
    Assertion.last? .eq name entries.assertions = some value ↔
      ∃ fields, (.text Operator.eq.name, .dict fields) ∈ entries ∧
        Assertion.last? .eq name (Assertion.ofFields .eq fields) = some value := by
  induction entries generalizing value with
  | nil => simp [Record.assertions, Assertion.last?]
  | cons entry rest inductionHypothesis =>
    obtain ⟨key, content⟩ := entry
    obtain ⟨apart, distinctRest⟩ := List.pairwise_cons.mp distinct
    have behind := inductionHypothesis distinctRest
      fun other member => others other (List.mem_cons_of_mem _ member)
    rw [assertions_cons, Assertion.last?_append]
    by_cases bucket : key = .text Operator.eq.name ∧ ∃ fields, content = .dict fields
    · obtain ⟨rfl, fields, rfl⟩ := bucket
      have alone (other : List (Value × Value)) :
          (Value.text Operator.eq.name, Value.dict other) ∉ rest := by
        intro member
        have different := apart _ member
        rw [Value.text_equal_self Operator.eq.name] at different
        cases different
      have nothing : Assertion.last? .eq name (Record.assertions rest) = none := by
        cases found : Assertion.last? .eq name (Record.assertions rest) with
        | none => rfl
        | some last =>
          obtain ⟨other, member, _⟩ := (behind last).mp found
          exact absurd member (alone other)
      rw [nothing, Option.none_or]
      constructor
      · exact fun said => ⟨fields, List.mem_cons_self, said⟩
      · rintro ⟨other, member, said⟩
        rcases List.mem_cons.mp member with here | later
        · cases here
          exact said
        · exact absurd later (alone other)
    · have nothing : Assertion.last? .eq name (Assertion.ofEntry key content) = none :=
        Assertion.last?_ofEntry_eq_none (others _ List.mem_cons_self)
          fun fields named same => bucket ⟨named, fields, same⟩
      rw [nothing, Option.or_none, behind]
      refine exists_congr fun fields => and_congr_left fun _ => ?_
      refine ⟨List.mem_cons_of_mem _, fun member => (List.mem_cons.mp member).resolve_left ?_⟩
      intro here
      cases here
      exact bucket ⟨rfl, fields, rfl⟩

/-- A mapping overrides a name exactly if behind the first mention of the name stands the bucket of
equalities, and gives the name something that is not false. -/
theorem overrides_iff_bucket {record : Record} (distinct : record.AreDistinct) (name : String) :
    record.Overrides name ↔ ∃ fields value,
      (.text Operator.eq.name, .dict fields) ∈ record.behind (.text name) ∧
        Assertion.last? .eq name (Assertion.ofFields .eq fields) = some value ∧
          value ≠ .bool false := by
  have distinctBehind : (record.behind (.text name)).AreDistinct :=
    List.Pairwise.sublist ((List.tail_sublist _).trans (List.dropWhile_sublist _)) distinct
  have read := last?_assertions_eq_some_iff distinctBehind
    fun entry member => key_ne_of_mem_behind distinct member
  constructor
  · rintro ⟨value, said, other⟩
    obtain ⟨fields, member, inside⟩ := (read value).mp said
    exact ⟨fields, value, member, inside, other⟩
  · rintro ⟨fields, value, member, inside, other⟩
    exact ⟨value, (read value).mpr ⟨fields, member, inside⟩, other⟩

end Record

end TableGateway
