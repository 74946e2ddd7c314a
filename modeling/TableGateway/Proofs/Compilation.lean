/-
This file reads off what a gateway compiles before it sends anything: the clause of a
condition, and the form of a record that is to be written. Both are checks that may say
something on the way; with nothing said they are the two functions given here, and every
fact about a clause or a form is a fact about them.
-/

import TableGateway.Gateway.Upsert
import TableGateway.Proofs.Run

namespace TableGateway

namespace Plan

theorem silent_recordOf (value : Value) :
    (recordOf value).silent = ofExcept value.toRecord := by
  unfold recordOf
  split <;> simp

end Plan

namespace Clause

theorem written_eq_ok_iff {clause shown : Clause} :
    clause.written = .ok shown ↔ clause = shown ∧ clause.isWritable = true := by
  unfold written
  split
  · rename_i writable
    exact ⟨fun passed => ⟨Except.ok.inj passed, writable⟩, fun ⟨same, _⟩ => congrArg _ same⟩
  · rename_i tooLong
    exact ⟨nofun, fun ⟨_, writable⟩ => absurd writable tooLong⟩

/-- What comes of values is in a style that is known, compiled of their entries, and can be
shown. -/
theorem compile_of_ofValues {styleName buckets order limit : Value} {style : ParamStyle}
    {clause : Clause} (compiled : ofValues styleName buckets order limit = .ok (style, clause)) :
    ParamStyle.forClause styleName = .ok style ∧
      ∃ entries, buckets.entriesOrNone = .ok entries ∧
        compile entries order limit = .ok clause ∧ clause.isWritable = true := by
  obtain ⟨found, known, rest⟩ := ok_of_bind compiled
  obtain ⟨entries, listed, rest⟩ := ok_of_bind rest
  obtain ⟨result, compiling, rest⟩ := ok_of_bind rest
  obtain ⟨shown, showing, paired⟩ := ok_of_bind rest
  cases paired
  obtain ⟨rfl, writable⟩ := written_eq_ok_iff.mp showing
  exact ⟨known, entries, listed, compiling, writable⟩

/-- But for its style, what comes of values is the clause of their entries, shown. -/
theorem snd_ofValues (styleName buckets order limit : Value) :
    Prod.snd <$> ofValues styleName buckets order limit =
      ParamStyle.forClause styleName >>= fun _ => buckets.entriesOrNone >>= fun entries =>
        compile entries order limit >>= written := by
  rw [ofValues]
  simp only [map_bind, map_pure, bind_pure]

theorem ofBuckets_of_compile {entries : List (Value × Value)} {order limit : Value}
    {clause : Clause} (compiled : compile entries order limit = .ok clause) :
    Predicate.ofBuckets entries = .ok clause.predicates := by
  obtain ⟨predicates, became, rest⟩ := ok_of_bind compiled
  obtain ⟨ordering, _, rest⟩ := ok_of_bind rest
  obtain ⟨bound, _, assembled⟩ := ok_of_bind rest
  cases assembled
  exact became

/-- What is compiled with an order and a limit is compiled without them, to the same predicates. -/
theorem ofValues_unlimited {styleName buckets order limit : Value} {style : ParamStyle}
    {clause : Clause} (compiled : ofValues styleName buckets order limit = .ok (style, clause)) :
    ofValues styleName buckets .null .null =
      .ok (style, ⟨clause.predicates, .unordered, .none⟩) := by
  obtain ⟨known, entries, listed, resulting, writable⟩ := compile_of_ofValues compiled
  have became := ofBuckets_of_compile resulting
  have alone : compile entries .null .null = .ok ⟨clause.predicates, .unordered, .none⟩ := by
    rw [compile, became]
    rfl
  have shown : written ⟨clause.predicates, .unordered, .none⟩ =
      .ok ⟨clause.predicates, .unordered, .none⟩ := by
    refine written_eq_ok_iff.mpr ⟨rfl, ?_⟩
    rw [isWritable, Bool.and_eq_true] at writable ⊢
    exact ⟨writable.1, rfl⟩
  rw [ofValues, known, listed]
  show (compile entries .null .null >>= fun clause => written clause >>= _) = _
  rw [alone]
  show (written _ >>= _) = _
  rw [shown]
  rfl

end Clause

/-- A condition whose hidden rows are not left out is taken as it is. -/
theorem Schema.guarded_of_not_hides (schema : Schema) (record : Record) :
    schema.guarded record (hidesRows (.bool false)) = record := by
  unfold guarded
  split <;> rfl

namespace Gateway

/-- The values to write for a record: projected and encoded if strict, else as they stand. -/
def formOf (gateway : Gateway) (value : Value) (strict : Bool) : Except Failure Record := do
  let record ← value.toRecord
  if strict then gateway.schema.toRow (← gateway.schema.strictRecord record) else return record

/-- The clause of a condition, hidden rows left out if asked, with an order and a limit. -/
def clauseOf (gateway : Gateway) (condition ensureNotDeleted order limit : Value) :
    Except Failure Clause := do
  let form ← gateway.schema.queryForm condition ensureNotDeleted
  let buckets ← classify form gateway.enableUndefined
  let compiled ← Clause.ofValues gateway.endpoint.dialect.styleName buckets.toValue order limit
  return compiled.2

variable (gateway : Gateway)

theorem silent_strictOf (value : Value) :
    (gateway.strictOf value).silent = Plan.ofExcept (gateway.schema.strictForm value) := by
  rw [strictOf, Plan.silent_bind, Plan.silent_recordOf, Schema.strictForm, Plan.ofExcept_bind]
  simp only [Plan.silent_ofExcept]

theorem silent_writeForm (value : Value) (strict : Bool) :
    (gateway.writeForm value strict).silent = Plan.ofExcept (gateway.formOf value strict) := by
  cases strict with
  | false =>
    have asItStands : gateway.formOf value false = value.toRecord := bind_pure _
    rw [asItStands]
    exact Plan.silent_recordOf value
  | true =>
    show (gateway.strictOf value >>= fun form =>
      Plan.ofExcept (gateway.schema.toRow form)).silent = _
    rw [Plan.silent_bind, silent_strictOf, Schema.strictForm, formOf, Plan.ofExcept_bind,
      Plan.ofExcept_bind, bind_assoc]
    simp only [Plan.silent_ofExcept, Plan.ofExcept_bind, if_true]

theorem silent_introduce (style buckets order limit : Value) :
    (Clause.introduce style buckets order limit).silent =
      Plan.ofExcept (Clause.ofValues style buckets order limit) := by
  rw [Clause.introduce, Plan.silent_bind, Plan.silent_ofExcept]
  exact bind_pure _

theorem silent_compile (buckets order limit : Value) :
    (gateway.compile buckets order limit).silent =
      Plan.ofExcept (Prod.snd <$>
        Clause.ofValues gateway.endpoint.dialect.styleName buckets order limit) := by
  rw [compile, Plan.silent_bind, silent_introduce, map_eq_pure_bind, Plan.ofExcept_bind]
  rfl

theorem silent_bucketsOf (condition ensureNotDeleted : Value) :
    (gateway.bucketsOf condition ensureNotDeleted).silent =
      Plan.ofExcept (gateway.schema.queryForm condition ensureNotDeleted >>= fun form =>
        classify form gateway.enableUndefined) := by
  rw [bucketsOf, Plan.silent_bind, Plan.silent_recordOf, Schema.queryForm, bind_assoc,
    Plan.ofExcept_bind]
  simp only [Plan.silent_ofExcept, pure_bind]

/-- Classifying a condition and compiling its buckets comes to the clause of the condition. -/
theorem silent_compile_bucketsOf (condition ensureNotDeleted order limit : Value) :
    (gateway.bucketsOf condition ensureNotDeleted >>= fun buckets =>
        gateway.compile buckets.toValue order limit).silent =
      Plan.ofExcept (gateway.clauseOf condition ensureNotDeleted order limit) := by
  rw [Plan.silent_bind, silent_bucketsOf, clauseOf]
  simp only [silent_compile, map_eq_pure_bind, Plan.ofExcept_bind, bind_assoc]

theorem silent_conditionClause (condition ensureNotDeleted : Value) :
    (gateway.conditionClause condition ensureNotDeleted).silent =
      Plan.ofExcept (gateway.clauseOf condition ensureNotDeleted .null .null) :=
  gateway.silent_compile_bucketsOf condition ensureNotDeleted .null .null

theorem silent_announce (what : String) (statement : Statement) :
    (gateway.announce what statement).silent = pure () := rfl

/-- A clause of a condition comes out of the condition's record, the hidden flag forced to false if
asked, its buckets, and the predicates of these. -/
theorem clauseOf_eq_ok {gateway : Gateway} {condition ensureNotDeleted order limit : Value}
    {clause : Clause}
    (compiled : gateway.clauseOf condition ensureNotDeleted order limit = .ok clause) :
    ∃ record buckets, condition.toRecord = .ok record ∧
      classify (gateway.schema.guarded record (Schema.hidesRows ensureNotDeleted))
        gateway.enableUndefined = .ok buckets ∧
      Predicate.ofBuckets buckets.toRecord = .ok clause.predicates := by
  obtain ⟨form, formed, rest⟩ := ok_of_bind compiled
  obtain ⟨record, taken, guarded⟩ := ok_of_bind formed
  cases guarded
  obtain ⟨buckets, classified, rest⟩ := ok_of_bind rest
  obtain ⟨⟨style, found⟩, valued, last⟩ := ok_of_bind rest
  cases last
  obtain ⟨_, entries, asEntries, resulting, _⟩ := Clause.compile_of_ofValues valued
  cases asEntries
  exact ⟨record, buckets, taken, classified, Clause.ofBuckets_of_compile resulting⟩

/-- A condition that has a clause with an order and a limit has one without them. -/
theorem clauseOf_unlimited {gateway : Gateway} {condition ensureNotDeleted order limit : Value}
    {clause : Clause}
    (compiled : gateway.clauseOf condition ensureNotDeleted order limit = .ok clause) :
    gateway.clauseOf condition ensureNotDeleted .null .null =
      .ok ⟨clause.predicates, .unordered, .none⟩ := by
  obtain ⟨form, formed, rest⟩ := ok_of_bind compiled
  obtain ⟨buckets, classified, rest⟩ := ok_of_bind rest
  obtain ⟨⟨style, found⟩, valued, last⟩ := ok_of_bind rest
  cases last
  rw [clauseOf, formed]
  show (classify form gateway.enableUndefined >>= _) = _
  rw [classified]
  show (Clause.ofValues gateway.endpoint.dialect.styleName buckets.toValue .null .null >>= _) = _
  rw [Clause.ofValues_unlimited valued]
  rfl

/-- A clause that is compiled is in a style that has places for values. -/
theorem forPlaces_of_clauseOf {gateway : Gateway} {condition ensureNotDeleted order limit : Value}
    {clause : Clause}
    (compiled : gateway.clauseOf condition ensureNotDeleted order limit = .ok clause) :
    ∃ style, ParamStyle.forPlaces gateway.endpoint.dialect.styleName = .ok style := by
  obtain ⟨form, _, rest⟩ := ok_of_bind compiled
  obtain ⟨buckets, _, rest⟩ := ok_of_bind rest
  obtain ⟨⟨style, _⟩, valued, _⟩ := ok_of_bind rest
  obtain ⟨known, _⟩ := Clause.compile_of_ofValues valued
  refine ⟨style, ?_⟩
  rw [ParamStyle.forClause] at known
  rw [ParamStyle.forPlaces]
  split at known
  · cases known
  · rename_i hashable
    rw [if_neg hashable]
    split at known
    · rename_i found same
      cases known
      rw [same]
      rfl
    · cases known

/-- The predicates of a clause are those of its condition's record, once the hidden flag is forced
where that is asked. -/
theorem classify_of_clauseOf_eq_ok {gateway : Gateway}
    {condition ensureNotDeleted order limit : Value} {record : Record} {clause : Clause}
    (formed : gateway.schema.queryForm condition ensureNotDeleted = .ok record)
    (compiled : gateway.clauseOf condition ensureNotDeleted order limit = .ok clause) :
    ∃ buckets, classify record gateway.enableUndefined = .ok buckets ∧
      Predicate.ofBuckets buckets.toRecord = .ok clause.predicates := by
  obtain ⟨offered, buckets, taken, classified, became⟩ := clauseOf_eq_ok compiled
  rw [Schema.queryForm, taken] at formed
  cases formed
  exact ⟨buckets, classified, became⟩

end Gateway

end TableGateway
