/-
This file compares what an upsert looks up with what it inserts where it finds nothing. A
column is looked up with the values that stand for it in the condition, as they were
given, those of an explicit bucket included. It is inserted with what the schema binds for
the condition's own entry of that name. The same upsert finds the inserted row again where
the two are one.
-/

import TableGateway.Proofs.Standing
import TableGateway.Proofs.Upserting

namespace TableGateway

/-- A predicate is an equality of a column exactly if that is what it was made from. -/
theorem mem_predicates_iff_of_forall₂ {assertions : List Assertion} {predicates : List Predicate}
    (become : List.Forall₂ Assertion.Becomes assertions predicates) {column : Identifier}
    {value : Value} :
    ⟨column, .eq, .single value⟩ ∈ predicates ↔
      ⟨.eq, .text column.name, value⟩ ∈ assertions := by
  constructor
  · intro member
    obtain ⟨⟨operator, key, said⟩, among, becomes⟩ := exists_of_mem_forall₂ become member
    obtain ⟨isEquality, isName⟩ := becomes.names
    simp only at isEquality isName
    subst isEquality isName
    have same := becomes.argument_eq rfl
    simp only [Argument.single.injEq] at same
    exact same ▸ among
  · intro member
    obtain ⟨⟨other, operator, argument⟩, among, becomes⟩ := exists_of_mem_left_forall₂ become member
    obtain ⟨isEquality, isName⟩ := becomes.names
    have same := becomes.argument_eq rfl
    simp only at isEquality isName same
    rw [isEquality, same, ← Identifier.ext_name (Value.text.inj isName)] at among
    exact among

namespace Gateway

variable {gateway : Gateway}

/-- Of a condition whose hidden rows are not left out, a column is asked to be equal to what stands
for it in the condition. -/
theorem mem_predicates_iff_stands {condition order limit : Value} {base : Record} {clause : Clause}
    (asked : condition.toRecord = .ok base)
    (compiled : gateway.clauseOf condition (.bool false) order limit = .ok clause)
    (column : Identifier) (value : Value) :
    ⟨column, .eq, .single value⟩ ∈ clause.predicates ↔
      Assertion.Stands base.assertions ⟨.eq, .text column.name, value⟩ := by
  obtain ⟨record, buckets, taken, classified, became⟩ := clauseOf_eq_ok compiled
  cases taken.symm.trans asked
  rw [Schema.guarded_of_not_hides] at classified
  rw [mem_predicates_iff_of_forall₂ (Assertion.forall₂_becomes_toRecord became),
    mem_assertions_iff_stands_of_name classified]

end Gateway

/-- A field that the changes do not mention is bound as for the record alone. -/
theorem Schema.binds_overlay_iff {schema : Schema} {base changed : Record} {name : String}
    (unchanged : changed.named? name = none) {value : Value} :
    schema.Binds (base.overlay changed) name value ↔ schema.Binds base name value := by
  have same := Record.named?_overlay base unchanged
  constructor
  · rintro ⟨declared, given, present, formatted, dumped⟩
    exact .field declared (same ▸ given) present formatted dumped
  · rintro ⟨declared, given, present, formatted, dumped⟩
    exact .field declared (same.trans given) present formatted dumped

namespace Gateway

/-- Where an upsert finds no row, each column that the changes do not mention has been looked up
with what stands for it in the condition, and is inserted with what the schema binds for the
condition's own entry. So it is inserted as it was looked up where these are one. -/
theorem upsert_inserts_bound {gateway : Gateway} {condition changes : Value}
    {base changed : Record} (asked : condition.toRecord = .ok base)
    (given : changes.toRecord = .ok changed) {session : Session} {lookup insertion : Statement}
    {reply : Reply} {answer : Except Failure Reply}
    (exchanged : session.exchanges gateway.endpoint.dialect (gateway.upsert condition changes) =
      [(lookup, .ok reply), (insertion, answer)])
    (empty : reply.rows = []) :
    ∃ (selected : Projection) (clause : Clause) (written : List (Identifier × Value)),
      lookup = .select selected gateway.table clause ∧
      insertion = .insert gateway.table (written.map Prod.fst) [written.map Prod.snd] none ∧
      ∀ column : Identifier, changed.named? column.name = none →
        (∀ value, ⟨column, .eq, .single value⟩ ∈ clause.predicates ↔
          Assertion.Stands base.assertions ⟨.eq, .text column.name, value⟩) ∧
        ∀ value, (column, value) ∈ written ↔ gateway.schema.Binds base column.name value := by
  have upserts := upserts_of_converses
    (Session.converses_exchanges gateway.endpoint.dialect (gateway.upsert condition changes)
      session)
  rw [exchanged] at upserts
  generalize (session.run gateway.endpoint.dialect (gateway.upsert condition changes)).1 = outcome
    at upserts
  cases upserts with
  | updated _ _ typed =>
    rw [empty] at typed
    cases typed
  | @inserted _ _ ownBase ownChanged data written _ reads _ ownAsked ownGiven taken dumped =>
    cases ownAsked.symm.trans asked
    cases ownGiven.symm.trans given
    cases reads with
    | @select clause selected compiled chosen =>
      have projects : gateway.schema.Projects (base.overlay changed) (Record.ofColumns written) :=
        ⟨data, taken, dumped⟩
      refine ⟨selected, clause, written, rfl, rfl, fun column unchanged => ⟨?_, fun value => ?_⟩⟩
      · exact mem_predicates_iff_stands asked compiled column
      · rw [← Record.mem_ofColumns_iff, projects.mem_iff_binds, Schema.binds_overlay_iff unchanged]

/-- A name that is given in an explicit bucket is looked up, and not inserted at all. -/
theorem upsert_inserts_bound_users :
    let condition := Value.dict [(.text "eq", .dict [(.text "name", .text "Ada")])]
    let name : Identifier := ⟨"name", by decide, by decide⟩
    ∃ (selected : Projection) (clause : Clause) (written : List (Identifier × Value)),
      (Session.ofRecorder .standard).exchanges Gateway.users.endpoint.dialect
        (Gateway.users.upsert condition (.dict [(.text "id", .int 1)])) =
          [(.select selected Gateway.users.table clause, .ok .empty),
            (.insert Gateway.users.table (written.map Prod.fst) [written.map Prod.snd] none,
              .ok .empty)] ∧
      ⟨name, .eq, .single (.text "Ada")⟩ ∈ clause.predicates ∧
      ∀ value, (name, value) ∉ written := by
  intro condition name
  obtain ⟨lookup, insertion, exchanged⟩ : ∃ lookup insertion,
      (Session.ofRecorder .standard).exchanges Gateway.users.endpoint.dialect
        (Gateway.users.upsert condition (.dict [(.text "id", .int 1)])) =
          [(lookup, .ok .empty), (insertion, .ok .empty)] := ⟨_, _, rfl⟩
  obtain ⟨selected, clause, written, rfl, rfl, pinned⟩ :=
    upsert_inserts_bound rfl rfl exchanged rfl
  obtain ⟨lookedUp, inserted⟩ := pinned name rfl
  refine ⟨selected, clause, written, exchanged, ?_, fun value member => ?_⟩
  · exact (lookedUp _).mpr ⟨[], [], rfl, fun later among => absurd among List.not_mem_nil⟩
  · obtain ⟨-, missing, -⟩ := (inserted value).mp member
    cases missing

end Gateway

end TableGateway
