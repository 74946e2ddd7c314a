/-
This file shows that the strict form is the only gate for writes. Whatever a record
holds, each statement that a strict operation writes has declared fields for columns,
each once and in their order, and binds in each the value that the field's formatter
makes of the record's own; a record that is formatted on the way as well as at the end
comes to the same values. Where every field converts what it is given, nothing but
scalars is bound.
-/

import TableGateway.Proofs.LastWrite
import TableGateway.Proofs.Skeleton
import TableGateway.Proofs.StrictForm

namespace TableGateway

/-! ### What a statement writes -/

namespace Statement

/-- The columns that a statement writes to. -/
def columns : Statement → List Identifier
  | .insert _ columns _ _ => columns
  | .replace _ columns _ => columns
  | .update _ assignments _ => assignments.map Prod.fst
  | _ => []

/-- The rows of values that a statement writes; an update has one for all its rows. -/
def rows : Statement → List (List Value)
  | .insert _ _ rows _ => rows
  | .replace _ _ rows => rows
  | .update _ assignments _ => [assignments.map Prod.snd]
  | _ => []

/-- A statement writes some records through a schema: its columns are declared fields, in their
order and each once; its first arguments are the values of its rows; and there is a row for each
record, with what the schema binds for the columns. -/
structure Inscribes (schema : Schema) (statement : Statement) (records : List Record) : Prop where
  declared : (statement.columns.map fun column => Value.text column.name).Sublist schema.fieldNames
  once : statement.columns.Nodup
  first : statement.rows.flatten <+: statement.arguments
  bound : List.Forall₂ (fun record row =>
    List.Forall₂ (fun column value => schema.Binds record column.name value) statement.columns row)
    records statement.rows

end Statement

/-- Declared columns are declared once. -/
theorem Schema.nodup_of_sublist {schema : Schema} {columns : List Identifier}
    (declared : (columns.map fun column => Value.text column.name).Sublist schema.fieldNames) :
    columns.Nodup := by
  have distinct : schema.fieldNames.Pairwise fun first second => first.equal second = false :=
    List.pairwise_map.mpr schema.distinct
  refine (List.pairwise_map.mp (distinct.sublist declared)).imp fun {first second} apart => ?_
  rintro rfl
  rw [Value.text_equal_self] at apart
  cases apart

namespace Schema

variable {schema : Schema}

/-- Rows in which all have the same fields bind, column by column, what the schema binds for their
records. -/
theorem forall₂_binds_valuesUnder {records rows : List Record} {columns : List Identifier}
    (projects : List.Forall₂ schema.Projects records rows)
    (present : ∀ row ∈ rows, ∀ column ∈ columns, ∃ bound, row.named? column.name = some bound) :
    List.Forall₂ (fun record values =>
      List.Forall₂ (fun column value => schema.Binds record column.name value) columns values)
      records (Endpoint.valuesUnder (columns.map fun column => .text column.name) rows) := by
  induction projects with
  | nil => exact .nil
  | @cons record row _ _ projected _ inductionHypothesis =>
    have later := inductionHypothesis fun row among => present row (List.mem_cons_of_mem _ among)
    refine .cons ?_ later
    show List.Forall₂ _ columns ((columns.map fun column => Value.text column.name).map
      fun key => (row.get? key).getD .null)
    rw [List.map_map, List.forall₂_map_right_iff, List.forall₂_same]
    intro column member
    obtain ⟨bound, found⟩ := present row List.mem_cons_self column member
    have given : (row.get? (.text column.name)).getD .null = bound := by
      rw [show row.get? (.text column.name) = some bound from found, Option.getD_some]
    rw [Function.comp_apply, given]
    exact projected.binds (Entries.mem_of_named? found)

end Schema

namespace Gateway

variable {gateway : Gateway} {statement : Statement}

/-- A strict form is a row of the record that is written. -/
theorem projects_of_formOf {value : Value} {row : Record}
    (written : gateway.formOf value true = .ok row) :
    ∃ record, value.toRecord = .ok record ∧ gateway.schema.Projects record row := by
  obtain ⟨record, offered, written⟩ := ok_of_bind written
  obtain ⟨strict, taken, dumped⟩ := ok_of_bind written
  exact ⟨record, offered, strict, taken, dumped⟩

/-- An insertion of one record writes it. -/
theorem Inserts.inscribes {value : Value} (inserts : gateway.Inserts value true statement) :
    ∃ record, value.toRecord = .ok record ∧ statement.Inscribes gateway.schema [record] := by
  cases inserts with
  | @insert form columns written named =>
    obtain ⟨record, offered, projects⟩ := projects_of_formOf written
    have columnsOf := Identifier.ofValues?_eq_ok named
    have declared := projects.keys_sublist
    rw [columnsOf] at declared
    refine ⟨record, offered, declared, Schema.nodup_of_sublist declared, List.prefix_append _ _, ?_⟩
    show List.Forall₂ _ [record] (Endpoint.valuesUnder form.keys [form])
    rw [columnsOf]
    refine Schema.forall₂_binds_valuesUnder (.cons projects .nil) fun row member column among => ?_
    rw [List.mem_singleton.mp member]
    refine Entries.exists_named? ?_
    rw [columnsOf]
    exact List.mem_map_of_mem among

/-- The records that a list or a tuple offers, one for each of its items. -/
def OffersAll (records : Value) (offered : List Record) : Prop :=
  ∃ items, (records = .list items ∨ records = .tuple items) ∧
    List.Forall₂ (fun item record => item.toRecord = .ok record) items offered

/-- Records put together all have the fields of the first. -/
theorem Gathers.present {records : Value} {strict : Bool} {fields : List Value}
    {forms : List Record} {columns : List Identifier}
    (gathers : gateway.Gathers records strict fields forms)
    (named : Identifier.ofValues? fields = .ok columns) :
    ∀ form ∈ forms, ∀ column ∈ columns, ∃ bound, form.named? column.name = some bound := by
  have columnsOf := Identifier.ofValues?_eq_ok named
  cases gathers with
  | @gathered items first rest listed written shared =>
    intro form member column among
    have inFirst : Value.text column.name ∈ first.keys := by
      rw [columnsOf]
      exact List.mem_map_of_mem among
    refine Entries.exists_named? ?_
    rcases List.mem_cons.mp member with rfl | later
    · exact inFirst
    · have same := shared form later
      rw [sameKeys, Bool.and_eq_true, List.all_eq_true, List.all_eq_true] at same
      obtain ⟨other, present, equal⟩ := List.any_eq_true.mp (same.2 _ inFirst)
      rw [(Value.equal_text_iff other column.name).mp equal] at present
      exact present

/-- Records put together strictly are rows of the records that the items offer, and all have the
fields of the first. -/
theorem Gathers.projects {records : Value} {fields : List Value} {forms : List Record}
    {columns : List Identifier} (gathers : gateway.Gathers records true fields forms)
    (named : Identifier.ofValues? fields = .ok columns) :
    ∃ offered, OffersAll records offered ∧ List.Forall₂ gateway.schema.Projects offered forms ∧
      (columns.map fun column => Value.text column.name).Sublist gateway.schema.fieldNames ∧
      ∀ form ∈ forms, ∀ column ∈ columns, ∃ bound, form.named? column.name = some bound := by
  have each {items : List Value} {rows : List Record}
      (written : List.Forall₂ (fun item form => gateway.formOf item true = .ok form) items rows) :
      ∃ offered, List.Forall₂ (fun item record => item.toRecord = .ok record) items offered ∧
        List.Forall₂ gateway.schema.Projects offered rows := by
    induction written with
    | nil => exact ⟨[], .nil, .nil⟩
    | cons first _ inductionHypothesis =>
      obtain ⟨record, offered, projects⟩ := projects_of_formOf first
      obtain ⟨others, offers, project⟩ := inductionHypothesis
      exact ⟨record :: others, .cons offered offers, .cons projects project⟩
  have columnsOf := Identifier.ofValues?_eq_ok named
  have present := gathers.present named
  cases gathers with
  | @gathered items first rest listed written shared =>
    obtain ⟨offered, offers, project⟩ := each written
    refine ⟨offered, ⟨items, listed, offers⟩, project, ?_, present⟩
    obtain ⟨record, _, projects⟩ := exists_of_mem_forall₂ project List.mem_cons_self
    rw [← columnsOf]
    exact projects.keys_sublist

/-- Putting the fields of a form in order leaves their values. -/
theorem named?_arrange {columns : List Identifier} (form : Record) {column : Identifier}
    (among : column ∈ columns) :
    Entries.named? (arrange (columns.map fun column => .text column.name) form) column.name =
      some ((form.named? column.name).getD .null) := by
  induction columns with
  | nil => cases among
  | cons first rest inductionHypothesis =>
    rw [List.map_cons, arrange, List.map_cons]
    by_cases same : first.name = column.name
    · rw [same, Entries.named?_cons_self]
      rfl
    · rw [Entries.named?_cons_of_ne fun equal => same (Value.text.inj equal)]
      rcases List.mem_cons.mp among with rfl | later
      · exact absurd rfl same
      · exact inductionHypothesis later

/-- Rows that are put in order first have the same values. -/
theorem valuesUnder_arrange (columns : List Identifier) (forms : List Record) :
    Endpoint.valuesUnder (columns.map fun column => .text column.name)
        (forms.map (arrange (columns.map fun column => .text column.name))) =
      Endpoint.valuesUnder (columns.map fun column => .text column.name) forms := by
  rw [Endpoint.valuesUnder, Endpoint.valuesUnder, List.map_map]
  refine List.map_congr_left fun form _ => ?_
  rw [Function.comp_apply, List.map_map, List.map_map]
  refine List.map_congr_left fun column among => ?_
  have arranged := named?_arrange form among
  rw [Entries.named?] at arranged
  rw [Function.comp_apply, Function.comp_apply, arranged]
  rfl

/-- A statement with the values of records that are put together writes these records. -/
theorem Gathers.inscribes {records : Value} {fields : List Value} {forms : List Record}
    {columns : List Identifier} (gathers : gateway.Gathers records true fields forms)
    (named : Identifier.ofValues? fields = .ok columns) (sameColumns : statement.columns = columns)
    (sameRows : statement.rows = Endpoint.valuesUnder fields forms)
    (first : statement.rows.flatten <+: statement.arguments) :
    ∃ offered, OffersAll records offered ∧ statement.Inscribes gateway.schema offered := by
  obtain ⟨offered, offers, projects, declared, present⟩ := gathers.projects named
  refine ⟨offered, offers, ?_, ?_, first, ?_⟩
  · rw [sameColumns]
    exact declared
  · rw [sameColumns]
    exact Schema.nodup_of_sublist declared
  · rw [sameColumns, sameRows, Identifier.ofValues?_eq_ok named]
    exact Schema.forall₂_binds_valuesUnder projects present

/-- Insertions of many records, with or without something for those that collide, and replacements
write them. -/
theorem InsertsAll.inscribes {records : Value}
    (inserts : gateway.InsertsAll records true statement) :
    ∃ offered, OffersAll records offered ∧ statement.Inscribes gateway.schema offered := by
  cases inserts with
  | @insert fields forms columns gathers named =>
    refine gathers.inscribes named rfl ?_ (List.prefix_append _ _)
    have columnsOf := Identifier.ofValues?_eq_ok named
    rw [columnsOf]
    exact valuesUnder_arrange columns forms

theorem ReplacesAll.inscribes {records : Value}
    (replaces : gateway.ReplacesAll records true statement) :
    ∃ offered, OffersAll records offered ∧ statement.Inscribes gateway.schema offered := by
  cases replaces with
  | replace gathers named => exact gathers.inscribes named rfl rfl (List.prefix_refl _)

theorem UpsertsAll.inscribes {records duplicateKey duplicateValue : Value}
    (upserts : gateway.UpsertsAll records duplicateKey duplicateValue true statement) :
    ∃ offered, OffersAll records offered ∧ statement.Inscribes gateway.schema offered := by
  cases upserts with
  | insert gathers named collides =>
    exact gathers.inscribes named rfl rfl (List.prefix_append _ _)

/-- The columns of an update are the names of its changes, with their values. -/
theorem assignmentsOf_eq_ok {changes : Record} {assignments : List (Identifier × Value)}
    (named : gateway.assignmentsOf changes = .ok assignments) :
    changes = assignments.map fun assignment => (.text assignment.1.name, assignment.2) := by
  induction changes generalizing assignments with
  | nil =>
    cases named
    rfl
  | cons change rest inductionHypothesis =>
    obtain ⟨column, quoted, later⟩ := ok_of_bind named
    obtain ⟨_, _, later⟩ := ok_of_bind later
    obtain ⟨others, passed, assembled⟩ := ok_of_bind later
    cases assembled
    have first := Identifier.ofValue?_eq_ok (orRefuse_eq_ok quoted)
    rw [List.map_cons, ← inductionHypothesis passed, ← first]

/-- An update writes the changes. -/
theorem Updates.inscribes {condition changes ensureNotDeleted : Value}
    (updates : gateway.Updates condition changes ensureNotDeleted true statement) :
    ∃ record, changes.toRecord = .ok record ∧ statement.Inscribes gateway.schema [record] := by
  cases updates with
  | @update form clause assignments written compiled confined named =>
    obtain ⟨record, offered, projects⟩ := projects_of_formOf written
    have formOf := assignmentsOf_eq_ok named
    have declared := projects.keys_sublist
    rw [formOf, Entries.keys, List.map_map] at declared
    have columnsDeclared : ((assignments.map Prod.fst).map fun column =>
        Value.text column.name).Sublist gateway.schema.fieldNames := by
      rw [List.map_map]
      exact declared
    refine ⟨record, offered, columnsDeclared, Schema.nodup_of_sublist columnsDeclared, ?_, ?_⟩
    · show [assignments.map Prod.snd].flatten <+: _
      rw [List.flatten_singleton]
      exact List.prefix_append _ _
    · refine .cons ?_ .nil
      show List.Forall₂ _ (assignments.map Prod.fst) (assignments.map Prod.snd)
      rw [List.forall₂_map_left_iff, List.forall₂_map_right_iff, List.forall₂_same]
      intro assignment member
      refine projects.binds ?_
      rw [formOf]
      exact List.mem_map_of_mem member

/-- Hiding rows and bringing them back write the flag. -/
theorem SetsFlag.inscribes {hides : Bool} {condition : Value}
    (sets : gateway.SetsFlag hides condition statement) :
    ∃ flag, gateway.schema.hiddenFlag = some flag ∧
      statement.Inscribes gateway.schema [[(flag, .bool hides)]] := by
  cases sets with
  | @update flag _ declared updates =>
    obtain ⟨record, offered, inscribes⟩ := updates.inscribes
    cases offered
    exact ⟨flag, declared, inscribes⟩

end Gateway

/-- A record without the flag has no values of its own. -/
theorem Gateway.binds_of_withoutFlag {gateway : Gateway} {record : Record} {name : String}
    {bound : Value} (binds : gateway.schema.Binds (gateway.withoutFlag record) name bound) :
    gateway.schema.Binds record name bound := by
  unfold withoutFlag at binds
  split at binds
  · exact binds.of_erase
  · exact binds

/-! ### What an operation writes -/

namespace Statement

variable {schema : Schema} {statement : Statement}

/-- A record that was projected before is written like the one it was projected from. -/
theorem Inscribes.of_binds {record earlier : Record}
    (binds : ∀ name bound, schema.Binds record name bound → schema.Binds earlier name bound)
    (inscribes : statement.Inscribes schema [record]) : statement.Inscribes schema [earlier] := by
  refine ⟨inscribes.declared, inscribes.once, inscribes.first, ?_⟩
  obtain ⟨row, rows, here, later, same⟩ := List.forall₂_cons_left_iff.mp inscribes.bound
  cases later
  rw [same]
  have each := here.imp fun column value => binds (Identifier.name column) value
  exact .cons each .nil

/-- Where every field converts what it is given, only scalars are written. -/
theorem Inscribes.isScalar {records : List Record}
    (typed : ∀ field ∈ schema.fields, field.2.formatter ≠ .asIs)
    (inscribes : statement.Inscribes schema records) :
    ∀ row ∈ statement.rows, ∀ value ∈ row, value.isScalar = true := by
  intro row member value among
  obtain ⟨record, _, bound⟩ := exists_of_mem_forall₂ inscribes.bound member
  obtain ⟨column, _, binds⟩ := exists_of_mem_forall₂ bound among
  exact binds.isScalar typed

end Statement

namespace Operation

/-- Whether an operation writes through the schema. -/
def isStrict : Operation → Bool
  | .add _ strict => strict
  | .addMany _ strict => strict
  | .update _ _ _ strict => strict
  | .replaceOne _ strict => strict
  | .replaceMany _ strict => strict
  | .upsertMany _ _ _ strict => strict
  | .ensure _ => true
  | .upsert _ _ => true
  | .disable _ => true
  | .enable _ => true
  | _ => false

/-- The records that an operation offers for a statement to write. What looks before it writes
inserts what it was given, and otherwise sets the flag or the changes. -/
inductive Offers (gateway : Gateway) : Operation → Statement → List Record → Prop where
  | add {value : Value} {strict : Bool} {record : Record} (statement : Statement)
      (offered : value.toRecord = .ok record) :
      Offers gateway (.add value strict) statement [record]
  | addMany {values : Value} {strict : Bool} {records : List Record} (statement : Statement)
      (offered : Gateway.OffersAll values records) :
      Offers gateway (.addMany values strict) statement records
  | update (condition : Value) {changes : Value} (ensureNotDeleted : Value) {strict : Bool}
      {record : Record} (statement : Statement) (offered : changes.toRecord = .ok record) :
      Offers gateway (.update condition changes ensureNotDeleted strict) statement [record]
  | replaceOne {value : Value} {strict : Bool} {records : List Record} (statement : Statement)
      (offered : Gateway.OffersAll (.list [value]) records) :
      Offers gateway (.replaceOne value strict) statement records
  | replaceMany {values : Value} {strict : Bool} {records : List Record} (statement : Statement)
      (offered : Gateway.OffersAll values records) :
      Offers gateway (.replaceMany values strict) statement records
  | upsertMany {values : Value} (duplicateKey duplicateValue : Value) {strict : Bool}
      {records : List Record} (statement : Statement) (offered : Gateway.OffersAll values records) :
      Offers gateway (.upsertMany values duplicateKey duplicateValue strict) statement records
  | ensureInserts {value : Value} {record : Record} (table : Identifier)
      (columns : List Identifier) (rows : List (List Value))
      (offered : value.toRecord = .ok record) :
      Offers gateway (.ensure value) (.insert table columns rows none) [record]
  | ensureRevives (value : Value) {flag : Value} (table : Identifier)
      (assignments : List (Identifier × Value)) (predicates : List Predicate)
      (declared : gateway.schema.hiddenFlag = some flag) :
      Offers gateway (.ensure value) (.update table assignments predicates) [[(flag, .bool false)]]
  | upsertInserts {condition changes : Value} {base changed : Record} (table : Identifier)
      (columns : List Identifier) (rows : List (List Value)) (asked : condition.toRecord = .ok base)
      (offered : changes.toRecord = .ok changed) :
      Offers gateway (.upsert condition changes) (.insert table columns rows none)
        [base.overlay changed]
  | upsertUpdates (condition : Value) {changes : Value} {changed : Record} (row : Record)
      (table : Identifier) (assignments : List (Identifier × Value)) (predicates : List Predicate)
      (offered : changes.toRecord = .ok changed) :
      Offers gateway (.upsert condition changes) (.update table assignments predicates)
        [gateway.revived row changed]
  | disable (condition : Value) {flag : Value} (statement : Statement)
      (declared : gateway.schema.hiddenFlag = some flag) :
      Offers gateway (.disable condition) statement [[(flag, .bool true)]]
  | enable (condition : Value) {flag : Value} (statement : Statement)
      (declared : gateway.schema.hiddenFlag = some flag) :
      Offers gateway (.enable condition) statement [[(flag, .bool false)]]

/-- What a strict operation writes is what it offers, as the schema binds it. -/
theorem Writes.inscribes {gateway : Gateway} {operation : Operation} {statement : Statement}
    (writes : operation.Writes gateway statement) (strict : operation.isStrict = true) :
    ∃ records, operation.Offers gateway statement records ∧
      statement.Inscribes gateway.schema records := by
  cases writes with
  | add inserts =>
    cases strict
    obtain ⟨record, offered, inscribes⟩ := inserts.inscribes
    exact ⟨[record], .add _ offered, inscribes⟩
  | addMany inserts =>
    cases strict
    obtain ⟨records, offered, inscribes⟩ := inserts.inscribes
    exact ⟨records, .addMany _ offered, inscribes⟩
  | update updates =>
    cases strict
    obtain ⟨record, offered, inscribes⟩ := updates.inscribes
    exact ⟨[record], .update _ _ _ offered, inscribes⟩
  | ensureInserts taken inserts =>
    obtain ⟨record, offered, taken⟩ := ok_of_bind taken
    obtain ⟨shown, same, inscribes⟩ := inserts.inscribes
    cases same
    cases inserts
    refine ⟨[record], .ensureInserts _ _ _ offered, inscribes.of_binds fun name bound binds => ?_⟩
    exact (Gateway.binds_of_withoutFlag binds).of_strictRecord taken
  | ensureRevives taken dumped revives =>
    obtain ⟨flag, declared, inscribes⟩ := revives.inscribes
    obtain ⟨_, ⟨_, _, _, _⟩⟩ := revives
    exact ⟨_, .ensureRevives _ _ _ _ declared, inscribes⟩
  | upsertInserts asked given taken inserts =>
    obtain ⟨record, same, inscribes⟩ := inserts.inscribes
    cases same
    cases inserts
    refine ⟨_, .upsertInserts _ _ _ asked given, inscribes.of_binds fun name bound binds => ?_⟩
    exact binds.of_strictRecord taken
  | upsertUpdates given updates =>
    obtain ⟨record, same, inscribes⟩ := updates.inscribes
    cases same
    cases updates
    exact ⟨_, .upsertUpdates _ _ _ _ _ given, inscribes⟩
  | replaceOne replaces =>
    cases strict
    obtain ⟨records, offered, inscribes⟩ := replaces.inscribes
    exact ⟨records, .replaceOne _ offered, inscribes⟩
  | replaceMany replaces =>
    cases strict
    obtain ⟨records, offered, inscribes⟩ := replaces.inscribes
    exact ⟨records, .replaceMany _ offered, inscribes⟩
  | upsertMany upserts =>
    cases strict
    obtain ⟨records, offered, inscribes⟩ := upserts.inscribes
    exact ⟨records, .upsertMany _ _ _ offered, inscribes⟩
  | disable hides =>
    obtain ⟨flag, declared, inscribes⟩ := hides.inscribes
    exact ⟨_, .disable _ _ declared, inscribes⟩
  | enable revives =>
    obtain ⟨flag, declared, inscribes⟩ := revives.inscribes
    exact ⟨_, .enable _ _ declared, inscribes⟩
  | delete deletes => cases strict

end Operation

end TableGateway

