/-
This file says what an operation has for the places of the statements that it sends. What
it writes are the forms of its own records, laid out in rows under the fields of the first
form, or the form of its changes; it compares by the clause of its own condition; and for
rows that collide it has a column and perhaps a value. Where it looks first, what it writes
and compares afterwards goes by the row that it found. Whatever is answered, each statement
that is sent is filled in this way, or only looks tables and columns up.
-/

import TableGateway.Proofs.Ensuring
import TableGateway.Proofs.Upserting

namespace TableGateway

/-! ### What an operation has to write and to compare -/

/-- A change of rows: the condition that selects them, whether it passes hidden rows over, and what
is set, projected through the schema if strict. -/
structure Change where
  condition : Value
  ensureNotDeleted : Value
  changes : Value
  strict : Bool

/-- The items of a list or a tuple. -/
def Value.listed? : Value → Option (List Value)
  | .list items => some items
  | .tuple items => some items
  | _ => none

namespace Gateway

/-- The row by which a record is looked up before it is made sure of. -/
def lookedUp (gateway : Gateway) (record : Value) : Option Record := do
  let strict ← (gateway.schema.strictForm record).toOption
  (gateway.schema.toRow (gateway.withoutFlag strict)).toOption

/-- The change that sets the hidden flag of the rows of a condition. -/
def flagged (gateway : Gateway) (condition : Value) (hides : Bool) : Option Change :=
  gateway.schema.hiddenFlag.map fun flag =>
    ⟨condition, .bool hides, .dict [(flag, .bool hides)], true⟩

/-- Rows of columns hold the forms of some values, one each: the columns are the fields of the first
form, in its order, and each form has a value of its own for each of them. -/
inductive Lays (gateway : Gateway) (items : List Value) (strict : Bool) :
    List Identifier → List (List (Identifier × Value)) → Prop where
  | laid {first : Record} {rest : List Record} {columns : List Identifier}
      {rows : List (List (Identifier × Value))}
      (formed : List.Forall₂ (fun item form => gateway.formOf item strict = .ok form) items
        (first :: rest))
      (named : first.keys = columns.map fun column => .text column.name)
      (each : List.Forall₂ (fun form row => row.map Prod.fst = columns ∧
        ∀ place ∈ row, Entries.named? form place.1.name = some place.2) (first :: rest) rows) :
      gateway.Lays items strict columns rows

end Gateway

namespace Operation

variable (gateway : Gateway)

/-- The clause of the condition by which an operation reads rows, if it reads any. -/
def clauseRead : Operation → Option Clause
  | .query buckets order limit _ =>
    (Prod.snd <$> Clause.ofValues gateway.endpoint.dialect.styleName buckets order limit).toOption
  | .find condition ensureNotDeleted _ order limit =>
    (gateway.clauseOf condition ensureNotDeleted order limit).toOption
  | .findOne condition ensureNotDeleted _ order =>
    (gateway.clauseOf condition ensureNotDeleted order Gateway.uniqueLimit).toOption
  | .findOneByFields keys values => do
    let condition ← (Gateway.pairedCondition keys values).toOption
    (gateway.clauseOf (.dict condition) (.bool true) .null Gateway.uniqueLimit).toOption
  | .count condition ensureNotDeleted =>
    (gateway.clauseOf condition ensureNotDeleted .null Gateway.uniqueLimit).toOption
  | .getOrNotFound condition ensureNotDeleted _ =>
    (gateway.clauseOf condition ensureNotDeleted .null Gateway.uniqueLimit).toOption
  | .ensure record => do
    let row ← gateway.lookedUp record
    (gateway.clauseOf (.dict row) (.bool false) .null Gateway.uniqueLimit).toOption
  | .upsert condition _ =>
    (gateway.clauseOf condition (.bool false) .null Gateway.uniqueLimit).toOption
  | _ => none

/-- The values that an operation inserts as rows, if it inserts, and whether strictly. -/
def inserted : Operation → Option (List Value × Bool)
  | .add record strict => some ([record], strict)
  | .addMany records strict => records.listed?.map fun items => (items, strict)
  | .ensure record => do
    let strict ← (gateway.schema.strictForm record).toOption
    return ([.dict (gateway.withoutFlag strict)], true)
  | .upsert condition changes => do
    let base ← condition.toRecord.toOption
    let changed ← changes.toRecord.toOption
    let data ← (gateway.schema.strictRecord (base.overlay changed)).toOption
    return ([.dict data], true)
  | _ => none

/-- The values that an operation replaces rows by, if it replaces, and whether strictly. -/
def replaced : Operation → Option (List Value × Bool)
  | .replaceOne record strict => some ([record], strict)
  | .replaceMany records strict => records.listed?.map fun items => (items, strict)
  | _ => none

/-- The change that an operation makes, if it changes rows. One that looks first goes by the row
that is found among the rows of the answer. -/
def changed (answered : List Record) : Operation → Option Change
  | .update condition changes ensureNotDeleted strict =>
    some ⟨condition, ensureNotDeleted, changes, strict⟩
  | .ensure record => do
    let row ← gateway.lookedUp record
    let found ← (gateway.rowOf (.dict row) answered).toOption.join
    gateway.flagged (.dict (gateway.rowTarget found row)) false
  | .upsert condition changes => do
    let changed ← changes.toRecord.toOption
    let found ← (gateway.rowOf condition answered).toOption.join
    return ⟨condition, .bool false, .dict (gateway.revived found changed), true⟩
  | .disable condition => gateway.flagged condition true
  | .enable condition => gateway.flagged condition false
  | _ => none

/-- What an operation has for the places of a statement that it sends, where the rows that it was
answered first are known: written values row by row, what is set for rows that collide, and the
arguments of its condition. -/
inductive Fills (answered : List Record) :
    Operation → Statement → List (Identifier × Value) → Prop where
  | reads {operation : Operation} {clause : Clause} {projection : Value} {selected : Projection}
      (compiled : operation.clauseRead gateway = some clause)
      (asked : operation.asks gateway projection)
      (chosen : gateway.projectionOf projection = .ok selected) :
      Fills answered operation (.select selected gateway.table clause)
        (compared clause.predicates)
  | inserts {operation : Operation} {items : List Value} {strict : Bool}
      {columns : List Identifier} {rows : List (List (Identifier × Value))}
      (given : operation.inserted gateway = some (items, strict))
      (lays : gateway.Lays items strict columns rows) :
      Fills answered operation
        (.insert gateway.table columns (rows.map fun row => row.map Prod.snd) none) rows.flatten
  | replaces {operation : Operation} {items : List Value} {strict : Bool}
      {columns : List Identifier} {rows : List (List (Identifier × Value))}
      (given : operation.replaced = some (items, strict))
      (lays : gateway.Lays items strict columns rows) :
      Fills answered operation
        (.replace gateway.table columns (rows.map fun row => row.map Prod.snd)) rows.flatten
  | upserts {records duplicateKey duplicateValue : Value} {strict : Bool} {items : List Value}
      {columns : List Identifier} {rows : List (List (Identifier × Value))} {column : Identifier}
      (given : records.listed? = some items) (lays : gateway.Lays items strict columns rows)
      (collides : Identifier.ofValue? (gateway.collisionKey duplicateKey) = .ok column) :
      Fills answered (.upsertMany records duplicateKey duplicateValue strict)
        (.insert gateway.table columns (rows.map fun row => row.map Prod.snd)
          (some ⟨column, Gateway.collisionValue duplicateValue⟩))
        (rows.flatten ++
          (Gateway.collisionValue duplicateValue).toList.map fun value => (column, value))
  | updates {operation : Operation} {change : Change} {row : List (Identifier × Value)}
      {clause : Clause} (asked : operation.changed gateway answered = some change)
      (formed : gateway.formOf change.changes change.strict = .ok (Record.ofColumns row))
      (compiled : gateway.clauseOf change.condition change.ensureNotDeleted .null .null =
        .ok clause) :
      Fills answered operation (.update gateway.table row clause.predicates)
        (row ++ compared clause.predicates)
  | deletes {condition : Value} {clause : Clause}
      (compiled : gateway.clauseOf condition (.bool false) .null .null = .ok clause) :
      Fills answered (.delete condition) (.delete gateway.table clause.predicates)
        (compared clause.predicates)

end Operation

/-! ### What is sent is filled -/

namespace Gateway

variable {gateway : Gateway} {answered : List Record} {operation : Operation}
  {statement : Statement}

/-- Each row has all columns, in order. -/
theorem Lays.aligned {items : List Value} {strict : Bool} {columns : List Identifier}
    {rows : List (List (Identifier × Value))} (lays : gateway.Lays items strict columns rows) :
    ∀ row ∈ rows, row.map Prod.fst = columns := by
  cases lays with
  | laid formed named each =>
    intro row member
    obtain ⟨form, _, aligned, _⟩ := exists_of_mem_forall₂ each member
    exact aligned

/-- Forms that all have the fields of the first are laid out in rows. -/
theorem exists_rows {columns : List Identifier} {forms : List Record}
    (present : ∀ form ∈ forms, ∀ column ∈ columns,
      ∃ bound, Entries.named? form column.name = some bound) :
    ∃ rows : List (List (Identifier × Value)),
      Endpoint.valuesUnder (columns.map fun column => .text column.name) forms =
        rows.map (fun row => row.map Prod.snd) ∧
      List.Forall₂ (fun form row => row.map Prod.fst = columns ∧
        ∀ place ∈ row, Entries.named? form place.1.name = some place.2) forms rows := by
  refine ⟨forms.map fun form => columns.map fun column =>
    (column, (Entries.named? form column.name).getD .null), ?_, ?_⟩
  · simp [Endpoint.valuesUnder, Entries.named?, Function.comp_def]
  · rw [List.forall₂_map_right_iff, List.forall₂_same]
    intro form member
    refine ⟨by simp [Function.comp_def], fun place among => ?_⟩
    obtain ⟨column, known, rfl⟩ := List.mem_map.mp among
    obtain ⟨bound, found⟩ := present form member column known
    rw [found, Option.getD_some]

theorem Gathers.lays {records : Value} {strict : Bool} {fields : List Value} {forms : List Record}
    {columns : List Identifier} (gathers : gateway.Gathers records strict fields forms)
    (named : Identifier.ofValues? fields = .ok columns) :
    ∃ items rows, records.listed? = some items ∧ gateway.Lays items strict columns rows ∧
      Endpoint.valuesUnder fields forms = rows.map fun row => row.map Prod.snd := by
  obtain ⟨rows, same, each⟩ := exists_rows (gathers.present named)
  have columnsOf := Identifier.ofValues?_eq_ok named
  rw [columnsOf]
  cases gathers with
  | @gathered items first rest given formed shared =>
    refine ⟨items, rows, ?_, .laid formed columnsOf each, same⟩
    rcases given with rfl | rfl <;> rfl

theorem Inserts.fills {record : Value} {strict : Bool}
    (inserts : gateway.Inserts record strict statement)
    (given : operation.inserted gateway = some ([record], strict)) :
    ∃ places, operation.Fills gateway answered statement places := by
  cases inserts with
  | @insert form columns written named =>
    have columnsOf := Identifier.ofValues?_eq_ok named
    have present : ∀ own ∈ [form], ∀ column ∈ columns,
        ∃ bound, Entries.named? own column.name = some bound := by
      intro own member column among
      rw [List.mem_singleton.mp member]
      refine Entries.exists_named? ?_
      rw [columnsOf]
      exact List.mem_map_of_mem among
    obtain ⟨rows, same, each⟩ := exists_rows present
    rw [columnsOf, same]
    exact ⟨_, .inserts given (.laid (.cons written .nil) columnsOf each)⟩

theorem InsertsAll.fills {records : Value} {strict : Bool}
    (inserts : gateway.InsertsAll records strict statement)
    (asked : operation.inserted gateway = records.listed?.map fun items => (items, strict)) :
    ∃ places, operation.Fills gateway answered statement places := by
  cases inserts with
  | insert gathers named =>
    obtain ⟨items, rows, given, lays, same⟩ := gathers.lays named
    rw [given] at asked
    rw [Identifier.ofValues?_eq_ok named] at same ⊢
    rw [valuesUnder_arrange, same]
    exact ⟨_, .inserts asked lays⟩

theorem ReplacesAll.fills {records : Value} {strict : Bool}
    (replaces : gateway.ReplacesAll records strict statement)
    (asked : operation.replaced = records.listed?.map fun items => (items, strict)) :
    ∃ places, operation.Fills gateway answered statement places := by
  cases replaces with
  | replace gathers named =>
    obtain ⟨items, rows, given, lays, same⟩ := gathers.lays named
    rw [given] at asked
    rw [same]
    exact ⟨_, .replaces asked lays⟩

theorem UpsertsAll.fills {records duplicateKey duplicateValue : Value} {strict : Bool}
    (upserts : gateway.UpsertsAll records duplicateKey duplicateValue strict statement) :
    ∃ places, (Operation.upsertMany records duplicateKey duplicateValue strict).Fills gateway
      answered statement places := by
  cases upserts with
  | insert gathers named collides =>
    obtain ⟨items, rows, given, lays, same⟩ := gathers.lays named
    rw [same]
    exact ⟨_, .upserts given lays collides⟩

theorem Updates.fills {condition changes ensureNotDeleted : Value} {strict : Bool}
    (updates : gateway.Updates condition changes ensureNotDeleted strict statement)
    (asked : operation.changed gateway answered =
      some ⟨condition, ensureNotDeleted, changes, strict⟩) :
    ∃ places, operation.Fills gateway answered statement places := by
  cases updates with
  | update written compiled confined named =>
    rw [assignmentsOf_eq_ok named] at written
    exact ⟨_, .updates asked written compiled⟩

theorem SetsFlag.fills {hides : Bool} {condition : Value}
    (sets : gateway.SetsFlag hides condition statement)
    (asked : operation.changed gateway answered = gateway.flagged condition hides) :
    ∃ places, operation.Fills gateway answered statement places := by
  cases sets with
  | update declared updates =>
    refine updates.fills ?_
    rw [asked, flagged, declared]
    rfl

theorem Reads.fills {condition ensureNotDeleted projection order limit : Value}
    (reads : gateway.Reads condition ensureNotDeleted projection order limit statement)
    (asked : operation.asks gateway projection)
    (compiles : operation.clauseRead gateway =
      (gateway.clauseOf condition ensureNotDeleted order limit).toOption) :
    ∃ places, operation.Fills gateway answered statement places := by
  cases reads with
  | select compiled chosen =>
    rw [compiled] at compiles
    exact ⟨_, .reads compiles asked chosen⟩

/-- An insertion that passes its checks is one of the record. -/
theorem inserts_of_insertionOf {record : Value} {strict : Bool}
    (checked : gateway.insertionOf record strict = .ok statement) :
    gateway.Inserts record strict statement := by
  obtain ⟨form, written, checked⟩ := ok_of_bind checked
  obtain ⟨columns, named, rfl⟩ := exists_columns_of_insertionOfForm checked
  exact .insert written named

end Gateway

namespace Operation

variable {gateway : Gateway} {exchanges : List Exchange}

/-- The rows that the first statement of a conversation is answered with. -/
def firstRows : List Exchange → List Record
  | (_, .ok reply) :: _ => reply.rows
  | _ => []

/-- A statement only looks tables and columns up, or its places are filled by the operation. -/
def IsFilled (gateway : Gateway) (answered : List Record) (operation : Operation)
    (statement : Statement) : Prop :=
  gateway.endpoint.LooksUp gateway.table statement ∨
    ∃ places, operation.Fills gateway answered statement places

/-- Looking columns up fills no places. -/
theorem isFilled_of_ensureColumns {names : List Value} {outcome : Except Failure Unit}
    (talk : (gateway.ensureColumns names).Converses exchanges outcome) (answered : List Record)
    (operation : Operation) :
    ∀ exchange ∈ exchanges, operation.IsFilled gateway answered exchange.1 :=
  fun exchange member =>
    .inl (((gateway.ensureColumns_always names).of_converses talk).1 exchange member)

theorem isFilled_of_ensure {record : Value} {outcome : Except Failure (Option WriteResult)}
    (talk : (gateway.ensure record).Converses exchanges outcome) :
    ∀ exchange ∈ exchanges,
      (Operation.ensure record).IsFilled gateway (firstRows exchanges) exchange.1 := by
  rcases Gateway.ensures_of_converses talk with
    ⟨failure, _, rfl, _⟩ | ⟨strict, row, taken, dumped, ensures⟩
  · exact fun _ member => absurd member List.not_mem_nil
  have looked : gateway.lookedUp record = some row := by
    rw [Gateway.lookedUp, taken]
    show (gateway.schema.toRow _).toOption = _
    rw [dumped]
    rfl
  have reading {answered : List Record} {lookup : Statement}
      (reads : gateway.Reads (.dict row) (.bool false) Gateway.everything .null
        Gateway.uniqueLimit lookup) :
      (Operation.ensure record).IsFilled gateway answered lookup := by
    refine .inr (reads.fills rfl ?_)
    rw [clauseRead, looked]
    rfl
  cases ensures with
  | unasked => exact fun _ member => absurd member List.not_mem_nil
  | failing _ _ reads => exact List.forall_mem_singleton.mpr (reading reads)
  | refused reads => exact List.forall_mem_singleton.mpr (reading reads)
  | live reads => exact List.forall_mem_singleton.mpr (reading reads)
  | inserted _ reads _ checked =>
    have given : (Operation.ensure record).inserted gateway =
        some ([.dict (gateway.withoutFlag strict)], true) := by
      rw [inserted, taken]
      rfl
    refine List.forall_mem_cons.mpr ⟨reading reads, List.forall_mem_singleton.mpr (.inr ?_)⟩
    exact (Gateway.inserts_of_insertionOf checked).fills given
  | columnless _ _ reads _ _ _ _ fails =>
    exact List.forall_mem_cons.mpr ⟨reading reads, isFilled_of_ensureColumns fails _ _⟩
  | unrevived _ reads _ _ _ _ looks =>
    exact List.forall_mem_cons.mpr ⟨reading reads, isFilled_of_ensureColumns looks _ _⟩
  | @revived lookup update reply found others flag _ _ reads typed single _ _ looks sets =>
    have asked : (Operation.ensure record).changed gateway reply.rows =
        gateway.flagged (.dict (gateway.rowTarget found row)) false := by
      rw [changed, looked]
      show ((gateway.rowOf (.dict row) reply.rows).toOption.join >>= _) = _
      rw [Gateway.rowOf_of_typed typed single]
      rfl
    refine List.forall_mem_cons.mpr ⟨reading reads, List.forall_mem_append.mpr ⟨?_, ?_⟩⟩
    · exact isFilled_of_ensureColumns looks _ _
    · exact List.forall_mem_singleton.mpr (.inr (sets.fills asked))

theorem isFilled_of_upsert {condition changes : Value} {outcome : Except Failure UpsertResult}
    (talk : (gateway.upsert condition changes).Converses exchanges outcome) :
    ∀ exchange ∈ exchanges,
      (Operation.upsert condition changes).IsFilled gateway (firstRows exchanges) exchange.1 := by
  have reading {answered : List Record} {lookup : Statement}
      (reads : gateway.Reads condition (.bool false) Gateway.everything .null
        Gateway.uniqueLimit lookup) :
      (Operation.upsert condition changes).IsFilled gateway answered lookup :=
    .inr (reads.fills rfl rfl)
  cases Gateway.upserts_of_converses talk with
  | unasked => exact fun _ member => absurd member List.not_mem_nil
  | failing _ _ reads => exact List.forall_mem_singleton.mpr (reading reads)
  | uninserted reads => exact List.forall_mem_singleton.mpr (reading reads)
  | unchanged reads => exact List.forall_mem_singleton.mpr (reading reads)
  | unformed reads => exact List.forall_mem_singleton.mpr (reading reads)
  | unconfined reads => exact List.forall_mem_singleton.mpr (reading reads)
  | @inserted lookup reply base changed data written _ reads _ asked given taken dumped formed =>
    have offered : (Operation.upsert condition changes).inserted gateway =
        some ([.dict data], true) := by
      rw [inserted, asked, given]
      show ((gateway.schema.strictRecord (base.overlay changed)).toOption >>= _) = _
      rw [taken]
      rfl
    have distinct := (Schema.isSettled_of_strictRecord taken).areDistinct_toRow dumped
    have lays : gateway.Lays [.dict data] true (written.map Prod.fst) [written] := by
      refine .laid (.cons formed .nil) (Record.keys_ofColumns written) (.cons ⟨rfl, ?_⟩ .nil)
      intro place member
      exact Entries.named?_of_mem distinct (Record.mem_ofColumns_iff.mpr member)
    refine List.forall_mem_cons.mpr ⟨reading reads, List.forall_mem_singleton.mpr (.inr ?_)⟩
    exact ⟨_, .inserts offered lays⟩
  | @updated lookup reply found changed form others clause written _ reads typed single given taken
      _ dumped compiled =>
    have asked : (Operation.upsert condition changes).changed gateway reply.rows =
        some ⟨condition, .bool false, .dict (gateway.revived found changed), true⟩ := by
      rw [Operation.changed, given]
      show ((gateway.rowOf condition reply.rows).toOption.join >>= _) = _
      rw [Gateway.rowOf_of_typed typed single]
      rfl
    have formed : gateway.formOf (.dict (gateway.revived found changed)) true =
        .ok (Record.ofColumns written) := by
      show gateway.schema.strictRecord _ >>= gateway.schema.toRow = _
      rw [taken]
      exact dumped
    refine List.forall_mem_cons.mpr ⟨reading reads, List.forall_mem_singleton.mpr (.inr ?_)⟩
    exact ⟨_, .updates asked formed compiled⟩

/-- Whatever an operation sends, it only looks tables and columns up or has the places filled. -/
theorem isFilled_of_converses {operation : Operation} {outcome : Except Failure operation.Answer}
    (talk : (operation.plan gateway).Converses exchanges outcome) :
    ∀ exchange ∈ exchanges, operation.IsFilled gateway (firstRows exchanges) exchange.1 := by
  -- what is always sent is filled whatever is answered
  have sending {Result : Type} {plan : Plan Result} {ended : Except Failure Result}
      {allowed : Statement → Prop} {expected : Result → Prop}
      (always : plan.Always allowed expected)
      (each : ∀ statement, allowed statement →
        operation.IsFilled gateway (firstRows exchanges) statement)
      (talking : plan.Converses exchanges ended) :
      ∀ exchange ∈ exchanges, operation.IsFilled gateway (firstRows exchanges) exchange.1 :=
    ((always.weaken each).of_converses talking).1
  cases operation with
  | query buckets order limit projection =>
    refine sending (gateway.query_always _ _ _ _) (fun _ queries => .inr ?_) talk
    cases queries with
    | select compiled chosen =>
      refine ⟨_, .reads ?_ rfl chosen⟩
      rw [clauseRead, compiled]
      rfl
  | find condition ensureNotDeleted projection order limit =>
    exact sending (gateway.find_always _ _ _ _ _) (fun _ reads => .inr (reads.fills rfl rfl)) talk
  | findOne condition ensureNotDeleted projection order =>
    exact sending (gateway.findOne_always _ _ _ _) (fun _ reads => .inr (reads.fills rfl rfl)) talk
  | findOneByFields keys values =>
    refine sending (gateway.findOneByFields_always keys values) ?_ talk
    rintro statement ⟨condition, paired, reads⟩
    refine .inr (reads.fills rfl ?_)
    rw [clauseRead, paired]
    rfl
  | count condition ensureNotDeleted =>
    refine sending (gateway.count_always _ _) ?_ talk
    rintro statement ⟨projection, counted, reads⟩
    exact .inr (reads.fills counted rfl)
  | getOrNotFound condition ensureNotDeleted projection =>
    exact sending (gateway.getOrNotFound_always _ _ _)
      (fun _ reads => .inr (reads.fills rfl rfl)) talk
  | exist => exact sending gateway.exist_always (fun _ found => .inl found) talk
  | showColumns => exact sending gateway.showColumns_always (fun _ found => .inl found) talk
  | listColumns => exact sending gateway.listColumns_always (fun _ found => .inl found) talk
  | ensureColumns names =>
    exact sending (gateway.ensureColumns_always names) (fun _ found => .inl found) talk
  | add record strict =>
    exact sending (gateway.add_writesLast record strict).always_writes
      (fun _ inserts => .inr (inserts.fills rfl)) talk
  | addMany records strict =>
    exact sending (gateway.addMany_writesLast records strict).always_writes
      (fun _ inserts => .inr (inserts.fills rfl)) talk
  | update condition changes ensureNotDeleted strict =>
    exact sending (gateway.update_always _ _ _ _)
      (fun _ updates => .inr (updates.fills rfl)) talk
  | ensure record => exact isFilled_of_ensure talk
  | upsert condition changes => exact isFilled_of_upsert talk
  | replaceOne record strict =>
    exact sending (gateway.replaceMany_writesLast (.list [record]) strict).always_writes
      (fun _ replaces => .inr (replaces.fills rfl)) talk
  | replaceMany records strict =>
    exact sending (gateway.replaceMany_writesLast records strict).always_writes
      (fun _ replaces => .inr (replaces.fills rfl)) talk
  | upsertMany records duplicateKey duplicateValue strict =>
    refine sending (gateway.upsertMany_writesLast _ _ _ strict).always (fun _ sent => ?_) talk
    exact sent.imp_right fun upserts => upserts.fills
  | disable condition =>
    refine sending (gateway.disable_writesLast condition).always (fun _ sent => ?_) talk
    exact sent.imp_right fun hides => hides.fills rfl
  | enable condition =>
    refine sending (gateway.enable_writesLast condition).always (fun _ sent => ?_) talk
    exact sent.imp_right fun revives => revives.fills rfl
  | delete condition =>
    refine sending (gateway.delete_always condition) (fun _ deletes => .inr ?_) talk
    cases deletes with
    | delete compiled confined => exact ⟨_, .deletes compiled⟩

end Operation

end TableGateway
