/-
This file says what the writing operations of a gateway send, and in which order. Each
looks first, if it looks at all; all that it checks it has checked before it writes; it
writes once at most, and then only reports what came of it. What is written is told in
full: which records it comes from, under which names, and where.
-/

import Mathlib.Data.List.Forall2
import TableGateway.Proofs.Operation
import TableGateway.Proofs.Reading

namespace TableGateway

namespace Gateway

/-! ### What is written -/

/-- The insertion of one record. -/
inductive Inserts (gateway : Gateway) (record : Value) (strict : Bool) : Statement → Prop where
  | insert {form : Record} {columns : List Identifier}
      (written : gateway.formOf record strict = .ok form)
      (named : Identifier.ofValues? form.keys = .ok columns) :
      gateway.Inserts record strict
        (.insert gateway.table columns (Endpoint.valuesUnder form.keys [form]) none)

/-- Records put together: the forms of all, with the fields of the first, which all have. -/
inductive Gathers (gateway : Gateway) (records : Value) (strict : Bool) :
    List Value → List Record → Prop where
  | gathered {items : List Value} {first : Record} {rest : List Record}
      (listed : records = .list items ∨ records = .tuple items)
      (written : List.Forall₂ (fun item form => gateway.formOf item strict = .ok form) items
        (first :: rest))
      (shared : ∀ form ∈ rest, sameKeys form.keys first.keys = true) :
      gateway.Gathers records strict first.keys (first :: rest)

/-- The insertion of many records, each with its fields in the order of the first. -/
inductive InsertsAll (gateway : Gateway) (records : Value) (strict : Bool) :
    Statement → Prop where
  | insert {fields : List Value} {forms : List Record} {columns : List Identifier}
      (gathers : gateway.Gathers records strict fields forms)
      (named : Identifier.ofValues? fields = .ok columns) :
      gateway.InsertsAll records strict
        (.insert gateway.table columns (Endpoint.valuesUnder fields (forms.map (arrange fields)))
          none)

/-- The replacement of many records. -/
inductive ReplacesAll (gateway : Gateway) (records : Value) (strict : Bool) :
    Statement → Prop where
  | replace {fields : List Value} {forms : List Record} {columns : List Identifier}
      (gathers : gateway.Gathers records strict fields forms)
      (named : Identifier.ofValues? fields = .ok columns) :
      gateway.ReplacesAll records strict
        (.replace gateway.table columns (Endpoint.valuesUnder fields forms))

/-- The column that is set for rows that collide: the one that is named, or the hidden flag. -/
def collisionKey (gateway : Gateway) (duplicateKey : Value) : Value :=
  if duplicateKey.isTruthy then duplicateKey else gateway.schema.hiddenFlag.getD .null

/-- The value that the column is set to: the one that is given, or the one it has. -/
def collisionValue (duplicateValue : Value) : Option Value :=
  if duplicateValue.isNull then none else some duplicateValue

/-- The insertion of many records that sets a column of those that collide. -/
inductive UpsertsAll (gateway : Gateway) (records duplicateKey duplicateValue : Value)
    (strict : Bool) : Statement → Prop where
  | insert {fields : List Value} {forms : List Record} {columns : List Identifier}
      {column : Identifier} (gathers : gateway.Gathers records strict fields forms)
      (named : Identifier.ofValues? fields = .ok columns)
      (collides : Identifier.ofValue? (gateway.collisionKey duplicateKey) = .ok column) :
      gateway.UpsertsAll records duplicateKey duplicateValue strict
        (.insert gateway.table columns (Endpoint.valuesUnder fields forms)
          (some ⟨column, collisionValue duplicateValue⟩))

/-- The update of the rows of a condition. -/
inductive Updates (gateway : Gateway) (condition changes ensureNotDeleted : Value)
    (strict : Bool) : Statement → Prop where
  | update {form : Record} {clause : Clause} {assignments : List (Identifier × Value)}
      (written : gateway.formOf changes strict = .ok form)
      (compiled : gateway.clauseOf condition ensureNotDeleted .null .null = .ok clause)
      (confined : clause.predicates ≠ [] ∨ gateway.allowUpdateAll = true)
      (named : gateway.assignmentsOf form = .ok assignments) :
      gateway.Updates condition changes ensureNotDeleted strict
        (.update gateway.table assignments clause.predicates)

/-- The update that hides the live rows of a condition, or brings all of its rows back. -/
inductive SetsFlag (gateway : Gateway) (hides : Bool) (condition : Value) :
    Statement → Prop where
  | update {flag : Value} {statement : Statement}
      (declared : gateway.schema.hiddenFlag = some flag)
      (updates : gateway.Updates condition (.dict [(flag, .bool hides)]) (.bool hides) true
        statement) :
      gateway.SetsFlag hides condition statement

/-- The deletion of the rows of a condition, hidden or not. -/
inductive Deletes (gateway : Gateway) (condition : Value) : Statement → Prop where
  | delete {clause : Clause}
      (compiled : gateway.clauseOf condition (.bool false) .null .null = .ok clause)
      (confined : clause.predicates ≠ [] ∨ gateway.allowDeleteAll = true) :
      gateway.Deletes condition (.delete gateway.table clause.predicates)

end Gateway

/-- What an operation writes, if it writes. -/
inductive Operation.Writes (gateway : Gateway) : Operation → Statement → Prop where
  | add {record : Value} {strict : Bool} {statement : Statement}
      (inserts : gateway.Inserts record strict statement) :
      Writes gateway (.add record strict) statement
  | addMany {records : Value} {strict : Bool} {statement : Statement}
      (inserts : gateway.InsertsAll records strict statement) :
      Writes gateway (.addMany records strict) statement
  | update {condition changes ensureNotDeleted : Value} {strict : Bool} {statement : Statement}
      (updates : gateway.Updates condition changes ensureNotDeleted strict statement) :
      Writes gateway (.update condition changes ensureNotDeleted strict) statement
  | ensureInserts {record : Value} {strict : Record} {statement : Statement}
      (taken : gateway.schema.strictForm record = .ok strict)
      (inserts : gateway.Inserts (.dict (gateway.withoutFlag strict)) true statement) :
      Writes gateway (.ensure record) statement
  | ensureRevives {record : Value} {strict lookup row : Record} {statement : Statement}
      (taken : gateway.schema.strictForm record = .ok strict)
      (dumped : gateway.schema.toRow (gateway.withoutFlag strict) = .ok lookup)
      (revives : gateway.SetsFlag false (.dict (gateway.rowTarget row lookup)) statement) :
      Writes gateway (.ensure record) statement
  | upsertInserts {condition changes : Value} {base changed data : Record} {statement : Statement}
      (asked : condition.toRecord = .ok base) (given : changes.toRecord = .ok changed)
      (taken : gateway.schema.strictRecord (base.overlay changed) = .ok data)
      (inserts : gateway.Inserts (.dict data) true statement) :
      Writes gateway (.upsert condition changes) statement
  | upsertUpdates {condition changes : Value} {row changed : Record} {statement : Statement}
      (given : changes.toRecord = .ok changed)
      (updates : gateway.Updates condition (.dict (gateway.revived row changed)) (.bool false) true
        statement) :
      Writes gateway (.upsert condition changes) statement
  | replaceOne {record : Value} {strict : Bool} {statement : Statement}
      (replaces : gateway.ReplacesAll (.list [record]) strict statement) :
      Writes gateway (.replaceOne record strict) statement
  | replaceMany {records : Value} {strict : Bool} {statement : Statement}
      (replaces : gateway.ReplacesAll records strict statement) :
      Writes gateway (.replaceMany records strict) statement
  | upsertMany {records duplicateKey duplicateValue : Value} {strict : Bool}
      {statement : Statement}
      (upserts : gateway.UpsertsAll records duplicateKey duplicateValue strict statement) :
      Writes gateway (.upsertMany records duplicateKey duplicateValue strict) statement
  | disable {condition : Value} {statement : Statement}
      (hides : gateway.SetsFlag true condition statement) :
      Writes gateway (.disable condition) statement
  | enable {condition : Value} {statement : Statement}
      (revives : gateway.SetsFlag false condition statement) :
      Writes gateway (.enable condition) statement
  | delete {condition : Value} {statement : Statement}
      (deletes : gateway.Deletes condition statement) :
      Writes gateway (.delete condition) statement

namespace Gateway

variable {looks : Statement → Prop} {asked : Value → Prop}

/-! ### Writing one record or many -/

/-- The insertion of records under the keys of the first. -/
theorem insertRecords_writesLast (gateway : Gateway) (first : Record) (rest : List Record) :
    (gateway.endpoint.insertRecords (.text gateway.table.name) (first :: rest)).WritesLast looks
      (fun statement => ∃ columns, Identifier.ofValues? first.keys = .ok columns ∧
        statement = .insert gateway.table columns
          (Endpoint.valuesUnder first.keys (first :: rest)) none)
      fun _ => True := by
  have named : Identifier.ofValue? (.text gateway.table.name) = .ok gateway.table :=
    Identifier.ofName?_name gateway.table
  refine Plan.WritesLast.bind_check (Plan.silent_ofExcept _) fun style _ => ?_
  refine Plan.WritesLast.bind_check (Plan.silent_ofExcept _) fun statement inserted => ?_
  rw [Endpoint.insertion, named] at inserted
  obtain ⟨table, sameTable, inserted⟩ := ok_of_bind inserted
  cases sameTable
  obtain ⟨columns, checked, assembled⟩ := ok_of_bind inserted
  cases assembled
  exact Plan.writesLast_ask _ ⟨columns, orRefuse_eq_ok checked, rfl⟩

theorem add_writesLast (gateway : Gateway) (record : Value) (strict : Bool) :
    (gateway.add record strict).WritesLast looks (gateway.Inserts record strict)
      fun _ => True := by
  refine Plan.WritesLast.bind_check (gateway.silent_writeForm record strict)
    fun form written => ?_
  split
  · trivial
  · refine Plan.WritesLast.bind_concludes
      ((gateway.insertRecords_writesLast form []).mono (fun _ look => look) ?_)
      fun reply _ => trivial
    rintro statement ⟨columns, named, rfl⟩
    exact .insert written named

/-- A plan that only puts forms together. -/
theorem writeForms_always {allowed : Statement → Prop} (gateway : Gateway) (strict : Bool)
    (records : List Value) :
    (gateway.writeForms strict records).Always allowed fun forms =>
      List.Forall₂ (fun item form => gateway.formOf item strict = .ok form) records forms := by
  induction records with
  | nil => exact .nil
  | cons record rest inductionHypothesis =>
    refine Plan.Always.bind_check (gateway.silent_writeForm record strict) fun form written => ?_
    refine inductionHypothesis.bind fun forms others => ?_
    exact .cons written others

theorem sameKeys_of_checkFields {model : Value} {write : BulkWrite} {fields : List Value}
    {forms : List Record} (checked : checkFields model write fields forms = .ok ()) :
    ∀ form ∈ forms, sameKeys form.keys fields = true := by
  induction forms with
  | nil => exact fun _ member => absurd member List.not_mem_nil
  | cons form rest inductionHypothesis =>
    rw [checkFields] at checked
    split at checked
    · rename_i same
      intro other member
      rcases List.mem_cons.mp member with rfl | later
      · exact same
      · exact inductionHypothesis checked other later
    · obtain ⟨_, _, checked⟩ := ok_of_bind checked
      obtain ⟨_, _, refused⟩ := ok_of_bind checked
      cases refused

theorem bulkForms_always {allowed : Statement → Prop} (gateway : Gateway) (records : Value)
    (strict : Bool) (write : BulkWrite) :
    (gateway.bulkForms records strict write).Always allowed fun gathered =>
      gateway.Gathers records strict gathered.1 gathered.2 := by
  unfold bulkForms
  extract_lets formsOf
  have rest (items : List Value) (listed : records = .list items ∨ records = .tuple items) :
      (formsOf items).Always allowed fun gathered =>
        gateway.Gathers records strict gathered.1 gathered.2 := by
    unfold formsOf
    split
    · trivial
    · refine (gateway.writeForms_always strict items).bind fun forms written => ?_
      split
      · trivial
      · split
        · trivial
        · refine Plan.Always.bind_check (Plan.silent_ofExcept _) fun _ checked => ?_
          exact .gathered listed written (sameKeys_of_checkFields checked)
  split
  · exact rest _ (.inl rfl)
  · exact rest _ (.inr rfl)
  · trivial

theorem addMany_writesLast (gateway : Gateway) (records : Value) (strict : Bool) :
    (gateway.addMany records strict).WritesLast looks (gateway.InsertsAll records strict)
      fun _ => True := by
  refine (gateway.bulkForms_always records strict .insert).bind_writesLast
    fun ⟨fields, forms⟩ gathers => ?_
  have named (form : Record) : Entries.keys (arrange fields form) = fields := by
    simp [Entries.keys, arrange, Function.comp_def]
  have inserted : (gateway.endpoint.insertRecords (.text gateway.table.name)
      (forms.map (arrange fields))).WritesLast looks (gateway.InsertsAll records strict)
      fun _ => True := by
    cases gathers with
    | gathered listed written shared =>
      refine (gateway.insertRecords_writesLast _ _).mono (fun _ look => look) ?_
      rintro statement ⟨columns, checked, rfl⟩
      rw [named] at checked ⊢
      exact .insert (.gathered listed written shared) checked
  exact inserted.bind_concludes fun reply _ => trivial

/-- The columns of many records are the names of their fields. -/
theorem ofValues?_of_bulkColumns {gateway : Gateway} {fields : List Value}
    {columns : List Identifier} (checked : gateway.bulkColumns fields = .ok columns) :
    Identifier.ofValues? fields = .ok columns := by
  obtain ⟨style, _, named⟩ := ok_of_bind checked
  exact orRefuse_eq_ok named

theorem replaceMany_writesLast (gateway : Gateway) (records : Value) (strict : Bool) :
    (gateway.replaceMany records strict).WritesLast looks (gateway.ReplacesAll records strict)
      fun _ => True := by
  refine (gateway.bulkForms_always records strict .replace).bind_writesLast
    fun ⟨fields, forms⟩ gathers => ?_
  refine Plan.WritesLast.bind_check (Plan.silent_ofExcept _) fun columns checked => ?_
  refine Plan.WritesLast.bind_said (gateway.silent_announce _ _) ?_
  exact (Plan.writesLast_ask _ (.replace gathers (ofValues?_of_bulkColumns checked))).bind_concludes
    fun reply _ => trivial

theorem upsertMany_writesLast (gateway : Gateway)
    (records duplicateKey duplicateValue : Value) (strict : Bool) :
    (gateway.upsertMany records duplicateKey duplicateValue strict).WritesLast
      (gateway.endpoint.LooksUp gateway.table)
      (gateway.UpsertsAll records duplicateKey duplicateValue strict) fun _ => True := by
  unfold upsertMany
  extract_lets flag key
  split
  · trivial
  · refine (gateway.ensureColumns_always [key]).bind_writesLast fun _ _ => ?_
    refine (gateway.bulkForms_always records strict .upsert).bind_writesLast
      fun ⟨fields, forms⟩ gathers => ?_
    refine Plan.WritesLast.bind_check (Plan.silent_ofExcept _) fun columns checked => ?_
    refine Plan.WritesLast.bind_check (Plan.silent_ofExcept _) fun column collides => ?_
    refine Plan.WritesLast.bind_said (gateway.silent_announce _ _) ?_
    exact (Plan.writesLast_ask _ (.insert gathers (ofValues?_of_bulkColumns checked)
      (orRefuse_eq_ok collides))).bind_concludes fun reply _ => trivial

/-! ### Changing and removing rows -/

/-- What is not refused for lack of predicates has some, or is allowed without. -/
theorem confined_of_not_refused {predicates : List Predicate} {allowedAll : Bool}
    (passed : ¬(predicates.isEmpty && !allowedAll) = true) :
    predicates ≠ [] ∨ allowedAll = true := by
  cases predicates <;> simp_all

theorem update_writesLast (gateway : Gateway) (condition changes ensureNotDeleted : Value)
    (strict : Bool) :
    (gateway.update condition changes ensureNotDeleted strict).WritesLast looks
      (gateway.Updates condition changes ensureNotDeleted strict) fun _ => True := by
  refine Plan.WritesLast.bind_check (gateway.silent_writeForm changes strict)
    fun form written => ?_
  split
  · trivial
  · refine Plan.WritesLast.bind_check (gateway.silent_conditionClause condition ensureNotDeleted)
      fun clause compiled => ?_
    split
    · trivial
    · rename_i passed
      refine Plan.WritesLast.bind_check (Plan.silent_ofExcept _) fun assignments named => ?_
      refine Plan.WritesLast.bind_said (gateway.silent_announce _ _) ?_
      exact (Plan.writesLast_ask _
        (.update written compiled (confined_of_not_refused passed) named)).bind_concludes
          fun reply _ => trivial

theorem delete_writesLast (gateway : Gateway) (condition : Value) :
    (gateway.delete condition).WritesLast looks (gateway.Deletes condition) fun _ => True := by
  refine Plan.WritesLast.bind_check (gateway.silent_conditionClause condition (.bool false))
    fun clause compiled => ?_
  split
  · trivial
  · rename_i passed
    refine Plan.WritesLast.bind_said (gateway.silent_announce _ _) ?_
    exact (Plan.writesLast_ask _
      (.delete compiled (confined_of_not_refused passed))).bind_concludes fun reply _ => trivial

/-! ### Looking before writing -/

theorem disable_writesLast (gateway : Gateway) (condition : Value) :
    (gateway.disable condition).WritesLast (gateway.endpoint.LooksUp gateway.table)
      (gateway.SetsFlag true condition) fun _ => True := by
  unfold disable setFlag
  split
  · trivial
  · rename_i flag declared
    refine (gateway.ensureColumns_always [flag]).bind_writesLast fun _ _ => ?_
    refine Plan.WritesLast.bind_concludes ((gateway.update_writesLast _ _ _ true).mono
      (fun _ look => look) fun _ updates => .update declared updates) ?_
    exact fun affected _ => trivial

theorem enable_writesLast (gateway : Gateway) (condition : Value) :
    (gateway.enable condition).WritesLast (gateway.endpoint.LooksUp gateway.table)
      (gateway.SetsFlag false condition) fun _ => True := by
  unfold enable setFlag
  split
  · trivial
  · rename_i flag declared
    refine (gateway.ensureColumns_always [flag]).bind_writesLast fun _ _ => ?_
    refine Plan.WritesLast.bind_concludes ((gateway.update_writesLast _ _ _ true).mono
      (fun _ look => look) fun _ updates => .update declared updates) ?_
    exact fun affected _ => trivial

theorem ensure_writesLast (gateway : Gateway) (record : Value) :
    (gateway.ensure record).WritesLast (gateway.Looks (· = everything))
      (Operation.Writes gateway (.ensure record)) fun _ => True := by
  refine Plan.WritesLast.bind_check (gateway.silent_strictOf record) fun strict taken => ?_
  refine Plan.WritesLast.bind_check (Plan.silent_ofExcept _) fun lookup dumped => ?_
  refine Plan.Always.bind_writesLast ((gateway.findOne_always _ _ _ _).weaken
    fun _ reads => reads.looks rfl) fun found _ => ?_
  split
  · exact ((gateway.add_writesLast _ true).mono (fun _ look => look)
      fun _ inserts => .ensureInserts taken inserts).bind_concludes fun insertId _ => trivial
  · split
    · refine Plan.WritesLast.bind_said (Plan.silent_say _ _) ?_
      exact ((gateway.enable_writesLast _).mono (fun _ look => .lookUp look)
        fun _ revives => .ensureRevives taken dumped revives).bind_concludes fun result _ => trivial
    · trivial

theorem upsert_writesLast (gateway : Gateway) (condition changes : Value) :
    (gateway.upsert condition changes).WritesLast (gateway.Looks (· = everything))
      (Operation.Writes gateway (.upsert condition changes)) fun _ => True := by
  refine Plan.WritesLast.bind_check (Plan.silent_recordOf changes) fun changed given => ?_
  refine Plan.Always.bind_writesLast ((gateway.findOne_always _ _ _ _).weaken
    fun _ reads => reads.looks rfl) fun found _ => ?_
  split
  · refine Plan.WritesLast.bind_check (Plan.silent_recordOf condition) fun base asked => ?_
    refine Plan.WritesLast.bind_check (Plan.silent_ofExcept _) fun data taken => ?_
    exact ((gateway.add_writesLast _ true).mono (fun _ look => look)
      fun _ inserts => .upsertInserts asked given taken inserts).bind_concludes
        fun state _ => trivial
  · rename_i row
    have updated :
        (do
          let changes := gateway.revived row changed
          let form ← Plan.ofExcept (gateway.schema.strictRecord changes)
          let data := row.overlay form
          let state ← gateway.update condition (.dict changes) (.bool false) true
          return (⟨.update, data, some state⟩ : UpsertResult)).WritesLast
            (gateway.Looks (· = everything))
            (Operation.Writes gateway (.upsert condition changes)) fun _ => True := by
      refine Plan.WritesLast.bind_check (Plan.silent_ofExcept _) fun form _ => ?_
      exact ((gateway.update_writesLast _ _ _ true).mono (fun _ look => look)
        fun _ updates => .upsertUpdates given updates).bind_concludes fun state _ => trivial
    split
    · exact Plan.WritesLast.bind_said (Plan.silent_say _ _) updated
    · exact updated

end Gateway

namespace Operation

/-- The projections that an operation asks for in its reads. -/
def asks (gateway : Gateway) : Operation → Value → Prop
  | .query _ _ _ projection => (· = projection)
  | .find _ _ projection _ _ => (· = projection)
  | .findOne _ _ projection _ => (· = projection)
  | .getOrNotFound _ _ projection => (· = projection)
  | .count .. => fun projection => gateway.countProjection = .ok projection
  | _ => (· = Gateway.everything)

/-- Every operation looks first and writes last. -/
theorem writesLast (gateway : Gateway) (operation : Operation) :
    (operation.plan gateway).WritesLast (gateway.Looks (operation.asks gateway))
      (operation.Writes gateway) fun _ => True := by
  cases operation with
  | query buckets order limit projection =>
    exact ((gateway.query_always _ _ _ _).weaken fun _ queries => queries.looks).writesLast
  | find condition ensureNotDeleted projection order limit =>
    refine Plan.Always.writesLast ?_
    exact (gateway.find_always _ _ _ _ _).weaken fun _ reads => reads.looks rfl
  | findOne condition ensureNotDeleted projection order =>
    refine Plan.Always.writesLast ?_
    exact (gateway.findOne_always _ _ _ _).weaken fun _ reads => reads.looks rfl
  | findOneByFields keys values =>
    exact ((gateway.findOneByFields_always keys values).weaken
      fun _ ⟨_, _, reads⟩ => reads.looks rfl).writesLast
  | count condition ensureNotDeleted =>
    exact ((gateway.count_always _ _).weaken
      fun _ ⟨projection, counted, reads⟩ => reads.looks counted).writesLast
  | getOrNotFound condition ensureNotDeleted projection =>
    refine Plan.Always.writesLast ?_
    exact (gateway.getOrNotFound_always _ _ _).weaken fun _ reads => reads.looks rfl
  | exist => exact (gateway.exist_always.weaken fun _ found => .lookUp found).writesLast
  | showColumns => exact (gateway.showColumns_always.weaken fun _ found => .lookUp found).writesLast
  | listColumns => exact (gateway.listColumns_always.weaken fun _ found => .lookUp found).writesLast
  | ensureColumns names =>
    exact ((gateway.ensureColumns_always names).weaken fun _ found => .lookUp found).writesLast
  | add record strict =>
    exact (gateway.add_writesLast record strict).mono (fun _ look => look)
      fun _ inserts => .add inserts
  | addMany records strict =>
    exact (gateway.addMany_writesLast records strict).mono (fun _ look => look)
      fun _ inserts => .addMany inserts
  | update condition changes ensureNotDeleted strict =>
    exact (gateway.update_writesLast _ _ _ _).mono (fun _ look => look)
      fun _ updates => .update updates
  | ensure record => exact gateway.ensure_writesLast record
  | upsert condition changes => exact gateway.upsert_writesLast condition changes
  | replaceOne record strict =>
    exact (gateway.replaceMany_writesLast _ strict).mono (fun _ look => look)
      fun _ replaces => .replaceOne replaces
  | replaceMany records strict =>
    exact (gateway.replaceMany_writesLast records strict).mono (fun _ look => look)
      fun _ replaces => .replaceMany replaces
  | upsertMany records duplicateKey duplicateValue strict =>
    exact (gateway.upsertMany_writesLast _ _ _ strict).mono (fun _ look => .lookUp look)
      fun _ upserts => .upsertMany upserts
  | disable condition =>
    exact (gateway.disable_writesLast condition).mono (fun _ look => .lookUp look)
      fun _ hides => .disable hides
  | enable condition =>
    exact (gateway.enable_writesLast condition).mono (fun _ look => .lookUp look)
      fun _ revives => .enable revives
  | delete condition =>
    exact (gateway.delete_writesLast condition).mono (fun _ look => look)
      fun _ deletes => .delete deletes

end Operation

end TableGateway
