/-
This file follows a gateway through the conversations of which its larger operations are
put together. A look for one row asks once and comes to nothing, to a typed row, or to a
failure. An insertion is checked as a whole before it is sent, and an update likewise; what
they come to is what the handle answers.
-/

import TableGateway.Proofs.Conversation
import TableGateway.Proofs.SettledForm
import TableGateway.Proofs.StrictWrites

namespace TableGateway

namespace Schema

variable {schema : Schema}

/-- Typed records come from rows one by one. -/
theorem formatRows_eq_nil {rows : List Value} (typed : schema.formatRows rows = .ok []) :
    rows = [] := by
  cases rows with
  | nil => rfl
  | cons row rest =>
    obtain ⟨data, _, typed⟩ := ok_of_bind typed
    obtain ⟨others, _, assembled⟩ := ok_of_bind typed
    cases assembled

theorem formatRows_eq_cons {row : Value} {rows : List Value} {found : Record}
    {others : List Record} (typed : schema.formatRows (row :: rows) = .ok (found :: others)) :
    schema.toData row = .ok found ∧ schema.formatRows rows = .ok others := by
  obtain ⟨data, loaded, typed⟩ := ok_of_bind typed
  obtain ⟨later, typedLater, assembled⟩ := ok_of_bind typed
  cases assembled
  exact ⟨loaded, typedLater⟩

/-- Where all fields have names, the hidden flag is the name of a boolean field. -/
theorem exists_flag_spec (named : ∀ key ∈ schema.fieldNames, ∃ name, key = Value.text name)
    {flag : Value} (declared : schema.hiddenFlag = some flag) :
    ∃ name spec, flag = .text name ∧ schema.spec? (.text name) = some spec ∧
      spec.formatter = .boolean := by
  obtain ⟨spec, found, isBoolean⟩ := schema.flag_declared flag declared
  obtain ⟨own, equal, member⟩ := Entries.exists_mem_of_get? found
  obtain ⟨name, rfl⟩ := named own (List.mem_map_of_mem member)
  have isName := (Value.text_equal_iff name flag).mp equal
  subst isName
  refine ⟨name, spec, rfl, found, ?_⟩
  revert isBoolean
  cases spec.formatter <;> simp [Formatter.kind]

/-- A truth value is bound for a boolean field as it stands. -/
theorem binds_bool {record : Record} {name : String} {spec : FieldSpec} {truth : Bool}
    (declared : schema.spec? (.text name) = some spec) (isBoolean : spec.formatter = .boolean)
    (given : record.named? name = some (.bool truth)) :
    schema.Binds record name (.bool truth) := by
  have formatted : spec.formatter.format (.bool truth) = .ok (.bool truth) := by
    rw [isBoolean]
    cases truth <;> rfl
  have dumped : spec.formatter.dump (.bool truth) = .ok (.bool truth) := by
    rw [isBoolean]
    rfl
  exact .field declared given rfl formatted dumped

end Schema

namespace Record

/-- The record that has values under the names of columns. -/
def ofColumns (written : List (Identifier × Value)) : Record :=
  written.map fun assignment => (.text assignment.1.name, assignment.2)

theorem keys_ofColumns (written : List (Identifier × Value)) :
    (ofColumns written).keys = (written.map Prod.fst).map fun column => .text column.name := by
  rw [Entries.keys, ofColumns, List.map_map, List.map_map]
  rfl

/-- A record whose keys are the names of columns has its values in these columns. -/
theorem exists_ofColumns {record : Record} {columns : List Identifier}
    (named : record.keys = columns.map fun column => .text column.name) :
    ∃ written, record = ofColumns written ∧ written.map Prod.fst = columns := by
  induction columns generalizing record with
  | nil => exact ⟨[], List.map_eq_nil_iff.mp named, rfl⟩
  | cons column rest inductionHypothesis =>
    obtain ⟨⟨key, value⟩, others, rfl, isName, later⟩ := List.map_eq_cons_iff.mp named
    obtain ⟨written, rfl, same⟩ := inductionHypothesis later
    cases isName
    exact ⟨(column, value) :: written, rfl, congrArg (List.cons column) same⟩

theorem mem_ofColumns_iff {written : List (Identifier × Value)} {column : Identifier}
    {value : Value} :
    (.text column.name, value) ∈ ofColumns written ↔ (column, value) ∈ written := by
  constructor
  · intro member
    obtain ⟨⟨other, own⟩, among, same⟩ := List.mem_map.mp member
    obtain ⟨sameName, rfl⟩ := Prod.mk.inj same
    rwa [← Identifier.ext_name (Value.text.inj sameName)]
  · exact List.mem_map_of_mem

/-- What stands under a name is the value of a column of that name. -/
theorem exists_column_of_mem {written : List (Identifier × Value)} {name : String} {value : Value}
    (member : (.text name, value) ∈ ofColumns written) :
    ∃ column, column.name = name ∧ (column, value) ∈ written := by
  obtain ⟨⟨column, own⟩, among, same⟩ := List.mem_map.mp member
  cases same
  exact ⟨column, rfl, among⟩

/-- The values of distinct columns, in the order of the columns. -/
theorem valuesUnder_ofColumns {written : List (Identifier × Value)}
    (distinct : (ofColumns written).AreDistinct) :
    Endpoint.valuesUnder (ofColumns written).keys [ofColumns written] =
      [written.map Prod.snd] := by
  rw [Endpoint.valuesUnder, List.map_singleton, Entries.keys, List.map_map, ofColumns, List.map_map]
  refine congrArg (fun values => [values]) (List.map_congr_left fun assignment member => ?_)
  have given : (ofColumns written).named? assignment.1.name = some assignment.2 :=
    Entries.named?_of_mem distinct (mem_ofColumns_iff.mpr member)
  rw [Entries.named?] at given
  exact congrArg (Option.getD · Value.null) given

end Record

namespace Gateway

variable {gateway : Gateway} {exchanges : List Exchange}

/-- Where all fields can be selected, they have names. -/
theorem exists_columns_of_projectionOf {selected : Projection}
    (chosen : gateway.projectionOf everything = .ok selected) :
    ∃ columns : List Identifier,
      gateway.schema.fieldNames = columns.map fun column => .text column.name := by
  rw [projectionOf] at chosen
  split at chosen
  · obtain ⟨columns, named, _⟩ := ok_of_bind chosen
    exact ⟨columns, Identifier.ofValues?_eq_ok (orRefuse_eq_ok named)⟩
  · rename_i nothing
    have whole : isEverything everything = true := rfl
    rw [whole, Bool.true_and, Bool.not_eq_true', Bool.not_eq_false, List.isEmpty_iff] at nothing
    exact ⟨[], by rw [Schema.fieldNames, nothing]; rfl⟩

/-- The row of a form whose fields have names has columns. -/
theorem exists_ofColumns_toRow
    {selected : Projection} (chosen : gateway.projectionOf everything = .ok selected)
    {form row : Record} (settled : Schema.IsSettled gateway.schema.fields form)
    (dumped : gateway.schema.toRow form = .ok row) :
    ∃ written, row = Record.ofColumns written := by
  obtain ⟨all, named⟩ := exists_columns_of_projectionOf chosen
  have ordered : row.keys.Sublist (all.map fun column => .text column.name) := by
    rw [Schema.keys_toRow dumped, ← named]
    exact settled.ordered
  obtain ⟨columns, -, keys⟩ := List.sublist_map_iff.mp ordered
  obtain ⟨written, same, -⟩ := Record.exists_ofColumns keys
  exact ⟨written, same⟩

theorem Reads.named {condition ensureNotDeleted order limit : Value} {lookup : Statement}
    (reads : gateway.Reads condition ensureNotDeleted everything order limit lookup) :
    ∀ key ∈ gateway.schema.fieldNames, ∃ name, key = .text name := by
  cases reads with
  | select compiled chosen =>
    obtain ⟨columns, named⟩ := exists_columns_of_projectionOf chosen
    intro key member
    rw [named] at member
    obtain ⟨column, -, same⟩ := List.mem_map.mp member
    exact ⟨column.name, same.symm⟩

/-- A form that was projected before is written as it is, unless an integer field holds a name: then
it is refused. -/
theorem formOf_of_isSettled (named : ∀ key ∈ gateway.schema.fieldNames, ∃ name, key = .text name)
    {form : Record} (settled : Schema.IsSettled gateway.schema.fields form) :
    gateway.formOf (.dict form) true = gateway.schema.toRow form ∧
        ¬Schema.HoldsName gateway.schema.fields form ∨
      (∃ failure, gateway.formOf (.dict form) true = .error failure) ∧
        Schema.HoldsName gateway.schema.fields form := by
  have unfolded : gateway.formOf (.dict form) true =
      gateway.schema.strictRecord form >>= gateway.schema.toRow := rfl
  rw [unfolded]
  rcases Schema.strictRecord_of_isSettled named settled with
    ⟨kept, without⟩ | ⟨⟨failure, refused⟩, holds⟩
  · rw [kept]
    exact .inl ⟨rfl, without⟩
  · rw [refused]
    exact .inr ⟨⟨failure, rfl⟩, holds⟩

/-! ### Looking for one row -/

/-- The look for the row of a condition, once all has been checked. -/
def lookupOf (gateway : Gateway) (condition ensureNotDeleted : Value) :
    Except Failure Statement := do
  let clause ← gateway.clauseOf condition ensureNotDeleted .null uniqueLimit
  let selected ← gateway.projectionOf everything
  return .select selected gateway.table clause

/-- The row that is found among rows, typed: the only one, or the first of several where the gateway
takes that. -/
def rowOf (gateway : Gateway) (condition : Value) (rows : List Record) :
    Except Failure (Option Record) := do
  match ← gateway.schema.formatRows (rows.map .dict) with
  | [] => return none
  | [row] => return some row
  | row :: _ =>
    if gateway.allowMultiple then return some row
    else throw (.severalRows gateway.table.name condition)

/-- A row that is found with no other, or with others that may be there, is the one. -/
theorem rowOf_of_typed {condition : Value} {rows : List Record} {found : Record}
    {others : List Record}
    (typed : gateway.schema.formatRows (rows.map .dict) = .ok (found :: others))
    (single : others = [] ∨ gateway.allowMultiple = true) :
    gateway.rowOf condition rows = .ok (some found) := by
  rw [rowOf, typed]
  cases others with
  | nil => rfl
  | cons => exact if_pos (single.resolve_left nofun)

theorem Reads.lookupOf {condition ensureNotDeleted : Value} {lookup : Statement}
    (reads : gateway.Reads condition ensureNotDeleted everything .null uniqueLimit lookup) :
    gateway.lookupOf condition ensureNotDeleted = .ok lookup := by
  cases reads with
  | select compiled chosen =>
    rw [Gateway.lookupOf, compiled]
    show (gateway.projectionOf everything >>= _) = _
    rw [chosen]
    rfl

/-- A condition that is looked for offers a record. -/
theorem Reads.exists_record {condition ensureNotDeleted projection order limit : Value}
    {lookup : Statement}
    (reads : gateway.Reads condition ensureNotDeleted projection order limit lookup) :
    ∃ record, condition.toRecord = .ok record := by
  cases reads with
  | select compiled chosen =>
    obtain ⟨record, _, offered, _⟩ := clauseOf_eq_ok compiled
    exact ⟨record, offered⟩

/-- What a look for the row of a condition exchanges, and what it finds. -/
inductive Finds (gateway : Gateway) (condition ensureNotDeleted : Value) :
    List Exchange → Except Failure (Option Record) → Prop where
  | unasked (failure : Failure)
      (checked : gateway.lookupOf condition ensureNotDeleted = .error failure) :
      gateway.Finds condition ensureNotDeleted [] (.error failure)
  | failing {lookup : Statement} (answer : Except Failure Reply) (failure : Failure)
      (reads : gateway.Reads condition ensureNotDeleted everything .null uniqueLimit lookup)
      (fails : (answer >>= fun reply => gateway.rowOf condition reply.rows) = .error failure) :
      gateway.Finds condition ensureNotDeleted [(lookup, answer)] (.error failure)
  | nothing {lookup : Statement} {reply : Reply}
      (reads : gateway.Reads condition ensureNotDeleted everything .null uniqueLimit lookup)
      (empty : reply.rows = []) :
      gateway.Finds condition ensureNotDeleted [(lookup, .ok reply)] (.ok none)
  | row {lookup : Statement} {reply : Reply} {found : Record} {others : List Record}
      (reads : gateway.Reads condition ensureNotDeleted everything .null uniqueLimit lookup)
      (typed : gateway.schema.formatRows (reply.rows.map .dict) = .ok (found :: others))
      (taken : others = [] ∨ gateway.allowMultiple = true) :
      gateway.Finds condition ensureNotDeleted [(lookup, .ok reply)] (.ok (some found))

theorem finds_of_findOne {condition ensureNotDeleted : Value}
    {outcome : Except Failure (Option Record)}
    (talk : (gateway.findOne condition ensureNotDeleted everything .null).Converses exchanges
      outcome) :
    gateway.Finds condition ensureNotDeleted exchanges outcome := by
  unfold findOne at talk
  rw [find_eq, bind_assoc] at talk
  rcases talk.of_bind_check (gateway.silent_compile_bucketsOf _ _ _ _) with
    ⟨failure, refused, rfl, rfl⟩ | ⟨clause, compiled, talk⟩
  · exact .unasked failure (by rw [lookupOf, refused]; rfl)
  unfold selectRows at talk
  simp only [bind_assoc] at talk
  rcases talk.of_bind_check (Plan.silent_ofExcept _) with
    ⟨failure, refused, rfl, rfl⟩ | ⟨selected, chosen, talk⟩
  · refine .unasked failure ?_
    rw [lookupOf, compiled]
    show (gateway.projectionOf everything >>= _) = _
    rw [refused]
    rfl
  have reads := Reads.select compiled chosen
  rcases (talk.of_bind_said (gateway.silent_announce _ _)).of_bind_ask with
    ⟨failure, rfl, rfl⟩ | ⟨reply, rest, rfl, answered⟩
  · exact .failing _ failure reads rfl
  have typing : isEverything everything = true := rfl
  rw [if_pos typing] at answered
  rcases answered.of_bind_check (Plan.silent_ofExcept _) with
    ⟨failure, refused, rfl, rfl⟩ | ⟨rows, typed, taken⟩
  · refine .failing _ failure reads ?_
    show gateway.rowOf condition reply.rows = _
    rw [rowOf, refused]
    rfl
  split at taken
  · cases taken
    exact .nothing reads (List.map_eq_nil_iff.mp (Schema.formatRows_eq_nil typed))
  · cases taken
    exact .row reads typed (.inl rfl)
  · split at taken
    · rename_i allowed
      cases taken with
      | noted said =>
        cases said
        exact .row reads typed (.inr allowed)
    · rename_i tail several refused
      cases taken
      refine .failing _ _ reads ?_
      show gateway.rowOf condition reply.rows = _
      rw [rowOf, typed]
      cases tail with
      | nil => exact absurd rfl several
      | cons => exact if_neg refused

/-! ### Inserting a record -/

/-- The insertion of a form, once all has been checked. -/
def insertionOfForm (gateway : Gateway) (form : Record) : Except Failure Statement :=
  if form.isEmpty then refuse (.noFields gateway.model .insert)
  else do
    let _ ← ParamStyle.forPlaces gateway.endpoint.dialect.styleName
    Endpoint.insertion (.text gateway.table.name) form.keys [form]

/-- The insertion of a record, once all has been checked. -/
def insertionOf (gateway : Gateway) (record : Value) (strict : Bool) :
    Except Failure Statement := do
  gateway.insertionOfForm (← gateway.formOf record strict)

/-- The insertion of a form has the fields of the form for columns. -/
theorem exists_columns_of_insertionOfForm {form : Record} {statement : Statement}
    (checked : gateway.insertionOfForm form = .ok statement) :
    ∃ columns, Identifier.ofValues? form.keys = .ok columns ∧ statement =
      .insert gateway.table columns (Endpoint.valuesUnder form.keys [form]) none := by
  have named : Identifier.ofValue? (.text gateway.table.name) = .ok gateway.table :=
    Identifier.ofName?_name gateway.table
  rw [insertionOfForm] at checked
  split at checked
  · cases checked
  · obtain ⟨_, _, checked⟩ := ok_of_bind checked
    rw [Endpoint.insertion, named] at checked
    obtain ⟨table, sameTable, checked⟩ := ok_of_bind checked
    cases sameTable
    obtain ⟨columns, passed, assembled⟩ := ok_of_bind checked
    cases assembled
    exact ⟨columns, orRefuse_eq_ok passed, rfl⟩

/-- The insertion of a form writes the form. -/
theorem insertionOfForm_eq_ok {form : Record} (distinct : form.AreDistinct) {statement : Statement}
    (checked : gateway.insertionOfForm form = .ok statement) :
    ∃ written, form = Record.ofColumns written ∧
      statement = .insert gateway.table (written.map Prod.fst) [written.map Prod.snd] none := by
  obtain ⟨columns, named, rfl⟩ := exists_columns_of_insertionOfForm checked
  obtain ⟨written, rfl, rfl⟩ := Record.exists_ofColumns (Identifier.ofValues?_eq_ok named)
  exact ⟨written, rfl, by rw [Record.valuesUnder_ofColumns distinct]⟩

/-- Values in distinct columns can be inserted where the style has places for them. -/
theorem insertionOfForm_ofColumns {written : List (Identifier × Value)} {style : ParamStyle}
    (distinct : (Record.ofColumns written).AreDistinct) (something : written ≠ [])
    (placed : ParamStyle.forPlaces gateway.endpoint.dialect.styleName = .ok style) :
    gateway.insertionOfForm (Record.ofColumns written) =
      .ok (.insert gateway.table (written.map Prod.fst) [written.map Prod.snd] none) := by
  have table : Identifier.ofValue? (.text gateway.table.name) = .ok gateway.table :=
    Identifier.ofName?_name gateway.table
  have columns : Identifier.ofValues? (Record.ofColumns written).keys =
      .ok (written.map Prod.fst) := by
    rw [Record.keys_ofColumns]
    exact Identifier.ofValues?_names _
  have nonempty : (Record.ofColumns written).isEmpty = false := by
    cases written with
    | nil => exact absurd rfl something
    | cons => rfl
  rw [insertionOfForm, nonempty, if_neg Bool.false_ne_true, placed,
    ← Record.valuesUnder_ofColumns distinct]
  show Endpoint.insertion _ _ _ = _
  rw [Endpoint.insertion, table, columns]
  rfl

/-- An insertion is refused, or sent, and then gives the identifier of the new row. -/
theorem converses_add {record : Value} {strict : Bool} {outcome : Except Failure (Option Int)}
    (talk : (gateway.add record strict).Converses exchanges outcome) :
    (∃ failure, gateway.insertionOf record strict = .error failure ∧ exchanges = [] ∧
      outcome = .error failure) ∨
    ∃ insertion answer, gateway.insertionOf record strict = .ok insertion ∧
      exchanges = [(insertion, answer)] ∧ outcome = answer.map Reply.insertId := by
  rcases talk.of_bind_check (gateway.silent_writeForm record strict) with
    ⟨failure, refused, rfl, rfl⟩ | ⟨form, written, rest⟩
  · exact .inl ⟨failure, by rw [insertionOf, refused]; rfl, rfl, rfl⟩
  have reduced : gateway.insertionOf record strict = gateway.insertionOfForm form := by
    rw [insertionOf, written]
    rfl
  rw [reduced, insertionOfForm]
  by_cases empty : form.isEmpty = true
  · rw [if_pos empty] at rest ⊢
    cases rest
    exact .inl ⟨_, rfl, rfl, rfl⟩
  rw [if_neg empty] at rest ⊢
  unfold Endpoint.insertRecords at rest
  simp only [bind_assoc] at rest
  rcases rest.of_bind_check (Plan.silent_ofExcept _) with
    ⟨failure, refused, rfl, rfl⟩ | ⟨style, placed, rest⟩
  · exact .inl ⟨failure, by rw [refused]; rfl, rfl, rfl⟩
  rw [placed]
  rcases rest.of_bind_check (Plan.silent_ofExcept _) with
    ⟨failure, refused, rfl, rfl⟩ | ⟨insertion, inserted, rest⟩
  · exact .inl ⟨failure, refused, rfl, rfl⟩
  obtain ⟨answer, exchanged, concluded⟩ := rest.of_bind_last fun reply => Plan.silent_bind _ _
  exact .inr ⟨insertion, answer, inserted, exchanged, concluded⟩

/-! ### Changing rows -/

/-- The values of columns can be set where the style has places for them. -/
theorem assignmentsOf_ofColumns {style : ParamStyle}
    (placed : ParamStyle.forPlaces gateway.endpoint.dialect.styleName = .ok style)
    (written : List (Identifier × Value)) :
    gateway.assignmentsOf (Record.ofColumns written) = .ok written := by
  induction written with
  | nil => rfl
  | cons assignment rest inductionHypothesis =>
    have named : Identifier.ofValue? (.text assignment.1.name) = .ok assignment.1 :=
      Identifier.ofName?_name assignment.1
    show gateway.assignmentsOf
      ((.text assignment.1.name, assignment.2) :: Record.ofColumns rest) = _
    rw [assignmentsOf, named, placed, inductionHypothesis]
    rfl

/-- The update of the rows of a condition, once all has been checked, if there is anything to
change. -/
def updateOf (gateway : Gateway) (condition changes ensureNotDeleted : Value) :
    Except Failure (Option Statement) := do
  let form ← gateway.formOf changes true
  if form.isEmpty then return none
  else
    let clause ← gateway.clauseOf condition ensureNotDeleted .null .null
    if clause.predicates.isEmpty && !gateway.allowUpdateAll then
      refuse (.everyRow gateway.model .update gateway.table.name)
    else return some (.update gateway.table (← gateway.assignmentsOf form) clause.predicates)

theorem updateOf_eq {condition changes ensureNotDeleted : Value} {form : Record}
    (written : gateway.formOf changes true = .ok form) (something : ¬form.isEmpty = true) :
    gateway.updateOf condition changes ensureNotDeleted =
      gateway.clauseOf condition ensureNotDeleted .null .null >>= fun clause =>
        if clause.predicates.isEmpty && !gateway.allowUpdateAll then
          refuse (.everyRow gateway.model .update gateway.table.name)
        else gateway.assignmentsOf form >>= fun assignments =>
          .ok (some (.update gateway.table assignments clause.predicates)) := by
  rw [updateOf, written]
  exact if_neg something

/-- An update is refused; or it has nothing to change, and sends nothing; or it is sent, and gives
the number of rows that were changed. -/
theorem converses_update {condition changes ensureNotDeleted : Value}
    {outcome : Except Failure Int}
    (talk : (gateway.update condition changes ensureNotDeleted true).Converses exchanges
      outcome) :
    (∃ failure, gateway.updateOf condition changes ensureNotDeleted = .error failure ∧
      exchanges = [] ∧ outcome = .error failure) ∨
    gateway.formOf changes true = .ok [] ∧ exchanges = [] ∧ outcome = .ok 0 ∨
    ∃ update answer, gateway.formOf changes true ≠ .ok [] ∧
      gateway.Updates condition changes ensureNotDeleted true update ∧
      exchanges = [(update, answer)] ∧ outcome = answer.map Reply.affected := by
  rcases talk.of_bind_check (gateway.silent_writeForm changes true) with
    ⟨failure, refused, rfl, rfl⟩ | ⟨form, written, rest⟩
  · exact .inl ⟨failure, by rw [updateOf, refused]; rfl, rfl, rfl⟩
  split at rest
  · rename_i empty
    rw [List.isEmpty_iff] at empty
    cases rest with
    | noted said =>
      cases said
      exact .inr (.inl ⟨empty ▸ written, rfl, rfl⟩)
  rename_i nonempty
  have reduced : gateway.updateOf condition changes ensureNotDeleted = _ :=
    updateOf_eq written nonempty
  have something : gateway.formOf changes true ≠ .ok [] := fun empty => by
    cases written.symm.trans empty
    exact nonempty rfl
  rcases rest.of_bind_check (gateway.silent_conditionClause condition ensureNotDeleted) with
    ⟨failure, refused, rfl, rfl⟩ | ⟨clause, compiled, rest⟩
  · exact .inl ⟨failure, by rw [reduced, refused]; rfl, rfl, rfl⟩
  rw [compiled] at reduced
  change _ = if clause.predicates.isEmpty && !gateway.allowUpdateAll then _ else _ at reduced
  split at rest
  · rename_i unconfined
    cases rest
    exact .inl ⟨_, by rw [reduced, if_pos unconfined]; rfl, rfl, rfl⟩
  rename_i passed
  rw [if_neg passed] at reduced
  rcases rest.of_bind_check (Plan.silent_ofExcept _) with
    ⟨failure, refused, rfl, rfl⟩ | ⟨assignments, named, rest⟩
  · exact .inl ⟨failure, by rw [reduced, refused]; rfl, rfl, rfl⟩
  obtain ⟨answer, exchanged, concluded⟩ :=
    (rest.of_bind_said (gateway.silent_announce _ _)).of_bind_last fun reply => Plan.silent_bind _ _
  exact .inr (.inr ⟨_, answer, something,
    .update written compiled (confined_of_not_refused passed) named, exchanged, concluded⟩)

/-- The form of the flag alone has the flag, as it stands. -/
theorem mem_formOf_flag (named : ∀ key ∈ gateway.schema.fieldNames, ∃ name, key = .text name)
    {flag : Value} (declared : gateway.schema.hiddenFlag = some flag) {truth : Bool} {form : Record}
    (written : gateway.formOf (.dict [(flag, .bool truth)]) true = .ok form) :
    ∃ name, flag = .text name ∧ (.text name, .bool truth) ∈ form := by
  obtain ⟨name, spec, rfl, specified, isBoolean⟩ := Schema.exists_flag_spec named declared
  obtain ⟨record, offered, projects⟩ := projects_of_formOf written
  cases offered
  have given := Entries.named?_cons_self name (Value.bool truth) []
  exact ⟨name, rfl, projects.mem_of_binds (Schema.binds_bool specified isBoolean given)⟩

/-- Rows are brought back after a look at the columns, by an update that sets the flag to false.
There is always something to change, so that it fails only where the look does, where the update is
refused, or where it is not answered. -/
theorem converses_enable
    (named : ∀ key ∈ gateway.schema.fieldNames, ∃ name, key = .text name) {flag condition : Value}
    (declared : gateway.schema.hiddenFlag = some flag) {outcome : Except Failure WriteResult}
    (talk : (gateway.enable condition).Converses exchanges outcome) :
    (∃ failure, (gateway.ensureColumns [flag]).Converses exchanges (.error failure) ∧
      outcome = .error failure) ∨
    ∃ looked, (gateway.ensureColumns [flag]).Converses looked (.ok ()) ∧
      ((∃ failure,
        gateway.updateOf condition (.dict [(flag, .bool false)]) (.bool false) = .error failure ∧
          exchanges = looked ∧ outcome = .error failure) ∨
      ∃ update answer, gateway.SetsFlag false condition update ∧
        exchanges = looked ++ [(update, answer)] ∧
        outcome = answer.map fun reply => ⟨.enable, reply.affected, none⟩) := by
  unfold enable setFlag at talk
  rw [declared] at talk
  rcases talk.of_bind with ⟨failure, missing, rfl⟩ | ⟨_, looked, rest, looking, updating, rfl⟩
  · exact .inl ⟨failure, missing, rfl⟩
  refine .inr ⟨looked, looking, ?_⟩
  obtain ⟨ended, updated, rfl⟩ := updating.of_bind_pure
  rcases converses_update updated with ⟨failure, refused, rfl, rfl⟩ | ⟨empty, _, _⟩ |
    ⟨update, answer, -, updates, rfl, rfl⟩
  · exact .inl ⟨failure, refused, List.append_nil looked, rfl⟩
  · obtain ⟨name, -, member⟩ := mem_formOf_flag named declared empty
    exact absurd member List.not_mem_nil
  · refine .inr ⟨update, answer, .update declared updates, rfl, ?_⟩
    cases answer <;> rfl

end Gateway

end TableGateway
