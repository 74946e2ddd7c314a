/-
This file says what an upsert exchanges and what it reports. It looks for one row. If
there is none, it inserts the condition overlaid with the changes; else it changes the row
that it found, hidden or not, and brings it back. What it reports is the record that it
has written, or the row it found with what it has written laid over it.
-/

import TableGateway.Proofs.Dialogue

namespace TableGateway

namespace Gateway

/-- What an upsert exchanges, and what it comes to. -/
inductive Upserts (gateway : Gateway) (condition changes : Value) :
    List Exchange → Except Failure UpsertResult → Prop where
  /-- The changes are no record, or the look cannot be asked. -/
  | unasked (failure : Failure)
      (checked : (changes.toRecord >>= fun _ => gateway.lookupOf condition (.bool false)) =
        .error failure) :
      gateway.Upserts condition changes [] (.error failure)
  /-- The look is not answered, or gives a row that cannot be typed, or too many. -/
  | failing {lookup : Statement} (answer : Except Failure Reply) (failure : Failure)
      (reads : gateway.Reads condition (.bool false) everything .null uniqueLimit lookup)
      (fails : (answer >>= fun reply => gateway.rowOf condition reply.rows) = .error failure) :
      gateway.Upserts condition changes [(lookup, answer)] (.error failure)
  /-- There is no row, and the record cannot be inserted. -/
  | uninserted {lookup : Statement} {reply : Reply} {base changed : Record} {failure : Failure}
      (reads : gateway.Reads condition (.bool false) everything .null uniqueLimit lookup)
      (empty : reply.rows = []) (asked : condition.toRecord = .ok base)
      (given : changes.toRecord = .ok changed)
      (checked : (gateway.schema.strictRecord (base.overlay changed) >>= fun data =>
        gateway.insertionOf (.dict data) true) = .error failure) :
      gateway.Upserts condition changes [(lookup, .ok reply)] (.error failure)
  /-- There is no row, so it inserts the record that it reports. -/
  | inserted {lookup : Statement} {reply : Reply} {base changed data : Record}
      {written : List (Identifier × Value)} (answer : Except Failure Reply)
      (reads : gateway.Reads condition (.bool false) everything .null uniqueLimit lookup)
      (empty : reply.rows = []) (asked : condition.toRecord = .ok base)
      (given : changes.toRecord = .ok changed)
      (taken : gateway.schema.strictRecord (base.overlay changed) = .ok data)
      (dumped : gateway.schema.toRow data = .ok (Record.ofColumns written))
      (formed : gateway.formOf (.dict data) true = .ok (Record.ofColumns written)) :
      gateway.Upserts condition changes
        [(lookup, .ok reply),
          (.insert gateway.table (written.map Prod.fst) [written.map Prod.snd] none, answer)]
        (answer.map fun reply => ⟨.insert, data, reply.insertId⟩)
  /-- There is a live row, and nothing to change. -/
  | unchanged {lookup : Statement} {reply : Reply} {found changed : Record} {others : List Record}
      (reads : gateway.Reads condition (.bool false) everything .null uniqueLimit lookup)
      (typed : gateway.schema.formatRows (reply.rows.map .dict) = .ok (found :: others))
      (single : others = [] ∨ gateway.allowMultiple = true)
      (given : changes.toRecord = .ok changed) (live : gateway.isHidden found = false)
      (taken : gateway.schema.strictRecord changed = .ok []) :
      gateway.Upserts condition changes [(lookup, .ok reply)] (.ok ⟨.update, found, some 0⟩)
  /-- There is a row, and the changes have no form. -/
  | unformed {lookup : Statement} {reply : Reply} {found changed : Record} {others : List Record}
      {failure : Failure}
      (reads : gateway.Reads condition (.bool false) everything .null uniqueLimit lookup)
      (typed : gateway.schema.formatRows (reply.rows.map .dict) = .ok (found :: others))
      (single : others = [] ∨ gateway.allowMultiple = true)
      (given : changes.toRecord = .ok changed)
      (checked : gateway.formOf (.dict (gateway.revived found changed)) true = .error failure) :
      gateway.Upserts condition changes [(lookup, .ok reply)] (.error failure)
  /-- There is a row, and every row would be changed, which is not allowed. -/
  | unconfined {lookup : Statement} {reply : Reply} {found changed : Record}
      {others : List Record} {clause : Clause}
      (reads : gateway.Reads condition (.bool false) everything .null uniqueLimit lookup)
      (typed : gateway.schema.formatRows (reply.rows.map .dict) = .ok (found :: others))
      (single : others = [] ∨ gateway.allowMultiple = true)
      (given : changes.toRecord = .ok changed)
      (something : gateway.formOf (.dict (gateway.revived found changed)) true ≠ .ok [])
      (compiled : gateway.clauseOf condition (.bool false) .null .null = .ok clause)
      (every : clause.predicates = []) (refused : gateway.allowUpdateAll = false) :
      gateway.Upserts condition changes [(lookup, .ok reply)]
        (.error (.invalid (.everyRow gateway.model .update gateway.table.name)))
  /-- There is a row, and it changes the rows of the condition. -/
  | updated {lookup : Statement} {reply : Reply} {found changed form : Record}
      {others : List Record} {clause : Clause} {written : List (Identifier × Value)}
      (answer : Except Failure Reply)
      (reads : gateway.Reads condition (.bool false) everything .null uniqueLimit lookup)
      (typed : gateway.schema.formatRows (reply.rows.map .dict) = .ok (found :: others))
      (single : others = [] ∨ gateway.allowMultiple = true)
      (given : changes.toRecord = .ok changed)
      (taken : gateway.schema.strictRecord (gateway.revived found changed) = .ok form)
      (something : form ≠ [])
      (dumped : gateway.schema.toRow form = .ok (Record.ofColumns written))
      (compiled : gateway.clauseOf condition (.bool false) .null .null = .ok clause)
      (clears : gateway.isHidden found = true → ∃ column,
        gateway.schema.hiddenFlag = some (.text column.name) ∧ (column, .bool false) ∈ written)
      (spares : gateway.isHidden found = false → ∀ column ∈ written.map Prod.fst,
        ∃ raw, changed.named? column.name = some raw) :
      gateway.Upserts condition changes
        [(lookup, .ok reply), (.update gateway.table written clause.predicates, answer)]
        (answer.map fun reply => ⟨.update, found.overlay form, some reply.affected⟩)

variable {gateway : Gateway} {condition changes : Value} {exchanges : List Exchange}
  {outcome : Except Failure UpsertResult}

/-! ### The flag of the row that was found -/

/-- The changes of a live row are taken as they are. -/
theorem revived_of_live {found : Record} (live : gateway.isHidden found = false)
    (changed : Record) : gateway.revived found changed = changed := by
  unfold revived
  split
  · rw [live, if_neg Bool.false_ne_true]
  · rfl

/-- With the changes of a hidden row, false is bound for the flag. -/
theorem binds_revived (named : ∀ key ∈ gateway.schema.fieldNames, ∃ name, key = .text name)
    {found : Record} (hidden : gateway.isHidden found = true) (changed : Record) :
    ∃ name, gateway.schema.hiddenFlag = some (.text name) ∧
      gateway.schema.Binds (gateway.revived found changed) name (.bool false) := by
  cases declared : gateway.schema.hiddenFlag with
  | none =>
    rw [isHidden, declared] at hidden
    cases hidden
  | some flag =>
    obtain ⟨name, spec, rfl, specified, isBoolean⟩ := Schema.exists_flag_spec named declared
    refine ⟨name, rfl, Schema.binds_bool specified isBoolean ?_⟩
    rw [revived, declared, hidden]
    exact Entries.named?_put changed name (.bool false)

/-- The changes of a hidden row set its flag to false. -/
theorem clears_of_projects (named : ∀ key ∈ gateway.schema.fieldNames, ∃ name, key = .text name)
    {found changed : Record} {written : List (Identifier × Value)}
    (projects : gateway.schema.Projects (gateway.revived found changed)
      (Record.ofColumns written))
    (hidden : gateway.isHidden found = true) :
    ∃ column, gateway.schema.hiddenFlag = some (.text column.name) ∧
      (column, .bool false) ∈ written := by
  obtain ⟨name, declared, binds⟩ := binds_revived named hidden changed
  obtain ⟨column, rfl, member⟩ := Record.exists_column_of_mem (projects.mem_of_binds binds)
  exact ⟨column, declared, member⟩

/-- The changes of a live row set what they name, and nothing else. -/
theorem spares_of_projects {found changed : Record} {written : List (Identifier × Value)}
    (projects : gateway.schema.Projects (gateway.revived found changed)
      (Record.ofColumns written))
    (live : gateway.isHidden found = false) :
    ∀ column ∈ written.map Prod.fst, ∃ raw, changed.named? column.name = some raw := by
  intro column member
  obtain ⟨⟨_, value⟩, among, rfl⟩ := List.mem_map.mp member
  rw [revived_of_live live] at projects
  obtain ⟨-, given, -, -, -⟩ := projects.binds (Record.mem_ofColumns_iff.mpr among)
  exact ⟨_, given⟩

/-! ### What is refused -/

/-- After a look for the rows of a condition, an update of these is refused for the form of its
changes, or because it would change every row. -/
theorem refused_of_updateOf {lookup : Statement} {updates : Value} {failure : Failure}
    (reads : gateway.Reads condition (.bool false) everything .null uniqueLimit lookup)
    (refused : gateway.updateOf condition updates (.bool false) = .error failure) :
    gateway.formOf updates true = .error failure ∨
      ∃ clause, gateway.formOf updates true ≠ .ok [] ∧
        gateway.clauseOf condition (.bool false) .null .null = .ok clause ∧
        clause.predicates = [] ∧ gateway.allowUpdateAll = false ∧
        failure = .invalid (.everyRow gateway.model .update gateway.table.name) := by
  cases reads with
  | @select clause _ compiled chosen =>
    obtain ⟨style, placed⟩ := forPlaces_of_clauseOf compiled
    cases written : gateway.formOf updates true with
    | error other =>
      rw [updateOf, written] at refused
      cases refused
      exact .inl rfl
    | ok form =>
      by_cases something : form.isEmpty = true
      · rw [updateOf, written] at refused
        cases (if_pos something).symm.trans refused
      have nonempty : form ≠ [] := fun nothing => something (by rw [nothing]; rfl)
      rw [updateOf_eq written something, clauseOf_unlimited compiled] at refused
      change (if clause.predicates.isEmpty && !gateway.allowUpdateAll then _ else _) =
        Except.error failure at refused
      split at refused
      · rename_i unconfined
        rw [Bool.and_eq_true, List.isEmpty_iff, Bool.not_eq_true'] at unconfined
        cases refused
        exact .inr ⟨_, fun nothing => nonempty (Except.ok.inj nothing),
          clauseOf_unlimited compiled, unconfined.1, unconfined.2, rfl⟩
      · -- the columns of the form are among those of the look, so that they can be set
        obtain ⟨record, -, data, taken, dumped⟩ := projects_of_formOf written
        obtain ⟨columns, rfl⟩ :=
          exists_ofColumns_toRow chosen (Schema.isSettled_of_strictRecord taken) dumped
        rw [assignmentsOf_ofColumns placed] at refused
        cases refused

/-! ### What is exchanged -/

section Found

variable {lookup : Statement} {reply : Reply} {changed : Record}
  (reads : gateway.Reads condition (.bool false) everything .null uniqueLimit lookup)
  (given : changes.toRecord = .ok changed)

include reads given

theorem upserts_of_nothing (empty : reply.rows = [])
    (talk : (do
      let base ← Plan.recordOf condition
      let data ← Plan.ofExcept (gateway.schema.strictRecord (base.overlay changed))
      let state ← gateway.add (.dict data) true
      return (⟨.insert, data, state⟩ : UpsertResult)).Converses exchanges outcome) :
    gateway.Upserts condition changes ((lookup, .ok reply) :: exchanges) outcome := by
  rcases talk.of_bind_check (Plan.silent_recordOf condition) with
    ⟨failure, unoffered, rfl, rfl⟩ | ⟨base, asked, talk⟩
  · obtain ⟨base, asked⟩ := reads.exists_record
    cases unoffered.symm.trans asked
  rcases talk.of_bind_check (Plan.silent_ofExcept _) with
    ⟨failure, refused, rfl, rfl⟩ | ⟨data, taken, talk⟩
  · exact .uninserted reads empty asked given (by rw [refused]; rfl)
  obtain ⟨ended, adding, rfl⟩ := talk.of_bind_pure
  rcases converses_add adding with
    ⟨failure, refused, rfl, rfl⟩ | ⟨insertion, answer, checked, rfl, rfl⟩
  · exact .uninserted reads empty asked given (by rw [taken]; exact refused)
  obtain ⟨row, formed, checked⟩ := ok_of_bind checked
  -- the form is projected once more on the way, and where it is not refused that changes nothing
  have settled := Schema.isSettled_of_strictRecord taken
  have dumped : gateway.schema.toRow data = .ok row := by
    rcases formOf_of_isSettled reads.named settled with ⟨same, _⟩ | ⟨⟨failure, refused⟩, _⟩
    · rw [← same, formed]
    · cases formed.symm.trans refused
  obtain ⟨written, rfl, rfl⟩ := insertionOfForm_eq_ok (settled.areDistinct_toRow dumped) checked
  have inserted := Upserts.inserted answer reads empty asked given taken dumped formed
  cases answer <;> exact inserted

theorem upserts_of_row {found : Record} {others : List Record}
    (typed : gateway.schema.formatRows (reply.rows.map .dict) = .ok (found :: others))
    (single : others = [] ∨ gateway.allowMultiple = true)
    (talk : (do
      let form ← Plan.ofExcept (gateway.schema.strictRecord (gateway.revived found changed))
      let state ←
        gateway.update condition (.dict (gateway.revived found changed)) (.bool false) true
      return (⟨.update, found.overlay form, some state⟩ : UpsertResult)).Converses exchanges
        outcome) :
    gateway.Upserts condition changes ((lookup, .ok reply) :: exchanges) outcome := by
  rcases talk.of_bind_check (Plan.silent_ofExcept _) with
    ⟨failure, refused, rfl, rfl⟩ | ⟨form, taken, talk⟩
  · refine .unformed reads typed single given ?_
    show (gateway.schema.strictRecord _ >>= gateway.schema.toRow) = _
    rw [refused]
    rfl
  obtain ⟨ended, updating, rfl⟩ := talk.of_bind_pure
  have reduced : gateway.formOf (.dict (gateway.revived found changed)) true =
      gateway.schema.toRow form := by
    show gateway.schema.strictRecord _ >>= gateway.schema.toRow = _
    rw [taken]
    rfl
  rcases converses_update updating with
    ⟨failure, refused, rfl, rfl⟩ | ⟨empty, rfl, rfl⟩ |
    ⟨update, answer, something, updates, rfl, rfl⟩
  · rcases refused_of_updateOf reads refused with
      unformed | ⟨clause, something, compiled, every, forbidden, rfl⟩
    · exact .unformed reads typed single given unformed
    · exact .unconfined reads typed single given something compiled every forbidden
  · rw [reduced] at empty
    have nothing : form = [] := List.map_eq_nil_iff.mp (Schema.keys_toRow empty).symm
    subst nothing
    -- the flag of a hidden row would be in the form
    have live : gateway.isHidden found = false := by
      refine Bool.eq_false_iff.mpr fun hidden => ?_
      obtain ⟨name, -, binds⟩ := binds_revived reads.named hidden changed
      have projects : gateway.schema.Projects (gateway.revived found changed) [] :=
        ⟨[], taken, empty⟩
      exact List.not_mem_nil (projects.mem_of_binds binds)
    rw [revived_of_live live] at taken
    exact .unchanged reads typed single given live taken
  · cases updates with
    | @update _ _ assignments formed compiled confined columns =>
      rw [reduced] at formed something
      rw [assignmentsOf_eq_ok columns] at formed
      have projects : gateway.schema.Projects (gateway.revived found changed)
          (Record.ofColumns assignments) := ⟨form, taken, formed⟩
      have updated := Upserts.updated answer reads typed single given taken
        (fun nothing => something (by rw [nothing]; rfl)) formed compiled
        (clears_of_projects reads.named projects) (spares_of_projects projects)
      cases answer <;> exact updated

end Found

theorem upserts_of_converses
    (talk : (gateway.upsert condition changes).Converses exchanges outcome) :
    gateway.Upserts condition changes exchanges outcome := by
  rcases talk.of_bind_check (Plan.silent_recordOf changes) with
    ⟨failure, refused, rfl, rfl⟩ | ⟨changed, given, talk⟩
  · exact .unasked failure (by rw [refused]; rfl)
  rcases talk.of_bind with ⟨failure, looking, rfl⟩ | ⟨found, first, rest, looking, talk, rfl⟩
  · cases finds_of_findOne looking with
    | unasked failure checked => exact .unasked failure (by rw [given]; exact checked)
    | failing answer failure reads fails => exact .failing answer failure reads fails
  cases finds_of_findOne looking with
  | nothing reads empty => exact upserts_of_nothing reads given empty talk
  | row reads typed single =>
    refine upserts_of_row reads given typed single ?_
    simp only at talk
    split at talk
    · exact talk.of_bind_said (Plan.silent_say _ _)
    · exact talk

/-- The answer to a look gives a hidden row that can be brought back: the changes have a form, and
the rows of the condition may be changed. -/
inductive GivesHidden (gateway : Gateway) (condition changes : Value) :
    Except Failure Reply → Prop where
  | hidden {reply : Reply} {found changed form : Record} {others : List Record} {clause : Clause}
      (typed : gateway.schema.formatRows (reply.rows.map .dict) = .ok (found :: others))
      (single : others = [] ∨ gateway.allowMultiple = true)
      (hidden : gateway.isHidden found = true) (given : changes.toRecord = .ok changed)
      (formed : gateway.formOf (.dict (gateway.revived found changed)) true = .ok form)
      (compiled : gateway.clauseOf condition (.bool false) .null .null = .ok clause)
      (confined : clause.predicates ≠ [] ∨ gateway.allowUpdateAll = true) :
      gateway.GivesHidden condition changes (.ok reply)

/-- A hidden row that can be brought back is: the flag is set to false. -/
theorem Upserts.clears {lookup : Statement} {answer : Except Failure Reply}
    {rest : List Exchange}
    (upserts : gateway.Upserts condition changes ((lookup, answer) :: rest) outcome)
    (gives : gateway.GivesHidden condition changes answer) :
    ∃ written predicates done column,
      rest = [(.update gateway.table written predicates, done)] ∧
      gateway.schema.hiddenFlag = some (.text column.name) ∧ (column, .bool false) ∈ written := by
  obtain ⟨typed, single, hidden, given, formed, compiled, confined⟩ := gives
  cases upserts with
  | failing _ _ _ fails => cases fails.symm.trans (rowOf_of_typed typed single)
  | uninserted _ empty =>
    rw [empty] at typed
    cases typed
  | inserted _ _ empty =>
    rw [empty] at typed
    cases typed
  | unchanged _ ownTyped _ _ live =>
    cases ownTyped.symm.trans typed
    cases live.symm.trans hidden
  | unformed _ ownTyped _ ownGiven refused =>
    cases ownTyped.symm.trans typed
    cases ownGiven.symm.trans given
    cases refused.symm.trans formed
  | unconfined _ _ _ _ _ ownCompiled every forbidden =>
    cases ownCompiled.symm.trans compiled
    rcases confined with some | allowed
    · exact absurd every some
    · cases forbidden.symm.trans allowed
  | updated done _ ownTyped _ _ _ _ _ _ clears =>
    cases ownTyped.symm.trans typed
    obtain ⟨column, declared, member⟩ := clears hidden
    exact ⟨_, _, done, column, rfl, declared, member⟩

/-- Unless its changes are no record, an upsert sends its look if that can be asked. -/
theorem Upserts.looks (upserts : gateway.Upserts condition changes exchanges outcome)
    {changed : Record} (given : changes.toRecord = .ok changed) {lookup : Statement}
    (asked : gateway.lookupOf condition (.bool false) = .ok lookup) :
    ∃ answer rest, exchanges = (lookup, answer) :: rest := by
  have same {own : Statement}
      (reads : gateway.Reads condition (.bool false) everything .null uniqueLimit own) :
      own = lookup := Except.ok.inj (reads.lookupOf.symm.trans asked)
  cases upserts with
  | unasked failure checked =>
    rw [given] at checked
    cases checked.symm.trans asked
  | failing _ _ reads => exact ⟨_, _, by rw [same reads]⟩
  | uninserted reads => exact ⟨_, _, by rw [same reads]⟩
  | inserted _ reads => exact ⟨_, _, by rw [same reads]⟩
  | unchanged reads => exact ⟨_, _, by rw [same reads]⟩
  | unformed reads => exact ⟨_, _, by rw [same reads]⟩
  | unconfined reads => exact ⟨_, _, by rw [same reads]⟩
  | updated _ reads => exact ⟨_, _, by rw [same reads]⟩

/-- A hidden user is brought back, whatever the changes say of the flag. -/
example :
    let stored : Record := [(.text "id", .int 1), (.text "deleted", .bool true)]
    let session : Session := ⟨.recorder .standard, ⟨[.result [stored] none 0 none], [], []⟩⟩
    let plan := Gateway.users.upsert (.dict [(.text "id", .int 1)])
      (.dict [(.text "deleted", .bool true)])
    (session.sent Gateway.users.endpoint.dialect plan).map Statement.arguments =
      [[.int 1], [.bool false, .int 1]] := rfl

end Gateway

end TableGateway
