/-
This file says what happens when a row is made sure of. It is looked up by its strict form
without the hidden flag. If it is not there, that form is inserted: the look pins each
column to the value with which the column is inserted, and to nothing else. Only an integer
field that was given a member of a closed set stands in the way, for its name is no integer.
-/

import TableGateway.Proofs.Pinning

namespace TableGateway

namespace Schema

/-- Where every field converts what it is given, the row of a settled form has scalars. -/
theorem IsSettled.isScalar_toRow {schema : Schema} {form row : Record}
    (settled : IsSettled schema.fields form)
    (named : ∀ key ∈ schema.fieldNames, ∃ name, key = Value.text name)
    (typed : ∀ field ∈ schema.fields, field.2.formatter ≠ .asIs)
    (dumped : schema.toRow form = .ok row) : ∀ entry ∈ row, entry.2.isScalar = true := by
  intro entry member
  obtain ⟨⟨key, held⟩, among, ⟨-, handed⟩⟩ := exists_of_mem_forall₂ (forall₂_toRow dumped) member
  obtain ⟨spec, raw, declared, present, formatted, -⟩ := settled.held _ among
  obtain ⟨name, rfl⟩ := named key (List.mem_map_of_mem declared)
  have known : schema.spec? (.text name) = some spec :=
    Entries.named?_of_mem schema.distinct declared
  exact Formatter.isScalar_dump (typed _ declared) present formatted (handed spec known)

end Schema

namespace Gateway

variable {gateway : Gateway} {exchanges : List Exchange}

/-! ### Records without the flag -/

theorem isSettled_withoutFlag {strict : Record}
    (settled : Schema.IsSettled gateway.schema.fields strict) :
    Schema.IsSettled gateway.schema.fields (gateway.withoutFlag strict) := by
  unfold withoutFlag
  split
  · exact settled.erase _
  · exact settled

theorem flag_not_mem_withoutFlag {record : Record} {flag : String}
    (declared : gateway.schema.hiddenFlag = some (.text flag)) :
    .text flag ∉ (gateway.withoutFlag record).keys := by
  intro member
  obtain ⟨entry, among, isFlag⟩ := List.mem_map.mp member
  rw [withoutFlag, declared] at among
  have other := (List.mem_filter.mp among).2
  rw [isFlag, Value.text_equal_self] at other
  cases other

/-! ### What is exchanged -/

/-- What is exchanged to make sure of a form, which is looked up by its row, and what comes of
it. -/
inductive Ensures (gateway : Gateway) (form row : Record) :
    List Exchange → Except Failure (Option WriteResult) → Prop where
  /-- The look cannot be asked. -/
  | unasked (failure : Failure)
      (checked : gateway.lookupOf (.dict row) (.bool false) = .error failure) :
      gateway.Ensures form row [] (.error failure)
  /-- The look is not answered, or gives a row that cannot be typed, or too many. -/
  | failing {lookup : Statement} (answer : Except Failure Reply) (failure : Failure)
      (reads : gateway.Reads (.dict row) (.bool false) everything .null uniqueLimit lookup)
      (fails : (answer >>= fun reply => gateway.rowOf (.dict row) reply.rows) = .error failure) :
      gateway.Ensures form row [(lookup, answer)] (.error failure)
  /-- There is no row, and the form cannot be inserted. -/
  | refused {lookup : Statement} {reply : Reply} {failure : Failure}
      (reads : gateway.Reads (.dict row) (.bool false) everything .null uniqueLimit lookup)
      (empty : reply.rows = []) (checked : gateway.insertionOf (.dict form) true = .error failure) :
      gateway.Ensures form row [(lookup, .ok reply)] (.error failure)
  /-- There is no row, and the form is inserted. -/
  | inserted {lookup insertion : Statement} {reply : Reply} (answer : Except Failure Reply)
      (reads : gateway.Reads (.dict row) (.bool false) everything .null uniqueLimit lookup)
      (empty : reply.rows = []) (checked : gateway.insertionOf (.dict form) true = .ok insertion) :
      gateway.Ensures form row [(lookup, .ok reply), (insertion, answer)]
        (answer.map fun reply => some ⟨.insert, 1, reply.insertId⟩)
  /-- There is a live row. -/
  | live {lookup : Statement} {reply : Reply} {found : Record} {others : List Record}
      (reads : gateway.Reads (.dict row) (.bool false) everything .null uniqueLimit lookup)
      (typed : gateway.schema.formatRows (reply.rows.map .dict) = .ok (found :: others))
      (single : others = [] ∨ gateway.allowMultiple = true)
      (isLive : gateway.isHidden found = false) :
      gateway.Ensures form row [(lookup, .ok reply)] (.ok none)
  /-- There is a hidden row, and the look at the columns fails. -/
  | columnless {lookup : Statement} {reply : Reply} {found : Record} {others : List Record}
      {flag : Value} (looked : List Exchange) (failure : Failure)
      (reads : gateway.Reads (.dict row) (.bool false) everything .null uniqueLimit lookup)
      (typed : gateway.schema.formatRows (reply.rows.map .dict) = .ok (found :: others))
      (single : others = [] ∨ gateway.allowMultiple = true)
      (hidden : gateway.isHidden found = true)
      (declared : gateway.schema.hiddenFlag = some flag)
      (fails : (gateway.ensureColumns [flag]).Converses looked (.error failure)) :
      gateway.Ensures form row ((lookup, .ok reply) :: looked) (.error failure)
  /-- There is a hidden row, and the update that would bring it back is refused after a look at the
  columns. -/
  | unrevived {lookup : Statement} {reply : Reply} {found : Record} {others : List Record}
      {flag : Value} {looked : List Exchange} (failure : Failure)
      (reads : gateway.Reads (.dict row) (.bool false) everything .null uniqueLimit lookup)
      (typed : gateway.schema.formatRows (reply.rows.map .dict) = .ok (found :: others))
      (single : others = [] ∨ gateway.allowMultiple = true)
      (hidden : gateway.isHidden found = true)
      (declared : gateway.schema.hiddenFlag = some flag)
      (looks : (gateway.ensureColumns [flag]).Converses looked (.ok ()))
      (checked : gateway.updateOf (.dict (gateway.rowTarget found row))
        (.dict [(flag, .bool false)]) (.bool false) = .error failure) :
      gateway.Ensures form row ((lookup, .ok reply) :: looked) (.error failure)
  /-- There is a hidden row, and the update that brings it back is sent after a look at the
  columns. -/
  | revived {lookup update : Statement} {reply : Reply} {found : Record} {others : List Record}
      {flag : Value} {looked : List Exchange} (answer : Except Failure Reply)
      (reads : gateway.Reads (.dict row) (.bool false) everything .null uniqueLimit lookup)
      (typed : gateway.schema.formatRows (reply.rows.map .dict) = .ok (found :: others))
      (single : others = [] ∨ gateway.allowMultiple = true)
      (hidden : gateway.isHidden found = true)
      (declared : gateway.schema.hiddenFlag = some flag)
      (looks : (gateway.ensureColumns [flag]).Converses looked (.ok ()))
      (sets : gateway.SetsFlag false (.dict (gateway.rowTarget found row)) update) :
      gateway.Ensures form row ((lookup, .ok reply) :: (looked ++ [(update, answer)]))
        (answer.map fun done => some ⟨.enable, done.affected, none⟩)

theorem exists_flag_of_isHidden {found : Record} (hidden : gateway.isHidden found = true) :
    ∃ flag, gateway.schema.hiddenFlag = some flag := by
  rw [isHidden] at hidden
  split at hidden
  · rename_i flag declared
    exact ⟨flag, declared⟩
  · cases hidden

theorem ensures_of_converses {record : Value} {outcome : Except Failure (Option WriteResult)}
    (talk : (gateway.ensure record).Converses exchanges outcome) :
    (∃ failure, (gateway.schema.strictForm record >>= fun strict =>
        gateway.schema.toRow (gateway.withoutFlag strict)) = .error failure ∧
      exchanges = [] ∧ outcome = .error failure) ∨
      ∃ strict row, gateway.schema.strictForm record = .ok strict ∧
        gateway.schema.toRow (gateway.withoutFlag strict) = .ok row ∧
        gateway.Ensures (gateway.withoutFlag strict) row exchanges outcome := by
  rcases talk.of_bind_check (gateway.silent_strictOf record) with
    ⟨failure, refused, rfl, rfl⟩ | ⟨strict, taken, talk⟩
  · exact .inl ⟨failure, by rw [refused]; rfl, rfl, rfl⟩
  rcases talk.of_bind_check (Plan.silent_ofExcept _) with
    ⟨failure, refused, rfl, rfl⟩ | ⟨row, dumped, talk⟩
  · exact .inl ⟨failure, by rw [taken]; exact refused, rfl, rfl⟩
  refine .inr ⟨strict, row, taken, dumped, ?_⟩
  rcases talk.of_bind with ⟨failure, looking, rfl⟩ | ⟨found, first, rest, looking, talk, rfl⟩
  · cases finds_of_findOne looking with
    | unasked failure checked => exact .unasked failure checked
    | failing answer failure reads fails => exact .failing answer failure reads fails
  cases finds_of_findOne looking with
  | nothing reads empty =>
    obtain ⟨ended, adding, rfl⟩ := talk.of_bind_pure
    rcases converses_add adding with
      ⟨failure, checked, rfl, rfl⟩ | ⟨insertion, answer, checked, rfl, rfl⟩
    · exact .refused reads empty checked
    · have inserted : gateway.Ensures (gateway.withoutFlag strict) row _ _ :=
        .inserted answer reads empty checked
      cases answer <;> exact inserted
  | row reads typed single =>
    simp only at talk
    split at talk
    · rename_i hidden
      have talk := talk.of_bind_said (Plan.silent_say _ _)
      obtain ⟨ended, enabling, rfl⟩ := talk.of_bind_pure
      obtain ⟨flag, declared⟩ := exists_flag_of_isHidden hidden
      rcases converses_enable reads.named declared enabling with ⟨failure, fails, rfl⟩ |
        ⟨looked, looks, ⟨failure, checked, rfl, rfl⟩ | ⟨update, answer, sets, rfl, rfl⟩⟩
      · exact .columnless rest failure reads typed single hidden declared fails
      · exact .unrevived failure reads typed single hidden declared looks checked
      · have revived : gateway.Ensures (gateway.withoutFlag strict) row _ _ :=
          .revived answer reads typed single hidden declared looks sets
        cases answer <;> exact revived
    · rename_i live
      cases talk
      exact .live reads typed single (Bool.eq_false_iff.mpr live)

/-! ### What is looked up is what is inserted -/

/-- A form is looked up by pins: its row has each column once, and the look asks each column to have
its value, and nothing else. -/
theorem Reads.pins (typed : ∀ field ∈ gateway.schema.fields, field.2.formatter ≠ .asIs)
    {form row : Record} (settled : Schema.IsSettled gateway.schema.fields form)
    (dumped : gateway.schema.toRow form = .ok row) {order limit : Value} {lookup : Statement}
    (reads : gateway.Reads (.dict row) (.bool false) everything order limit lookup) :
    ∃ (selected : Projection) (clause : Clause) (written : List (Identifier × Value)),
      lookup = .select selected gateway.table clause ∧ row = Record.ofColumns written ∧
      clause.predicates.Perm (written.map fun assignment => .pin assignment.1 assignment.2) ∧
      ∃ style, ParamStyle.forPlaces gateway.endpoint.dialect.styleName = .ok style := by
  have scalars := settled.isScalar_toRow reads.named typed dumped
  have distinct := settled.areDistinct_toRow dumped
  cases reads with
  | @select clause selected compiled chosen =>
    obtain ⟨written, rfl⟩ := exists_ofColumns_toRow chosen settled dumped
    obtain ⟨offered, buckets, same, classified, became⟩ := clauseOf_eq_ok compiled
    cases same
    rw [gateway.schema.guarded_of_not_hides] at classified
    refine ⟨selected, clause, written, rfl, rfl, ?_, forPlaces_of_clauseOf compiled⟩
    refine perm_pins distinct (fun assignment member => ?_) classified became
    exact scalars _ (List.mem_map_of_mem member)

/-- A form is inserted by its row, unless an integer field holds a name. -/
theorem insertionOf_of_isSettled
    (named : ∀ key ∈ gateway.schema.fieldNames, ∃ name, key = .text name) {form : Record}
    (settled : Schema.IsSettled gateway.schema.fields form) (something : form ≠ [])
    {written : List (Identifier × Value)}
    (dumped : gateway.schema.toRow form = .ok (Record.ofColumns written)) {style : ParamStyle}
    (placed : ParamStyle.forPlaces gateway.endpoint.dialect.styleName = .ok style) :
    gateway.insertionOf (.dict form) true =
        .ok (.insert gateway.table (written.map Prod.fst) [written.map Prod.snd] none) ∧
        ¬Schema.HoldsName gateway.schema.fields form ∨
      (∃ failure, gateway.insertionOf (.dict form) true = .error failure) ∧
        Schema.HoldsName gateway.schema.fields form := by
  rw [insertionOf]
  rcases formOf_of_isSettled named settled with ⟨same, without⟩ | ⟨⟨failure, refused⟩, holds⟩
  · have nonempty : written ≠ [] := by
      rintro rfl
      exact something (List.map_eq_nil_iff.mp (Schema.keys_toRow dumped).symm)
    rw [same, dumped]
    exact .inl ⟨insertionOfForm_ofColumns (settled.areDistinct_toRow dumped) nonempty placed,
      without⟩
  · rw [refused]
    exact .inr ⟨⟨failure, rfl⟩, holds⟩

/-- Where no row is found, a record that is made sure of is inserted as it was looked up: its row,
without the hidden flag, has each column once, the look pins each column to its value and asks
nothing else, and these values are inserted. Only an integer field that holds a name stands in the
way, and then nothing is inserted. -/
theorem ensure_inserts_pins {gateway : Gateway}
    (typed : ∀ field ∈ gateway.schema.fields, field.2.formatter ≠ .asIs) {record : Value}
    {strict : Record} (taken : gateway.schema.strictForm record = .ok strict)
    (something : gateway.withoutFlag strict ≠ []) {session : Session} {lookup : Statement}
    {reply : Reply} {rest : List Exchange}
    (exchanged : session.exchanges gateway.endpoint.dialect (gateway.ensure record) =
      (lookup, .ok reply) :: rest)
    (empty : reply.rows = []) :
    ∃ (selected : Projection) (clause : Clause) (written : List (Identifier × Value)),
      lookup = .select selected gateway.table clause ∧
      gateway.schema.toRow (gateway.withoutFlag strict) = .ok (Record.ofColumns written) ∧
      clause.predicates.Perm (written.map fun assignment => .pin assignment.1 assignment.2) ∧
      (written.map Prod.fst).Nodup ∧
      (∀ column ∈ written.map Prod.fst,
        gateway.schema.hiddenFlag ≠ some (.text column.name)) ∧
      (¬Schema.HoldsName gateway.schema.fields (gateway.withoutFlag strict) → ∃ answer,
        rest = [(.insert gateway.table (written.map Prod.fst) [written.map Prod.snd] none,
          answer)]) ∧
      (Schema.HoldsName gateway.schema.fields (gateway.withoutFlag strict) → rest = [] ∧
        ∃ failure, (session.run gateway.endpoint.dialect (gateway.ensure record)).1 =
          .error failure) := by
  rcases ensures_of_converses (Session.converses_exchanges gateway.endpoint.dialect
    (gateway.ensure record) session) with
    ⟨failure, _, nothing, _⟩ | ⟨own, row, same, dumped, ensures⟩
  · rw [nothing] at exchanged
    cases exchanged
  cases same.symm.trans taken
  obtain ⟨offered, _, projected⟩ := ok_of_bind taken
  have settled := isSettled_withoutFlag (Schema.isSettled_of_strictRecord projected)
  rw [exchanged] at ensures
  generalize (session.run gateway.endpoint.dialect (gateway.ensure record)).1 = outcome
    at ensures ⊢
  have reads : gateway.Reads (.dict row) (.bool false) everything .null uniqueLimit lookup := by
    cases ensures <;> assumption
  obtain ⟨selected, clause, written, isSelection, rfl, pins, style, placed⟩ :=
    reads.pins typed settled dumped
  have keys : (written.map Prod.fst).map (fun column => Value.text column.name) =
      (gateway.withoutFlag strict).keys := by
    rw [← Record.keys_ofColumns, Schema.keys_toRow dumped]
  refine ⟨selected, clause, written, isSelection, dumped, pins, ?_, ?_, ?_⟩
  · exact Schema.nodup_of_sublist (keys ▸ settled.ordered)
  · intro column member declared
    have among : Value.text column.name ∈ (gateway.withoutFlag strict).keys :=
      keys ▸ List.mem_map_of_mem member
    exact flag_not_mem_withoutFlag declared among
  -- without rows, all that can follow the look is the insertion of the form, or its refusal
  have checks := insertionOf_of_isSettled reads.named settled something dumped placed
  cases ensures with
  | failing answer failure _ fails =>
    have finds : gateway.rowOf (.dict _) reply.rows = .error failure := fails
    rw [empty] at finds
    cases finds
  | refused _ _ checked =>
    rcases checks with ⟨passed, _⟩ | ⟨_, holds⟩
    · cases checked.symm.trans passed
    · exact ⟨fun without => absurd holds without, fun _ => ⟨rfl, _, rfl⟩⟩
  | inserted answer _ _ checked =>
    rcases checks with ⟨passed, without⟩ | ⟨⟨failure, refused⟩, _⟩
    · cases checked.symm.trans passed
      exact ⟨fun _ => ⟨answer, rfl⟩, fun holds => absurd holds without⟩
    · cases checked.symm.trans refused
  | live _ found =>
    rw [empty] at found
    cases found
  | columnless _ _ _ found =>
    rw [empty] at found
    cases found
  | unrevived _ _ found =>
    rw [empty] at found
    cases found
  | revived _ _ found =>
    rw [empty] at found
    cases found

/-- A name is looked up stripped, as it is inserted, and a key that is null by a null check. A kind
given for a key is looked up by its name, and is then refused. -/
theorem ensure_inserts_pins_users :
    let session := Session.ofRecorder .standard
    let dialect := Gateway.users.endpoint.dialect
    let named := Gateway.users.ensure
      (.dict [(.text "id", .null), (.text "name", .text " Ada ")])
    let keyed := Gateway.users.ensure (.dict [(.text "id", .kind .integer)])
    (∃ (selected : Projection) (clause : Clause) (written : List (Identifier × Value)) (answer : _),
      session.exchanges dialect named =
        [(.select selected Gateway.users.table clause, .ok .empty),
          (.insert Gateway.users.table (written.map Prod.fst) [written.map Prod.snd] none,
            answer)] ∧
      Record.ofColumns written = [(.text "id", .null), (.text "name", .text "Ada")] ∧
      clause.predicates.Perm (written.map fun assignment => .pin assignment.1 assignment.2)) ∧
    ∃ lookup failure, session.exchanges dialect keyed = [(lookup, .ok .empty)] ∧
      lookup.arguments = [.text "integer"] ∧ (session.run dialect keyed).1 = .error failure := by
  intro session dialect named keyed
  have typed : ∀ field ∈ Gateway.users.schema.fields, field.2.formatter ≠ .asIs := by
    simp [Gateway.users, Schema.users]
  constructor
  · have taken : Gateway.users.schema.strictForm
        (.dict [(.text "id", .null), (.text "name", .text " Ada ")]) =
          .ok [(.text "id", .null), (.text "name", .text "Ada")] := rfl
    have nameless : ¬Schema.HoldsName Gateway.users.schema.fields
        (Gateway.users.withoutFlag [(.text "id", .null), (.text "name", .text "Ada")]) := by
      rintro ⟨entry, member, spec, name, declared, isInteger, isText⟩
      rcases List.mem_pair.mp member with rfl | rfl
      · cases isText
      · have known : Gateway.users.schema.spec? (.text "name") = some spec :=
          Entries.named?_of_mem Gateway.users.schema.distinct declared
        cases known
        cases isInteger
    obtain ⟨lookup, rest, exchanged⟩ : ∃ lookup rest,
        session.exchanges dialect named = (lookup, .ok .empty) :: rest := ⟨_, _, rfl⟩
    obtain ⟨selected, clause, written, rfl, dumped, pins, -, -, inserts, -⟩ :=
      ensure_inserts_pins typed taken (List.cons_ne_nil _ _) exchanged rfl
    obtain ⟨answer, rfl⟩ := inserts nameless
    exact ⟨selected, clause, written, answer, exchanged, (Except.ok.inj dumped).symm, pins⟩
  · have taken : Gateway.users.schema.strictForm (.dict [(.text "id", .kind .integer)]) =
        .ok [(.text "id", .text "integer")] := rfl
    have held : Schema.HoldsName Gateway.users.schema.fields
        (Gateway.users.withoutFlag [(.text "id", .text "integer")]) :=
      ⟨_, List.mem_cons_self, _, "integer", List.mem_cons_self, rfl, rfl⟩
    obtain ⟨lookup, rest, exchanged, bound⟩ : ∃ lookup rest,
        session.exchanges dialect keyed = (lookup, .ok .empty) :: rest ∧
          lookup.arguments = [.text "integer"] := ⟨_, _, rfl, rfl⟩
    obtain ⟨_, _, _, _, _, _, _, _, _, refuses⟩ :=
      ensure_inserts_pins typed taken (List.cons_ne_nil _ _) exchanged rfl
    obtain ⟨rfl, failure, refused⟩ := refuses held
    exact ⟨lookup, failure, exchanged, bound, refused⟩

end Gateway

end TableGateway
