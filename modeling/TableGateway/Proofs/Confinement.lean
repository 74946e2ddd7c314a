/-
This file shows that updates and deletions fail closed. While a gateway does not allow
every row, whatever it is asked and whatever its database answers, each update and each
deletion that it sends has a conjunct. A condition comes to no conjuncts exactly if it
says nothing, that is, if it is empty or has empty buckets only, and then an update with
something to write and a deletion are refused before anything is sent.
-/

import TableGateway.Proofs.LastWrite

namespace TableGateway

/-! ### Statements that change or remove rows -/

namespace Statement

/-- The text of a statement is that of an update or of a deletion. -/
def IsDestructive (dialect : Dialect) (statement : Statement) : Prop :=
  "UPDATE ".toList <+: (statement.sql dialect).toList ∨
    "DELETE ".toList <+: (statement.sql dialect).toList

/-- A statement chooses its rows by one conjunct or more, which stand in its text, and whose
arguments it brings. -/
def IsConfined (dialect : Dialect) (statement : Statement) : Prop :=
  ∃ head first rest tail,
    statement.sql dialect =
      head ++ " WHERE " ++
        Text.joinWith " AND " ((first :: rest).map (Predicate.sql dialect.style)) ++ tail ∧
    statement.arguments = statement.written ++ predicateArguments (first :: rest)

theorem isConfined_of_predicates? {statement : Statement} {predicates : List Predicate}
    (chooses : statement.predicates? = some predicates) (nonempty : predicates ≠ [])
    (dialect : Dialect) : statement.IsConfined dialect := by
  obtain ⟨head, tail, text, bound⟩ := sql_of_predicates? chooses dialect
  cases predicates with
  | nil => exact absurd rfl nonempty
  | cons first rest =>
    refine ⟨head, first, rest, tail, ?_, bound⟩
    rw [text, whereText_cons, ← String.append_assoc ]

end Statement

/-- Statements that change or remove rows write. -/
theorem Statement.IsDestructive.isWriting {dialect : Dialect} {statement : Statement}
    (destructive : statement.IsDestructive dialect) : statement.IsWriting dialect := by
  rcases destructive with update | deletion
  · exact ⟨"UPDATE ", by decide, update⟩
  · exact ⟨"DELETE ", by decide, deletion⟩

namespace Gateway

variable {gateway : Gateway}

theorem Sends.isConfined {asked : Value → Prop} (deletions : gateway.allowDeleteAll = false)
    (updates : gateway.allowUpdateAll = false) {statement : Statement}
    (sends : gateway.Sends asked statement) {dialect : Dialect}
    (destructive : statement.IsDestructive dialect) : statement.IsConfined dialect := by
  cases sends with
  | select clause among chosen =>
    rw [Statement.IsDestructive, Statement.sql_select] at destructive
    simp at destructive
  | insert records onDuplicate named =>
    rw [Statement.IsDestructive, Statement.sql_insert] at destructive
    simp at destructive
  | replace records named =>
    rw [Statement.IsDestructive, Statement.sql_replace] at destructive
    simp at destructive
  | update assignments confined =>
    rw [updates] at confined
    exact Statement.isConfined_of_predicates? rfl
      (confined.resolve_right Bool.false_ne_true) dialect
  | delete confined =>
    rw [deletions] at confined
    exact Statement.isConfined_of_predicates? rfl
      (confined.resolve_right Bool.false_ne_true) dialect
  | lookUp found => exact absurd destructive.isWriting (found.not_isWriting dialect)

end Gateway

/-! ### Conditions that say nothing -/

namespace Record

/-- Every entry of a record is an explicit bucket without fields. -/
def IsVacuous (record : Record) : Prop :=
  ∀ entry ∈ record, ∃ operator, operatorOfKey? entry.1 = some operator ∧ entry.2 = .dict []

theorem ofEntry_eq_nil_iff (key value : Value) :
    Assertion.ofEntry key value = [] ↔
      ∃ operator, operatorOfKey? key = some operator ∧ value = .dict [] := by
  unfold Assertion.ofEntry
  cases operatorOfKey? key with
  | none => simp
  | some operator =>
    cases value with
    | dict fields =>
      simp only [Assertion.ofFields, List.map_eq_nil_iff, Value.dict.injEq]
      exact ⟨fun empty => ⟨operator, rfl, empty⟩, fun ⟨_, _, empty⟩ => empty⟩
    | _ => simp

/-- The records that say nothing are those of empty buckets. -/
theorem assertions_eq_nil_iff (record : Record) : record.assertions = [] ↔ record.IsVacuous := by
  rw [Record.assertions, List.flatMap_eq_nil_iff]
  exact forall₂_congr fun entry _ => ofEntry_eq_nil_iff entry.1 entry.2

end Record

/-- Empty buckets are classified, and nothing is said by what comes of them. -/
theorem classifyEntries_of_isVacuous (enableUndefined : Bool) {entries : List (Value × Value)}
    (vacuous : Record.IsVacuous entries) (buckets : Buckets) :
    ∃ classified, classifyEntries enableUndefined buckets entries = .ok classified := by
  induction entries generalizing buckets with
  | nil => exact ⟨buckets, rfl⟩
  | cons entry rest inductionHypothesis =>
    obtain ⟨key, value⟩ := entry
    obtain ⟨operator, named, empty⟩ := vacuous _ List.mem_cons_self
    simp only at named empty
    have opened : classifyEntry enableUndefined buckets key value =
        .ok (buckets.touch operator) := by
      unfold classifyEntry
      rw [named, empty]
      rfl
    obtain ⟨classified, passed⟩ := inductionHypothesis
      (fun other member => vacuous other (List.mem_cons_of_mem _ member)) (buckets.touch operator)
    refine ⟨classified, ?_⟩
    rw [classifyEntries, opened]
    exact passed

/-- Buckets that say nothing become no predicates. -/
theorem ofBuckets_of_assertions_eq_nil {buckets : Buckets} (nothing : buckets.assertions = []) :
    Predicate.ofBuckets buckets.toRecord = .ok [] := by
  induction buckets with
  | nil => rfl
  | cons bucket rest inductionHypothesis =>
    obtain ⟨operator, fields⟩ := bucket
    rw [Buckets.assertions_cons, List.append_eq_nil_iff] at nothing
    have empty : fields = [] := List.map_eq_nil_iff.mp nothing.1
    have first : Predicate.ofBucket (.text operator.name) (.dict []) = .ok [] := by
      rw [Predicate.ofBucket, Operator.ofValue?, Operator.ofName?_name]
      rfl
    have later : Predicate.ofBuckets (Buckets.toRecord rest) = .ok [] :=
      inductionHypothesis nothing.2
    rw [empty]
    show (Predicate.ofBucket (.text operator.name) (.dict []) >>= fun predicates => do
      return predicates ++ (← Predicate.ofBuckets (Buckets.toRecord rest))) = _
    rw [first, later]
    rfl

namespace Gateway

variable {gateway : Gateway}

/-- A condition that compiles comes to no predicates exactly if it says nothing. -/
theorem predicates_eq_nil_iff {condition ensureNotDeleted order limit : Value} {record : Record}
    {clause : Clause} (formed : gateway.schema.queryForm condition ensureNotDeleted = .ok record)
    (compiled : gateway.clauseOf condition ensureNotDeleted order limit = .ok clause) :
    clause.predicates = [] ↔ record.IsVacuous := by
  obtain ⟨buckets, classified, became⟩ := classify_of_clauseOf_eq_ok formed compiled
  have related := Assertion.forall₂_becomes_toRecord became
  have nothing : buckets.assertions = [] ↔ record.assertions = [] := by
    rw [assertions_classifyEntries_eq_nil_iff classified]
    exact and_iff_left rfl
  rw [← record.assertions_eq_nil_iff, ← nothing]
  constructor
  · intro none
    rw [none] at related
    exact List.forall₂_nil_right_iff.mp related
  · intro none
    rw [none] at related
    exact List.forall₂_nil_left_iff.mp related

/-- A condition that says nothing compiles in every style that is known. -/
theorem clauseOf_of_isVacuous {condition ensureNotDeleted : Value} {record : Record}
    {style : ParamStyle} (formed : gateway.schema.queryForm condition ensureNotDeleted = .ok record)
    (vacuous : record.IsVacuous)
    (known : ParamStyle.forClause gateway.endpoint.dialect.styleName = .ok style) :
    gateway.clauseOf condition ensureNotDeleted .null .null = .ok ⟨[], .unordered, .none⟩ := by
  obtain ⟨buckets, classified⟩ := classifyEntries_of_isVacuous gateway.enableUndefined vacuous []
  have nothing : buckets.assertions = [] :=
    (assertions_classifyEntries_eq_nil_iff classified).mpr
      ⟨record.assertions_eq_nil_iff.mpr vacuous, rfl⟩
  have became := ofBuckets_of_assertions_eq_nil nothing
  have compiled : Clause.compile buckets.toRecord .null .null = .ok ⟨[], .unordered, .none⟩ := by
    rw [Clause.compile, became]
    rfl
  have valued : Clause.ofValues gateway.endpoint.dialect.styleName buckets.toValue .null .null =
      .ok (style, ⟨[], .unordered, .none⟩) := by
    rw [Clause.ofValues, known]
    show (Clause.compile buckets.toRecord .null .null >>= fun clause => _) = _
    rw [compiled]
    rfl
  have classifiedForm : classify record gateway.enableUndefined = .ok buckets := classified
  rw [clauseOf, formed]
  show (classify record gateway.enableUndefined >>= fun buckets => do
    let compiled ← Clause.ofValues gateway.endpoint.dialect.styleName buckets.toValue .null .null
    return compiled.2) = _
  rw [classifiedForm]
  show (Clause.ofValues gateway.endpoint.dialect.styleName buckets.toValue .null .null >>=
    fun compiled => pure compiled.2) = _
  rw [valued]
  rfl

/-! ### Refusals -/

/-- An update with something to write, but with no predicates, only comes to its refusal. -/
theorem silent_update_refused (off : gateway.allowUpdateAll = false)
    {condition changes ensureNotDeleted : Value} {strict : Bool} {form : Record} {clause : Clause}
    (written : gateway.formOf changes strict = .ok form) (something : form ≠ [])
    (compiled : gateway.clauseOf condition ensureNotDeleted .null .null = .ok clause)
    (nothing : clause.predicates = []) :
    (gateway.update condition changes ensureNotDeleted strict).silent =
      Plan.ofExcept
        (.error (.invalid (.everyRow gateway.model .update gateway.table.name))) := by
  have filled : form.isEmpty = false := List.isEmpty_eq_false_iff.mpr something
  have unconfined : (clause.predicates.isEmpty && !gateway.allowUpdateAll) = true := by
    rw [nothing, off]
    rfl
  rw [update, Plan.silent_bind, silent_writeForm, written]
  show Plan.silent (if form.isEmpty = true then _ else _) = _
  rw [filled, if_neg Bool.false_ne_true, Plan.silent_bind, silent_conditionClause, compiled]
  show Plan.silent (if (clause.predicates.isEmpty && !gateway.allowUpdateAll) = true
    then _ else _) = _
  rw [unconfined, if_pos rfl]
  rfl

/-- A deletion without predicates only comes to its refusal. -/
theorem silent_delete_refused (off : gateway.allowDeleteAll = false) {condition : Value}
    {clause : Clause} (compiled : gateway.clauseOf condition (.bool false) .null .null = .ok clause)
    (nothing : clause.predicates = []) :
    (gateway.delete condition).silent =
      Plan.ofExcept
        (.error (.invalid (.everyRow gateway.model .delete gateway.table.name))) := by
  have unconfined : (clause.predicates.isEmpty && !gateway.allowDeleteAll) = true := by
    rw [nothing, off]
    rfl
  rw [delete, Plan.silent_bind, silent_conditionClause, compiled]
  show Plan.silent (if (clause.predicates.isEmpty && !gateway.allowDeleteAll) = true
    then _ else _) = _
  rw [unconfined, if_pos rfl]
  rfl

/-- While a gateway does not allow every row, each update and each deletion that it sends in a
sequence of operations is confined. An update with something to write and a deletion, if their
condition compiles to no predicates, send nothing and are refused; and that is so exactly for the
conditions that say nothing, which do compile. -/
theorem fails_closed (deletions : gateway.allowDeleteAll = false)
    (updates : gateway.allowUpdateAll = false) :
    (∀ (steps : List Session.Step) (session : Session),
      ∀ statement ∈ Session.history gateway steps session,
        statement.IsDestructive gateway.endpoint.dialect →
          statement.IsConfined gateway.endpoint.dialect) ∧
    (∀ (condition changes ensureNotDeleted : Value) (strict : Bool) (form : Record)
      (clause : Clause), gateway.formOf changes strict = .ok form → form ≠ [] →
      gateway.clauseOf condition ensureNotDeleted .null .null = .ok clause →
      clause.predicates = [] → ∀ session : Session,
        let plan := gateway.update condition changes ensureNotDeleted strict
        session.sent gateway.endpoint.dialect plan = [] ∧
          (session.run gateway.endpoint.dialect plan).1 =
            .error (.invalid (.everyRow gateway.model .update gateway.table.name))) ∧
    (∀ (condition : Value) (clause : Clause),
      gateway.clauseOf condition (.bool false) .null .null = .ok clause →
      clause.predicates = [] → ∀ session : Session,
        session.sent gateway.endpoint.dialect (gateway.delete condition) = [] ∧
          (session.run gateway.endpoint.dialect (gateway.delete condition)).1 =
            .error (.invalid (.everyRow gateway.model .delete gateway.table.name))) ∧
    ∀ (condition ensureNotDeleted : Value) (record : Record),
      gateway.schema.queryForm condition ensureNotDeleted = .ok record →
      (∀ clause, gateway.clauseOf condition ensureNotDeleted .null .null = .ok clause →
        (clause.predicates = [] ↔ record.IsVacuous)) ∧
      ∀ style, ParamStyle.forClause gateway.endpoint.dialect.styleName = .ok style →
        record.IsVacuous → ∃ clause,
          gateway.clauseOf condition ensureNotDeleted .null .null = .ok clause := by
  refine ⟨fun steps session => ?_, fun condition changes ensureNotDeleted strict form clause => ?_,
    fun condition clause compiled nothing session => ?_,
    fun condition ensureNotDeleted record formed => ⟨fun clause compiled => ?_, ?_⟩⟩
  · refine Session.history_of_runs gateway (fun operation sent ending run => ?_) steps session
    intro statement member
    exact (operation.sends_of_runs gateway run statement member).isConfined deletions updates
  · intro written something compiled nothing session
    exact Session.sent_check _
      (silent_update_refused updates written something compiled nothing) session
  · exact Session.sent_check _ (silent_delete_refused deletions compiled nothing) session
  · exact predicates_eq_nil_iff formed compiled
  · exact fun style known vacuous => ⟨_, clauseOf_of_isVacuous formed vacuous known⟩

/-- An update of users by a bucket that holds nothing is refused. -/
theorem fails_closed_users :
    let rename := Gateway.users.update (.dict [(.text "eq", .dict [])])
      (.dict [(.text "name", .text "Ada")]) (.bool false) true
    Session.users.sent Gateway.users.endpoint.dialect rename = [] ∧
      (Session.users.run Gateway.users.endpoint.dialect rename).1 =
        .error (.invalid (.everyRow defaultModel .update "users")) := by
  have deletions : Gateway.users.allowDeleteAll = false := rfl
  have updates : Gateway.users.allowUpdateAll = false := rfl
  exact (fails_closed deletions updates).2.1 _ _ _ true [(.text "name", .text "Ada")]
    ⟨[], .unordered, .none⟩ rfl (List.cons_ne_nil _ _) rfl rfl Session.users

end Gateway

end TableGateway
