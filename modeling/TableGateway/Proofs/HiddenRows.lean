/-
This file says what becomes of the hidden flag in a statement that is to see live rows
only. The flag is forced to false in the condition's record, at the place where the
condition mentions it first. One conjunct compares the flag, and its argument is false
unless the condition overrides the flag behind that place: an explicit bucket that comes
later is taken as it stands.
-/

import TableGateway.Proofs.Conjunct
import TableGateway.Proofs.Override
import TableGateway.Proofs.Tidiness
import TableGateway.Proofs.Traffic

namespace TableGateway

/-! ### The conjunct of the flag -/

/-- Among the conjuncts of a statement, one and only one asks a column to be equal to something, and
its argument is a given value. -/
def Statement.Equates (dialect : Dialect) (statement : Statement) (column : Identifier)
    (value : Value) : Prop :=
  ∃ head earlier later tail,
    statement.sql dialect =
      head ++ " WHERE " ++ Text.joinWith " AND "
        (earlier.map (Predicate.sql dialect.style) ++
          (column.quoted ++ " = " ++ dialect.style.placeholder) ::
            later.map (Predicate.sql dialect.style)) ++ tail ∧
    statement.arguments =
      statement.written ++ predicateArguments earlier ++ value :: predicateArguments later ∧
    ∀ other ∈ earlier ++ later, other.operator = .eq → other.column ≠ column

theorem Statement.equates_of_predicates? {statement : Statement} {column : Identifier}
    {value : Value} {earlier later : List Predicate}
    (chooses : statement.predicates? = some (earlier ++ ⟨column, .eq, .single value⟩ :: later))
    (once : ∀ other ∈ earlier ++ later, other.operator = .eq → other.column ≠ column)
    (dialect : Dialect) : statement.Equates dialect column value := by
  obtain ⟨head, tail, text, bound⟩ := sql_of_predicates? chooses dialect
  refine ⟨head, earlier, later, tail, ?_, ?_, once⟩
  · have nonempty : (earlier ++ ⟨column, .eq, .single value⟩ :: later).isEmpty = false := by
      cases earlier <;> rfl
    have conjunct : Predicate.sql dialect.style ⟨column, .eq, .single value⟩ =
        column.quoted ++ " = " ++ dialect.style.placeholder := by
      have spaced : " " ++ Operator.eq.sql ++ " " = " = " := rfl
      rw [Predicate.sql, ← spaced]
      simp only [String.append_assoc]
      rfl
    rw [text, whereText, nonempty, List.map_append, List.map_cons, conjunct,
      if_neg Bool.false_ne_true]
    simp only [String.append_assoc]
  · rw [bound, predicateArguments, List.map_append, List.map_cons, List.append_assoc]
    rfl

namespace Gateway

/-- A statement compares the hidden flag once, and with false unless the condition goes on to say
that it is equal to something else. -/
def ComparesFlag (gateway : Gateway) (flag condition : Value) (statement : Statement) : Prop :=
  ∃ record column value,
    condition.toRecord = .ok record ∧ flag = .text column.name ∧
      statement.Equates gateway.endpoint.dialect column value ∧
      (value = .bool false ↔ ¬record.Overrides column.name)

variable {gateway : Gateway}

/-- The predicates of a condition from which hidden rows are left out. -/
theorem clauseOf_flag {flag : Value} (declared : gateway.schema.hiddenFlag = some flag)
    {condition ensureNotDeleted order limit : Value}
    (hides : Schema.hidesRows ensureNotDeleted = true) {clause : Clause}
    (compiled : gateway.clauseOf condition ensureNotDeleted order limit = .ok clause) :
    ∃ record column earlier later,
      condition.toRecord = .ok record ∧ flag = .text column.name ∧
      clause.predicates = earlier ++
        ⟨column, .eq, .single ((record.equalityBehind? column.name).getD (.bool false))⟩ ::
          later ∧
      ∀ other ∈ earlier ++ later, other.operator = .eq → other.column ≠ column := by
  obtain ⟨record, buckets, offered, classified, became⟩ := clauseOf_eq_ok compiled
  have forced : gateway.schema.guarded record (Schema.hidesRows ensureNotDeleted) =
      record.put flag (.bool false) := by
    rw [Schema.guarded, declared, hides]
    rfl
  rw [forced] at classified
  -- the flag is named, so something is said of it, and that is one of the predicates
  obtain ⟨own, mentioned, split⟩ := record.assertions_put flag false
  have said : ⟨.eq, own, .bool false⟩ ∈ Record.assertions (record.put flag (.bool false)) :=
    split ▸ List.mem_append_right _ List.mem_cons_self
  have isNamed : buckets.Names .eq own := names_classifyEntries classified said
  obtain ⟨assertion, member, equality, sameKey⟩ := isNamed.exists_mem_assertions
  obtain ⟨before, after, divided⟩ := List.append_of_mem member
  have related := Assertion.forall₂_becomes_toRecord became
  rw [divided] at related
  obtain ⟨earlier, predicate, later, apart, early, becomes, late⟩ := forall₂_split related
  obtain ⟨sameOperator, named⟩ := becomes.names
  -- only a text can be quoted, and only a text is equal to a text, so the flag is the column's name
  have ownName : own = .text predicate.column.name := by
    rcases sameKey with same | equal
    · rw [← same, named]
    · rw [named] at equal
      exact (Value.text_equal_iff _ own).mp equal
  have flagName : flag = .text predicate.column.name := by
    rcases mentioned with same | equal
    · rw [← same, ownName]
    · rw [ownName] at equal
      exact (Value.text_equal_iff _ flag).mp equal
  have tidy : buckets.AreTidy := areTidy_classifyEntries Buckets.areTidy_nil classified
  have value : assertion.value =
      (record.equalityBehind? predicate.column.name).getD (.bool false) := by
    have had := Buckets.value?_of_mem tidy member named
    rw [equality, value?_classifyEntries classified, flagName, Record.last?_assertions_put] at had
    exact (Option.some.inj had).symm
  refine ⟨record, predicate.column, earlier, later, offered, flagName, ?_, ?_⟩
  · have assembled : predicate = ⟨predicate.column, .eq, .single assertion.value⟩ := by
      rw [← becomes.argument_eq equality, ← equality, ← sameOperator]
    rw [apart, ← value, ← assembled]
  · intro other among sameEquality sameColumn
    obtain ⟨source, inside, turned⟩ :=
      exists_of_mem_forall₂ (List.rel_append early late) among
    obtain ⟨sourceOperator, sourceName⟩ := turned.names
    rw [sameColumn] at sourceName
    refine Buckets.said_once tidy divided named source inside ?_ sourceName
    rw [← sourceOperator, sameEquality, equality]

theorem comparesFlag_of_predicates? {flag : Value}
    (declared : gateway.schema.hiddenFlag = some flag)
    {condition ensureNotDeleted order limit : Value}
    (hides : Schema.hidesRows ensureNotDeleted = true) {clause : Clause}
    (compiled : gateway.clauseOf condition ensureNotDeleted order limit = .ok clause)
    {statement : Statement} (chooses : statement.predicates? = some clause.predicates) :
    gateway.ComparesFlag flag condition statement := by
  obtain ⟨record, column, earlier, later, offered, flagName, divided, once⟩ :=
    clauseOf_flag declared hides compiled
  rw [divided] at chooses
  exact ⟨record, column, _, offered, flagName, Statement.equates_of_predicates? chooses once _,
    record.getD_equalityBehind?_eq_false_iff column.name⟩

theorem Reads.comparesFlag {flag : Value} (declared : gateway.schema.hiddenFlag = some flag)
    {condition ensureNotDeleted projection order limit : Value} {statement : Statement}
    (reads : gateway.Reads condition ensureNotDeleted projection order limit statement)
    (hides : Schema.hidesRows ensureNotDeleted = true) :
    gateway.ComparesFlag flag condition statement := by
  cases reads with
  | select compiled chosen => exact comparesFlag_of_predicates? declared hides compiled rfl

theorem Updates.comparesFlag {flag : Value} (declared : gateway.schema.hiddenFlag = some flag)
    {condition changes ensureNotDeleted : Value} {strict : Bool} {statement : Statement}
    (updates : gateway.Updates condition changes ensureNotDeleted strict statement)
    (hides : Schema.hidesRows ensureNotDeleted = true) :
    gateway.ComparesFlag flag condition statement := by
  cases updates with
  | update written compiled confined named =>
    exact comparesFlag_of_predicates? declared hides compiled rfl

end Gateway

/-! ### Operations on live rows -/

namespace Operation

/-- The condition of an operation that chooses among live rows only. -/
def liveCondition? : Operation → Option Value
  | .find condition ensureNotDeleted _ _ _ =>
    if Schema.hidesRows ensureNotDeleted then some condition else none
  | .findOne condition ensureNotDeleted _ _ =>
    if Schema.hidesRows ensureNotDeleted then some condition else none
  | .count condition ensureNotDeleted =>
    if Schema.hidesRows ensureNotDeleted then some condition else none
  | .getOrNotFound condition ensureNotDeleted _ =>
    if Schema.hidesRows ensureNotDeleted then some condition else none
  | .update condition _ ensureNotDeleted _ =>
    if Schema.hidesRows ensureNotDeleted then some condition else none
  | .disable condition => some condition
  | _ => none

/-- What an operation on live rows sends compares the hidden flag, apart from the look at the
columns before rows are hidden. The flag is compared with false exactly if the condition does not
override it. -/
theorem comparesFlag_of_runs {gateway : Gateway} {flag : Value}
    (declared : gateway.schema.hiddenFlag = some flag) {operation : Operation}
    {condition : Value} (live : operation.liveCondition? = some condition)
    {sent : List Statement} {ending : Ending operation.Answer}
    (run : (operation.plan gateway).Runs sent ending) :
    ∀ statement ∈ sent,
      (operation = .disable condition ∧
        gateway.endpoint.LooksUp gateway.table statement) ∨
      gateway.ComparesFlag flag condition statement := by
  intro statement member
  cases operation with
  | find asked ensureNotDeleted projection order limit =>
    obtain ⟨hides, same⟩ := Option.ite_none_right_eq_some.mp live
    cases same
    have reads := (gateway.find_always _ _ _ _ _).of_runs run statement member
    exact .inr (reads.comparesFlag declared hides)
  | findOne asked ensureNotDeleted projection order =>
    obtain ⟨hides, same⟩ := Option.ite_none_right_eq_some.mp live
    cases same
    have reads := (gateway.findOne_always _ _ _ _).of_runs run statement member
    exact .inr (reads.comparesFlag declared hides)
  | count asked ensureNotDeleted =>
    obtain ⟨hides, same⟩ := Option.ite_none_right_eq_some.mp live
    cases same
    obtain ⟨_, _, reads⟩ := (gateway.count_always _ _).of_runs run statement member
    exact .inr (reads.comparesFlag declared hides)
  | getOrNotFound asked ensureNotDeleted projection =>
    obtain ⟨hides, same⟩ := Option.ite_none_right_eq_some.mp live
    cases same
    have reads := (gateway.getOrNotFound_always _ _ _).of_runs run statement member
    exact .inr (reads.comparesFlag declared hides)
  | update asked changes ensureNotDeleted strict =>
    obtain ⟨hides, same⟩ := Option.ite_none_right_eq_some.mp live
    cases same
    have updates := (gateway.update_always _ _ _ _).of_runs run statement member
    exact .inr (updates.comparesFlag declared hides)
  | disable asked =>
    cases live
    rcases (gateway.disable_always _).of_runs run statement member with
      found | ⟨_, _, updates⟩
    · exact .inl ⟨rfl, found⟩
    · exact .inr (updates.comparesFlag declared rfl)
  | _ => cases live

/-- A bucket that comes behind the flag overrides it: the rows that are read are the hidden ones. -/
theorem comparesFlag_overridden :
    let condition : Value := .dict [(.text "deleted", .bool true),
      (.text "eq", .dict [(.text "deleted", .bool true)])]
    let reading := Operation.find condition .null Gateway.everything .null .null
    ∃ statement ∈ Session.users.sent Gateway.users.endpoint.dialect (reading.plan .users),
      statement.sql Gateway.users.endpoint.dialect =
        "SELECT \x60id\x60, \x60name\x60, \x60deleted\x60 FROM \x60users\x60 " ++
          "WHERE \x60deleted\x60 = ?" ∧
      statement.arguments = [.bool true] ∧
      Gateway.users.ComparesFlag (.text "deleted") condition statement := by
  intro condition reading
  obtain ⟨ending, run, _⟩ :=
    Session.runs_sent Gateway.users.endpoint.dialect (reading.plan .users) Session.users
  have compared := comparesFlag_of_runs rfl rfl run
  refine ⟨_, List.mem_cons_self, rfl, rfl, ?_⟩
  rcases compared _ List.mem_cons_self with ⟨disabling, _⟩ | compares
  · simp only [reading, reduceCtorEq] at disabling
  · exact compares

end Operation

end TableGateway
