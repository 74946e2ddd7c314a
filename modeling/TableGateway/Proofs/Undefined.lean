/-
This file says what becomes of `undefined` in the condition of a gateway that has not
enabled it. A flat field that is `undefined` is refused, and so is one that stands so
under an operator, unless null checks are negated there. Nothing looks into a collection,
so `undefined` among the items of one is bound with them.
-/

import TableGateway.Proofs.Conjunct
import TableGateway.Proofs.Refusal
import TableGateway.Proofs.Selection
import TableGateway.Proofs.Standing
import TableGateway.Proofs.Traffic

namespace TableGateway

/-! ### What is bound for what is said -/

namespace Assertion

/-- The value that is bound for something said: null for `undefined`, the tuple of its items for a
collection under a membership operator, and else the value itself. -/
def bound (assertion : Assertion) : Value :=
  if assertion.value.isUndefined then .null
  else if assertion.operator.isMembership then
    ((membershipItems? assertion.value).map Value.tuple).getD assertion.value
  else assertion.value

/-- Something said has `undefined` among the items of its value: of a tuple, or of any collection
under a membership operator. -/
def CollectsUndefined (assertion : Assertion) : Prop :=
  ∃ items, Value.undefined ∈ items ∧
    (assertion.value = .tuple items ∨
      assertion.operator.isMembership = true ∧ membershipItems? assertion.value = some items)

theorem bound_ne_undefined (assertion : Assertion) : assertion.bound ≠ .undefined := by
  obtain ⟨operator, key, value⟩ := assertion
  cases operator <;> cases value <;>
    simp [bound, Value.isUndefined, Operator.isMembership, membershipItems?]

theorem bound_eq_tuple_iff (assertion : Assertion) (items : List Value) :
    assertion.bound = .tuple items ↔
      assertion.value = .tuple items ∨
        assertion.operator.isMembership = true ∧
          membershipItems? assertion.value = some items := by
  obtain ⟨operator, key, value⟩ := assertion
  cases operator <;> cases value <;>
    simp [bound, Value.isUndefined, Operator.isMembership, membershipItems?]

theorem toValue_of_membershipArgument {key value : Value} {operator : Operator}
    {argument : Argument} (chosen : membershipArgument key operator value = .ok argument) :
    argument.toValue = ((membershipItems? value).map Value.tuple).getD value := by
  unfold membershipArgument at chosen
  split at chosen
  · cases chosen
  · rename_i items _ given
    obtain ⟨_, _, taken⟩ := ok_of_bind chosen
    cases taken
    rw [given]
    rfl
  · rename_i single
    cases chosen
    rw [single]
    rfl

/-- Only where null checks are negated does `undefined` become a predicate. -/
theorem Becomes.operator_of_undefined {assertion : Assertion} {predicate : Predicate}
    (becomes : assertion.Becomes predicate) (absent : assertion.value = .undefined) :
    assertion.operator = .isNot := by
  obtain ⟨_, _, rest⟩ := ok_of_bind becomes
  obtain ⟨value, compared, -⟩ := ok_of_bind rest
  have isAbsent : Value.undefined.isUndefined = true := rfl
  rw [comparedValue, absent, if_pos isAbsent] at compared
  split at compared
  · rename_i negated
    exact negated
  · cases compared

/-- A predicate has what is bound for what was said. -/
theorem Becomes.toValue_eq {assertion : Assertion} {predicate : Predicate}
    (becomes : assertion.Becomes predicate) : predicate.argument.toValue = assertion.bound := by
  have negated := becomes.operator_of_undefined
  obtain ⟨_, _, rest⟩ := ok_of_bind becomes
  obtain ⟨value, compared, rest⟩ := ok_of_bind rest
  obtain ⟨_, _, rest⟩ := ok_of_bind rest
  unfold bound
  by_cases absent : assertion.value = .undefined
  · rw [comparedValue, absent, negated absent] at compared
    rw [negated absent] at rest
    cases compared
    cases rest
    rw [absent]
    rfl
  · have present : assertion.value.isUndefined = false := by
      cases given : assertion.value <;> first | rfl | exact absurd given absent
    rw [comparedValue, present, if_neg Bool.false_ne_true] at compared
    cases compared
    rw [present, if_neg Bool.false_ne_true]
    split at rest
    · rename_i membership
      obtain ⟨argument, chosen, assembled⟩ := ok_of_bind rest
      cases assembled
      rw [if_pos membership]
      exact toValue_of_membershipArgument chosen
    · rename_i comparison
      cases rest
      rw [if_neg comparison]
      rfl

/-- The arguments of predicates are the values that are bound for what they are made of. -/
theorem mem_predicateArguments_iff {said : List Assertion} {predicates : List Predicate}
    (related : List.Forall₂ Becomes said predicates) (argument : Value) :
    argument ∈ predicateArguments predicates ↔ ∃ assertion ∈ said, assertion.bound = argument := by
  rw [predicateArguments, List.mem_map]
  constructor
  · rintro ⟨predicate, member, rfl⟩
    obtain ⟨assertion, among, becomes⟩ := exists_of_mem_forall₂ related member
    exact ⟨assertion, among, becomes.toValue_eq.symm⟩
  · rintro ⟨assertion, among, rfl⟩
    obtain ⟨predicate, member, becomes⟩ := exists_of_mem_left_forall₂ related among
    exact ⟨predicate, member, becomes.toValue_eq⟩

end Assertion

/-! ### Conditions that are refused -/

/-- A record says `undefined` of something: of a flat field, or so that it stands under an operator
that takes no `undefined`. -/
def Record.SaysUndefined (record : Record) : Prop :=
  (∃ key, (key, Value.undefined) ∈ record) ∨
    ∃ assertion, Assertion.Stands record.assertions assertion ∧
      assertion.operator ≠ .isNot ∧ assertion.value = .undefined

/-- Where `undefined` is not enabled, no flat field of a condition that is classified has it. -/
theorem ne_undefined_of_classifyEntries {buckets classified : Buckets}
    {entries : List (Value × Value)}
    (passed : classifyEntries false buckets entries = .ok classified) (key : Value) :
    (key, Value.undefined) ∉ entries := by
  induction entries generalizing buckets with
  | nil => exact List.not_mem_nil
  | cons entry rest inductionHypothesis =>
    obtain ⟨middle, first, passed⟩ := ok_of_bind passed
    intro member
    rcases List.mem_cons.mp member with rfl | later
    · rw [classifyEntry] at first
      · cases first
      · rintro _ _ _ ⟨⟩
    · exact inductionHypothesis passed later

/-- The predicates of a record are made of what stands in it. -/
theorem forall₂_becomes_of_classify {record : Record} {enableUndefined : Bool} {buckets : Buckets}
    {predicates : List Predicate} (classified : classify record enableUndefined = .ok buckets)
    (became : Predicate.ofBuckets buckets.toRecord = .ok predicates) :
    List.Forall₂ Assertion.Becomes buckets.assertions predicates ∧
      ∀ assertion, assertion ∈ buckets.assertions ↔
        Assertion.Stands record.assertions assertion :=
  ⟨Assertion.forall₂_becomes_toRecord became,
    mem_assertions_iff_stands classified (Assertion.exists_name_of_ofBuckets became)⟩

/-- Where `undefined` is not enabled, a record with predicates does not say it. -/
theorem not_saysUndefined_of_classify {record : Record} {buckets : Buckets}
    {predicates : List Predicate} (classified : classify record false = .ok buckets)
    (became : Predicate.ofBuckets buckets.toRecord = .ok predicates) : ¬record.SaysUndefined := by
  rintro (⟨key, member⟩ | ⟨assertion, standing, positive, absent⟩)
  · exact ne_undefined_of_classifyEntries classified key member
  · obtain ⟨related, stands⟩ := forall₂_becomes_of_classify classified became
    obtain ⟨predicate, _, becomes⟩ :=
      exists_of_mem_left_forall₂ related ((stands assertion).mpr standing)
    exact positive (becomes.operator_of_undefined absent)

namespace Gateway

variable {gateway : Gateway} {condition ensureNotDeleted : Value} {record : Record}

/-- A condition that says `undefined` is refused where it is not enabled, whatever order and limit
are asked for. -/
theorem clauseOf_of_saysUndefined (off : gateway.enableUndefined = false)
    (known : gateway.endpoint.dialect.styleName.isHashable = true)
    (formed : gateway.schema.queryForm condition ensureNotDeleted = .ok record)
    (undefined : record.SaysUndefined) (order limit : Value) :
    ∃ fault, gateway.clauseOf condition ensureNotDeleted order limit = .error (.invalid fault) := by
  rw [clauseOf, formed, off]
  refine (onlyRefuses_classify record false).refused_bind fun buckets classified => ?_
  have refused : ∃ fault, Clause.ofValues gateway.endpoint.dialect.styleName buckets.toValue order
      limit = .error (.invalid fault) := by
    refine (onlyRefuses_forClause known).refused_bind fun style _ => ?_
    have uncompiled : ∃ fault, Clause.compile buckets.toRecord order limit =
        .error (.invalid fault) :=
      (Predicate.onlyRefuses_ofBuckets _).refused_bind fun predicates became =>
        absurd undefined (not_saysUndefined_of_classify classified became)
    obtain ⟨fault, failed⟩ := uncompiled
    refine ⟨fault, ?_⟩
    show (Clause.compile buckets.toRecord order limit >>= fun clause => _) = _
    rw [failed]
    rfl
  obtain ⟨fault, failed⟩ := refused
  refine ⟨fault, ?_⟩
  rw [failed]
  rfl

theorem find_refuses {order limit : Value} {fault : Fault}
    (refused : gateway.clauseOf condition ensureNotDeleted order limit = .error (.invalid fault))
    (projection : Value) :
    (gateway.find condition ensureNotDeleted projection order limit).Refuses := by
  have quiet := gateway.silent_compile_bucketsOf condition ensureNotDeleted order limit
  rw [refused] at quiet
  rw [find_eq]
  exact (Plan.refuses_of_check quiet).bind _

theorem onlyRefuses_countProjection (gateway : Gateway) :
    OnlyRefuses gateway.countProjection := by
  unfold countProjection
  split
  · split
    · exact ((onlyRefuses_orRefuse _).map _).bind fun target => .passes _
    · exact .passes _
  · exact .passes _

end Gateway

/-! ### What operations choose by -/

namespace Operation

/-- The condition by which an operation chooses rows, and whether it leaves hidden ones out. -/
def choosesBy? : Operation → Option (Value × Value)
  | .find condition ensureNotDeleted _ _ _ => some (condition, ensureNotDeleted)
  | .findOne condition ensureNotDeleted _ _ => some (condition, ensureNotDeleted)
  | .count condition ensureNotDeleted => some (condition, ensureNotDeleted)
  | .getOrNotFound condition ensureNotDeleted _ => some (condition, ensureNotDeleted)
  | .update condition _ ensureNotDeleted _ => some (condition, ensureNotDeleted)
  | .delete condition => some (condition, .bool false)
  | _ => none

/-- An update has something to change; other operations need nothing of the kind. -/
def HasChanges (gateway : Gateway) : Operation → Prop
  | .update _ changes _ strict => ∃ form, gateway.formOf changes strict = .ok form ∧ form ≠ []
  | _ => True

variable {gateway : Gateway} {operation : Operation} {condition ensureNotDeleted : Value}

/-- What an operation sends that chooses by a condition has the predicates of the condition. -/
theorem exists_clauseOf_of_runs
    (chooses : operation.choosesBy? = some (condition, ensureNotDeleted)) {sent : List Statement}
    {ending : Ending operation.Answer} (run : (operation.plan gateway).Runs sent ending) :
    ∀ statement ∈ sent, ∃ order limit clause,
      gateway.clauseOf condition ensureNotDeleted order limit = .ok clause ∧
        statement.predicates? = some clause.predicates := by
  intro statement member
  cases operation with
  | find =>
    cases chooses
    cases (gateway.find_always _ _ _ _ _).of_runs run statement member with
    | select compiled chosen => exact ⟨_, _, _, compiled, rfl⟩
  | findOne =>
    cases chooses
    cases (gateway.findOne_always _ _ _ _).of_runs run statement member with
    | select compiled chosen => exact ⟨_, _, _, compiled, rfl⟩
  | count =>
    cases chooses
    obtain ⟨_, _, reads⟩ := (gateway.count_always _ _).of_runs run statement member
    cases reads with
    | select compiled chosen => exact ⟨_, _, _, compiled, rfl⟩
  | getOrNotFound =>
    cases chooses
    cases (gateway.getOrNotFound_always _ _ _).of_runs run statement member with
    | select compiled chosen => exact ⟨_, _, _, compiled, rfl⟩
  | update =>
    cases chooses
    cases (gateway.update_always _ _ _ _).of_runs run statement member with
    | update written compiled confined named => exact ⟨_, _, _, compiled, rfl⟩
  | delete =>
    cases chooses
    cases (gateway.delete_always _).of_runs run statement member with
    | delete compiled confined => exact ⟨_, _, _, compiled, rfl⟩
  | _ => cases chooses

/-- An operation refuses whose condition is refused, whatever order and limit are asked for. -/
theorem refuses_of_clauseOf (chooses : operation.choosesBy? = some (condition, ensureNotDeleted))
    (changing : operation.HasChanges gateway)
    (refused : ∀ order limit, ∃ fault,
      gateway.clauseOf condition ensureNotDeleted order limit = .error (.invalid fault)) :
    (operation.plan gateway).Refuses := by
  have foundOne (projection order : Value) :
      (gateway.findOne condition ensureNotDeleted projection order).Refuses := by
    obtain ⟨fault, failed⟩ := refused order Gateway.uniqueLimit
    exact (Gateway.find_refuses failed projection).bind _
  have chosen : (gateway.conditionClause condition ensureNotDeleted).Refuses := by
    obtain ⟨fault, failed⟩ := refused .null .null
    have quiet := gateway.silent_conditionClause condition ensureNotDeleted
    rw [failed] at quiet
    exact Plan.refuses_of_check quiet
  cases operation with
  | find _ _ projection order limit =>
    cases chooses
    obtain ⟨fault, failed⟩ := refused order limit
    exact Gateway.find_refuses failed projection
  | findOne _ _ projection order =>
    cases chooses
    exact foundOne projection order
  | count =>
    cases chooses
    exact Plan.refuses_bind_check (Plan.silent_ofExcept _) gateway.onlyRefuses_countProjection
      fun projection _ => (foundOne projection .null).bind _
  | getOrNotFound _ _ projection =>
    cases chooses
    exact (foundOne projection .null).bind _
  | update _ changes _ strict =>
    cases chooses
    obtain ⟨form, written, something⟩ := changing
    refine Plan.refuses_bind_check (gateway.silent_writeForm changes strict)
      (written ▸ .passes form) fun other same => ?_
    rw [written] at same
    cases same
    rw [List.isEmpty_eq_false_iff.mpr something, if_neg Bool.false_ne_true]
    exact chosen.bind _
  | delete =>
    cases chooses
    exact chosen.bind _
  | _ => cases chooses

/-- Where `undefined` is not enabled, an operation that chooses by a condition refuses it if it says
`undefined`, and sends nothing. In what it sends otherwise, no argument of the condition is
`undefined`; one has it among its items exactly if a collection that stands in the condition has;
and where null checks are negated, null is bound for it. -/
theorem refuses_undefined (off : gateway.enableUndefined = false)
    (known : gateway.endpoint.dialect.styleName.isHashable = true)
    (chooses : operation.choosesBy? = some (condition, ensureNotDeleted)) {record : Record}
    (formed : gateway.schema.queryForm condition ensureNotDeleted = .ok record)
    (session : Session) :
    (record.SaysUndefined → operation.HasChanges gateway →
      session.sent gateway.endpoint.dialect (operation.plan gateway) = [] ∧
        ∃ fault, (session.run gateway.endpoint.dialect (operation.plan gateway)).1 =
          .error (.invalid fault)) ∧
    ∀ statement ∈ session.sent gateway.endpoint.dialect (operation.plan gateway),
      ∃ predicates, statement.predicates? = some predicates ∧
        .undefined ∉ predicateArguments predicates ∧
        ((∃ items, .tuple items ∈ predicateArguments predicates ∧ .undefined ∈ items) ↔
          ∃ assertion, Assertion.Stands record.assertions assertion ∧
            assertion.CollectsUndefined) ∧
        ∀ assertion, Assertion.Stands record.assertions assertion →
          assertion.value = .undefined →
            ∃ predicate ∈ predicates, predicate.operator = .isNot ∧
              assertion.key = .text predicate.column.name ∧
                predicate.argument.toValue = .null := by
  refine ⟨fun undefined changing => ?_, fun statement member => ?_⟩
  · have refuses := refuses_of_clauseOf chooses changing
      (Gateway.clauseOf_of_saysUndefined off known formed undefined)
    exact Session.sent_of_refuses refuses _ session
  · obtain ⟨ending, run, -⟩ :=
      Session.runs_sent gateway.endpoint.dialect (operation.plan gateway) session
    obtain ⟨order, limit, clause, compiled, chosen⟩ :=
      exists_clauseOf_of_runs chooses run statement member
    obtain ⟨buckets, classified, became⟩ := Gateway.classify_of_clauseOf_eq_ok formed compiled
    obtain ⟨related, stands⟩ := forall₂_becomes_of_classify classified became
    have bound := Assertion.mem_predicateArguments_iff related
    refine ⟨clause.predicates, chosen, ?_, ?_, fun assertion standing absent => ?_⟩
    · rw [bound]
      rintro ⟨assertion, -, same⟩
      exact assertion.bound_ne_undefined same
    · constructor
      · rintro ⟨items, argument, among⟩
        obtain ⟨assertion, member, same⟩ := (bound _).mp argument
        exact ⟨assertion, (stands assertion).mp member, items, among,
          (assertion.bound_eq_tuple_iff items).mp same⟩
      · rintro ⟨assertion, standing, items, among, given⟩
        exact ⟨items, (bound _).mpr ⟨assertion, (stands assertion).mpr standing,
          (assertion.bound_eq_tuple_iff items).mpr given⟩, among⟩
    · obtain ⟨predicate, among, becomes⟩ :=
        exists_of_mem_left_forall₂ related ((stands assertion).mpr standing)
      obtain ⟨sameOperator, column⟩ := becomes.names
      refine ⟨predicate, among, ?_, column, ?_⟩
      · rw [sameOperator, becomes.operator_of_undefined absent]
      · rw [becomes.toValue_eq, Assertion.bound, absent]
        rfl

/-- A name that is `undefined` is refused; a collection that has it among its items is bound with
it, also where it is not enabled. -/
theorem refuses_undefined_users :
    let flat := Operation.find (.dict [(.text "name", .undefined)]) (.bool true)
      Gateway.everything .null .null
    let collected := Operation.find
      (.dict [(.text "in", .dict [(.text "name", .list [.text "Ada", .undefined])])]) (.bool true)
      Gateway.everything .null .null
    Session.users.sent Gateway.users.endpoint.dialect (flat.plan .users) = [] ∧
      (∃ fault, (Session.users.run Gateway.users.endpoint.dialect (flat.plan .users)).1 =
        .error (.invalid fault)) ∧
      ∃ statement ∈ Session.users.sent Gateway.users.endpoint.dialect (collected.plan .users),
        statement.arguments = [.tuple [.text "Ada", .undefined], .bool false] ∧
          ∃ predicates, statement.predicates? = some predicates ∧
            .undefined ∉ predicateArguments predicates := by
  intro flat collected
  have off : Gateway.users.enableUndefined = false := rfl
  have known : Gateway.users.endpoint.dialect.styleName.isHashable = true := rfl
  have flatChooses : flat.choosesBy? =
      some (.dict [(.text "name", .undefined)], .bool true) := rfl
  have flatFormed : Gateway.users.schema.queryForm (.dict [(.text "name", .undefined)])
      (.bool true) = .ok [(.text "name", .undefined), (.text "deleted", .bool false)] := rfl
  obtain ⟨nothing, failed⟩ := (refuses_undefined off known flatChooses flatFormed
    Session.users).1 (.inl ⟨_, List.mem_cons_self⟩) trivial
  have collectedChooses : collected.choosesBy? = some
      (.dict [(.text "in", .dict [(.text "name", .list [.text "Ada", .undefined])])],
        .bool true) := rfl
  have collectedFormed : Gateway.users.schema.queryForm
      (.dict [(.text "in", .dict [(.text "name", .list [.text "Ada", .undefined])])])
      (.bool true) = .ok [(.text "in", .dict [(.text "name", .list [.text "Ada", .undefined])]),
        (.text "deleted", .bool false)] := rfl
  have sends := (refuses_undefined off known collectedChooses collectedFormed Session.users).2
  -- what is sent is made of the predicates that are found first
  obtain ⟨found, statement, finds, made, arguments⟩ : ∃ found statement,
      Gateway.users.predicatesOf (.dict [(.text "in",
        .dict [(.text "name", .list [.text "Ada", .undefined])])]) true = .ok found ∧
      Gateway.users.selectionOf Gateway.everything .null .null found = .ok statement ∧
      statement.arguments = [.tuple [.text "Ada", .undefined], .bool false] :=
    ⟨_, _, rfl, rfl, rfl⟩
  have once : (collected.plan .users).AsksOnce
      (Gateway.users.predicatesOf _ true >>= Gateway.users.selectionOf _ .null .null) :=
    Gateway.users.asksOnce_find _ (.bool true) _ .null .null
  rw [finds] at once
  change (collected.plan .users).AsksOnce (Gateway.users.selectionOf _ .null .null found) at once
  rw [made] at once
  have member : statement ∈
      Session.users.sent Gateway.users.endpoint.dialect (collected.plan .users) := by
    rw [Session.sent_of_asksOnce_ok _ once Session.users]
    exact List.mem_cons_self
  obtain ⟨predicates, chosen, bound, -⟩ := sends statement member
  exact ⟨nothing, failed, statement, member, arguments, predicates, chosen, bound⟩

end Operation

end TableGateway
