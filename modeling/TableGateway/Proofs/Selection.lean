/-
This file shows that reads, updates and deletions choose their rows alike. Each of them
finds the predicates of its condition, or fails as they do, before it makes anything of
them; the statement that it sends then has just these predicates. So operations that are
given one condition, and leave hidden rows out or in alike, choose by one text and by one
list of arguments, and the rows that an upsert changes are chosen as it has looked them up.
-/

import TableGateway.Proofs.Conjunct
import TableGateway.Proofs.Upserting

namespace TableGateway

/-! ### Plans that ask once -/

namespace Plan

variable {Result Next : Type} {checked : Except Failure Statement}

/-- A plan that sends nothing: with nothing said it is a check. -/
def IsCheck (plan : Plan Result) : Prop :=
  ∃ checked : Except Failure Result, plan.silent = ofExcept checked

/-- With nothing said, a plan checks which statement it is to send, sends it, and concludes from the
reply. -/
def AsksOnce (checked : Except Failure Statement) (plan : Plan Result) : Prop :=
  ∃ conclude : Reply → Except Failure Result,
    plan.silent = ofExcept checked >>= fun statement =>
      ask statement >>= fun reply => ofExcept (conclude reply)

theorem asksOnce_failed (failure : Failure) :
    (failed failure : Plan Result).AsksOnce (.error failure) :=
  ⟨fun _ => .error failure, rfl⟩

/-- A plan that asks and then only concludes, whatever it says, asks once. -/
theorem asksOnce_ask (statement : Statement) {next : Reply → Plan Result}
    (quiet : ∀ reply, (next reply).IsCheck) :
    (ask statement >>= next).AsksOnce (.ok statement) := by
  choose conclude concluded using quiet
  refine ⟨conclude, ?_⟩
  rw [silent_bind]
  exact congrArg (send statement) (funext concluded)

/-- Before it asks, a plan may check. -/
theorem AsksOnce.check_bind {First : Type} {plan : Plan First} {next : First → Plan Result}
    {first : Except Failure First} {make : First → Except Failure Statement}
    (quiet : plan.silent = ofExcept first)
    (rest : ∀ result, first = .ok result → (next result).AsksOnce (make result)) :
    (plan >>= next).AsksOnce (first >>= make) := by
  cases first with
  | error failure =>
    refine ⟨fun _ => .error failure, ?_⟩
    rw [silent_bind, quiet]
    rfl
  | ok result =>
    obtain ⟨conclude, same⟩ := rest result rfl
    refine ⟨conclude, ?_⟩
    rw [silent_bind, quiet]
    exact same

/-- Before it asks, a plan may say something. -/
theorem AsksOnce.said_bind {plan : Plan Unit} {next : Unit → Plan Result}
    (quiet : plan.silent = pure ()) (rest : (next ()).AsksOnce checked) :
    (plan >>= next).AsksOnce checked := by
  have passes : plan.silent = ofExcept (.ok ()) := quiet
  exact AsksOnce.check_bind passes fun _ _ => rest

/-- After it has asked, a plan may conclude further. -/
theorem AsksOnce.bind {plan : Plan Result} {next : Result → Plan Next}
    (once : plan.AsksOnce checked) (quiet : ∀ result, (next result).IsCheck) :
    (plan >>= next).AsksOnce checked := by
  obtain ⟨first, same⟩ := once
  choose conclude concluded using quiet
  refine ⟨fun reply => first reply >>= conclude, ?_⟩
  rw [silent_bind, same]
  simp only [concluded, bind_assoc, ofExcept_bind]

end Plan

namespace Session

variable {Result : Type} (dialect : Dialect) {plan : Plan Result}

/-- Where the check fails, nothing is sent, and the failure is that of the check. -/
theorem sent_of_asksOnce_error {failure : Failure} (once : plan.AsksOnce (.error failure))
    (session : Session) :
    session.sent dialect plan = [] ∧ (session.run dialect plan).1 = .error failure := by
  obtain ⟨_, same⟩ := once
  have quiet : plan.silent = Plan.ofExcept (.error failure) := same
  exact sent_check dialect quiet session

/-- Where the check passes, its statement is sent, and no other. -/
theorem sent_of_asksOnce_ok {statement : Statement} (once : plan.AsksOnce (.ok statement))
    (session : Session) : session.sent dialect plan = [statement] := by
  obtain ⟨conclude, same⟩ := once
  obtain ⟨ending, running, _⟩ := runs_sent dialect plan session
  have silentRun := Plan.runs_silent running
  rw [same] at silentRun
  generalize session.sent dialect plan = sent at silentRun ⊢
  cases silentRun with
  | broken => rfl
  | answered reply concluding =>
    obtain ⟨nothing, _⟩ := Plan.runs_check (Plan.silent_ofExcept (conclude reply)) concluding
    rw [nothing]

end Session

/-! ### The predicates of a condition -/

/-- Whether hidden rows are left out: asked for, and there is a flag to tell them by. -/
def Schema.leavesOut (schema : Schema) (ensureNotDeleted : Value) : Bool :=
  schema.hiddenFlag.isSome && hidesRows ensureNotDeleted

theorem Schema.guarded_leavesOut (schema : Schema) (record : Record) (ensureNotDeleted : Value) :
    schema.guarded record (schema.leavesOut ensureNotDeleted) =
      schema.guarded record (hidesRows ensureNotDeleted) := by
  unfold guarded leavesOut
  cases schema.hiddenFlag <;> rfl

/-- With some predicates, an order and a limit. -/
def Clause.completing (order limit : Value) (predicates : List Predicate) :
    Except Failure Clause := do
  let ordering ← Ordering.ofValue? order
  let limit ← orRefuse (Limit.ofValue? limit)
  Clause.written ⟨predicates, ordering, limit⟩

theorem Clause.predicates_of_completing {order limit : Value} {predicates : List Predicate}
    {clause : Clause} (completed : Clause.completing order limit predicates = .ok clause) :
    clause.predicates = predicates := by
  obtain ⟨ordering, _, completed⟩ := ok_of_bind completed
  obtain ⟨bound, _, together⟩ := ok_of_bind completed
  obtain ⟨rfl, _⟩ := Clause.written_eq_ok_iff.mp together
  rfl

/-- A clause is compiled and shown as its predicates are completed. -/
theorem Clause.compile_written (entries : List (Value × Value)) (order limit : Value) :
    Clause.compile entries order limit >>= Clause.written =
      Predicate.ofBuckets entries >>= Clause.completing order limit := by
  unfold Clause.compile Clause.completing
  simp only [bind_assoc, pure_bind]

namespace Gateway

variable (gateway : Gateway)

/-- The predicates of a condition, hidden rows left out or not. -/
def predicatesOf (condition : Value) (hides : Bool) : Except Failure (List Predicate) := do
  let record ← condition.toRecord
  let buckets ← classify (gateway.schema.guarded record hides) gateway.enableUndefined
  let _ ← ParamStyle.forClause gateway.endpoint.dialect.styleName
  Predicate.ofBuckets buckets.toRecord

/-- A clause is compiled from the predicates of its condition, and from nothing else of it. -/
theorem clauseOf_eq_bind (condition ensureNotDeleted order limit : Value) :
    gateway.clauseOf condition ensureNotDeleted order limit =
      gateway.predicatesOf condition (gateway.schema.leavesOut ensureNotDeleted) >>=
        Clause.completing order limit := by
  have entries (buckets : Buckets) : buckets.toValue.entriesOrNone = .ok buckets.toRecord := rfl
  simp only [clauseOf, predicatesOf, Schema.queryForm, Schema.guarded_leavesOut, bind_pure_comp,
    Clause.snd_ofValues, entries, Clause.compile_written, bind_assoc, bind_map_left]
  rfl

/-- The selection that is made of predicates. -/
def selectionOf (projection order limit : Value) (predicates : List Predicate) :
    Except Failure Statement := do
  let clause ← Clause.completing order limit predicates
  let selected ← gateway.projectionOf projection
  return .select selected gateway.table clause

/-- The update that is made of predicates. -/
def changeOf (form : Record) (predicates : List Predicate) : Except Failure Statement := do
  let clause ← Clause.completing .null .null predicates
  if clause.predicates.isEmpty && !gateway.allowUpdateAll then
    refuse (.everyRow gateway.model .update gateway.table.name)
  else
    let assignments ← gateway.assignmentsOf form
    return .update gateway.table assignments clause.predicates

/-- The deletion that is made of predicates. -/
def removalOf (predicates : List Predicate) : Except Failure Statement := do
  let clause ← Clause.completing .null .null predicates
  if clause.predicates.isEmpty && !gateway.allowDeleteAll then
    refuse (.everyRow gateway.model .delete gateway.table.name)
  else return .delete gateway.table clause.predicates

/-! ### What is made of the predicates -/

theorem asksOnce_selectRows (clause : Clause) (projection : Value) :
    (gateway.selectRows clause projection).AsksOnce (do
      let selected ← gateway.projectionOf projection
      return .select selected gateway.table clause) := by
  refine Plan.AsksOnce.check_bind (Plan.silent_ofExcept _) fun selected _ => ?_
  refine Plan.AsksOnce.said_bind (gateway.silent_announce _ _) ?_
  refine Plan.asksOnce_ask _ fun reply => ?_
  by_cases whole : isEverything projection = true
  · rw [if_pos whole]
    exact ⟨_, Plan.silent_ofExcept _⟩
  · rw [if_neg whole]
    exact ⟨.ok reply.rows, rfl⟩

theorem asksOnce_find (condition ensureNotDeleted projection order limit : Value) :
    (gateway.find condition ensureNotDeleted projection order limit).AsksOnce
      (gateway.predicatesOf condition (gateway.schema.leavesOut ensureNotDeleted) >>=
        gateway.selectionOf projection order limit) := by
  have made : gateway.predicatesOf condition (gateway.schema.leavesOut ensureNotDeleted) >>=
        gateway.selectionOf projection order limit =
      gateway.clauseOf condition ensureNotDeleted order limit >>= fun clause => do
        let selected ← gateway.projectionOf projection
        return .select selected gateway.table clause := by
    rw [clauseOf_eq_bind, bind_assoc]
    rfl
  rw [made, find_eq]
  exact Plan.AsksOnce.check_bind
    (gateway.silent_compile_bucketsOf condition ensureNotDeleted order limit)
    fun clause _ => gateway.asksOnce_selectRows clause projection

theorem asksOnce_findOne (condition ensureNotDeleted projection order : Value) :
    (gateway.findOne condition ensureNotDeleted projection order).AsksOnce
      (gateway.predicatesOf condition (gateway.schema.leavesOut ensureNotDeleted) >>=
        gateway.selectionOf projection order uniqueLimit) := by
  refine (gateway.asksOnce_find condition ensureNotDeleted projection order uniqueLimit).bind
    fun rows => ?_
  split
  · exact ⟨.ok none, rfl⟩
  · exact ⟨.ok (some _), rfl⟩
  · split
    · exact ⟨.ok (some _), rfl⟩
    · exact ⟨.error _, rfl⟩

theorem asksOnce_getOrNotFound (condition ensureNotDeleted projection : Value) :
    (gateway.getOrNotFound condition ensureNotDeleted projection).AsksOnce
      (gateway.predicatesOf condition (gateway.schema.leavesOut ensureNotDeleted) >>=
        gateway.selectionOf projection .null uniqueLimit) := by
  refine (gateway.asksOnce_findOne condition ensureNotDeleted projection .null).bind
    fun found => ?_
  cases found with
  | some row => exact ⟨.ok row, rfl⟩
  | none => exact ⟨.error _, rfl⟩

theorem asksOnce_count {projection : Value} (counted : gateway.countProjection = .ok projection)
    (condition ensureNotDeleted : Value) :
    (gateway.count condition ensureNotDeleted).AsksOnce
      (gateway.predicatesOf condition (gateway.schema.leavesOut ensureNotDeleted) >>=
        gateway.selectionOf projection .null uniqueLimit) := by
  unfold count
  rw [counted]
  refine (gateway.asksOnce_findOne condition ensureNotDeleted projection .null).bind fun row => ?_
  split
  · exact ⟨.ok 0, rfl⟩
  · exact ⟨.ok 0, rfl⟩
  · split
    · exact ⟨.error .missingKey, rfl⟩
    · exact ⟨_, Plan.silent_ofExcept _⟩

theorem asksOnce_update {changes : Value} {strict : Bool} {form : Record}
    (written : gateway.formOf changes strict = .ok form) (something : form ≠ [])
    (condition ensureNotDeleted : Value) :
    (gateway.update condition changes ensureNotDeleted strict).AsksOnce
      (gateway.predicatesOf condition (gateway.schema.leavesOut ensureNotDeleted) >>=
        gateway.changeOf form) := by
  have formed : (gateway.writeForm changes strict).silent = Plan.ofExcept (.ok form) := by
    rw [silent_writeForm, written]
  have nonempty : ¬form.isEmpty = true := by rwa [List.isEmpty_iff]
  have checked : gateway.predicatesOf condition (gateway.schema.leavesOut ensureNotDeleted) >>=
        gateway.changeOf form =
      Except.ok form >>= fun form =>
        gateway.predicatesOf condition (gateway.schema.leavesOut ensureNotDeleted) >>=
          gateway.changeOf form := rfl
  rw [checked]
  refine Plan.AsksOnce.check_bind formed fun _ same => ?_
  cases same
  unfold changeOf
  rw [if_neg nonempty, ← bind_assoc, ← clauseOf_eq_bind]
  refine Plan.AsksOnce.check_bind (gateway.silent_conditionClause condition ensureNotDeleted)
    fun clause _ => ?_
  split
  · exact Plan.asksOnce_failed _
  · refine Plan.AsksOnce.check_bind (Plan.silent_ofExcept _) fun assignments _ => ?_
    refine Plan.AsksOnce.said_bind (gateway.silent_announce _ _) ?_
    exact Plan.asksOnce_ask _ fun reply => ⟨.ok reply.affected, rfl⟩

theorem asksOnce_delete (condition : Value) :
    (gateway.delete condition).AsksOnce
      (gateway.predicatesOf condition (gateway.schema.leavesOut (.bool false)) >>=
        gateway.removalOf) := by
  unfold removalOf
  rw [← bind_assoc, ← clauseOf_eq_bind]
  refine Plan.AsksOnce.check_bind (gateway.silent_conditionClause condition (.bool false))
    fun clause _ => ?_
  split
  · exact Plan.asksOnce_failed _
  · refine Plan.AsksOnce.said_bind (gateway.silent_announce _ _) ?_
    exact Plan.asksOnce_ask _ fun reply => ⟨.ok ⟨.delete, reply.affected, none⟩, rfl⟩

end Gateway

/-! ### Choosing alike -/

/-- The operations that choose rows by a condition, hidden rows left out or not, each with the
statement that it makes of the predicates. -/
inductive Operation.Chooses (gateway : Gateway) (condition : Value) (hides : Bool) :
    Operation → (List Predicate → Except Failure Statement) → Prop where
  | find {ensureNotDeleted : Value} (projection order limit : Value)
      (mode : gateway.schema.leavesOut ensureNotDeleted = hides) :
      Chooses gateway condition hides (.find condition ensureNotDeleted projection order limit)
        (gateway.selectionOf projection order limit)
  | findOne {ensureNotDeleted : Value} (projection order : Value)
      (mode : gateway.schema.leavesOut ensureNotDeleted = hides) :
      Chooses gateway condition hides (.findOne condition ensureNotDeleted projection order)
        (gateway.selectionOf projection order Gateway.uniqueLimit)
  | getOrNotFound {ensureNotDeleted : Value} (projection : Value)
      (mode : gateway.schema.leavesOut ensureNotDeleted = hides) :
      Chooses gateway condition hides (.getOrNotFound condition ensureNotDeleted projection)
        (gateway.selectionOf projection .null Gateway.uniqueLimit)
  | count {ensureNotDeleted projection : Value} (counted : gateway.countProjection = .ok projection)
      (mode : gateway.schema.leavesOut ensureNotDeleted = hides) :
      Chooses gateway condition hides (.count condition ensureNotDeleted)
        (gateway.selectionOf projection .null Gateway.uniqueLimit)
  | update {ensureNotDeleted changes : Value} {strict : Bool} {form : Record}
      (written : gateway.formOf changes strict = .ok form) (something : form ≠ [])
      (mode : gateway.schema.leavesOut ensureNotDeleted = hides) :
      Chooses gateway condition hides (.update condition changes ensureNotDeleted strict)
        (gateway.changeOf form)
  | delete (mode : gateway.schema.leavesOut (.bool false) = hides) :
      Chooses gateway condition hides (.delete condition) gateway.removalOf

namespace Statement

/-- What stands in front of the conjuncts of a statement. -/
def opening (dialect : Dialect) : Statement → String
  | .select projection table _ => "SELECT " ++ projection.sql ++ " FROM " ++ table.quoted
  | .update table assignments _ =>
    "UPDATE " ++ table.quoted ++ " SET " ++ assignmentsText dialect.style assignments
  | .delete table _ => "DELETE FROM " ++ table.quoted
  | statement => statement.sql dialect

/-- What stands behind the conjuncts of a statement. -/
def closing : Statement → String
  | .select _ _ clause => clause.ordering.sql ++ clause.limit.sql
  | _ => ""

/-- A statement chooses its rows by some predicates: their text stands between what opens and what
closes the statement, and their arguments behind the values that it writes. -/
structure ChoosesBy (dialect : Dialect) (predicates : List Predicate) (statement : Statement) :
    Prop where
  conjuncts : statement.predicates? = some predicates
  text : statement.sql dialect =
    statement.opening dialect ++ whereText dialect.style predicates ++ statement.closing
  bound : statement.arguments = statement.written ++ predicateArguments predicates

variable (dialect : Dialect) (table : Identifier)

theorem choosesBy_select (projection : Projection) (clause : Clause) :
    (select projection table clause).ChoosesBy dialect clause.predicates where
  conjuncts := rfl
  text := by
    rw [sql_select, Clause.sql, opening, closing]
    simp only [String.append_assoc]
  bound := rfl

theorem choosesBy_update (assignments : List (Identifier × Value)) (predicates : List Predicate) :
    (update table assignments predicates).ChoosesBy dialect predicates where
  conjuncts := rfl
  text := (String.append_empty).symm
  bound := rfl

theorem choosesBy_delete (predicates : List Predicate) :
    (delete table predicates).ChoosesBy dialect predicates where
  conjuncts := rfl
  text := (String.append_empty).symm
  bound := rfl

end Statement

namespace Gateway

variable {gateway : Gateway} {condition : Value} {hides : Bool} {operation : Operation}
  {make : List Predicate → Except Failure Statement}

theorem asksOnce_of_chooses (chooses : operation.Chooses gateway condition hides make) :
    (operation.plan gateway).AsksOnce (gateway.predicatesOf condition hides >>= make) := by
  cases chooses with
  | find projection order limit mode => exact mode ▸ gateway.asksOnce_find _ _ _ _ _
  | findOne projection order mode => exact mode ▸ gateway.asksOnce_findOne _ _ _ _
  | getOrNotFound projection mode => exact mode ▸ gateway.asksOnce_getOrNotFound _ _ _
  | count counted mode => exact mode ▸ gateway.asksOnce_count counted _ _
  | update written something mode => exact mode ▸ gateway.asksOnce_update written something _ _
  | delete mode => exact mode ▸ gateway.asksOnce_delete _

theorem choosesBy_of_selectionOf {projection order limit : Value} {predicates : List Predicate}
    {statement : Statement}
    (made : gateway.selectionOf projection order limit predicates = .ok statement) :
    statement.ChoosesBy gateway.endpoint.dialect predicates := by
  obtain ⟨clause, completed, rest⟩ := ok_of_bind made
  obtain ⟨selected, _, assembled⟩ := ok_of_bind rest
  cases assembled
  rw [← Clause.predicates_of_completing completed]
  exact Statement.choosesBy_select _ _ _ _

/-- Whatever is made of some predicates chooses its rows by these. -/
theorem choosesBy_of_chooses (chooses : operation.Chooses gateway condition hides make)
    {predicates : List Predicate} {statement : Statement} (made : make predicates = .ok statement) :
    statement.ChoosesBy gateway.endpoint.dialect predicates := by
  cases chooses with
  | find projection order limit mode => exact choosesBy_of_selectionOf made
  | findOne projection order mode => exact choosesBy_of_selectionOf made
  | getOrNotFound projection mode => exact choosesBy_of_selectionOf made
  | count counted mode => exact choosesBy_of_selectionOf made
  | update written something mode =>
    obtain ⟨clause, completed, made⟩ := ok_of_bind made
    rw [← Clause.predicates_of_completing completed]
    split at made
    · cases made
    · obtain ⟨assignments, _, assembled⟩ := ok_of_bind made
      cases assembled
      exact Statement.choosesBy_update _ _ _ _
  | delete mode =>
    obtain ⟨clause, completed, made⟩ := ok_of_bind made
    rw [← Clause.predicates_of_completing completed]
    split at made
    · cases made
    · cases made
      exact Statement.choosesBy_delete _ _ _

/-! ### Rows that are looked up -/

theorem predicatesOf_of_clauseOf {ensureNotDeleted order limit : Value} {clause : Clause}
    (compiled : gateway.clauseOf condition ensureNotDeleted order limit = .ok clause) :
    gateway.predicatesOf condition (gateway.schema.leavesOut ensureNotDeleted) =
      .ok clause.predicates := by
  rw [clauseOf_eq_bind] at compiled
  obtain ⟨predicates, found, completed⟩ := ok_of_bind compiled
  rw [found, Clause.predicates_of_completing completed]

/-- What a look-up sends chooses by the predicates of its condition. -/
theorem choosesBy_of_reads {ensureNotDeleted projection order limit : Value} {lookup : Statement}
    {predicates : List Predicate}
    (reads : gateway.Reads condition ensureNotDeleted projection order limit lookup)
    (found : gateway.predicatesOf condition (gateway.schema.leavesOut ensureNotDeleted) =
      .ok predicates) :
    lookup.ChoosesBy gateway.endpoint.dialect predicates := by
  cases reads with
  | select compiled chosen =>
    cases found.symm.trans (predicatesOf_of_clauseOf compiled)
    exact Statement.choosesBy_select _ _ _ _

/-- The rows that an upsert changes are chosen as it has looked them up. -/
theorem choosesBy_of_upserts {changes : Value} {exchanges : List Exchange}
    {outcome : Except Failure UpsertResult} {table : Identifier}
    {assignments : List (Identifier × Value)} {predicates : List Predicate}
    (upserts : gateway.Upserts condition changes exchanges outcome)
    (member : Statement.update table assignments predicates ∈ exchanges.map Prod.fst) :
    ∃ lookup, exchanges.map Prod.fst = [lookup, .update table assignments predicates] ∧
      gateway.predicatesOf condition (gateway.schema.leavesOut (.bool false)) = .ok predicates ∧
      lookup.ChoosesBy gateway.endpoint.dialect predicates := by
  -- a look-up is a selection, so only the last case has an update
  have noLookup {lookup : Statement}
      (reads : gateway.Reads condition (.bool false) everything .null uniqueLimit lookup) :
      Statement.update table assignments predicates ≠ lookup := by
    cases reads
    exact nofun
  cases upserts with
  | unasked => cases member
  | failing _ _ reads => exact absurd (List.mem_singleton.mp member) (noLookup reads)
  | uninserted reads => exact absurd (List.mem_singleton.mp member) (noLookup reads)
  | unchanged reads => exact absurd (List.mem_singleton.mp member) (noLookup reads)
  | unformed reads => exact absurd (List.mem_singleton.mp member) (noLookup reads)
  | unconfined reads => exact absurd (List.mem_singleton.mp member) (noLookup reads)
  | inserted _ reads =>
    rcases List.mem_cons.mp member with first | second
    · exact absurd first (noLookup reads)
    · cases List.mem_singleton.mp second
  | updated _ reads _ _ _ _ _ _ compiled =>
    rcases List.mem_cons.mp member with first | second
    · exact absurd first (noLookup reads)
    · cases List.mem_singleton.mp second
      have found := predicatesOf_of_clauseOf compiled
      exact ⟨_, rfl, found, choosesBy_of_reads reads found⟩

/-- An upsert that updates has sent its look-up before, and chooses by the same predicates. -/
theorem exists_lookup_of_update {changes : Value} {table : Identifier}
    {assignments : List (Identifier × Value)} {predicates : List Predicate} (session : Session) :
    let dialect := gateway.endpoint.dialect
    let update := Statement.update table assignments predicates
    let sent := session.sent dialect (gateway.upsert condition changes)
    update ∈ sent → ∃ lookup, sent = [lookup, update] ∧
      gateway.predicatesOf condition false = .ok predicates ∧
      lookup.ChoosesBy dialect predicates ∧ update.ChoosesBy dialect predicates := by
  intro dialect update sent member
  have upserts := upserts_of_converses
    (Session.converses_exchanges dialect (gateway.upsert condition changes) session)
  have exchanged : (session.exchanges dialect (gateway.upsert condition changes)).map Prod.fst =
      sent := Session.map_exchanges dialect _ session
  rw [← exchanged] at member ⊢
  obtain ⟨lookup, whole, found, looksUp⟩ := choosesBy_of_upserts upserts member
  have mode : gateway.schema.leavesOut (.bool false) = false := Bool.and_false _
  rw [mode] at found
  exact ⟨lookup, whole, found, looksUp, Statement.choosesBy_update _ _ _ _⟩

/-- Without a key that can be named there is no count, whatever the condition. -/
theorem asksOnce_count_error {failure : Failure}
    (unnamed : gateway.countProjection = .error failure) (condition ensureNotDeleted : Value) :
    (gateway.count condition ensureNotDeleted).AsksOnce (.error failure) := by
  unfold count
  rw [unnamed]
  exact Plan.asksOnce_failed failure

/-- Operations that are given one condition, and leave hidden rows out or in alike, choose their
rows by the same predicates. Where these cannot be had, all fail as they do, and nothing is sent;
else each sends the statement that it makes of them, if it can make one, and no other. Rows are
counted by the key, so where the key cannot be named a count fails for that before all else. The
rows that an upsert changes are chosen by the predicates of its look-up. -/
theorem selects_alike (gateway : Gateway) (condition : Value) (session : Session) :
    let dialect := gateway.endpoint.dialect
    (∀ (hides : Bool) (operation : Operation) (make : List Predicate → Except Failure Statement),
      operation.Chooses gateway condition hides make →
      let sent := session.sent dialect (operation.plan gateway)
      let outcome := (session.run dialect (operation.plan gateway)).1
      (∀ failure, gateway.predicatesOf condition hides = .error failure →
        sent = [] ∧ outcome = .error failure) ∧
      ∀ predicates, gateway.predicatesOf condition hides = .ok predicates →
        (∀ failure, make predicates = .error failure → sent = [] ∧ outcome = .error failure) ∧
        ∀ statement, make predicates = .ok statement →
          sent = [statement] ∧ statement.ChoosesBy dialect predicates) ∧
    (∀ failure, gateway.countProjection = .error failure → ∀ ensureNotDeleted,
      let count := gateway.count condition ensureNotDeleted
      session.sent dialect count = [] ∧ (session.run dialect count).1 = .error failure) ∧
    ∀ changes table assignments predicates,
      let update := Statement.update table assignments predicates
      let sent := session.sent dialect (gateway.upsert condition changes)
      update ∈ sent → ∃ lookup, sent = [lookup, update] ∧
        gateway.predicatesOf condition false = .ok predicates ∧
        lookup.ChoosesBy dialect predicates ∧ update.ChoosesBy dialect predicates := by
  intro dialect
  refine ⟨?_, ?_, ?_⟩
  · intro hides operation make chooses sent outcome
    have once := asksOnce_of_chooses chooses
    refine ⟨fun failure refused => ?_, fun predicates found => ?_⟩
    · rw [refused] at once
      exact Session.sent_of_asksOnce_error dialect once session
    · rw [found] at once
      refine ⟨fun failure refused => ?_, fun statement made => ?_⟩
      · have fails : (operation.plan gateway).AsksOnce (.error failure) := refused ▸ once
        exact Session.sent_of_asksOnce_error dialect fails session
      · have asks : (operation.plan gateway).AsksOnce (.ok statement) := made ▸ once
        exact ⟨Session.sent_of_asksOnce_ok dialect asks session,
          choosesBy_of_chooses chooses made⟩
  · intro failure unnamed ensureNotDeleted count
    have fails := asksOnce_count_error unnamed condition ensureNotDeleted
    exact Session.sent_of_asksOnce_error dialect fails session
  · intro changes table assignments predicates
    exact exists_lookup_of_update session

/-- The live users of an id, read and renamed. -/
theorem selects_alike_users :
    let gateway := Gateway.users
    let dialect := gateway.endpoint.dialect
    let condition : Value := .dict [(.text "id", .int 5)]
    let predicates : List Predicate := [⟨⟨"id", by decide, by decide⟩, .eq, .single (.int 5)⟩,
      ⟨⟨"deleted", by decide, by decide⟩, .eq, .single (.bool false)⟩]
    (∃ selection, Session.users.sent dialect
        (gateway.find condition (.bool true) everything .null .null) = [selection] ∧
      selection.ChoosesBy dialect predicates) ∧
    ∃ update, Session.users.sent dialect
        (gateway.update condition (.dict [(.text "name", .text "Ada")]) .null true) = [update] ∧
      update.ChoosesBy dialect predicates := by
  intro gateway dialect condition predicates
  have found : gateway.predicatesOf condition true = .ok predicates := rfl
  have alike := (selects_alike gateway condition Session.users).1 true
  have read := ((alike (.find condition (.bool true) everything .null .null) _
    (.find _ _ _ rfl)).2 predicates found).2 _ rfl
  have renamed := ((alike (.update condition (.dict [(.text "name", .text "Ada")]) .null true) _
    (.update rfl (List.cons_ne_nil _ _) rfl)).2 predicates found).2 _ rfl
  exact ⟨⟨_, read⟩, ⟨_, renamed⟩⟩

/-- Users whose key cannot be named in a statement. -/
def unnamedKey : Gateway :=
  { Gateway.users with
    schema :=
      { fields := [(.text "i\x60d", ⟨.integer, .undefined⟩)]
        hiddenFlag := none
        primaryKey := some (.text "i\x60d")
        distinct := by decide
        flag_declared := by simp
        key_declared := by
          intro key same
          cases same
          rfl } }

/-- A count does not fail as a look for the rows does, where the key cannot be named: it names the
key before it takes the condition. -/
theorem count_fails_otherwise :
    let condition : Value := .dict [(.text "x", .float .nan)]
    let dialect := unnamedKey.endpoint.dialect
    let looking := Session.users.run dialect
      ((Operation.find condition (.bool true) everything .null .null).plan unnamedKey)
    let counting := Session.users.run dialect
      ((Operation.count condition (.bool true)).plan unnamedKey)
    looking.1 = .error (.invalid (.notNumber (.text "x") (.float .nan))) ∧
      counting.1 = .error (.invalid (.backtick "i\x60d")) ∧
      Failure.invalid (.notNumber (.text "x") (.float .nan)) ≠ .invalid (.backtick "i\x60d") :=
  ⟨rfl, rfl, nofun⟩

end Gateway

end TableGateway
