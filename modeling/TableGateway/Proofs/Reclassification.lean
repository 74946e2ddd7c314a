/-
This file shows that classified conditions stay as they are. Every bucket is an explicit
bucket again: its operator is new, so that it is opened last, and its fields are new under
it, so that each comes last in its turn; and no value in it is refused, since none was. So
buckets may be given to a gateway in place of the condition that they were made of, and
the rows are chosen by the same predicates.
-/

import TableGateway.Proofs.Malformed
import TableGateway.Proofs.Selection
import TableGateway.Proofs.Tidiness

namespace TableGateway

variable {enableUndefined : Bool}

/-! ### What stands in classified buckets -/

namespace Buckets

variable {buckets : Buckets} {operator : Operator} {fields : Record}

/-- No value in some buckets is of a kind of numbers without being a number. -/
def AreNumbers (buckets : Buckets) : Prop :=
  ∀ bucket ∈ buckets, ∀ field ∈ bucket.2, field.2.isNaN = false

theorem areNumbers_nil : AreNumbers [] :=
  fun _ member => absurd member List.not_mem_nil

theorem AreNumbers.touch (numbers : buckets.AreNumbers) (operator : Operator) :
    (buckets.touch operator).AreNumbers := by
  intro bucket member
  rcases mem_touch member with kept | empty
  · exact numbers bucket kept
  · rw [empty]
    exact nofun

theorem AreNumbers.take (numbers : buckets.AreNumbers) {assertion : Assertion}
    (number : assertion.value.isNaN = false) : (buckets.take assertion).AreNumbers := by
  intro bucket member field among
  rcases mem_assign member with kept | ⟨fields, origin, changed⟩
  · exact numbers bucket kept field among
  · rw [show bucket.2 = _ from changed] at among
    rcases Entries.mem_put among with old | ⟨new, _⟩
    · rcases origin with rfl | inside
      · cases old
      · exact numbers _ inside field old
    · rw [new]
      exact number

end Buckets

/-- What is classified has passed the check for numbers. -/
theorem areNumbers_classifyEntries {buckets classified : Buckets} {entries : List (Value × Value)}
    (numbers : buckets.AreNumbers)
    (passed : classifyEntries enableUndefined buckets entries = .ok classified) :
    classified.AreNumbers := by
  have admitted := exists_classifyEntries_iff.mp ⟨classified, passed⟩
  exact holds_classifyEntries Buckets.AreNumbers (fun _ operator before => before.touch operator)
    (fun _ said _ before => before.take (Record.isNaN_of_mem_assertions admitted said)) passed
    numbers

/-! ### Buckets are explicit buckets -/

namespace Buckets

variable {done rest : Buckets} {operator : Operator} {taken fields : Record}

/-- An operator that is new is opened last. -/
theorem touch_of_new (new : operator ∉ done.map Prod.fst) :
    done.touch operator = done ++ [(operator, [])] := by
  induction done with
  | nil => rfl
  | cons bucket rest inductionHypothesis =>
    obtain ⟨other, others⟩ := not_or.mp (List.mem_cons.not.mp new)
    rw [touch, if_neg (Ne.symm other), inductionHypothesis others, List.cons_append]

/-- A field goes to the bucket of its operator, past all others. -/
theorem assign_of_last (new : operator ∉ done.map Prod.fst) (key value : Value) :
    assign (done ++ [(operator, taken)]) operator key value =
      done ++ [(operator, taken.put key value)] := by
  induction done with
  | nil => exact if_pos rfl
  | cons bucket rest inductionHypothesis =>
    obtain ⟨other, others⟩ := not_or.mp (List.mem_cons.not.mp new)
    rw [List.cons_append, assign, if_neg (Ne.symm other), inductionHypothesis others,
      List.cons_append]

/-- Fields that are new are taken one after another behind those before them. -/
theorem mergeBucket_of_new (new : operator ∉ done.map Prod.fst)
    (distinct : Entries.AreDistinct (taken ++ fields))
    (numbers : ∀ field ∈ fields, field.2.isNaN = false) :
    mergeBucket operator (done ++ [(operator, taken)]) fields =
      .ok (done ++ [(operator, taken ++ fields)]) := by
  -- the fields go over from what is to come to what is taken, which keeps both together distinct
  induction fields generalizing taken with
  | nil => rw [List.append_nil, mergeBucket]
  | cons field rest inductionHypothesis =>
    obtain ⟨key, value⟩ := field
    obtain ⟨number, others⟩ := List.forall_mem_cons.mp numbers
    have passes : checkNumber key value = .ok () := if_neg (Bool.eq_false_iff.mp number)
    have last : taken.put key value = taken ++ [(key, value)] :=
      Entries.put_of_new fun earlier member =>
        (List.pairwise_append.mp distinct).2.2 earlier member _ List.mem_cons_self
    have together : taken ++ (key, value) :: rest = (taken ++ [(key, value)]) ++ rest :=
      (List.append_cons ..)
    rw [together] at distinct ⊢
    calc mergeBucket operator (done ++ [(operator, taken)]) ((key, value) :: rest)
        = mergeBucket operator (assign (done ++ [(operator, taken)]) operator key value) rest := by
          rw [mergeBucket, passes]
          rfl
      _ = mergeBucket operator (done ++ [(operator, taken ++ [(key, value)])]) rest := by
          rw [assign_of_last new, last]
      _ = .ok (done ++ [(operator, (taken ++ [(key, value)]) ++ rest)]) :=
          inductionHypothesis distinct others

/-- A bucket is taken whole if its operator is new. -/
theorem classifyEntry_of_new (new : operator ∉ done.map Prod.fst)
    (distinct : Entries.AreDistinct fields) (numbers : ∀ field ∈ fields, field.2.isNaN = false) :
    classifyEntry enableUndefined done (.text operator.name) (.dict fields) =
      .ok (done ++ [(operator, fields)]) := by
  have opens : classifyEntry enableUndefined done (.text operator.name) (.dict fields) =
      mergeBucket operator (done.touch operator) fields := by
    simp only [classifyEntry, operatorOfKey?_name]
  rw [opens, touch_of_new new]
  exact mergeBucket_of_new new (show Entries.AreDistinct ([] ++ fields) from distinct) numbers

/-- Tidy buckets are taken one after another behind those before them. -/
theorem classifyEntries_toRecord (tidy : AreTidy (done ++ rest)) (numbers : rest.AreNumbers) :
    classifyEntries enableUndefined done rest.toRecord = .ok (done ++ rest) := by
  induction rest generalizing done with
  | nil => rw [List.append_nil]; rfl
  | cons bucket rest inductionHypothesis =>
    obtain ⟨operator, fields⟩ := bucket
    obtain ⟨here, later⟩ := List.forall_mem_cons.mp numbers
    have new : operator ∉ done.map Prod.fst := by
      have nodup := tidy.1
      rw [List.map_append] at nodup
      intro member
      exact (List.nodup_append.mp nodup).2.2 _ member _ List.mem_cons_self rfl
    have distinct : Entries.AreDistinct fields :=
      tidy.2 (operator, fields) (List.mem_append_right _ List.mem_cons_self)
    have together : done ++ (operator, fields) :: rest = (done ++ [(operator, fields)]) ++ rest :=
      (List.append_cons ..)
    rw [together] at tidy ⊢
    show (classifyEntry enableUndefined done (.text operator.name) (.dict fields) >>=
      fun _ => _) = _
    rw [classifyEntry_of_new new distinct here]
    exact inductionHypothesis tidy later

/-- Buckets that a condition was classified into are classified into themselves. -/
theorem classify_toRecord {record : Record} {mode : Bool} {buckets : Buckets}
    (classified : classify record mode = .ok buckets) (enableUndefined : Bool) :
    classify buckets.toRecord enableUndefined = .ok buckets :=
  classifyEntries_toRecord (areTidy_classifyEntries areTidy_nil classified)
    (areNumbers_classifyEntries areNumbers_nil classified)

end Buckets

theorem classifyValue_eq_ok {condition : Value} {buckets : Buckets}
    (classified : classifyValue condition enableUndefined = .ok buckets) :
    ∃ record, classify record enableUndefined = .ok buckets := by
  obtain ⟨record, _, classified⟩ := ok_of_bind classified
  exact ⟨record, classified⟩

/-! ### Buckets in place of a condition -/

namespace Gateway

variable {gateway : Gateway} {condition : Value} {record : Record} {buckets : Buckets}

/-- The predicates that buckets become in the style of a gateway. -/
def predicatesUnder (gateway : Gateway) (buckets : Buckets) :
    Except Failure (List Predicate) := do
  let _ ← ParamStyle.forClause gateway.endpoint.dialect.styleName
  Predicate.ofBuckets buckets.toRecord

theorem predicatesOf_of_classify (unflagged : gateway.schema.hiddenFlag = none)
    (given : condition.toRecord = .ok record)
    (classified : classify record gateway.enableUndefined = .ok buckets) (hides : Bool) :
    gateway.predicatesOf condition hides = gateway.predicatesUnder buckets := by
  have unguarded : gateway.schema.guarded record hides = record := by
    rw [Schema.guarded, unflagged]
  rw [predicatesOf, given]
  show (classify (gateway.schema.guarded record hides) gateway.enableUndefined >>= fun _ => _) = _
  rw [unguarded, classified]
  rfl

/-- The clause of a condition is completed from the predicates of its buckets. -/
theorem snd_ofCondition (classified : classifyValue condition enableUndefined = .ok buckets)
    (order limit : Value) :
    Prod.snd <$> Clause.ofCondition condition enableUndefined gateway.endpoint.dialect.styleName
        order limit =
      gateway.predicatesUnder buckets >>= Clause.completing order limit := by
  rw [Clause.ofCondition, classified, predicatesUnder]
  show _ <$> Clause.ofValues gateway.endpoint.dialect.styleName buckets.toValue order limit = _
  rw [Clause.snd_ofValues, bind_assoc]
  exact congrArg _ (funext fun _ => Clause.compile_written buckets.toRecord order limit)

/-- The clause that a gateway makes of buckets is the one of their condition. -/
theorem clauseOf_toValue (unflagged : gateway.schema.hiddenFlag = none)
    (classified : classifyValue condition enableUndefined = .ok buckets)
    (ensureNotDeleted order limit : Value) :
    gateway.clauseOf buckets.toValue ensureNotDeleted order limit =
      Prod.snd <$> Clause.ofCondition condition enableUndefined
        gateway.endpoint.dialect.styleName order limit := by
  obtain ⟨record, fromRecord⟩ := classifyValue_eq_ok classified
  have form : gateway.schema.queryForm buckets.toValue ensureNotDeleted = .ok buckets.toRecord := by
    show Except.ok (gateway.schema.guarded buckets.toRecord _) = _
    rw [Schema.guarded, unflagged]
  rw [clauseOf, form]
  show (classify buckets.toRecord gateway.enableUndefined >>= fun _ => _) = _
  rw [Buckets.classify_toRecord fromRecord, Clause.ofCondition, classified]
  rfl

/-- Whatever chooses rows by a condition chooses them by some predicates. If there are none, it
fails for the reason that there are none; and an upsert that updates has looked the row up by
them. -/
def ChoosesThrough (gateway : Gateway) (condition : Value)
    (found : Except Failure (List Predicate)) (session : Session) : Prop :=
  let dialect := gateway.endpoint.dialect
  (∀ hides operation make, Operation.Chooses gateway condition hides operation make →
    let sent := session.sent dialect (operation.plan gateway)
    let outcome := (session.run dialect (operation.plan gateway)).1
    (∀ failure, found >>= make = .error failure → sent = [] ∧ outcome = .error failure) ∧
    ∀ statement, found >>= make = .ok statement →
      sent = [statement] ∧ ∃ predicates, found = .ok predicates ∧
        statement.ChoosesBy dialect predicates) ∧
  ∀ changes table assignments predicates,
    let update := Statement.update table assignments predicates
    let sent := session.sent dialect (gateway.upsert condition changes)
    update ∈ sent → ∃ lookup, sent = [lookup, update] ∧ found = .ok predicates ∧
      lookup.ChoosesBy dialect predicates ∧ update.ChoosesBy dialect predicates

theorem choosesThrough_of_predicatesOf {found : Except Failure (List Predicate)}
    (same : ∀ hides, gateway.predicatesOf condition hides = found) (session : Session) :
    gateway.ChoosesThrough condition found session := by
  refine ⟨fun hides operation make chooses => ?_, ?_⟩
  · have once := asksOnce_of_chooses chooses
    rw [same] at once
    refine ⟨fun failure refused => ?_, fun statement made => ?_⟩
    · exact Session.sent_of_asksOnce_error _ (refused ▸ once) session
    · obtain ⟨predicates, has, makes⟩ := ok_of_bind made
      exact ⟨Session.sent_of_asksOnce_ok _ (made ▸ once) session, predicates, has,
        choosesBy_of_chooses chooses makes⟩
  · intro changes table assignments predicates update sent member
    obtain ⟨lookup, whole, found', looksUp⟩ := exists_lookup_of_update session member
    rw [same] at found'
    exact ⟨lookup, whole, found', looksUp⟩

/-- Classifying is settled at once: what a condition is classified into is classified into itself,
bucket by bucket and field by field, whether `undefined` is enabled then or not. So wherever no
rows can be hidden, buckets do for the condition: a gateway compiles the clause of the condition
from them, each operation chooses its rows by the predicates of that clause, and one that is given
the condition itself, and takes `undefined` as it was taken, chooses by the same ones. -/
theorem classified_settles {condition : Value} {enableUndefined : Bool} {buckets : Buckets}
    (classified : classifyValue condition enableUndefined = .ok buckets) :
    (∀ again, classifyValue buckets.toValue again = .ok buckets) ∧
    ∀ gateway : Gateway, gateway.schema.hiddenFlag = none →
      let compiled := Clause.ofCondition condition enableUndefined
        gateway.endpoint.dialect.styleName
      let found := gateway.predicatesUnder buckets
      (∀ ensureNotDeleted order limit,
        gateway.clauseOf buckets.toValue ensureNotDeleted order limit =
          Prod.snd <$> compiled order limit) ∧
      (∀ order limit, Prod.snd <$> compiled order limit =
        found >>= Clause.completing order limit) ∧
      (∀ session, gateway.ChoosesThrough buckets.toValue found session) ∧
      (gateway.enableUndefined = enableUndefined → ∀ record, condition = .dict record →
        ∀ session, gateway.ChoosesThrough condition found session) := by
  obtain ⟨_, fromRecord⟩ := classifyValue_eq_ok classified
  have again (mode : Bool) := Buckets.classify_toRecord fromRecord mode
  refine ⟨again, ?_⟩
  intro gateway unflagged compiled found
  refine ⟨?_, ?_, ?_, ?_⟩
  · exact clauseOf_toValue unflagged classified
  · exact snd_ofCondition classified
  · refine choosesThrough_of_predicatesOf fun hides => ?_
    have given : buckets.toValue.toRecord = .ok buckets.toRecord := rfl
    exact predicatesOf_of_classify unflagged given (again _) hides
  · rintro same record rfl
    refine choosesThrough_of_predicatesOf fun hides => ?_
    have given : (Value.dict record).toRecord = .ok record := rfl
    exact predicatesOf_of_classify unflagged given (same ▸ classified) hides

/-- Users of whom none can be hidden. -/
def openUsers : Gateway :=
  { Gateway.users with
    schema := { Schema.users with hiddenFlag := none, flag_declared := by simp } }

/-- Null checks of both kinds, a membership and an equality are classified once and for all, and a
deletion takes them in place of their condition. -/
theorem classified_settles_users :
    let condition : Value := .dict [(.text "name", .null),
      (.text "in", .dict [(.text "id", .list [.int 1, .int 2])]), (.text "deleted", .undefined),
      (.text "id", .int 5)]
    let buckets : Buckets := [(.is, [(.text "name", .null)]),
      (.isIn, [(.text "id", .list [.int 1, .int 2])]), (.isNot, [(.text "deleted", .null)]),
      (.eq, [(.text "id", .int 5)])]
    let sent := Session.users.sent openUsers.endpoint.dialect (openUsers.delete buckets.toValue)
    classifyValue condition true = .ok buckets ∧ openUsers.schema.hiddenFlag = none ∧
    classifyValue buckets.toValue false = .ok buckets ∧
    ∃ statement, sent = [statement] ∧ ∃ predicates,
      statement.ChoosesBy openUsers.endpoint.dialect predicates := by
  intro condition buckets sent
  have classified : classifyValue condition true = .ok buckets := rfl
  obtain ⟨again, through⟩ := classified_settles classified
  obtain ⟨-, -, through, -⟩ := through openUsers rfl
  obtain ⟨sends, predicates, -, chooses⟩ :=
    ((through Session.users).1 false (.delete buckets.toValue) openUsers.removalOf (.delete rfl)).2
      _ rfl
  exact ⟨classified, rfl, again false, _, sends, predicates, chooses⟩

end Gateway

end TableGateway
