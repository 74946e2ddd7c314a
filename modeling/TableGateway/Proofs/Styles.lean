/-
This file shows that the two styles are in step. Whatever an operation does, it does
alike in both: it checks alike, sends the same statements, and makes the same of the
replies; only what it says on the way shows the style. A handle that notes statements
answers each with what it has been given next, whatever the text, so in both styles it
notes the same statements, each in the text of its style.
-/

import TableGateway.Proofs.Restyling

namespace TableGateway

/-! ### Plans that are alike -/

namespace Plan

variable {Result Next Other : Type}

/-- Two plans are alike: they do the same, whatever they say. -/
def Alike (first second : Plan Result) : Prop :=
  first.silent = second.silent

theorem Alike.refl (plan : Plan Result) : plan.Alike plan := rfl

theorem Alike.bind {first second : Plan Result} {next other : Result → Plan Next}
    (alike : first.Alike second) (rest : ∀ result, (next result).Alike (other result)) :
    (first >>= next).Alike (second >>= other) := by
  show (first >>= next).silent = (second >>= other).silent
  rw [silent_bind, silent_bind, show first.silent = second.silent from alike]
  exact congrArg (second.silent >>= ·) (funext rest)

theorem alike_of_check {first second : Plan Result} {checked : Except Failure Result}
    (quiet : first.silent = ofExcept checked) (quietToo : second.silent = ofExcept checked) :
    first.Alike second :=
  quiet.trans quietToo.symm

/-- After checks that pass, whatever comes of them, plans are alike if what is left of them is. -/
theorem alike_of_ok {First Second : Type} {first : Except Failure First}
    {second : Except Failure Second} {next : First → Plan Result} {other : Second → Plan Result}
    {result : First} {resultToo : Second} (passed : first = .ok result)
    (passedToo : second = .ok resultToo) (rest : (next result).Alike (other resultToo)) :
    (ofExcept first >>= next).Alike (ofExcept second >>= other) := by
  rw [passed, passedToo]
  exact rest

theorem Alike.ite {condition : Prop} [Decidable condition] {first second next other : Plan Result}
    (alike : first.Alike second) (alikeToo : next.Alike other) :
    (if condition then first else next).Alike (if condition then second else other) := by
  by_cases met : condition
  · rw [if_pos met, if_pos met]
    exact alike
  · rw [if_neg met, if_neg met]
    exact alikeToo

end Plan

/-! ### Gateways in one style or the other -/

/-- The handle, with a style. -/
def Recorder.inStyle (held : Recorder) (style : ParamStyle) : Recorder :=
  { held with styleName := .text style.name }

namespace Gateway

open Plan

/-- The gateway on its handle, with a style. -/
def inStyle (gateway : Gateway) (style : ParamStyle) : Gateway :=
  { gateway with
    endpoint :=
      { gateway.endpoint with
        dialect := { gateway.endpoint.dialect with styleName := .text style.name } } }

variable (gateway : Gateway) (first second : ParamStyle)

/-- Where the gateway is on the handle, it is on the handle in each style. -/
theorem endpoint?_inStyle {held : Recorder} (own : held.endpoint? = some gateway.endpoint)
    (style : ParamStyle) :
    (held.inStyle style).endpoint? = some (gateway.inStyle style).endpoint := by
  unfold Recorder.endpoint? at own
  split at own
  · rename_i uri address
    split at own
    · rename_i marked
      show _ = some { gateway.endpoint with
        dialect := { gateway.endpoint.dialect with styleName := .text style.name } }
      rw [← Option.some.inj own]
      simp only [Recorder.endpoint?, Recorder.inStyle, address, marked, if_true]
    · cases own
  · cases own

theorem style_inStyle (style : ParamStyle) :
    (gateway.inStyle style).endpoint.dialect.style = style := by
  cases style <;> rfl

/-! ### Reading alike -/

theorem alike_compile (buckets order limit : Value) :
    ((gateway.inStyle first).compile buckets order limit).Alike
      ((gateway.inStyle second).compile buckets order limit) := by
  have either (style : ParamStyle) :
      ((gateway.inStyle style).compile buckets order limit).silent =
        ofExcept (buckets.entriesOrNone >>= fun buckets =>
          Clause.compile buckets order limit >>= Clause.written) := by
    have named : (gateway.inStyle style).endpoint.dialect.styleName = .text style.name := rfl
    rw [silent_compile, named, Clause.snd_ofValues, ParamStyle.forClause_name]
    rfl
  exact alike_of_check (either first) (either second)

theorem alike_announce (what : String) (statement : Statement) :
    ((gateway.inStyle first).announce what statement).Alike
      ((gateway.inStyle second).announce what statement) :=
  ((gateway.inStyle first).silent_announce what statement).trans
    ((gateway.inStyle second).silent_announce what statement).symm

theorem alike_selectRows (clause : Clause) (projection : Value) :
    ((gateway.inStyle first).selectRows clause projection).Alike
      ((gateway.inStyle second).selectRows clause projection) := by
  refine Alike.bind (Alike.refl _) fun selected => ?_
  refine (gateway.alike_announce first second _ _).bind fun _ => ?_
  exact Alike.refl _

theorem alike_query (buckets order limit projection : Value) :
    ((gateway.inStyle first).query buckets order limit projection).Alike
      ((gateway.inStyle second).query buckets order limit projection) :=
  (gateway.alike_compile first second buckets order limit).bind fun clause =>
    gateway.alike_selectRows first second clause projection

theorem alike_find (condition ensureNotDeleted projection order limit : Value) :
    ((gateway.inStyle first).find condition ensureNotDeleted projection order limit).Alike
      ((gateway.inStyle second).find condition ensureNotDeleted projection order limit) :=
  (Alike.refl _).bind fun buckets =>
    gateway.alike_query first second buckets.toValue order limit projection

theorem alike_findOne (condition ensureNotDeleted projection order : Value) :
    ((gateway.inStyle first).findOne condition ensureNotDeleted projection order).Alike
      ((gateway.inStyle second).findOne condition ensureNotDeleted projection order) :=
  (gateway.alike_find first second condition ensureNotDeleted projection order uniqueLimit).bind
    fun _ => Alike.refl _

theorem alike_findOneByFields (keys values : Value) :
    ((gateway.inStyle first).findOneByFields keys values).Alike
      ((gateway.inStyle second).findOneByFields keys values) :=
  (Alike.refl _).bind fun condition =>
    gateway.alike_findOne first second (.dict condition) (.bool true) everything .null

theorem alike_count (condition ensureNotDeleted : Value) :
    ((gateway.inStyle first).count condition ensureNotDeleted).Alike
      ((gateway.inStyle second).count condition ensureNotDeleted) := by
  refine Alike.bind (Alike.refl _) fun projection => ?_
  exact (gateway.alike_findOne first second condition ensureNotDeleted projection .null).bind
    fun _ => Alike.refl _

theorem alike_getOrNotFound (condition ensureNotDeleted projection : Value) :
    ((gateway.inStyle first).getOrNotFound condition ensureNotDeleted projection).Alike
      ((gateway.inStyle second).getOrNotFound condition ensureNotDeleted projection) :=
  (gateway.alike_findOne first second condition ensureNotDeleted projection .null).bind
    fun _ => Alike.refl _

/-! ### Writing alike -/

theorem alike_insertRecords (table : Value) (records : List Record) :
    ((gateway.inStyle first).endpoint.insertRecords table records).Alike
      ((gateway.inStyle second).endpoint.insertRecords table records) := by
  cases records with
  | nil => exact Alike.refl _
  | cons record rest =>
    exact alike_of_ok first.forPlaces_name second.forPlaces_name (Alike.refl _)

theorem alike_add (record : Value) (strict : Bool) :
    ((gateway.inStyle first).add record strict).Alike
      ((gateway.inStyle second).add record strict) := by
  refine Alike.bind (Alike.refl _) fun form => ?_
  refine Alike.ite (Alike.refl _) ?_
  exact (gateway.alike_insertRecords first second _ _).bind fun _ => Alike.refl _

theorem writeForms_inStyle (strict : Bool) (records : List Value) :
    (gateway.inStyle first).writeForms strict records = gateway.writeForms strict records := by
  have form (record : Value) : (gateway.inStyle first).writeForm record strict =
      gateway.writeForm record strict := rfl
  induction records with
  | nil => rfl
  | cons record records inductionHypothesis =>
    rw [writeForms, writeForms, inductionHypothesis, form]

theorem bulkForms_inStyle (records : Value) (strict : Bool) (write : BulkWrite) :
    (gateway.inStyle first).bulkForms records strict write =
      gateway.bulkForms records strict write := by
  unfold bulkForms
  simp only [writeForms_inStyle]
  rfl

theorem alike_addMany (records : Value) (strict : Bool) :
    ((gateway.inStyle first).addMany records strict).Alike
      ((gateway.inStyle second).addMany records strict) := by
  unfold addMany
  simp only [bulkForms_inStyle]
  refine Alike.bind (Alike.refl _) fun gathered => ?_
  exact (gateway.alike_insertRecords first second _ _).bind fun _ => Alike.refl _

theorem bulkColumns_inStyle (fields : List Value) :
    (gateway.inStyle first).bulkColumns fields = orRefuse (Identifier.ofValues? fields) := by
  have named : (gateway.inStyle first).endpoint.dialect.styleName = .text first.name := rfl
  rw [bulkColumns, named, ParamStyle.forPlaces_name]
  rfl

theorem assignmentsOf_inStyle (changes : Record) :
    (gateway.inStyle first).assignmentsOf changes =
      (gateway.inStyle second).assignmentsOf changes := by
  have named (style : ParamStyle) :
      (gateway.inStyle style).endpoint.dialect.styleName = .text style.name := rfl
  induction changes with
  | nil => rfl
  | cons change changes inductionHypothesis =>
    rw [assignmentsOf, assignmentsOf, inductionHypothesis, named, named,
      ParamStyle.forPlaces_name, ParamStyle.forPlaces_name]
    rfl

theorem alike_replaceMany (records : Value) (strict : Bool) :
    ((gateway.inStyle first).replaceMany records strict).Alike
      ((gateway.inStyle second).replaceMany records strict) := by
  unfold replaceMany
  simp only [bulkForms_inStyle, bulkColumns_inStyle]
  refine Alike.bind (Alike.refl _) fun gathered => ?_
  refine Alike.bind (Alike.refl _) fun columns => ?_
  refine (gateway.alike_announce first second _ _).bind fun _ => ?_
  exact Alike.refl _

theorem alike_upsertMany (records duplicateKey duplicateValue : Value) (strict : Bool) :
    ((gateway.inStyle first).upsertMany records duplicateKey duplicateValue strict).Alike
      ((gateway.inStyle second).upsertMany records duplicateKey duplicateValue strict) := by
  refine Alike.ite (Alike.refl _) ?_
  refine Alike.bind (Alike.refl _) fun _ => ?_
  simp only [bulkForms_inStyle, bulkColumns_inStyle]
  refine Alike.bind (Alike.refl _) fun gathered => ?_
  refine Alike.bind (Alike.refl _) fun columns => ?_
  refine Alike.bind (Alike.refl _) fun column => ?_
  refine (gateway.alike_announce first second _ _).bind fun _ => ?_
  exact Alike.refl _

theorem alike_conditionClause (condition ensureNotDeleted : Value) :
    ((gateway.inStyle first).conditionClause condition ensureNotDeleted).Alike
      ((gateway.inStyle second).conditionClause condition ensureNotDeleted) :=
  (Alike.refl _).bind fun buckets =>
    gateway.alike_compile first second buckets.toValue .null .null

theorem alike_update (condition changes ensureNotDeleted : Value) (strict : Bool) :
    ((gateway.inStyle first).update condition changes ensureNotDeleted strict).Alike
      ((gateway.inStyle second).update condition changes ensureNotDeleted strict) := by
  refine Alike.bind (Alike.refl _) fun updates => ?_
  refine Alike.ite (Alike.refl _) ?_
  refine (gateway.alike_conditionClause first second condition ensureNotDeleted).bind
    fun clause => ?_
  refine Alike.ite (Alike.refl _) ?_
  rw [gateway.assignmentsOf_inStyle first second]
  refine Alike.bind (Alike.refl _) fun assignments => ?_
  refine (gateway.alike_announce first second _ _).bind fun _ => ?_
  exact Alike.refl _

theorem alike_delete (condition : Value) :
    ((gateway.inStyle first).delete condition).Alike
      ((gateway.inStyle second).delete condition) := by
  refine (gateway.alike_conditionClause first second condition (.bool false)).bind
    fun clause => ?_
  refine Alike.ite (Alike.refl _) ?_
  refine (gateway.alike_announce first second _ _).bind fun _ => ?_
  exact Alike.refl _

theorem alike_setFlag (change : FlagChange) (condition : Value) :
    ((gateway.inStyle first).setFlag change condition).Alike
      ((gateway.inStyle second).setFlag change condition) := by
  have flag (style : ParamStyle) :
      (gateway.inStyle style).schema.hiddenFlag = gateway.schema.hiddenFlag := rfl
  simp only [setFlag, flag]
  cases gateway.schema.hiddenFlag with
  | none => exact Alike.refl _
  | some flag =>
    refine Alike.bind (Alike.refl _) fun _ => ?_
    cases change with
    | disable => exact (gateway.alike_update first second _ _ _ _).bind fun _ => Alike.refl _
    | enable => exact (gateway.alike_update first second _ _ _ _).bind fun _ => Alike.refl _

theorem alike_ensure (record : Value) :
    ((gateway.inStyle first).ensure record).Alike ((gateway.inStyle second).ensure record) := by
  refine Alike.bind (Alike.refl _) fun strict => ?_
  refine Alike.bind (Alike.refl _) fun lookup => ?_
  refine (gateway.alike_findOne first second _ _ _ _).bind fun found => ?_
  cases found with
  | none => exact (gateway.alike_add first second _ _).bind fun _ => Alike.refl _
  | some row =>
    refine Alike.ite ?_ (Alike.refl _)
    refine Alike.bind (Alike.refl _) fun _ => ?_
    exact (gateway.alike_setFlag first second .enable _).bind fun _ => Alike.refl _

theorem alike_upsert (condition changes : Value) :
    ((gateway.inStyle first).upsert condition changes).Alike
      ((gateway.inStyle second).upsert condition changes) := by
  refine Alike.bind (Alike.refl _) fun changed => ?_
  refine (gateway.alike_findOne first second _ _ _ _).bind fun found => ?_
  cases found with
  | none =>
    refine Alike.bind (Alike.refl _) fun base => ?_
    refine Alike.bind (Alike.refl _) fun data => ?_
    exact (gateway.alike_add first second _ _).bind fun _ => Alike.refl _
  | some row =>
    have updated :
        (do
          let form ← ofExcept (gateway.schema.strictRecord (gateway.revived row changed))
          let state ← (gateway.inStyle first).update condition
            (.dict (gateway.revived row changed)) (.bool false) true
          return (⟨.update, row.overlay form, some state⟩ : UpsertResult)).Alike do
            let form ← ofExcept (gateway.schema.strictRecord (gateway.revived row changed))
            let state ← (gateway.inStyle second).update condition
              (.dict (gateway.revived row changed)) (.bool false) true
            return ⟨.update, row.overlay form, some state⟩ := by
      refine Alike.bind (Alike.refl _) fun form => ?_
      exact (gateway.alike_update first second _ _ _ _).bind fun _ => Alike.refl _
    exact Alike.ite ((Alike.refl _).bind fun _ => updated) updated

end Gateway

/-- Every operation does alike in both styles. -/
theorem Operation.alike_plan (gateway : Gateway) (operation : Operation)
    (first second : ParamStyle) :
    (operation.plan (gateway.inStyle first)).Alike (operation.plan (gateway.inStyle second)) := by
  cases operation with
  | query => exact gateway.alike_query first second _ _ _ _
  | find => exact gateway.alike_find first second _ _ _ _ _
  | findOne => exact gateway.alike_findOne first second _ _ _ _
  | findOneByFields => exact gateway.alike_findOneByFields first second _ _
  | count => exact gateway.alike_count first second _ _
  | getOrNotFound => exact gateway.alike_getOrNotFound first second _ _ _
  | exist => exact Plan.Alike.refl _
  | showColumns => exact Plan.Alike.refl _
  | listColumns => exact Plan.Alike.refl _
  | ensureColumns => exact Plan.Alike.refl _
  | add => exact gateway.alike_add first second _ _
  | addMany => exact gateway.alike_addMany first second _ _
  | update => exact gateway.alike_update first second _ _ _ _
  | ensure => exact gateway.alike_ensure first second _
  | upsert => exact gateway.alike_upsert first second _ _
  | replaceOne => exact gateway.alike_replaceMany first second _ _
  | replaceMany => exact gateway.alike_replaceMany first second _ _
  | upsertMany => exact gateway.alike_upsertMany first second _ _ _ _
  | disable => exact gateway.alike_setFlag first second .disable _
  | enable => exact gateway.alike_setFlag first second .enable _
  | delete => exact gateway.alike_delete first second _

/-! ### Runs that are noted alike -/

namespace Session

variable {Result : Type}

/-- A handle that notes statements answers from what it has been given, whatever the text. -/
theorem recorder_statement_eq {first second : Backend} (given : first.script = second.script)
    (sql other : String) (arguments : List Value) :
    (Recorder.statement first sql arguments).1 = (Recorder.statement second other arguments).1 ∧
      (Recorder.statement first sql arguments).2.script =
        (Recorder.statement second other arguments).2.script := by
  simp only [Recorder.statement, Backend.emit, given]
  split <;> simp

/-- What a plan sends to a handle that notes statements, what it comes to, and what is left of what
the handle has been given, does not depend on what the plan says, nor on the dialect. -/
theorem recorded_silent (held other : Recorder) (first second : Dialect) (plan : Plan Result)
    {backend behind : Backend} (given : backend.script = behind.script) :
    sent first plan ⟨.recorder held, backend⟩ = sent second plan.silent ⟨.recorder other, behind⟩ ∧
      (run first plan ⟨.recorder held, backend⟩).1 =
        (run second plan.silent ⟨.recorder other, behind⟩).1 ∧
      (run first plan ⟨.recorder held, backend⟩).2.backend.script =
        (run second plan.silent ⟨.recorder other, behind⟩).2.backend.script := by
  induction plan generalizing backend behind with
  | done result => exact ⟨rfl, rfl, given⟩
  | failed failure => exact ⟨rfl, rfl, given⟩
  | note level message rest inductionHypothesis => exact inductionHypothesis given
  | send statement rest inductionHypothesis =>
    obtain ⟨answered, left⟩ := recorder_statement_eq given (statement.sql first)
      (statement.sql second) statement.arguments
    simp only [Plan.silent, sent, run, Session.statement]
    generalize Recorder.statement backend (statement.sql first) statement.arguments = answer
      at answered left ⊢
    generalize Recorder.statement behind (statement.sql second) statement.arguments = answerToo
      at answered left ⊢
    obtain ⟨reply, next⟩ := answer
    obtain ⟨replyToo, nextToo⟩ := answerToo
    cases answered
    cases reply with
    | error failure => exact ⟨rfl, rfl, left⟩
    | ok reply =>
      obtain ⟨sending, coming, leaving⟩ := inductionHypothesis reply left
      exact ⟨congrArg (statement :: ·) sending, coming, leaving⟩

/-- Plans that are alike are noted alike. -/
theorem recorded_alike {held other : Recorder} {first second : Dialect} {plan next : Plan Result}
    (alike : plan.Alike next) {backend behind : Backend} (given : backend.script = behind.script) :
    sent first plan ⟨.recorder held, backend⟩ = sent second next ⟨.recorder other, behind⟩ ∧
      (run first plan ⟨.recorder held, backend⟩).1 =
        (run second next ⟨.recorder other, behind⟩).1 ∧
      (run first plan ⟨.recorder held, backend⟩).2.backend.script =
        (run second next ⟨.recorder other, behind⟩).2.backend.script := by
  have same : plan.silent = next.silent := alike
  obtain ⟨sending, coming, leaving⟩ := recorded_silent held other first second plan given
  obtain ⟨sendingToo, comingToo, leavingToo⟩ :=
    recorded_silent other other second second next (rfl : behind.script = behind.script)
  rw [same] at sending coming leaving
  exact ⟨sending.trans sendingToo.symm, coming.trans comingToo.symm,
    leaving.trans leavingToo.symm⟩

end Session

namespace Gateway

variable {gateway : Gateway}

theorem catalog_of_endpoint? {held : Recorder} (own : held.endpoint? = some gateway.endpoint) :
    gateway.endpoint.catalog = .held held.columns := by
  unfold Recorder.endpoint? at own
  split at own
  · split at own
    · rw [← Option.some.inj own]
    · cases own
  · cases own

/-- A handle that holds its columns is asked for nothing but a gateway's own statements. -/
theorem Sends.isRegular_of_held {asked : Value → Prop} {statement : Statement}
    {columns : List Value} (sends : gateway.Sends asked statement)
    (held : gateway.endpoint.catalog = .held columns)
    (standard : ∀ projection, asked projection →
      isEverything projection = true ∨ gateway.countProjection = .ok projection) :
    statement.IsRegular ∧ statement.IsOwn := by
  cases sends with
  | select clause among chosen => exact ⟨fits_projectionOf (standard _ among) chosen, trivial⟩
  | insert records onDuplicate named => exact ⟨follow_valuesUnder records named, trivial⟩
  | replace records named => exact ⟨follow_valuesUnder records named, trivial⟩
  | update assignments confined => exact ⟨trivial, trivial⟩
  | delete confined => exact ⟨trivial, trivial⟩
  | lookUp found => cases found <;> simp_all

end Gateway

/-- Users on a handle that notes statements. -/
def Gateway.notedUsers : Gateway :=
  { Gateway.users with
    endpoint :=
      { dialect := ⟨.text "qmark", .onDuplicateKey⟩
        catalog := .held Recorder.userColumns
        uri := "recording://test"
        safeUri := "recording://test"
        database := "test"
        label := "RecordingDbc"
        details := [(.text "uri", .text "recording://test"), (.text "database", .text "test")] } }

namespace Operation

/-- What an operation comes to on a handle that notes statements, in a style. -/
def noted (operation : Operation) (gateway : Gateway) (held : Recorder) (style : ParamStyle)
    (backend : Backend) : Except Failure operation.Answer × Session :=
  Session.run (gateway.inStyle style).endpoint.dialect (operation.plan (gateway.inStyle style))
    ⟨.recorder (held.inStyle style), backend⟩

/-- In both styles an operation comes to the same, is left with the same outcomes, and sends the
same statements with the same arguments; in the one style their texts are those of the other, put
into the one. -/
theorem noted_in_step {gateway : Gateway} {held : Recorder}
    (own : held.endpoint? = some gateway.endpoint) {operation : Operation}
    (standard : operation.IsStandard) {marked formatted : Backend}
    (given : marked.script = formatted.script) :
    let dialect := (gateway.inStyle .qmark).endpoint.dialect
    let sent := Session.sent dialect (operation.plan (gateway.inStyle .qmark))
      ⟨.recorder (held.inStyle .qmark), marked⟩
    let first := operation.noted gateway held .qmark marked
    let second := operation.noted gateway held .format formatted
    first.1 = second.1 ∧ first.2.backend.script = second.2.backend.script ∧
      first.2.backend.events = marked.events ++
        sent.map (fun statement => .query (statement.sql dialect) statement.arguments) ∧
      second.2.backend.events = formatted.events ++
        sent.map fun statement =>
          .query (statement.restyled (statement.sql dialect)) statement.arguments := by
  intro dialect sent first second
  obtain ⟨sending, coming, leaving⟩ := Session.recorded_alike
    (operation.alike_plan gateway .qmark .format) given
  refine ⟨coming, leaving, Session.events_run _ _ _ _, ?_⟩
  have noted := Session.events_run (held.inStyle .format) (gateway.inStyle .format).endpoint.dialect
    (operation.plan (gateway.inStyle .format)) formatted
  refine noted.trans (congrArg (formatted.events ++ ·) ?_)
  rw [← sending]
  refine List.map_congr_left fun statement member => ?_
  obtain ⟨ending, running, _⟩ := Session.runs_sent dialect
    (operation.plan (gateway.inStyle .qmark)) ⟨.recorder (held.inStyle .qmark), marked⟩
  have sends := operation.sends_of_runs (gateway.inStyle .qmark) running statement member
  obtain ⟨regular, ownStatement⟩ := sends.isRegular_of_held
    (Gateway.catalog_of_endpoint? (gateway.endpoint?_inStyle own .qmark))
    (standard.asks (gateway.inStyle .qmark))
  rw [regular.sql_eq_restyled ownStatement (gateway.style_inStyle .qmark)
    (gateway.style_inStyle .format) rfl]

/-- Users removed by their keys: the keys lose their parentheses, the name has none to lose. -/
theorem noted_in_step_users :
    let removal := Operation.delete
      (.dict [(.text "in", .dict [(.text "id", .list [.int 1, .int 2])]),
        (.text "name", .text "?")])
    let sql := "DELETE FROM \x60users\x60 WHERE \x60id\x60 IN %s AND \x60name\x60 = %s"
    (removal.noted .notedUsers .standard .qmark .empty).1 =
        (removal.noted .notedUsers .standard .format .empty).1 ∧
      (removal.noted .notedUsers .standard .format .empty).2.backend.events.map
          (fun event => match event with
            | .query text arguments => some (text, arguments)
            | _ => none) =
        [some (sql, [.tuple [.int 1, .int 2], .text "?"])] := by
  intro removal sql
  have own : Recorder.standard.endpoint? = some Gateway.notedUsers.endpoint := rfl
  have standard : removal.IsStandard := trivial
  obtain ⟨coming, -, -, noted⟩ := noted_in_step own standard (rfl : Backend.empty.script = _)
  refine ⟨coming, ?_⟩
  rw [noted]
  rfl

end Operation

end TableGateway
