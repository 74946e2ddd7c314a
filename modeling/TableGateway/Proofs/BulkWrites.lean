/-
This file says what is sent when records are written together. All three ways of doing so
check first, and then send one statement, which has the fields of the first form for
columns and a row for each form, with the form's own value in each column. They differ in
the first words of the statement, and in what they add for rows that collide. A record
that is written alone is written like a list of one.
-/

import TableGateway.Proofs.BulkForms
import TableGateway.Proofs.Dialogue
import TableGateway.Proofs.Selection

namespace TableGateway

/-! ### One plan after another on a session -/

namespace Session

variable {Result Next : Type} (dialect : Dialect)

/-- What a session sends, as its handle gets it: the text of each statement with its arguments. -/
def calls (plan : Plan Result) (session : Session) : List (String × List Value) :=
  (session.sent dialect plan).map fun statement => (statement.sql dialect, statement.arguments)

/-- After a plan that has come to a result a session goes on with what follows, and a plan that
fails is not followed. -/
theorem run_bind (plan : Plan Result) (next : Result → Plan Next) (session : Session) :
    (∃ result later, session.run dialect plan = (.ok result, later) ∧
      session.run dialect (plan >>= next) = later.run dialect (next result) ∧
      session.sent dialect (plan >>= next) =
        session.sent dialect plan ++ later.sent dialect (next result)) ∨
    (∃ failure later, session.run dialect plan = (.error failure, later) ∧
      session.run dialect (plan >>= next) = (.error failure, later) ∧
      session.sent dialect (plan >>= next) = session.sent dialect plan) := by
  induction plan generalizing session with
  | done result => exact .inl ⟨result, session, rfl, rfl, rfl⟩
  | failed failure => exact .inr ⟨failure, session, rfl, rfl, rfl⟩
  | note level message rest inductionHypothesis => exact inductionHypothesis _
  | send statement rest inductionHypothesis =>
    have followed : Plan.send statement rest >>= next =
        .send statement fun reply => rest reply >>= next := rfl
    rw [followed, run, run, sent, sent]
    rcases session.statement (statement.sql dialect) statement.arguments with
      ⟨failure | reply, answered⟩
    · exact .inr ⟨failure, answered, rfl, rfl, rfl⟩
    · rcases inductionHypothesis reply answered with
        ⟨result, later, passed, run, sent⟩ | ⟨failure, later, stopped, run, sent⟩
      · exact .inl ⟨result, later, passed, run, congrArg (List.cons statement) sent⟩
      · exact .inr ⟨failure, later, stopped, run, congrArg (List.cons statement) sent⟩

end Session

/-! ### Plans that ask alike -/

/-- Two plans say the same up to one statement, and then only conclude; or they say the same and
then fail, each in its own words. -/
inductive Plan.AsksAlike {First Second : Type} : Plan First → Plan Second → Prop where
  | failed (failure other : Failure) : AsksAlike (.failed failure) (.failed other)
  | noted (level : Level) (message : String) {first : Plan First} {second : Plan Second}
      (alike : AsksAlike first second) :
      AsksAlike (.note level message first) (.note level message second)
  | asked (statement : Statement) {first : Reply → Plan First} {second : Reply → Plan Second}
      (concludes : ∀ reply, (first reply).Concludes fun _ => True)
      (concludesToo : ∀ reply, (second reply).Concludes fun _ => True) :
      AsksAlike (.send statement first) (.send statement second)

namespace Plan

variable {Result First Second : Type}

/-- What is only checked first makes no difference to what is alike after it. -/
theorem AsksAlike.bind_check {plan : Plan Result} {checked : Except Failure Result}
    (quiet : plan.silent = ofExcept checked) {first : Result → Plan First}
    {second : Result → Plan Second} (alike : ∀ result, (first result).AsksAlike (second result)) :
    (plan >>= first).AsksAlike (plan >>= second) := by
  induction plan with
  | done result => exact alike result
  | failed failure => exact .failed failure failure
  | note level message rest inductionHypothesis =>
    exact .noted level message (inductionHypothesis quiet)
  | send statement rest => cases checked <;> cases quiet

end Plan

/-- Plans that ask alike exchange the same on a session, and both fail or neither does. -/
theorem Session.exchanges_of_asksAlike {First Second : Type} {first : Plan First}
    {second : Plan Second} (alike : first.AsksAlike second) (dialect : Dialect)
    (session : Session) :
    session.exchanges dialect first = session.exchanges dialect second ∧
      ((∃ failure, (session.run dialect first).1 = .error failure) ↔
        ∃ failure, (session.run dialect second).1 = .error failure) := by
  induction alike generalizing session with
  | failed failure other => exact ⟨rfl, fun _ => ⟨other, rfl⟩, fun _ => ⟨failure, rfl⟩⟩
  | noted level message alike inductionHypothesis => exact inductionHypothesis _
  | asked statement concludes concludesToo =>
    rw [exchanges, exchanges, run, run]
    rcases session.statement (statement.sql dialect) statement.arguments with
      ⟨failure | reply, later⟩
    · exact ⟨rfl, fun _ => ⟨failure, rfl⟩, fun _ => ⟨failure, rfl⟩⟩
    · obtain ⟨nothing, result, passed⟩ := exchanges_of_concludes (concludes reply) dialect later
      obtain ⟨nothingToo, other, passedToo⟩ :=
        exchanges_of_concludes (concludesToo reply) dialect later
      refine ⟨congrArg (List.cons (statement, .ok reply)) (nothing.trans nothingToo.symm), ?_, ?_⟩
      · rintro ⟨failure, failed⟩
        cases passed.symm.trans failed
      · rintro ⟨failure, failed⟩
        cases passedToo.symm.trans failed

/-- Records are inserted under the keys of the first, if the style has places for values. -/
theorem Endpoint.insertRecords_cons (endpoint : Endpoint) (table : Value) (first : Record)
    (rest : List Record) :
    endpoint.insertRecords table (first :: rest) =
      Plan.ofExcept (ParamStyle.forPlaces endpoint.dialect.styleName >>= fun _ =>
        insertion table first.keys (first :: rest)) >>= Plan.ask := by
  rw [Plan.ofExcept_bind, bind_assoc]
  rfl

namespace Gateway

variable {gateway : Gateway}

/-! ### What is sent -/

/-- The statement that is made of some records, once all has been checked. -/
def bulkStatement (gateway : Gateway) (items : List Value) (strict : Bool) (write : BulkWrite)
    (make : List Identifier → List (List Value) → Except Failure Statement) :
    Except Failure Statement := do
  let (fields, forms) ← gateway.bulkOf items strict write
  let columns ← gateway.bulkColumns fields
  make columns (Endpoint.valuesUnder fields forms)

/-- Putting the fields of records in the order of the columns makes no difference to an
insertion. -/
theorem insertion_arrange (fields : List Value) (forms : List Record) :
    Endpoint.insertion (.text gateway.table.name) fields (forms.map (arrange fields)) =
      Endpoint.insertion (.text gateway.table.name) fields forms := by
  rw [Endpoint.insertion, Endpoint.insertion]
  cases named : Identifier.ofValues? fields with
  | error fault => rfl
  | ok columns =>
    have columnsOf := Identifier.ofValues?_eq_ok named
    rw [columnsOf, valuesUnder_arrange]

/-- Records that are inserted under the columns of the first are checked for these columns. -/
theorem insertion_eq (fields : List Value) (forms : List Record) :
    (ParamStyle.forPlaces gateway.endpoint.dialect.styleName >>= fun _ =>
        Endpoint.insertion (.text gateway.table.name) fields forms) =
      gateway.bulkColumns fields >>= fun columns =>
        .ok (.insert gateway.table columns (Endpoint.valuesUnder fields forms) none) := by
  have table : Identifier.ofValue? (.text gateway.table.name) = .ok gateway.table :=
    Identifier.ofName?_name gateway.table
  rw [bulkColumns, bind_assoc]
  refine bind_congr fun _ => ?_
  rw [Endpoint.insertion, table]
  rfl

theorem keys_arrange (fields : List Value) (form : Record) :
    Entries.keys (arrange fields form) = fields := by
  rw [Entries.keys, arrange, List.map_map]
  exact List.map_id fields

/-- Forms that are put together are some, under the fields of the first. -/
theorem exists_first_of_bulkOf {items : List Value} {strict : Bool} {write : BulkWrite}
    {fields : List Value} {forms : List Record}
    (checked : gateway.bulkOf items strict write = .ok (fields, forms)) :
    ∃ first rest, forms = first :: rest ∧ fields = first.keys := by
  obtain ⟨made, _, put⟩ := ok_of_bind checked
  unfold gathered at put
  split at put
  · cases put
  · split at put
    · cases put
    · obtain ⟨_, _, together⟩ := ok_of_bind put
      cases together
      exact ⟨_, _, rfl, rfl⟩

/-- Records that are put in the order of the first are inserted as they are. -/
theorem insertRecords_arrange (first : Record) (rest : List Record) :
    gateway.endpoint.insertRecords (.text gateway.table.name)
        ((first :: rest).map (arrange first.keys)) =
      gateway.endpoint.insertRecords (.text gateway.table.name) (first :: rest) := by
  rw [List.map_cons, Endpoint.insertRecords_cons, Endpoint.insertRecords_cons, keys_arrange,
    ← List.map_cons, insertion_arrange]

section Listed

variable {records : Value} {items : List Value}

theorem asksOnce_addMany (listed : records = .list items ∨ records = .tuple items)
    (strict : Bool) :
    (gateway.addMany records strict).AsksOnce
      (gateway.bulkStatement items strict .insert fun columns rows =>
        .ok (.insert gateway.table columns rows none)) := by
  refine Plan.AsksOnce.check_bind (silent_bulkForms listed strict .insert)
    fun ⟨fields, forms⟩ checked => ?_
  obtain ⟨first, rest, rfl, rfl⟩ := exists_first_of_bulkOf checked
  dsimp only
  rw [insertRecords_arrange, Endpoint.insertRecords_cons, insertion_eq, Plan.ofExcept_bind,
    bind_assoc, bind_assoc]
  refine Plan.AsksOnce.check_bind (Plan.silent_ofExcept _) fun columns _ => ?_
  exact Plan.asksOnce_ask _ fun reply => ⟨.ok reply.affected, rfl⟩

theorem asksOnce_replaceMany (listed : records = .list items ∨ records = .tuple items)
    (strict : Bool) :
    (gateway.replaceMany records strict).AsksOnce
      (gateway.bulkStatement items strict .replace fun columns rows =>
        .ok (.replace gateway.table columns rows)) := by
  refine Plan.AsksOnce.check_bind (silent_bulkForms listed strict .replace)
    fun ⟨fields, forms⟩ _ => ?_
  refine Plan.AsksOnce.check_bind (Plan.silent_ofExcept _) fun columns _ => ?_
  refine Plan.AsksOnce.said_bind (gateway.silent_announce _ _) ?_
  exact Plan.asksOnce_ask _ fun reply => ⟨.ok ⟨.replaceInto, reply.affected, reply.insertId⟩, rfl⟩

/-- Inserting with something for rows that collide is refused without a column for it; otherwise it
first looks whether there is that column. -/
theorem upsertMany_eq (listed : records = .list items ∨ records = .tuple items)
    (duplicateKey duplicateValue : Value) (strict : Bool) :
    ∃ rest : Plan WriteResult,
      gateway.upsertMany records duplicateKey duplicateValue strict =
        (if !(gateway.collisionKey duplicateKey).isTruthy then
          Plan.refuse (.noDuplicateKey gateway.model)
        else gateway.ensureColumns [gateway.collisionKey duplicateKey] >>= fun _ => rest) ∧
      rest.AsksOnce (gateway.bulkStatement items strict .upsert fun columns rows => do
        let column ← orRefuse (Identifier.ofValue? (gateway.collisionKey duplicateKey))
        return .insert gateway.table columns rows
          (some ⟨column, collisionValue duplicateValue⟩)) := by
  refine ⟨_, rfl, ?_⟩
  refine Plan.AsksOnce.check_bind (silent_bulkForms listed strict .upsert)
    fun ⟨fields, forms⟩ _ => ?_
  refine Plan.AsksOnce.check_bind (Plan.silent_ofExcept _) fun columns _ => ?_
  refine Plan.AsksOnce.check_bind (Plan.silent_ofExcept _) fun column _ => ?_
  refine Plan.AsksOnce.said_bind (gateway.silent_announce _ _) ?_
  exact Plan.asksOnce_ask _ fun reply =>
    ⟨.ok ⟨.insertOrUpdate, reply.affected, reply.insertId⟩, rfl⟩

/-! ### From forms to rows -/

variable {strict : Bool} {forms : List Record}

theorem areTexts_of_formed
    (texts : ∀ item ∈ items, ∀ record, item.toRecord = .ok record → AreTexts record.keys)
    (formed : List.Forall₂ (fun item form => gateway.formOf item strict = .ok form) items forms) :
    ∀ form ∈ forms, AreTexts (Entries.keys form) := by
  intro form member
  obtain ⟨item, itemIn, written⟩ := exists_of_mem_forall₂ formed member
  exact areTexts_formOf (texts item itemIn) written

/-- Once each record has a form, the rest depends on the forms alone. -/
theorem bulkStatement_of_formed
    (formed : List.Forall₂ (fun item form => gateway.formOf item strict = .ok form) items forms)
    (write : BulkWrite) (make : List Identifier → List (List Value) → Except Failure Statement) :
    gateway.bulkStatement items strict write make =
      gathered gateway.model write forms >>= fun (fields, forms) =>
        gateway.bulkColumns fields >>= fun columns =>
          make columns (Endpoint.valuesUnder fields forms) := by
  rw [bulkStatement, bulkOf, mapM_eq_ok_iff.mpr formed]
  rfl

/-- A record without a form fails the whole. -/
theorem bulkStatement_of_unformed
    (unformed : ¬∃ forms, List.Forall₂ (fun item form => gateway.formOf item strict = .ok form)
      items forms) (write : BulkWrite)
    (make : List Identifier → List (List Value) → Except Failure Statement) :
    ∃ failure, (∃ item ∈ items, gateway.formOf item strict = .error failure) ∧
      gateway.bulkStatement items strict write make = .error failure := by
  cases made : items.mapM fun item => gateway.formOf item strict with
  | ok forms => exact absurd ⟨forms, mapM_eq_ok_iff.mp made⟩ unformed
  | error failure =>
    exact ⟨failure, exists_of_mapM_eq_error made, by rw [bulkStatement, bulkOf, made]; rfl⟩

/-- Forms that do not share their fields are refused. -/
theorem bulkStatement_of_apart
    (texts : ∀ item ∈ items, ∀ record, item.toRecord = .ok record → AreTexts record.keys)
    (formed : List.Forall₂ (fun item form => gateway.formOf item strict = .ok form) items forms)
    (apart : ¬SharesFields forms) (write : BulkWrite)
    (make : List Identifier → List (List Value) → Except Failure Statement) :
    ∃ fault, gateway.bulkStatement items strict write make = .error (.invalid fault) := by
  rcases gathered_cases gateway.model write (areTexts_of_formed texts formed) with
    ⟨shares, _⟩ | ⟨_, fault, refused⟩
  · exact absurd shares apart
  · exact ⟨fault, by rw [bulkStatement_of_formed formed, refused]; rfl⟩

/-- Of forms that share their fields a statement is made under the fields of the first. -/
theorem bulkStatement_of_shared
    (texts : ∀ item ∈ items, ∀ record, item.toRecord = .ok record → AreTexts record.keys)
    (formed : List.Forall₂ (fun item form => gateway.formOf item strict = .ok form) items forms)
    (shares : SharesFields forms) {style : ParamStyle}
    (placed : ParamStyle.forPlaces gateway.endpoint.dialect.styleName = .ok style)
    (write : BulkWrite) (make : List Identifier → List (List Value) → Except Failure Statement) :
    gateway.bulkStatement items strict write make =
      orRefuse (Identifier.ofValues? (firstFields forms)) >>= fun columns =>
        make columns (Endpoint.valuesUnder (firstFields forms) forms) := by
  rcases gathered_cases gateway.model write (areTexts_of_formed texts formed) with
    ⟨_, together⟩ | ⟨apart, _⟩
  · rw [bulkStatement_of_formed formed, together]
    show gateway.bulkColumns _ >>= _ = _
    rw [bulkColumns, placed]
    rfl
  · exact absurd shares apart

end Listed

/-! ### Values under their columns -/

/-- A statement's text, past its first words, and its arguments write some forms by column: the text
has the fields of the first form for columns, once, and for each form a group of as many places; and
for the place of a form and a column there is the value that the form has in the column. -/
structure WritesByColumn (table : Identifier) (style : ParamStyle) (forms : List Record)
    (body : String) (arguments : List Value) : Prop where
  text : ∃ columns : List Identifier,
    firstFields forms = (columns.map fun column => .text column.name) ∧
      body = table.quoted ++ " (" ++ quotedNames columns ++ ") VALUES " ++
        Text.joinWith ", " (List.replicate forms.length ("(" ++
          Text.joinWith ", " (List.replicate (firstFields forms).length style.placeholder) ++ ")"))
  count : arguments.length = forms.length * (firstFields forms).length
  placed : ∀ row form column field, forms[row]? = some form →
    (firstFields forms)[column]? = some field →
      ∃ value, form.get? field = some value ∧
        arguments[row * (firstFields forms).length + column]? = some value

/-- A form that shares its fields with the first has each of them. -/
theorem SharesFields.exists_get? {forms : List Record} (shares : SharesFields forms)
    (texts : ∀ form ∈ forms, AreTexts (Entries.keys form)) {form : Record} (member : form ∈ forms)
    {field : Value} (among : field ∈ firstFields forms) :
    ∃ value, form.get? field = some value := by
  cases forms with
  | nil => cases shares
  | cons first rest =>
    obtain ⟨name, rfl⟩ := texts first List.mem_cons_self field among
    refine Entries.exists_named? ?_
    rcases List.mem_cons.mp member with rfl | later
    · exact among
    · exact (shares.2 form later _).mpr among

/-- Values taken row by row under the fields of the first form are written by column. -/
theorem writesByColumn_valuesUnder (table : Identifier) (style : ParamStyle) {forms : List Record}
    (shares : SharesFields forms) (texts : ∀ form ∈ forms, AreTexts (Entries.keys form))
    {columns : List Identifier}
    (named : Identifier.ofValues? (firstFields forms) = .ok columns) :
    WritesByColumn table style forms
      (table.quoted ++ " " ++ Statement.valuesText style columns
        (Endpoint.valuesUnder (firstFields forms) forms))
      (Endpoint.valuesUnder (firstFields forms) forms).flatten := by
  have columnsOf := Identifier.ofValues?_eq_ok named
  have width : columns.length = (firstFields forms).length := by rw [columnsOf, List.length_map]
  have even : ∀ row ∈ Endpoint.valuesUnder (firstFields forms) forms,
      row.length = (firstFields forms).length := Endpoint.length_of_mem_valuesUnder
  have height : (Endpoint.valuesUnder (firstFields forms) forms).length = forms.length :=
    List.length_map _
  refine ⟨⟨columns, columnsOf, ?_⟩, ?_, ?_⟩
  · rw [Statement.valuesText, Statement.rowText, width, height]
    simp only [String.append_assoc]
    rfl
  · rw [length_flatten_of_width even, height]
  · intro row form column field formAt fieldAt
    obtain ⟨value, found⟩ := shares.exists_get? texts (List.mem_of_getElem? formAt)
      (List.mem_of_getElem? fieldAt)
    refine ⟨value, found, ?_⟩
    rw [Endpoint.getElem?_flatten_valuesUnder formAt fieldAt, found, Option.getD_some]

/-! ### On a session -/

/-- Whichever way records are written together, it fails with a failure as named, and nothing is
written. For rows that collide a column is looked up before, which can fail in its own way. -/
structure FailsUnwritten (gateway : Gateway) (records : Value) (strict : Bool)
    (duplicateKey duplicateValue : Value) (session : Session) (named : Failure → Prop) :
    Prop where
  adding : session.sent gateway.endpoint.dialect (gateway.addMany records strict) = [] ∧
    ∃ failure, named failure ∧
      (session.run gateway.endpoint.dialect (gateway.addMany records strict)).1 = .error failure
  replacing : session.sent gateway.endpoint.dialect (gateway.replaceMany records strict) = [] ∧
    ∃ failure, named failure ∧
      (session.run gateway.endpoint.dialect (gateway.replaceMany records strict)).1 =
        .error failure
  upserting : (∀ statement ∈ session.sent gateway.endpoint.dialect
      (gateway.upsertMany records duplicateKey duplicateValue strict),
        gateway.endpoint.LooksUp gateway.table statement) ∧
    ∃ failure, (session.run gateway.endpoint.dialect
        (gateway.upsertMany records duplicateKey duplicateValue strict)).1 = .error failure ∧
      (named failure ∨ (session.run gateway.endpoint.dialect
        (gateway.ensureColumns [gateway.collisionKey duplicateKey])).1 = .error failure)

/-- Looking a column up asks the handle for nothing else. -/
theorem looksUp_of_sent_ensureColumns (names : List Value) (session : Session) :
    ∀ statement ∈ session.sent gateway.endpoint.dialect (gateway.ensureColumns names),
      gateway.endpoint.LooksUp gateway.table statement := by
  intro statement member
  rw [← Session.map_exchanges] at member
  obtain ⟨exchange, among, rfl⟩ := List.mem_map.mp member
  exact ((gateway.ensureColumns_always names).of_converses
    (session.converses_exchanges gateway.endpoint.dialect _)).1 exchange among

/-- Where no statement can be made of the records, all ways of writing them fail unwritten. -/
theorem failsUnwritten_of_bulkStatement {records : Value} {items : List Value} {strict : Bool}
    (listed : records = .list items ∨ records = .tuple items) (duplicateKey duplicateValue : Value)
    (session : Session) {named : Failure → Prop} (invalid : ∀ fault, named (.invalid fault))
    (fails : ∀ write make, ∃ failure, named failure ∧
      gateway.bulkStatement items strict write make = .error failure) :
    gateway.FailsUnwritten records strict duplicateKey duplicateValue session named := by
  refine ⟨?_, ?_, ?_⟩
  · have once := gateway.asksOnce_addMany listed strict
    obtain ⟨failure, isNamed, failed⟩ := fails .insert _
    rw [failed] at once
    obtain ⟨nothing, ended⟩ := Session.sent_of_asksOnce_error _ once session
    exact ⟨nothing, failure, isNamed, ended⟩
  · have once := gateway.asksOnce_replaceMany listed strict
    obtain ⟨failure, isNamed, failed⟩ := fails .replace _
    rw [failed] at once
    obtain ⟨nothing, ended⟩ := Session.sent_of_asksOnce_error _ once session
    exact ⟨nothing, failure, isNamed, ended⟩
  · obtain ⟨rest, whole, once⟩ :=
      gateway.upsertMany_eq listed duplicateKey duplicateValue strict
    obtain ⟨failure, isNamed, failed⟩ := fails .upsert _
    rw [failed] at once
    rw [whole]
    split
    · exact ⟨fun _ member => absurd member List.not_mem_nil, _, rfl, .inl (invalid _)⟩
    · have looks :=
        gateway.looksUp_of_sent_ensureColumns [gateway.collisionKey duplicateKey] session
      rcases session.run_bind gateway.endpoint.dialect
          (gateway.ensureColumns [gateway.collisionKey duplicateKey]) (fun _ => rest) with
        ⟨_, later, _, ended, sent⟩ | ⟨other, later, stopped, ended, sent⟩
      · obtain ⟨nothing, endedLater⟩ := Session.sent_of_asksOnce_error _ once later
        rw [ended, sent, nothing, List.append_nil]
        exact ⟨looks, failure, endedLater, .inl isNamed⟩
      · rw [ended, sent]
        exact ⟨looks, other, rfl, .inr (congrArg Prod.fst stopped)⟩

/-- The style that has places for values is the one that statements are worded in. -/
theorem style_of_forPlaces {dialect : Dialect} {style : ParamStyle}
    (placed : ParamStyle.forPlaces dialect.styleName = .ok style) : dialect.style = style := by
  rw [ParamStyle.forPlaces] at placed
  split at placed
  · cases placed
  · rw [Dialect.style]
    cases known : ParamStyle.ofValue? dialect.styleName with
    | none =>
      rw [known] at placed
      cases placed
    | some other =>
      rw [known] at placed
      cases placed
      rfl

theorem calls_of_asksOnce {Result : Type} {plan : Plan Result} {dialect : Dialect}
    {statement : Statement} (once : plan.AsksOnce (.ok statement)) (session : Session) :
    session.calls dialect plan = [(statement.sql dialect, statement.arguments)] := by
  rw [Session.calls, Session.sent_of_asksOnce_ok dialect once session]
  rfl

/-- Whichever way records are written together, one statement is sent for them, and the statements
have one body and one list of values in common. For rows that collide a column is looked up first,
and the statement then ends with the suffix for that column, and its value if there is one. Without
a column nothing is sent, and only the look where it fails or the column cannot be quoted. -/
structure SendsTogether (gateway : Gateway) (records : Value) (strict : Bool)
    (duplicateKey duplicateValue : Value) (session : Session) (style : ParamStyle) (body : String)
    (arguments : List Value) : Prop where
  adding : session.calls gateway.endpoint.dialect (gateway.addMany records strict) =
    [("INSERT INTO " ++ body, arguments)]
  replacing : session.calls gateway.endpoint.dialect (gateway.replaceMany records strict) =
    [("REPLACE INTO " ++ body, arguments)]
  upserting : ∀ column, (gateway.collisionKey duplicateKey).isTruthy = true →
    Identifier.ofValue? (gateway.collisionKey duplicateKey) = .ok column →
    let looked := gateway.ensureColumns [gateway.collisionKey duplicateKey]
    (session.run gateway.endpoint.dialect looked).1 = .ok () →
    session.calls gateway.endpoint.dialect
        (gateway.upsertMany records duplicateKey duplicateValue strict) =
      session.calls gateway.endpoint.dialect looked ++
        [("INSERT INTO " ++ body ++ gateway.endpoint.dialect.duplicates.suffix column.quoted
            (if duplicateValue.isNull then column.quoted else style.placeholder),
          arguments ++ if duplicateValue.isNull then [] else [duplicateValue])]
  keyless : (gateway.collisionKey duplicateKey).isTruthy = false →
    let plan := gateway.upsertMany records duplicateKey duplicateValue strict
    session.calls gateway.endpoint.dialect plan = [] ∧
      ∃ fault, (session.run gateway.endpoint.dialect plan).1 = .error (.invalid fault)
  withheld : (gateway.collisionKey duplicateKey).isTruthy = true →
    let plan := gateway.upsertMany records duplicateKey duplicateValue strict
    let looked := gateway.ensureColumns [gateway.collisionKey duplicateKey]
    ((∃ fault, Identifier.ofValue? (gateway.collisionKey duplicateKey) = .error fault) ∨
      ∃ failure, (session.run gateway.endpoint.dialect looked).1 = .error failure) →
    session.calls gateway.endpoint.dialect plan =
        session.calls gateway.endpoint.dialect looked ∧
      ∃ failure, (session.run gateway.endpoint.dialect plan).1 = .error failure

/-- What is sent for rows that collide says at its end what becomes of them. -/
theorem insert_colliding (dialect : Dialect) (table column : Identifier)
    (columns : List Identifier) (rows : List (List Value)) (duplicateValue : Value) :
    let statement := Statement.insert table columns rows
      (some ⟨column, collisionValue duplicateValue⟩)
    statement.sql dialect =
        "INSERT INTO " ++ (table.quoted ++ " " ++
          Statement.valuesText dialect.style columns rows) ++
          dialect.duplicates.suffix column.quoted
            (if duplicateValue.isNull then column.quoted else dialect.style.placeholder) ∧
      statement.arguments =
        rows.flatten ++ if duplicateValue.isNull then [] else [duplicateValue] := by
  intro statement
  have worded : statement.sql dialect = "INSERT INTO " ++ table.quoted ++ " " ++
      Statement.valuesText dialect.style columns rows ++
        Statement.duplicateText dialect ⟨column, collisionValue duplicateValue⟩ :=
    Statement.sql_insert _ _ columns rows (some ⟨column, collisionValue duplicateValue⟩)
  have handed : statement.arguments =
      rows.flatten ++ (collisionValue duplicateValue).toList := rfl
  rw [worded, handed, Statement.duplicateText, collisionValue]
  constructor
  · split <;> simp only [String.append_assoc, Option.isNone_none, Option.isNone_some, if_true,
      Bool.false_eq_true, if_false]
  · split <;> rfl

/-- Where a statement is made of the records under some columns, all ways of writing them together
send it. -/
theorem sendsTogether_of_bulkStatement {records : Value} {items : List Value} {strict : Bool}
    (listed : records = .list items ∨ records = .tuple items) (duplicateKey duplicateValue : Value)
    (session : Session) {style : ParamStyle}
    (placed : ParamStyle.forPlaces gateway.endpoint.dialect.styleName = .ok style)
    {columns : List Identifier} {rows : List (List Value)}
    (made : ∀ write make, gateway.bulkStatement items strict write make = make columns rows) :
    gateway.SendsTogether records strict duplicateKey duplicateValue session style
      (gateway.table.quoted ++ " " ++ Statement.valuesText style columns rows) rows.flatten := by
  have worded := style_of_forPlaces placed
  obtain ⟨rest, whole, once⟩ := gateway.upsertMany_eq listed duplicateKey duplicateValue strict
  rw [made] at once
  refine ⟨?_, ?_, ?_, ?_, ?_⟩
  · have once := gateway.asksOnce_addMany listed strict
    rw [made] at once
    rw [calls_of_asksOnce once session, Statement.sql_insert, worded]
    simp only [Statement.arguments, Option.map_none, Option.getD_none, String.append_empty,
      Option.bind_none, Option.toList_none, List.append_nil, String.append_assoc]
  · have once := gateway.asksOnce_replaceMany listed strict
    rw [made] at once
    rw [calls_of_asksOnce once session, Statement.sql_replace, worded]
    simp only [Statement.arguments, String.append_assoc]
  · intro column isKey quoted looked passed
    rw [quoted] at once
    obtain ⟨sql, handed⟩ := insert_colliding gateway.endpoint.dialect gateway.table column columns
      rows duplicateValue
    rw [worded] at sql
    rw [whole, isKey, Bool.not_true, if_neg Bool.false_ne_true, Session.calls]
    rcases session.run_bind gateway.endpoint.dialect looked (fun _ => rest) with
      ⟨_, later, _, _, sent⟩ | ⟨failure, later, stopped, _⟩
    · rw [sent, List.map_append, ← sql, ← handed]
      exact congrArg (session.calls gateway.endpoint.dialect looked ++ ·)
        (calls_of_asksOnce once later)
    · rw [stopped] at passed
      cases passed
  · intro noKey plan
    have refused : plan = Plan.refuse (.noDuplicateKey gateway.model) := by
      show gateway.upsertMany records duplicateKey duplicateValue strict = _
      rw [whole, noKey]
      rfl
    rw [refused]
    exact ⟨rfl, _, rfl⟩
  · intro isKey plan looked fails
    have inTwo : plan = looked >>= fun _ => rest := by
      show gateway.upsertMany records duplicateKey duplicateValue strict = _
      rw [whole, isKey]
      rfl
    rw [inTwo, Session.calls, Session.calls]
    rcases session.run_bind gateway.endpoint.dialect looked (fun _ => rest) with
      ⟨_, later, passed, ended, sent⟩ | ⟨failure, later, stopped, ended, sent⟩
    · rcases fails with ⟨fault, unquoted⟩ | ⟨failure, stopped⟩
      · rw [unquoted] at once
        obtain ⟨nothing, endedLater⟩ := Session.sent_of_asksOnce_error _ once later
        rw [ended, sent, nothing, List.append_nil]
        exact ⟨rfl, _, endedLater⟩
      · rw [passed] at stopped
        cases stopped
    · rw [ended, sent]
      exact ⟨rfl, failure, rfl⟩

/-! ### One record alone -/

/-- The forms of a list of one record are its form. -/
theorem bulkForms_singleton (record : Value) (strict : Bool) (write : BulkWrite) :
    gateway.bulkForms (.list [record]) strict write =
      gateway.writeForm record strict >>= fun form =>
        if form.isEmpty then Plan.refuse (.noFields gateway.model write)
        else pure (form.keys, [form]) := by
  show gateway.writeForms strict [record] >>= _ = _
  rw [writeForms, bind_assoc]
  rfl

/-- A record that is written alone is written like a list of one. -/
theorem add_asksAlike (record : Value) (strict : Bool) :
    (gateway.add record strict).AsksAlike (gateway.addMany (.list [record]) strict) := by
  unfold add addMany
  rw [bulkForms_singleton, bind_assoc]
  refine Plan.AsksAlike.bind_check (gateway.silent_writeForm record strict) fun form => ?_
  split
  · exact .failed _ _
  · show (gateway.endpoint.insertRecords _ [form] >>= _).AsksAlike
      (gateway.endpoint.insertRecords _ ([form].map (arrange form.keys)) >>= _)
    rw [insertRecords_arrange, Endpoint.insertRecords_cons, bind_assoc, bind_assoc]
    refine Plan.AsksAlike.bind_check (Plan.silent_ofExcept _) fun statement => ?_
    exact .asked statement (fun _ => trivial) (fun _ => trivial)

/-! ### All ways of writing records together -/

/-- Records that are written together are written by column, whatever the order of their keys. Where
they have no forms, or these do not share their fields, or a field cannot be quoted, nothing is
written. Otherwise each way of writing them sends one statement for them, and the statements differ
only at their ends. And a record that is written alone is written like a list of one. -/
theorem bulk_writes_by_column {records : Value} {items : List Value}
    (listed : records = .list items ∨ records = .tuple items)
    (texts : ∀ item ∈ items, ∀ record, item.toRecord = .ok record → AreTexts record.keys)
    (strict : Bool) (duplicateKey duplicateValue : Value) (session : Session) :
    let dialect := gateway.endpoint.dialect
    let Formed := List.Forall₂ (fun item form => gateway.formOf item strict = .ok form) items
    let FailsUnwritten :=
      gateway.FailsUnwritten records strict duplicateKey duplicateValue session
    ((¬∃ forms, Formed forms) → FailsUnwritten fun failure => failure.isInvalid = true ∨
      ∃ item ∈ items, gateway.formOf item strict = .error failure) ∧
    (∀ forms, Formed forms → ¬SharesFields forms →
      FailsUnwritten fun failure => failure.isInvalid = true) ∧
    (∀ forms style, Formed forms → SharesFields forms →
      ParamStyle.forPlaces dialect.styleName = .ok style →
      (∃ fault, Identifier.ofValues? (firstFields forms) = .error fault) ∧
          FailsUnwritten (fun failure => failure.isInvalid = true) ∨
        ∃ body arguments, WritesByColumn gateway.table style forms body arguments ∧
          gateway.SendsTogether records strict duplicateKey duplicateValue session style body
            arguments) ∧
    ∀ record, session.sent dialect (gateway.add record strict) =
        session.sent dialect (gateway.addMany (.list [record]) strict) ∧
      ((∃ failure, (session.run dialect (gateway.add record strict)).1 = .error failure) ↔
        ∃ failure, (session.run dialect (gateway.addMany (.list [record]) strict)).1 =
          .error failure) := by
  intro dialect Formed FailsUnwritten
  have invalid (fault : Fault) : (Failure.invalid fault).isInvalid = true := rfl
  refine ⟨fun unformed => ?_, fun forms formed apart => ?_,
    fun forms style formed shares placed => ?_, fun record => ?_⟩
  · refine failsUnwritten_of_bulkStatement listed duplicateKey duplicateValue session
      (fun fault => .inl (invalid fault)) fun write make => ?_
    obtain ⟨failure, unwritten, failed⟩ := bulkStatement_of_unformed unformed write make
    exact ⟨failure, .inr unwritten, failed⟩
  · refine failsUnwritten_of_bulkStatement listed duplicateKey duplicateValue session invalid
      fun write make => ?_
    obtain ⟨fault, refused⟩ := bulkStatement_of_apart texts formed apart write make
    exact ⟨_, invalid fault, refused⟩
  · cases named : Identifier.ofValues? (firstFields forms) with
    | error fault =>
      refine .inl ⟨⟨fault, rfl⟩, failsUnwritten_of_bulkStatement listed duplicateKey duplicateValue
        session invalid fun write make => ⟨_, invalid fault, ?_⟩⟩
      rw [bulkStatement_of_shared texts formed shares placed, named]
      rfl
    | ok columns =>
      refine .inr ⟨_, _, writesByColumn_valuesUnder gateway.table style shares
        (areTexts_of_formed texts formed) named, sendsTogether_of_bulkStatement listed duplicateKey
          duplicateValue session placed fun write make => ?_⟩
      rw [bulkStatement_of_shared texts formed shares placed, named]
      rfl
  · obtain ⟨exchanged, both⟩ :=
      Session.exchanges_of_asksAlike (gateway.add_asksAlike record strict) dialect session
    refine ⟨?_, both⟩
    rw [← Session.map_exchanges, ← Session.map_exchanges, exchanged]

/-- Two users whose keys come in different orders are written by column, and one without a name or
with a word for a key keeps the others from being written. -/
theorem bulk_writes_by_column_users :
    let dialect := users.endpoint.dialect
    let ada : Record := [(.text "id", .int 1), (.text "name", .text "Ada")]
    let bob : Record := [(.text "name", .text "Bob"), (.text "id", .int 2)]
    let session := (Session.ofRecorder .standard).scripted
      (some [.result [[(.text "name", .text "deleted")]] none 0 none])
    users.FailsUnwritten (.list [.dict [(.text "id", .text "seven")]]) true .null .null session
        (fun failure => failure.isInvalid = true ∨
          ∃ item ∈ [.dict [(.text "id", .text "seven")]],
            users.formOf item true = .error failure) ∧
      users.FailsUnwritten (.tuple [.dict ada, .dict [(.text "id", .int 3)]]) false .null .null
        session (fun failure => failure.isInvalid = true) ∧
      ∃ body arguments, WritesByColumn users.table .qmark [ada, bob] body arguments ∧
        session.calls dialect (users.replaceMany (.list [.dict ada, .dict bob]) false) =
          [("REPLACE INTO " ++ body, arguments)] ∧
        session.calls dialect (users.upsertMany (.list [.dict ada, .dict bob]) .null .null false) =
          session.calls dialect (users.ensureColumns [.text "deleted"]) ++
            [("INSERT INTO " ++ body ++
              " ON CONFLICT DO UPDATE SET \x60deleted\x60 = \x60deleted\x60", arguments)] ∧
        session.sent dialect (users.add (.dict ada) false) =
          session.sent dialect (users.addMany (.list [.dict ada]) false) := by
  intro dialect ada bob session
  have texts {items : List Record} (named : ∀ record ∈ items, AreTexts (Entries.keys record)) :
      ∀ item ∈ items.map Value.dict, ∀ record, item.toRecord = .ok record →
        AreTexts record.keys := by
    intro item member record offered
    obtain ⟨own, among, rfl⟩ := List.mem_map.mp member
    cases offered
    exact named _ among
  have textsOfAda : AreTexts ada.keys := areTexts_map ["id", "name"]
  have textsOfBob : AreTexts bob.keys := areTexts_map ["name", "id"]
  have textsOfKey (value : Value) : AreTexts (Entries.keys [(.text "id", value)]) :=
    areTexts_map ["id"]
  obtain ⟨unformed, -⟩ := users.bulk_writes_by_column (.inl rfl)
    (texts (List.forall_mem_singleton.mpr (textsOfKey (.text "seven")))) true .null .null session
  obtain ⟨-, apart, -⟩ := users.bulk_writes_by_column (.inr rfl)
    (texts (List.forall_mem_cons.mpr ⟨textsOfAda, List.forall_mem_singleton.mpr
      (textsOfKey (.int 3))⟩)) false .null .null session
  obtain ⟨-, -, shared, alone⟩ := users.bulk_writes_by_column (.inl rfl)
    (texts (List.forall_mem_cons.mpr ⟨textsOfAda, List.forall_mem_singleton.mpr textsOfBob⟩))
    false .null .null session
  refine ⟨unformed ?_, apart _ (.cons rfl (.cons rfl .nil)) ?_, ?_⟩
  · rintro ⟨forms, formed⟩
    cases formed with
    | cons here later => cases here
  · intro shares
    have missing := (shares.2 _ List.mem_cons_self (.text "name")).mpr
      (List.mem_cons_of_mem _ List.mem_cons_self)
    simp [Entries.keys] at missing
  · have shares : SharesFields [ada, bob] := by
      refine ⟨List.cons_ne_nil _ _, List.forall_mem_singleton.mpr fun key => ?_⟩
      simp [ada, bob, Entries.keys, or_comm]
    rcases shared [ada, bob] .qmark (.cons rfl (.cons rfl .nil)) shares rfl with
      ⟨⟨fault, unquoted⟩, -⟩ | ⟨body, arguments, byColumn, together⟩
    · cases unquoted
    · refine ⟨body, arguments, byColumn, together.replacing, ?_, (alone (.dict ada)).1⟩
      have upserted := together.upserting ⟨"deleted", by decide, by decide⟩ rfl rfl rfl
      have unchanged : Value.null.isNull = true := rfl
      rw [if_pos unchanged, if_pos unchanged, List.append_nil] at upserted
      exact upserted

/-- Forms that share their fields are not written for that alone: a field may hold a backtick, or
the column for rows that collide may not be there. And no records at all are not refused as such
where the look for that column fails first. -/
theorem shared_fields_unwritten :
    let dialect := users.endpoint.dialect
    let session := Session.ofRecorder .standard
    let marked : Record := [(.text "a\x60b", .int 1)]
    let ada : Record := [(.text "id", .int 1)]
    let broken := session.scripted (some [.failure (.foreign .operational []) .execute])
    (List.Forall₂ (fun item form => users.formOf item false = .ok form) [.dict marked] [marked] ∧
      SharesFields [marked] ∧
      session.sent dialect (users.addMany (.list [.dict marked]) false) = [] ∧
      ∃ fault, (session.run dialect (users.addMany (.list [.dict marked]) false)).1 =
        .error (.invalid fault)) ∧
    (List.Forall₂ (fun item form => users.formOf item false = .ok form) [.dict ada] [ada] ∧
      SharesFields [ada] ∧
      (session.sent dialect
        (users.upsertMany (.list [.dict ada]) (.text "zip") .null false)).map Statement.writes =
          [false]) ∧
    ∃ failure, (broken.run dialect (users.upsertMany (.list []) .null .null false)).1 =
      .error failure ∧ failure.isInvalid = false := by
  intro dialect session marked ada broken
  refine ⟨⟨.cons rfl .nil, ⟨List.cons_ne_nil _ _, by simp⟩, rfl, _, rfl⟩,
    ⟨.cons rfl .nil, ⟨List.cons_ne_nil _ _, by simp⟩, rfl⟩, _, rfl, rfl⟩

end Gateway

end TableGateway
