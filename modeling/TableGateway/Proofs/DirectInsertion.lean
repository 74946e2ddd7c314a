/-
This file says what becomes of records that are given to a handle itself. They are
inserted in one statement, which has the keys of the first record for columns and a group
of values for each record, with null for a key that a record lacks. Nothing checks that
the others have no keys besides: the values under such keys do not reach the database, and
the statement is sent without them. So a list is inserted whole exactly if the first
record has all the keys of the others.
-/

import TableGateway.Proofs.BulkWrites

namespace TableGateway

open Text

/-! ### Insertions of records -/

/-- A statement inserts records under some columns: its text has the columns once and a group of
places for each record; and for the place of a record and a column there is the value that the
record has in the column, or null if it has none. -/
structure Statement.InsertsUnder (dialect : Dialect) (table : Identifier)
    (columns : List Identifier) (records : List Record) (statement : Statement) : Prop where
  text : statement.sql dialect = "INSERT INTO " ++ table.quoted ++ " (" ++ quotedNames columns ++
    ") VALUES " ++ joinWith ", " (List.replicate records.length
      ("(" ++ joinWith ", " (List.replicate columns.length dialect.style.placeholder) ++ ")"))
  count : statement.arguments.length = records.length * columns.length
  placed : ∀ row record column name, records[row]? = some record → columns[column]? = some name →
    statement.arguments[row * columns.length + column]? =
      some ((record.named? name.name).getD .null)

/-- Every entry of some records is inserted: its key is one of the columns, and its value stands
under that column among the values of its record. -/
def Statement.CarriesAll (columns : List Identifier) (records : List Record)
    (statement : Statement) : Prop :=
  ∀ row record, records[row]? = some record → ∀ key value, (key, value) ∈ record →
    ∃ column name, columns[column]? = some name ∧ key = .text name.name ∧
      statement.arguments[row * columns.length + column]? = some value

theorem Statement.insertsUnder_insert (dialect : Dialect) (table : Identifier)
    (columns : List Identifier) (records : List Record) :
    InsertsUnder dialect table columns records (.insert table columns
      (Endpoint.valuesUnder (columns.map fun column => .text column.name) records) none) := by
  let keys : List Value := columns.map fun column => .text column.name
  have width : keys.length = columns.length := List.length_map _
  have height : (Endpoint.valuesUnder keys records).length = records.length := List.length_map _
  have even : ∀ row ∈ Endpoint.valuesUnder keys records, row.length = keys.length :=
    Endpoint.length_of_mem_valuesUnder
  have bound : (Statement.insert table columns (Endpoint.valuesUnder keys records) none).arguments =
      (Endpoint.valuesUnder keys records).flatten := List.append_nil _
  refine ⟨?_, ?_, ?_⟩
  · rw [sql_insert, valuesText, rowText, height]
    simp only [Option.map_none, Option.getD_none, String.append_assoc, String.append_empty]
    rfl
  · rw [bound, length_flatten_of_width even, height, width]
  · intro row record column name recordAt columnAt
    have keyAt : keys[column]? = some (.text name.name) := by
      rw [List.getElem?_map, columnAt]
      rfl
    rw [bound, ← width, Endpoint.getElem?_flatten_valuesUnder recordAt keyAt]
    rfl

/-- Of records with distinct keys, all entries are inserted exactly if each key is a column. -/
theorem Statement.InsertsUnder.carriesAll_iff {dialect : Dialect} {table : Identifier}
    {columns : List Identifier} {records : List Record} {statement : Statement}
    (inserts : statement.InsertsUnder dialect table columns records)
    (distinct : ∀ record ∈ records, Entries.AreDistinct record) :
    statement.CarriesAll columns records ↔
      ∀ record ∈ records, ∀ key ∈ Entries.keys record, ∃ name ∈ columns, key = .text name.name := by
  constructor
  · intro carries record member key among
    obtain ⟨row, recordAt⟩ := List.getElem?_of_mem member
    obtain ⟨⟨own, value⟩, entry, rfl⟩ := List.mem_map.mp among
    obtain ⟨column, name, columnAt, isName, -⟩ := carries row record recordAt own value entry
    exact ⟨name, List.mem_of_getElem? columnAt, isName⟩
  · intro covered row record recordAt key value entry
    have member := List.mem_of_getElem? recordAt
    obtain ⟨name, among, rfl⟩ := covered record member key (List.mem_map_of_mem entry)
    obtain ⟨column, columnAt⟩ := List.getElem?_of_mem among
    refine ⟨column, name, columnAt, rfl, ?_⟩
    rw [inserts.placed row record column name recordAt columnAt,
      Entries.named?_of_mem (distinct record member) entry, Option.getD_some]

/-- A plan that asks for what it has checked, and gives the reply, asks once. -/
theorem Plan.asksOnce_ofExcept_ask (checked : Except Failure Statement) :
    (ofExcept checked >>= ask).AsksOnce checked := by
  cases checked with
  | error failure => exact asksOnce_failed failure
  | ok statement => exact asksOnce_ask statement fun reply => ⟨.ok reply, rfl⟩

namespace Endpoint

variable {endpoint : Endpoint} {table : Value} {first : Record} {rest : List Record}
  {plan : Plan Reply}

/-! ### What a handle makes of records -/

/-- A plan gives records to the handle itself: in a list, in a tuple, or one alone. -/
inductive HandsOver (endpoint : Endpoint) (table : Value) :
    Record → List Record → Plan Reply → Prop where
  | list (first : Record) (rest : List Record) :
    HandsOver endpoint table first rest
      (endpoint.insertMany table (.list ((first :: rest).map .dict)))
  | tuple (first : Record) (rest : List Record) :
    HandsOver endpoint table first rest
      (endpoint.insertMany table (.tuple ((first :: rest).map .dict)))
  | alone (record : Record) :
    HandsOver endpoint table record [] (endpoint.insertOne table (.dict record))

/-- The insertion of records under the keys of the first, for a style that has places. -/
def insertionOf (endpoint : Endpoint) (table : Value) (first : Record) (rest : List Record) :
    Except Failure Statement := do
  let _ ← ParamStyle.forPlaces endpoint.dialect.styleName
  insertion table first.keys (first :: rest)

/-- There is an insertion exactly if the style has places for values, and the table and each key of
the first record can be quoted as names. -/
theorem exists_insertionOf_iff :
    (∃ statement, endpoint.insertionOf table first rest = .ok statement) ↔
      (∃ style, ParamStyle.forPlaces endpoint.dialect.styleName = .ok style) ∧
      (∃ name, Identifier.ofValue? table = .ok name) ∧
      ∃ columns, Identifier.ofValues? first.keys = .ok columns := by
  constructor
  · rintro ⟨statement, made⟩
    obtain ⟨style, placed, made⟩ := ok_of_bind made
    obtain ⟨name, named, made⟩ := ok_of_bind made
    obtain ⟨columns, quoted, -⟩ := ok_of_bind made
    exact ⟨⟨style, placed⟩, ⟨name, orRefuse_eq_ok named⟩, columns, orRefuse_eq_ok quoted⟩
  · rintro ⟨⟨style, placed⟩, ⟨name, named⟩, columns, quoted⟩
    refine ⟨.insert name columns (valuesUnder first.keys (first :: rest)) none, ?_⟩
    rw [insertionOf, placed, insertion, named, quoted]
    rfl

theorem insertionOf_eq_ok {statement : Statement}
    (made : endpoint.insertionOf table first rest = .ok statement) :
    ∃ name columns, table = .text name.name ∧
      first.keys = (columns.map fun column => .text column.name) ∧
      statement.InsertsUnder endpoint.dialect name columns (first :: rest) := by
  obtain ⟨style, -, made⟩ := ok_of_bind made
  obtain ⟨name, named, made⟩ := ok_of_bind made
  obtain ⟨columns, quoted, made⟩ := ok_of_bind made
  cases made
  have keys := Identifier.ofValues?_eq_ok (orRefuse_eq_ok quoted)
  refine ⟨name, columns, Identifier.ofValue?_eq_ok (orRefuse_eq_ok named), keys, ?_⟩
  rw [keys]
  exact Statement.insertsUnder_insert endpoint.dialect name columns (first :: rest)

/-- Mappings are taken as records, of which nothing is asked if no key is taken from them. -/
theorem exists_recordsUnder (first : Record) (rest : List Record) :
    ∃ others, recordsUnder first.keys ((first :: rest).map .dict) = .ok (first :: others) ∧
      valuesUnder first.keys (first :: others) = valuesUnder first.keys (first :: rest) := by
  cases first with
  | nil =>
    -- without keys the others are not looked at, and stand for empty records
    refine ⟨(rest.map Value.dict).map fun _ => [], rfl, ?_⟩
    rw [valuesUnder, valuesUnder, List.map_cons, List.map_cons, List.map_map, List.map_map]
    rfl
  | cons entry entries =>
    refine ⟨rest, mapM_eq_ok_iff.mpr ?_, rfl⟩
    exact List.forall₂_map_left_iff.mpr (List.forall₂_same.mpr fun _ _ => rfl)

/-- Mappings that are given to a handle are inserted under the keys of the first. -/
theorem asksOnce_of_handsOver (given : endpoint.HandsOver table first rest plan) :
    plan.AsksOnce (endpoint.insertionOf table first rest) := by
  obtain ⟨others, taken, same⟩ := exists_recordsUnder first rest
  have inserts : plan =
      Plan.ofExcept (ParamStyle.forPlaces endpoint.dialect.styleName) >>= fun _ =>
        Plan.ofExcept (recordsUnder first.keys ((first :: rest).map .dict)) >>= fun records =>
          endpoint.insertRecords table records := by
    cases given <;> rfl
  have alike : insertion table first.keys (first :: others) =
      insertion table first.keys (first :: rest) := by
    rw [insertion, insertion, same]
  rw [inserts, taken, insertionOf]
  refine Plan.AsksOnce.check_bind (Plan.silent_ofExcept _) fun style placed => ?_
  show (endpoint.insertRecords table (first :: others)).AsksOnce _
  rw [insertRecords_cons, placed, ← alike]
  exact Plan.asksOnce_ofExcept_ask _

/-! ### What is lost -/

/-- An insertion of records with distinct keys is whole if the first record has all keys of the
others, and else loses every value under another key. -/
theorem carriesAll_iff_of_insertionOf {statement : Statement} {name : Identifier}
    {columns : List Identifier}
    (keys : first.keys = columns.map fun column => .text column.name)
    (inserts : statement.InsertsUnder endpoint.dialect name columns (first :: rest))
    (distinct : ∀ record ∈ first :: rest, Entries.AreDistinct record) :
    statement.CarriesAll columns (first :: rest) ↔
      ∀ record ∈ rest, ∀ key ∈ Entries.keys record, key ∈ first.keys := by
  have isColumn (key : Value) : (∃ name ∈ columns, key = .text name.name) ↔ key ∈ first.keys := by
    rw [keys, List.mem_map]
    simp only [eq_comm]
  simp only [inserts.carriesAll_iff distinct, isColumn, List.forall_mem_cons]
  exact and_iff_right fun key among => among

/-- Records that are given to a handle are inserted in one statement under the keys of the first,
with null where a record lacks one; nothing is sent, and the handle fails, where the style has no
places for values or the table or one of these keys cannot be quoted. What is sent carries all that
the records hold exactly if the first has all the keys of the others, which is not checked: a value
under any other key is left out. So nothing is lost of a record that is inserted alone. -/
theorem inserts_under_first {endpoint : Endpoint} {table : Value} {first : Record}
    {rest : List Record} {plan : Plan Reply} (given : endpoint.HandsOver table first rest plan)
    (distinct : ∀ record ∈ first :: rest, Entries.AreDistinct record) (session : Session) :
    let dialect := endpoint.dialect
    let sent := session.sent dialect plan
    let outcome := (session.run dialect plan).1
    let isInserted := (∃ style, ParamStyle.forPlaces dialect.styleName = .ok style) ∧
      (∃ name, Identifier.ofValue? table = .ok name) ∧
      ∃ columns, Identifier.ofValues? first.keys = .ok columns
    (¬isInserted → sent = [] ∧ ∃ failure, outcome = .error failure) ∧
    (isInserted → ∃ statement name columns, sent = [statement] ∧ table = .text name.name ∧
      (first.keys = columns.map fun column => .text column.name) ∧
      statement.InsertsUnder dialect name columns (first :: rest) ∧
      (statement.CarriesAll columns (first :: rest) ↔
        ∀ record ∈ rest, ∀ key ∈ Entries.keys record, key ∈ first.keys)) := by
  intro dialect sent outcome isInserted
  have once := asksOnce_of_handsOver given
  have made : (∃ statement, endpoint.insertionOf table first rest = .ok statement) ↔ isInserted :=
    exists_insertionOf_iff
  rw [← made]
  cases checked : endpoint.insertionOf table first rest with
  | error failure =>
    rw [checked] at once
    obtain ⟨nothing, failed⟩ := Session.sent_of_asksOnce_error dialect once session
    refine ⟨fun _ => ⟨nothing, failure, failed⟩, ?_⟩
    rintro ⟨_, ⟨⟩⟩
  | ok statement =>
    rw [checked] at once
    obtain ⟨name, columns, isName, keys, inserts⟩ := insertionOf_eq_ok checked
    refine ⟨fun unmade => absurd ⟨statement, rfl⟩ unmade, fun _ => ?_⟩
    exact ⟨statement, name, columns, Session.sent_of_asksOnce_ok dialect once session, isName, keys,
      inserts, carriesAll_iff_of_insertionOf keys inserts distinct⟩

/-- Of two users the first has no age, so that of the second is not inserted: there are two values
for the three that the records hold. -/
theorem inserts_under_first_users :
    let endpoint := Gateway.users.endpoint
    let ada : Record := [(.text "name", .text "Ada")]
    let bob : Record := [(.text "name", .text "Bob"), (.text "age", .int 7)]
    let plan := endpoint.insertMany (.text "users") (.list [.dict ada, .dict bob])
    endpoint.HandsOver (.text "users") ada [bob] plan ∧
    (∀ record ∈ [ada, bob], Entries.AreDistinct record) ∧
    ∃ statement columns, Session.users.sent endpoint.dialect plan = [statement] ∧
      statement.arguments.length = 2 ∧ ¬statement.CarriesAll columns [ada, bob] := by
  intro endpoint ada bob plan
  have given : endpoint.HandsOver (.text "users") ada [bob] plan := .list ada [bob]
  have distinct : ∀ record ∈ [ada, bob], Entries.AreDistinct record := by decide
  obtain ⟨-, inserted⟩ := inserts_under_first given distinct Session.users
  obtain ⟨statement, name, columns, sent, isName, keys, inserts, whole⟩ :=
    inserted ⟨⟨_, rfl⟩, ⟨_, rfl⟩, ⟨_, rfl⟩⟩
  have width : columns.length = 1 := by
    have lengths := congrArg List.length keys
    rw [List.length_map] at lengths
    exact lengths.symm
  have lost : ¬∀ record ∈ [bob], ∀ key ∈ Entries.keys record, key ∈ Entries.keys ada := by
    intro all
    have age := all bob List.mem_cons_self (.text "age") (by simp [bob, Entries.keys])
    simp [ada, Entries.keys] at age
  refine ⟨given, distinct, statement, columns, sent, ?_, fun carries => lost (whole.mp carries)⟩
  rw [inserts.count, width]
  rfl

end Endpoint

end TableGateway
