/-
This file says what a schema makes of a record that is to be written. Its columns are
declared fields, in their order; the value in a column is the one that the field's
formatter holds for the record's own, in the form in which it is bound. A record that has
gone through the schema before comes to the same values. Where every field converts what
it is given, all bound values are scalars.
-/

import TableGateway.Proofs.Conjunct
import TableGateway.Proofs.Idempotence
import TableGateway.Proofs.Tidiness
import TableGateway.Schema

namespace TableGateway

theorem Value.isUndefined_of_isNaN {value : Value} (isNaN : value.isNaN = true) :
    value.isUndefined = false := by
  cases value with
  | undefined => cases isNaN
  | _ => rfl

theorem Value.isNaN_of_isUndefined {value : Value} (missing : value.isUndefined = true) :
    value.isNaN = false :=
  Bool.eq_false_iff.mpr fun isNaN =>
    Bool.false_ne_true ((isUndefined_of_isNaN isNaN).symm.trans missing)

/-- What a formatter makes of something is something. -/
theorem Formatter.isUndefined_format {formatter : Formatter} {raw held : Value}
    (present : raw.isUndefined = false) (formatted : formatter.format raw = .ok held) :
    held.isUndefined = false := by
  rw [format] at formatted
  split at formatted
  · cases formatted
    exact present
  · cases formatter with
    | integer =>
      rcases convertInteger_eq_ok formatted with ⟨number, rfl⟩ | ⟨name, -, rfl⟩ <;> rfl
    | float =>
      obtain ⟨number, rfl, -⟩ := convertFloat_eq_ok formatted
      rfl
    | boolean =>
      cases formatted
      rfl
    | string strip =>
      obtain ⟨characters, rfl, -⟩ := convertText_eq_ok formatted
      rfl
    | datetime =>
      obtain ⟨moment, rfl⟩ := convertDateTime_eq_ok formatted
      rfl
    | json =>
      obtain ⟨-, text, written⟩ := convertJson_eq_ok formatted
      cases held with
      | undefined => cases written
      | _ => rfl
    | asIs =>
      cases formatted
      exact present

/-- Nothing else than nothing is formatted to nothing. -/
theorem Formatter.isUndefined_of_format {formatter : Formatter} {raw held : Value}
    (formatted : formatter.format raw = .ok held) : held.isUndefined = raw.isUndefined := by
  by_cases missing : raw.isUndefined = true
  · rw [format, missing, Bool.or_true, if_pos rfl] at formatted
    rw [Except.ok.inj formatted]
  · rw [isUndefined_format (Bool.eq_false_iff.mpr missing) formatted, Bool.eq_false_iff.mpr missing]

/-- What a record has under a name; it is `undefined` where there is nothing. -/
def Record.given (record : Record) (name : Value) : Value :=
  (record.get? name).getD .undefined

namespace Schema

/-- What a schema binds for a field of a record: the record has the field, its formatter holds a
value for what is there, and this value is bound in the form that the formatter gives it. -/
inductive Binds (schema : Schema) (record : Record) (name : String) : Value → Prop where
  | field {spec : FieldSpec} {raw held bound : Value}
      (declared : schema.spec? (.text name) = some spec)
      (given : record.named? name = some raw) (present : raw.isUndefined = false)
      (formatted : spec.formatter.format raw = .ok held)
      (dumped : spec.formatter.dump held = .ok bound) :
      schema.Binds record name bound

/-- A row is what comes of a record: projected through the declared fields, and put in the form in
which it is bound. -/
def Projects (schema : Schema) (record row : Record) : Prop :=
  ∃ strict, schema.strictRecord record = .ok strict ∧ schema.toRow strict = .ok row

variable {schema : Schema}

/-! ### From a record to a row -/

/-- A field that a record does not have is formatted all the same: to nothing. -/
theorem formatFields_cons_eq (record : Record) (name : Value) (spec : FieldSpec)
    (rest : Entries FieldSpec) :
    formatFields record ((name, spec) :: rest) =
      (spec.formatter.format (record.given name) >>= fun held =>
        if held.isUndefined then formatFields record rest
        else if held.isNaN then refuse (.notNumber name (record.given name))
        else do return (name, held) :: (← formatFields record rest)) := by
  rw [formatFields, ← Record.given]
  generalize record.given name = raw
  split
  · rename_i missing
    have passed : spec.formatter.format raw = .ok raw := if_pos (by rw [missing, Bool.or_true])
    rw [passed]
    exact (if_pos missing).symm
  · rfl

/-- A declared field is left out if the record does not have it, or stands in front of the others
with its formatted value. -/
theorem formatFields_cons {record form : Record} {name : Value} {spec : FieldSpec}
    {rest : Entries FieldSpec} (formatted : formatFields record ((name, spec) :: rest) = .ok form) :
    (∀ raw, record.get? name = some raw → raw.isUndefined = true) ∧
        formatFields record rest = .ok form ∨
      ∃ raw value others, record.get? name = some raw ∧ raw.isUndefined = false ∧
        spec.formatter.format raw = .ok value ∧ value.isNaN = false ∧
        formatFields record rest = .ok others ∧ form = (name, value) :: others := by
  rw [formatFields] at formatted
  cases given : record.get? name with
  | none =>
    rw [given] at formatted
    exact .inl ⟨fun raw same => (Option.some_ne_none raw same.symm).elim, formatted⟩
  | some raw =>
    rw [given, Option.getD_some] at formatted
    split at formatted
    · rename_i missing
      refine .inl ⟨fun other same => ?_, formatted⟩
      cases same
      exact missing
    · rename_i present
      have present := Bool.eq_false_iff.mpr present
      obtain ⟨value, held, formatted⟩ := ok_of_bind formatted
      rw [Formatter.isUndefined_format present held, if_neg Bool.false_ne_true] at formatted
      split at formatted
      · cases formatted
      · rename_i isNumber
        obtain ⟨others, rest, assembled⟩ := ok_of_bind formatted
        cases assembled
        exact .inr
          ⟨raw, value, others, rfl, present, held, Bool.eq_false_iff.mpr isNumber, rest, rfl⟩

/-- The fields of a projected record are declared, in their order, and hold what their formatters
make of the record's values. -/
theorem formatFields_eq_ok {record form : Record} {fields : Entries FieldSpec}
    (formatted : formatFields record fields = .ok form) :
    form.keys.Sublist fields.keys ∧
      ∀ entry ∈ form, ∃ spec raw, (entry.1, spec) ∈ fields ∧ record.get? entry.1 = some raw ∧
        raw.isUndefined = false ∧ spec.formatter.format raw = .ok entry.2 ∧
        entry.2.isNaN = false := by
  induction fields generalizing form with
  | nil =>
    cases formatted
    exact ⟨.slnil, by simp⟩
  | cons field rest inductionHypothesis =>
    obtain ⟨name, spec⟩ := field
    have deeper {entry : Value × Value} {others : Record}
        (later : ∀ entry ∈ others, ∃ spec raw, (entry.1, spec) ∈ rest ∧
          record.get? entry.1 = some raw ∧ raw.isUndefined = false ∧
          spec.formatter.format raw = .ok entry.2 ∧ entry.2.isNaN = false)
        (member : entry ∈ others) :
        ∃ own raw, (entry.1, own) ∈ (name, spec) :: rest ∧ record.get? entry.1 = some raw ∧
          raw.isUndefined = false ∧ own.formatter.format raw = .ok entry.2 ∧
          entry.2.isNaN = false := by
      obtain ⟨own, raw, among, facts⟩ := later entry member
      exact ⟨own, raw, List.mem_cons_of_mem _ among, facts⟩
    rcases formatFields_cons formatted with
      ⟨-, skipped⟩ | ⟨raw, value, others, given, present, held, isNumber, rest, rfl⟩
    · obtain ⟨ordered, each⟩ := inductionHypothesis skipped
      exact ⟨ordered.cons _, fun entry => deeper each⟩
    · obtain ⟨ordered, each⟩ := inductionHypothesis rest
      refine ⟨ordered.cons_cons _, fun entry member => ?_⟩
      rcases List.mem_cons.mp member with rfl | later
      · exact ⟨spec, raw, List.mem_cons_self, given, present, held, isNumber⟩
      · exact deeper each later

/-- Whatever a record has for a declared field is in its projection, formatted. -/
theorem mem_of_formatFields {record form : Record} {fields : Entries FieldSpec}
    (formatted : formatFields record fields = .ok form) {name raw : Value} {spec : FieldSpec}
    (declared : (name, spec) ∈ fields) (given : record.get? name = some raw)
    (present : raw.isUndefined = false) :
    ∃ held, spec.formatter.format raw = .ok held ∧ (name, held) ∈ form := by
  induction fields generalizing form with
  | nil => cases declared
  | cons field rest inductionHypothesis =>
    obtain ⟨first, own⟩ := field
    rcases formatFields_cons formatted with
      ⟨absent, skipped⟩ | ⟨other, value, others, givenFirst, _, held, _, rest, rfl⟩
    · rcases List.mem_cons.mp declared with here | later
      · cases here
        rw [absent raw given] at present
        cases present
      · exact inductionHypothesis skipped later
    · rcases List.mem_cons.mp declared with here | later
      · cases here
        cases givenFirst.symm.trans given
        exact ⟨value, held, List.mem_cons_self⟩
      · obtain ⟨held, made, member⟩ := inductionHypothesis rest later
        exact ⟨held, made, List.mem_cons_of_mem _ member⟩

/-- The first entry of a form, in the form in which it is bound, stands in front of the others. -/
theorem toRow_cons {key value : Value} {rest row : Record}
    (dumped : schema.toRow ((key, value) :: rest) = .ok row) :
    ∃ bound others, (∀ spec, schema.spec? key = some spec →
      spec.formatter.dump value = .ok bound) ∧ schema.toRow rest = .ok others ∧
        row = (key, bound) :: others := by
  rw [toRow] at dumped
  cases declared : schema.spec? key with
  | none =>
    rw [declared] at dumped
    obtain ⟨bound, same, dumped⟩ := ok_of_bind dumped
    obtain ⟨others, later, assembled⟩ := ok_of_bind dumped
    refine ⟨bound, others, fun spec known => ?_, later, (Except.ok.inj assembled).symm⟩
    cases known
  | some spec =>
    rw [declared] at dumped
    obtain ⟨bound, handed, dumped⟩ := ok_of_bind dumped
    obtain ⟨others, later, assembled⟩ := ok_of_bind dumped
    refine ⟨bound, others, fun other known => ?_, later, (Except.ok.inj assembled).symm⟩
    cases known
    exact handed

/-- The entries of a row are those of the form, each in the form in which it is bound. -/
theorem forall₂_toRow {form row : Record} (dumped : schema.toRow form = .ok row) :
    List.Forall₂ (fun entry bound => bound.1 = entry.1 ∧ ∀ spec,
      schema.spec? entry.1 = some spec → spec.formatter.dump entry.2 = .ok bound.2) form row := by
  induction form generalizing row with
  | nil =>
    cases dumped
    exact .nil
  | cons entry rest inductionHypothesis =>
    obtain ⟨bound, others, handed, later, rfl⟩ := toRow_cons dumped
    exact .cons ⟨rfl, handed⟩ (inductionHypothesis later)

theorem keys_toRow {form row : Record} (dumped : schema.toRow form = .ok row) :
    row.keys = form.keys := by
  have same := forall₂_toRow dumped
  clear dumped
  induction same with
  | nil => rfl
  | cons first _ inductionHypothesis =>
    rw [Entries.keys, Entries.keys, List.map_cons, List.map_cons, first.1]
    exact congrArg _ inductionHypothesis

/-- The columns of a row are declared fields, in their order. -/
theorem Projects.keys_sublist {record row : Record} (projects : schema.Projects record row) :
    row.keys.Sublist schema.fieldNames := by
  obtain ⟨strict, taken, dumped⟩ := projects
  rw [keys_toRow dumped]
  exact (formatFields_eq_ok taken).1

/-- What stands under a name in a row is bound for the field of that name. -/
theorem Projects.binds {record row : Record} (projects : schema.Projects record row)
    {name : String} {bound : Value} (member : (Value.text name, bound) ∈ row) :
    schema.Binds record name bound := by
  obtain ⟨strict, taken, dumped⟩ := projects
  obtain ⟨⟨key, held⟩, among, ⟨sameKey, handed⟩⟩ :=
    exists_of_mem_forall₂ (forall₂_toRow dumped) member
  obtain ⟨spec, raw, declared, given, present, formatted, -⟩ :=
    (formatFields_eq_ok taken).2 _ among
  simp only at sameKey
  subst sameKey
  have known : schema.spec? (.text name) = some spec :=
    Entries.named?_of_mem schema.distinct declared
  exact .field known given present formatted (handed spec known)

/-- What is bound for a field stands under its name in a row. -/
theorem Projects.mem_of_binds {record row : Record} (projects : schema.Projects record row)
    {name : String} {bound : Value} (binds : schema.Binds record name bound) :
    (Value.text name, bound) ∈ row := by
  obtain ⟨strict, taken, dumped⟩ := projects
  obtain ⟨declared, given, present, formatted, handed⟩ := binds
  obtain ⟨held, formattedAgain, member⟩ :=
    mem_of_formatFields taken (Entries.mem_of_named? declared) given present
  cases formatted.symm.trans formattedAgain
  obtain ⟨⟨key, other⟩, among, sameKey, handedOver⟩ :=
    exists_of_mem_left_forall₂ (forall₂_toRow dumped) member
  cases sameKey
  cases handed.symm.trans (handedOver _ declared)
  exact among

/-- A row has under the name of a field exactly what is bound for the field. -/
theorem Projects.mem_iff_binds {record row : Record} (projects : schema.Projects record row)
    {name : String} {bound : Value} :
    (Value.text name, bound) ∈ row ↔ schema.Binds record name bound :=
  ⟨projects.binds, projects.mem_of_binds⟩

/-! ### Going through the schema twice -/

/-- A record that has been projected before comes to the values of the record it was projected
from. -/
theorem Binds.of_strictRecord {record strict : Record} {name : String} {bound : Value}
    (taken : schema.strictRecord record = .ok strict) (binds : schema.Binds strict name bound) :
    schema.Binds record name bound := by
  obtain ⟨declared, given, _, formatted, dumped⟩ := binds
  obtain ⟨own, raw, among, givenFirst, present, formattedFirst, -⟩ :=
    (formatFields_eq_ok taken).2 _ (Entries.mem_of_named? given)
  have known := Entries.named?_of_mem schema.distinct among
  obtain rfl := Option.some.inj (known.symm.trans declared)
  obtain rfl := Formatter.format_format formattedFirst formatted
  exact .field declared givenFirst present formattedFirst dumped

/-- A record with an entry taken out has no values of its own. -/
theorem Binds.of_erase {record : Record} {key : Value} {name : String} {bound : Value}
    (binds : schema.Binds (record.erase key) name bound) : schema.Binds record name bound := by
  obtain ⟨declared, given, present, formatted, dumped⟩ := binds
  exact .field declared (Entries.named?_of_erase given) present formatted dumped

end Schema

/-! ### Scalars -/

/-- The values that every driver binds as they stand: no collections, no bytes, and neither of the
two that are no value. -/
def Value.isScalar : Value → Bool
  | .null => true
  | .bool _ => true
  | .int _ => true
  | .float number => !number.isNaN
  | .text _ => true
  | .datetime _ => true
  | _ => false

theorem Formatter.isScalar_dump {formatter : Formatter} (typed : formatter ≠ .asIs)
    {raw held bound : Value} (present : raw.isUndefined = false)
    (formatted : formatter.format raw = .ok held) (dumped : formatter.dump held = .ok bound) :
    bound.isScalar = true := by
  rw [format, present, Bool.or_false] at formatted
  split at formatted
  · rename_i absent
    cases raw <;> cases absent
    cases formatted
    cases formatter <;> cases dumped <;> rfl
  · cases formatter with
    | integer =>
      cases dumped
      rcases convertInteger_eq_ok formatted with ⟨number, rfl⟩ | ⟨name, -, rfl⟩ <;> rfl
    | float =>
      cases dumped
      obtain ⟨number, rfl, isNumber⟩ := convertFloat_eq_ok formatted
      rw [Value.isScalar, isNumber]
      rfl
    | boolean =>
      cases dumped
      cases formatted
      rfl
    | string strip =>
      cases dumped
      obtain ⟨characters, rfl, -⟩ := convertText_eq_ok formatted
      rfl
    | datetime =>
      cases dumped
      obtain ⟨moment, rfl⟩ := convertDateTime_eq_ok formatted
      rfl
    | json =>
      obtain ⟨-, text, written⟩ := convertJson_eq_ok formatted
      rw [dump, jsonText, written] at dumped
      split at dumped
      · rename_i absent
        cases dumped
        cases held with
        | null => rfl
        | undefined => cases written
        | _ => cases absent
      · cases dumped
        rfl
    | asIs => exact absurd rfl typed

/-- Where every field converts what it is given, all that is bound are scalars. -/
theorem Schema.Binds.isScalar {schema : Schema}
    (typed : ∀ field ∈ schema.fields, field.2.formatter ≠ .asIs) {record : Record} {name : String}
    {bound : Value} (binds : schema.Binds record name bound) : bound.isScalar = true := by
  obtain ⟨declared, given, present, formatted, dumped⟩ := binds
  exact Formatter.isScalar_dump (typed _ (Entries.mem_of_named? declared)) present formatted dumped

end TableGateway
