/-
This file says that a schema takes all of a record or nothing. If each declared field
takes what the record has for it, the form has exactly the fields that the record has,
with their formatted values; if one of them does not, there is no form. Nothing else of
the record counts. A form is its own form, except where an integer field was given a
member of a closed set and holds its name.
-/

import TableGateway.Proofs.SettledForm
import TableGateway.Proofs.Operation

namespace TableGateway

/-- A field that does not take a value: its formatter refuses it, or makes a not-a-number of it. -/
def FieldSpec.Rejects (spec : FieldSpec) (raw : Value) : Prop :=
  (∃ failure, spec.formatter.format raw = .error failure) ∨
    ∃ held, spec.formatter.format raw = .ok held ∧ held.isNaN = true

namespace FieldSpec

variable {spec : FieldSpec} {raw : Value}

theorem not_rejects_iff :
    ¬spec.Rejects raw ↔ ∃ held, spec.formatter.format raw = .ok held ∧ held.isNaN = false := by
  rw [Rejects]
  cases spec.formatter.format raw with
  | error failure => simp
  | ok held => simp

/-- Nothing is rejected where there is nothing. -/
theorem Rejects.isPresent (rejects : spec.Rejects raw) : raw.isUndefined = false := by
  refine Bool.eq_false_iff.mpr fun missing => not_rejects_iff.mpr ⟨raw, ?_, ?_⟩ rejects
  · exact if_pos (by rw [missing, Bool.or_true])
  · exact Value.isNaN_of_isUndefined missing

end FieldSpec

namespace Schema

variable {schema : Schema} {record form : Record} {fields : Entries FieldSpec}

/-- An integer field is given a member of a closed set of names. -/
def GivesMember (record : Record) (fields : Entries FieldSpec) : Prop :=
  ∃ field ∈ fields, field.2.formatter = .integer ∧
    ∃ member, (record.given field.1).memberName? = some member

/-! ### One field after another -/

/-- Records that have the same for each of some fields come to the same. -/
theorem formatFields_congr {other : Record}
    (agree : ∀ name ∈ fields.keys, record.given name = other.given name) :
    formatFields record fields = formatFields other fields := by
  induction fields with
  | nil => rfl
  | cons field rest inductionHypothesis =>
    obtain ⟨name, spec⟩ := field
    have agreeHere : record.given name = other.given name := agree name List.mem_cons_self
    have agreeRest : ∀ key ∈ Entries.keys rest, record.given key = other.given key :=
      fun key member => agree key (List.mem_cons_of_mem _ member)
    rw [formatFields_cons_eq, formatFields_cons_eq, agreeHere, inductionHypothesis agreeRest]

/-- A record comes to a form when no field rejects what the record has for it. -/
theorem exists_formatFields_iff :
    (∃ form, formatFields record fields = .ok form) ↔
      ∀ field ∈ fields, ¬field.2.Rejects (record.given field.1) := by
  induction fields with
  | nil => exact ⟨fun _ => by simp, fun _ => ⟨[], rfl⟩⟩
  | cons field rest inductionHypothesis =>
    obtain ⟨name, spec⟩ := field
    rw [formatFields_cons_eq, List.forall_mem_cons, ← inductionHypothesis,
      FieldSpec.not_rejects_iff]
    constructor
    · rintro ⟨form, formatted⟩
      obtain ⟨held, made, formatted⟩ := ok_of_bind formatted
      split at formatted
      · rename_i missing
        exact ⟨⟨held, made, Value.isNaN_of_isUndefined missing⟩, form, formatted⟩
      · split at formatted
        · cases formatted
        · rename_i isNumber
          obtain ⟨others, later, -⟩ := ok_of_bind formatted
          exact ⟨⟨held, made, Bool.eq_false_iff.mpr isNumber⟩, others, later⟩
    · rintro ⟨⟨held, made, isNumber⟩, others, later⟩
      have isNumber : ¬held.isNaN = true := Bool.eq_false_iff.mp isNumber
      rw [made, later]
      show ∃ form, (if held.isUndefined then _ else if held.isNaN then _ else _) = Except.ok form
      rw [if_neg isNumber]
      split
      · exact ⟨others, rfl⟩
      · exact ⟨(name, held) :: others, rfl⟩

/-- The fields of a form are those that the record has, in the order of their declaration. -/
theorem keys_formatFields (formatted : formatFields record fields = .ok form) :
    form.keys = fields.keys.filter fun name => !(record.given name).isUndefined := by
  induction fields generalizing form with
  | nil =>
    cases formatted
    rfl
  | cons field rest inductionHypothesis =>
    obtain ⟨name, spec⟩ := field
    rw [formatFields_cons_eq] at formatted
    obtain ⟨held, made, formatted⟩ := ok_of_bind formatted
    show form.keys = List.filter _ (name :: Entries.keys rest)
    rw [List.filter_cons, ← Formatter.isUndefined_of_format made]
    split at formatted
    · rename_i missing
      rw [missing, inductionHypothesis formatted]
      rfl
    · rename_i present
      split at formatted
      · cases formatted
      · obtain ⟨others, later, assembled⟩ := ok_of_bind formatted
        cases assembled
        rw [Bool.eq_false_iff.mpr present, ← inductionHypothesis later]
        rfl

/-- There is no form when a field that the record has rejects what is there. -/
theorem formatFields_fails_iff :
    (∃ failure, formatFields record fields = .error failure) ↔
      ∃ field ∈ fields, (record.given field.1).isUndefined = false ∧
        field.2.Rejects (record.given field.1) := by
  have failing : (∃ failure, formatFields record fields = .error failure) ↔
      ¬∃ form, formatFields record fields = .ok form := by
    cases formatFields record fields with
    | error failure => simp
    | ok form => simp
  rw [failing, exists_formatFields_iff]
  simp only [not_forall, not_not, exists_prop]
  constructor
  · rintro ⟨field, declared, rejects⟩
    exact ⟨field, declared, rejects.isPresent, rejects⟩
  · rintro ⟨field, declared, -, rejects⟩
    exact ⟨field, declared, rejects⟩

/-! ### Names in integer fields -/

/-- An integer field makes a text of a member of a closed set, and of nothing else. -/
theorem format_integer_eq_text_iff {raw : Value} {name : String} :
    Formatter.integer.format raw = .ok (.text name) ↔ raw.memberName? = some name := by
  constructor
  · intro formatted
    rw [Formatter.format] at formatted
    split at formatted
    · rename_i absent
      cases formatted
      cases absent
    · rcases Formatter.convertInteger_eq_ok formatted with ⟨number, same⟩ | ⟨member, isMember, same⟩
      · cases same
      · cases same
        exact isMember
  · intro isMember
    cases raw with
    | kind chosen =>
      cases isMember
      rfl
    | operator chosen =>
      cases isMember
      rfl
    | _ => cases isMember

/-- An integer field of a form holds a name when it was given a member of a closed set. -/
theorem holdsName_iff_givesMember (named : ∀ key ∈ schema.fieldNames, ∃ name, key = Value.text name)
    (taken : schema.strictRecord record = .ok form) :
    HoldsName schema.fields form ↔ GivesMember record schema.fields := by
  constructor
  · rintro ⟨⟨key, held⟩, entryIn, spec, member, declared, isInteger, isText⟩
    obtain ⟨own, raw, among, given, -, made, -⟩ := (formatFields_eq_ok taken).2 _ entryIn
    obtain ⟨name, isName⟩ := named key (List.mem_map_of_mem declared)
    simp only at isName isText declared among given made
    subst isName isText
    have sameSpec : own = spec := Option.some.inj
      ((Entries.named?_of_mem schema.distinct among).symm.trans
        (Entries.named?_of_mem schema.distinct declared))
    rw [sameSpec, isInteger, format_integer_eq_text_iff] at made
    refine ⟨(.text name, spec), declared, isInteger, member, ?_⟩
    rw [Record.given, given, Option.getD_some, made]
  · rintro ⟨⟨name, spec⟩, declared, isInteger, member, isMember⟩
    simp only at isInteger isMember
    cases given : record.get? name with
    | none =>
      rw [Record.given, given] at isMember
      cases isMember
    | some raw =>
      rw [Record.given, given, Option.getD_some] at isMember
      have present : raw.isUndefined = false := by
        cases raw with
        | undefined => cases isMember
        | _ => rfl
      obtain ⟨held, made, entryIn⟩ := mem_of_formatFields taken declared given present
      rw [isInteger, format_integer_eq_text_iff.mpr isMember] at made
      cases made
      exact ⟨_, entryIn, spec, member, declared, isInteger, rfl⟩

/-- What a schema makes of a record is all or nothing. A form has the declared fields that the
record has, in the order of their declaration, each with its formatted value, which is neither
nothing nor a not-a-number; and it is its own form, unless an integer field was given a member of a
closed set. There is no form when a declared field rejects what the record has for it. And records
that agree on the declared fields come to the same. -/
theorem strictForm_all_or_nothing
    (named : ∀ key ∈ schema.fieldNames, ∃ name, key = Value.text name)
    {value : Value} (taken : value.toRecord = .ok record) :
    (∀ form, schema.strictForm value = .ok form →
      form.keys = schema.fieldNames.filter (fun name => !(record.given name).isUndefined) ∧
      (∀ entry ∈ form, ∃ spec, schema.spec? entry.1 = some spec ∧
        spec.formatter.format (record.given entry.1) = .ok entry.2 ∧
        entry.2.isUndefined = false ∧ entry.2.isNaN = false) ∧
      ((¬GivesMember record schema.fields ∧ schema.strictForm (.dict form) = .ok form) ∨
        (GivesMember record schema.fields ∧
          ∃ failure, schema.strictForm (.dict form) = .error failure))) ∧
    ((∃ failure, schema.strictForm value = .error failure) ↔
      ∃ field ∈ schema.fields, (record.given field.1).isUndefined = false ∧
        field.2.Rejects (record.given field.1)) ∧
    (∀ other otherRecord, other.toRecord = .ok otherRecord →
      (∀ name ∈ schema.fieldNames, record.given name = otherRecord.given name) →
        schema.strictForm value = schema.strictForm other) := by
  have projected {other : Value} {otherRecord : Record} (same : other.toRecord = .ok otherRecord) :
      schema.strictForm other = formatFields otherRecord schema.fields := by
    rw [strictForm, same]
    rfl
  rw [projected taken]
  refine ⟨fun form formatted => ⟨keys_formatFields formatted, ?_, ?_⟩, ?_, ?_⟩
  · intro entry member
    obtain ⟨spec, raw, declared, given, present, made, isNumber⟩ :=
      (formatFields_eq_ok formatted).2 entry member
    obtain ⟨name, isName⟩ := named entry.1 (List.mem_map_of_mem declared)
    have raws : record.given entry.1 = raw := by rw [Record.given, given, Option.getD_some]
    refine ⟨spec, ?_, raws ▸ made, Formatter.isUndefined_format present made, isNumber⟩
    rw [isName] at declared ⊢
    exact Entries.named?_of_mem schema.distinct declared
  · rw [← holdsName_iff_givesMember named formatted]
    exact (strictRecord_of_isSettled named (isSettled_of_strictRecord formatted)).imp
      And.symm And.symm
  · exact formatFields_fails_iff
  · intro other otherRecord same agree
    rw [projected same]
    exact formatFields_congr agree

/-- A user is taken without what is not declared, whatever comes first; a user whose key is a word
is not taken at all; and a key that is a member of a closed set is taken once. -/
theorem strictForm_all_or_nothing_users :
    let record : Record := [(.text "zip", .int 1), (.text "name", .text " Ada "),
      (.text "id", .text "7"), (.text "deleted", .undefined)]
    let form : Record := [(.text "id", .int 7), (.text "name", .text "Ada")]
    users.strictForm (.dict record) = .ok form ∧
      form.keys = users.fieldNames.filter (fun name => !(record.given name).isUndefined) ∧
      users.strictForm (.dict form) = .ok form ∧
      users.strictForm (.dict record) =
        users.strictForm (.dict [(.text "id", .text "7"), (.text "name", .text " Ada ")]) ∧
      (∃ failure, users.strictForm (.dict [(.text "id", .text "seven")]) = .error failure) ∧
      users.strictForm (.dict [(.text "id", .kind .integer)]) =
        .ok [(.text "id", .text "integer")] ∧
      ∃ failure, users.strictForm (.dict [(.text "id", .text "integer")]) = .error failure := by
  intro record form
  have named : ∀ key ∈ users.fieldNames, ∃ name, key = Value.text name := by
    simp [users, fieldNames, Entries.keys]
  have formed : users.strictForm (.dict record) = .ok form := by cbv
  have noMember : ¬GivesMember record users.fields := by
    rintro ⟨field, declared, -, member, isMember⟩
    simp only [users, List.mem_cons, List.not_mem_nil, or_false] at declared
    rcases declared with rfl | rfl | rfl <;> cases isMember
  have rejected : FieldSpec.Rejects ⟨.integer, .undefined⟩ (.text "seven") := .inl ⟨_, rfl⟩
  have offered (record : Record) : (Value.dict record).toRecord = .ok record := rfl
  obtain ⟨whole, -, alike⟩ := strictForm_all_or_nothing named (offered record)
  obtain ⟨-, nothing, -⟩ := strictForm_all_or_nothing named (offered [(.text "id", .text "seven")])
  obtain ⟨once, -⟩ := strictForm_all_or_nothing named (offered [(.text "id", .kind .integer)])
  have given : GivesMember [(.text "id", .kind .integer)] users.fields :=
    ⟨_, List.mem_cons_self, rfl, "integer", rfl⟩
  obtain ⟨keys, -, again⟩ := whole form formed
  obtain ⟨-, -, stuck⟩ := once [(.text "id", .text "integer")] rfl
  refine ⟨formed, keys, ?_, alike _ _ rfl ?_, nothing.mpr ?_, rfl,
    (stuck.resolve_left fun kept => kept.1 given).2⟩
  · exact (again.resolve_right fun given => noMember given.1).2
  · simp only [users, fieldNames, Entries.keys, List.map_cons, List.map_nil, List.forall_mem_cons,
      List.not_mem_nil, false_implies, implies_true, and_true]
    exact ⟨rfl, rfl, rfl⟩
  · exact ⟨_, List.mem_cons_self, rfl, rejected⟩

end Schema

end TableGateway
