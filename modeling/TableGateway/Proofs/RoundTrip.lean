/-
This file says which rows can be read and written back. What a row is read as is formatted
to itself, field by field, and so the whole is its own projection. A field gets stuck with
a value in four ways: a JSON text spells a number that is not finite, which the reader
takes and the writer refuses; a JSON field is given a value without a JSON text, which it
takes unread; a JSON field, or one that takes values as they are, is given a not-a-number,
which no projection lets through; and an integer field is given a member of a closed set,
and holds its name. A row without such a value comes back as it is, and any other is
refused.
-/

import Mathlib
import TableGateway.Proofs.JsonReading
import TableGateway.Proofs.Liveness
import TableGateway.Proofs.SettledForm

namespace TableGateway

open Number

/-! ### Fields that get stuck -/

/-- A field takes a value out of a row, and does not take back what it makes of it. -/
inductive Formatter.Strands : Formatter → Value → Prop where
  | nonFinite {raw value : Value} {source : String} (isText : decoded raw = .ok (.text source))
      (spelled : Json.read source = .ok value) (holds : value.HoldsNonFinite) : Strands .json raw
  | unwritable {raw : Value} {fault : Json.WriteFault}
      (noText : ∀ source, decoded raw ≠ .ok (.text source)) (present : raw.isUndefined = false)
      (unwritten : Json.write raw = .error fault) : Strands .json raw
  | notNumber {formatter : Formatter} {raw : Value} (takes : formatter = .asIs ∨ formatter = .json)
      (isNaN : raw.isNaN = true) : Strands formatter raw
  | member {raw : Value} {name : String} (named : raw.memberName? = some name) :
      Strands .integer raw

/-- A declared field takes what a row has for it, or its default where the row has nothing, and does
not take it back. -/
inductive FieldSpec.Strands (spec : FieldSpec) (row name : Value) : Prop where
  | given {raw : Value} (found : Schema.memberOf? row name = .ok (some raw))
      (strands : spec.formatter.Strands raw)
  | default (missing : Schema.memberOf? row name = .ok none) (isNaN : spec.default.isNaN = true)

/-- One of some fields gets stuck with what a row has for it. -/
def Schema.SomeStrand (fields : Entries FieldSpec) (row : Value) : Prop :=
  ∃ field ∈ fields, field.2.Strands row field.1

/-- A field has no default, or one that is formatted already. -/
def FieldSpec.IsPreset (spec : FieldSpec) : Prop :=
  spec.default = .undefined ∨ spec.formatter.format spec.default = .ok spec.default

/-! ### One field -/

theorem Value.eq_null_or_eq_undefined {value : Value}
    (absent : (value.isNull || value.isUndefined) = true) :
    value = .null ∨ value = .undefined := by
  cases value with
  | null => exact .inl rfl
  | undefined => exact .inr rfl
  | _ => cases absent

/-- What becomes of a value that a field has got, when the field is to hold it: there is nothing to
hold, the value is held as it is, or the field is stuck with it. -/
inductive Formatter.Returns (formatter : Formatter) (stuck : Prop) (value : Value) : Prop where
  | absent (missing : value.isUndefined = true) (free : ¬stuck)
  | kept (present : value.isUndefined = false) (isNumber : value.isNaN = false)
      (same : formatter.format value = .ok value) (free : ¬stuck)
  | refused {fault : Fault} (present : value.isUndefined = false)
      (unformatted : formatter.format value = .error (.invalid fault)) (holds : stuck)
  | notNumber (present : value.isUndefined = false) (isNaN : value.isNaN = true)
      (same : formatter.format value = .ok value) (holds : stuck)

namespace Formatter

variable {formatter : Formatter} {raw value : Value}

theorem Returns.congr {stuck other : Prop} (same : stuck ↔ other)
    (returns : formatter.Returns stuck value) : formatter.Returns other value := by
  rwa [← propext same]

/-- No field gets stuck with one of the two absences. -/
theorem not_strands_of_absent (absent : raw = .null ∨ raw = .undefined) :
    ¬formatter.Strands raw := by
  intro strands
  cases strands with
  | nonFinite isText => rcases absent with rfl | rfl <;> cases isText
  | unwritable _ present unwritten =>
    rcases absent with rfl | rfl
    · cases unwritten
    · cases present
  | notNumber _ isNaN => rcases absent with rfl | rfl <;> cases isNaN
  | member named => rcases absent with rfl | rfl <;> cases named

/-- Only fields of three kinds get stuck. -/
theorem not_strands (noJson : formatter ≠ .json) (noInteger : formatter ≠ .integer)
    (noAsIs : formatter ≠ .asIs) : ¬formatter.Strands raw := by
  intro strands
  cases strands with
  | nonFinite => exact noJson rfl
  | unwritable => exact noJson rfl
  | notNumber takes =>
    rcases takes with isAsIs | isJson
    · exact noAsIs isAsIs
    · exact noJson isJson
  | member => exact noInteger rfl

/-- The two absences pass through every field. -/
theorem returns_of_absent (absent : raw = .null ∨ raw = .undefined) :
    formatter.Returns (formatter.Strands raw) raw := by
  have free : ¬formatter.Strands raw := not_strands_of_absent absent
  rcases absent with rfl | rfl
  · exact .kept rfl rfl rfl free
  · exact .absent rfl free

/-- A JSON field holds a value as it is if that has a JSON text and is a number or none at all, and
refuses any other. -/
theorem returns_json {stuck : Prop} (plain : decoded value = .ok value)
    (present : value.isUndefined = false)
    (unwritten : ∀ fault, Json.write value = .error fault → stuck)
    (notNumber : value.isNaN = true → stuck)
    (free : ∀ text, Json.write value = .ok text → value.isNaN = false → ¬stuck) :
    Formatter.json.Returns stuck value := by
  cases result : Json.write value with
  | ok text =>
    have same : Formatter.json.format value = .ok value := by
      rw [format]
      split
      · rfl
      · exact convertJson_of_written plain result
    by_cases isNaN : value.isNaN = true
    · exact .notNumber present isNaN same (notNumber isNaN)
    · have isNumber := Bool.eq_false_iff.mpr isNaN
      exact .kept present isNumber same (free text result isNumber)
  | error fault =>
    have absent : (value.isNull || value.isUndefined) = false := by
      cases value with
      | null => cases result
      | undefined => cases present
      | _ => rfl
    have unformatted : Formatter.json.format value =
        .error (refusal .json value (.unwritable fault)) := by
      rw [format, absent, if_neg Bool.false_ne_true]
      show convertJson value = _
      simp only [convertJson, plain, bind, Except.bind, result]
      rfl
    exact .refused present unformatted (unwritten fault result)

/-- What a text in a row is read as is held, unless a number in it is not finite. -/
theorem returns_of_read {source : String} (isText : decoded raw = .ok (.text source))
    (spelled : Json.read source = .ok value) :
    Formatter.json.Returns (Formatter.json.Strands raw) value := by
  have json := Json.isJson_of_read spelled
  have judged := Json.judges_write json
  have nonFinite : value.HoldsNonFinite ↔ Formatter.json.Strands raw := by
    refine ⟨fun holds => .nonFinite isText spelled holds, fun strands => ?_⟩
    cases strands with
    | nonFinite isTextToo spelledToo holds =>
      cases isText.symm.trans isTextToo
      cases spelled.symm.trans spelledToo
      exact holds
    | unwritable noText => exact absurd isText (noText source)
    | notNumber _ isNaN =>
      cases raw with
      | float number => cases isText
      | decimal number => cases isText
      | _ => cases isNaN
  have plain : decoded value = .ok value := by
    cases json <;> rfl
  have present : value.isUndefined = false := by
    cases json <;> rfl
  refine (returns_json plain present ?_ ?_ ?_).congr nonFinite
  · intro fault unwritten
    rw [unwritten] at judged
    cases judged with
    | notFinite holds => exact holds
  · intro isNaN
    cases json with
    | float number =>
      cases number with
      | nan => exact .float rfl
      | _ => cases isNaN
    | _ => cases isNaN
  · intro text written _
    rw [written] at judged
    cases judged with
    | text finite => exact finite

/-- What a row has for a JSON field and is no text is held as it is, if the field can hold it. -/
theorem returns_of_unread (noText : ∀ source, decoded raw ≠ .ok (.text source))
    (plain : decoded raw = .ok raw) (present : raw.isUndefined = false) :
    Formatter.json.Returns (Formatter.json.Strands raw) raw := by
  refine returns_json plain present ?_ ?_ ?_
  · exact fun fault unwritten => .unwritable noText present unwritten
  · exact fun isNaN => .notNumber (.inr rfl) isNaN
  · intro text written isNumber strands
    cases strands with
    | nonFinite isText => exact noText _ isText
    | unwritable _ _ unwritten => cases written.symm.trans unwritten
    | notNumber _ isNaN => exact Bool.false_ne_true (isNumber.symm.trans isNaN)

theorem returns_load_json (present : (raw.isNull || raw.isUndefined) = false)
    (loaded : jsonValue raw = .ok value) :
    Formatter.json.Returns (Formatter.json.Strands raw) value := by
  obtain ⟨found, taken, loaded⟩ := ok_of_bind loaded
  have defined : raw.isUndefined = false := (Bool.or_eq_false_iff.mp present).2
  split at loaded
  · split at loaded
    · rename_i spelled
      cases loaded
      exact returns_of_read taken spelled
    · cases loaded
  · rename_i noText
    cases loaded
    have same : value = raw := by
      rcases decoded_cases taken with ⟨source, isText⟩ | same
      · exact absurd isText (noText source)
      · exact same
    subst same
    refine returns_of_unread (fun source isText => ?_) taken defined
    cases taken.symm.trans isText
    exact noText source rfl

/-- What an integer field holds is an integer, or the name of a member, which it does not take
back. -/
theorem returns_convertInteger (converted : convertInteger raw = .ok value) :
    Formatter.integer.Returns (Formatter.integer.Strands raw) value := by
  rcases convertInteger_eq_ok converted with ⟨number, rfl⟩ | ⟨name, named, rfl⟩
  · refine .kept rfl rfl rfl fun strands => ?_
    cases strands with
    | notNumber takes => rcases takes with other | other <;> cases other
    | member named =>
      have isNumber : raw.isNaN = false := by
        cases raw <;> cases named <;> rfl
      rw [convertInteger, isNumber, named] at converted
      cases converted
  · obtain ⟨fault, refused⟩ := convertInteger_memberName named
    exact .refused rfl refused (.member named)

/-- What a field makes of a value out of a row, it takes back, unless it is stuck with the value. -/
theorem returns_load (loaded : formatter.load raw = .ok value) :
    formatter.Returns (formatter.Strands raw) value := by
  unfold load at loaded
  split at loaded
  · rename_i absent
    cases loaded
    exact returns_of_absent (Value.eq_null_or_eq_undefined absent)
  · rename_i present
    have kept (others : formatter ≠ .integer) (isNumber : value.isNaN = false)
        (free : ¬formatter.Strands raw) (converted : formatter.convert raw = .ok value) :
        formatter.Returns (formatter.Strands raw) value := by
      have formatted : formatter.format raw = .ok value := by rwa [format, if_neg present]
      have defined := (Bool.or_eq_false_iff.mp (Bool.eq_false_iff.mpr present)).2
      rcases format_held formatted with same | ⟨isInteger, _⟩
      · exact .kept (isUndefined_format defined formatted) isNumber same free
      · exact absurd isInteger others
    cases formatter with
    | integer => exact returns_convertInteger loaded
    | json => exact returns_load_json (Bool.eq_false_iff.mpr present) loaded
    | float =>
      obtain ⟨number, rfl, isNumber⟩ := convertFloat_eq_ok loaded
      exact kept (by simp) isNumber (not_strands (by simp) (by simp) (by simp)) loaded
    | boolean =>
      cases loaded
      exact kept (by simp) rfl (not_strands (by simp) (by simp) (by simp)) rfl
    | string strip =>
      obtain ⟨characters, rfl, -⟩ := convertText_eq_ok loaded
      exact kept (by simp) rfl (not_strands (by simp) (by simp) (by simp)) loaded
    | datetime =>
      obtain ⟨moment, rfl⟩ := convertDateTime_eq_ok loaded
      exact kept (by simp) rfl (not_strands (by simp) (by simp) (by simp)) loaded
    | asIs =>
      cases loaded
      by_cases isNaN : raw.isNaN = true
      · have defined := Value.isUndefined_of_isNaN isNaN
        have same : Formatter.asIs.format raw = .ok raw := by rw [format, if_neg present]; rfl
        exact .notNumber defined isNaN same (.notNumber (.inl rfl) isNaN)
      · refine kept (by simp) (Bool.eq_false_iff.mpr isNaN) (fun strands => ?_) rfl
        cases strands with
        | notNumber _ found => exact isNaN found

end Formatter

/-- What a declared field gets out of a row, it takes back, unless it is stuck with it. -/
theorem FieldSpec.returns_loadedValue {spec : FieldSpec} (preset : spec.IsPreset)
    {row name value : Value} (loaded : Schema.loadedValue spec row name = .ok value) :
    spec.formatter.Returns (spec.Strands row name) value := by
  obtain ⟨member, found, loaded⟩ := ok_of_bind loaded
  cases member with
  | some raw =>
    have strands : spec.formatter.Strands raw ↔ spec.Strands row name := by
      refine ⟨fun strands => .given found strands, fun strands => ?_⟩
      cases strands with
      | given foundToo strands =>
        cases found.symm.trans foundToo
        exact strands
      | default missing => cases found.symm.trans missing
    exact (Formatter.returns_load loaded).congr strands
  | none =>
    cases loaded
    have strands : spec.default.isNaN = true ↔ spec.Strands row name := by
      refine ⟨fun isNaN => .default found isNaN, fun strands => ?_⟩
      cases strands with
      | given foundToo => cases found.symm.trans foundToo
      | default _ isNaN => exact isNaN
    refine Formatter.Returns.congr strands ?_
    rcases preset with none | same
    · rw [none]
      exact .absent rfl nofun
    · by_cases isNaN : spec.default.isNaN = true
      · exact .notNumber (Value.isUndefined_of_isNaN isNaN) isNaN same isNaN
      · by_cases missing : spec.default.isUndefined = true
        · exact .absent missing isNaN
        · exact .kept (Bool.eq_false_iff.mpr missing) (Bool.eq_false_iff.mpr isNaN) same isNaN

/-! ### All fields -/

namespace Schema

/-- Names are told apart if each equals itself and no other, as texts do. -/
def AreApart (names : List Value) : Prop :=
  ∀ first ∈ names, ∀ second ∈ names, first.equal second = true ↔ first = second

theorem someStrand_cons_iff {name row : Value} {spec : FieldSpec} {rest : Entries FieldSpec} :
    SomeStrand ((name, spec) :: rest) row ↔ spec.Strands row name ∨ SomeStrand rest row := by
  simp only [SomeStrand, List.mem_cons, exists_eq_or_imp]

section Refused

variable {record : Record} {name value : Value} {spec : FieldSpec} {rest : Entries FieldSpec}

/-- A record is refused for a value that a formatter refuses. -/
theorem formatFields_cons_of_error {failure : Failure} (given : record.get? name = some value)
    (present : value.isUndefined = false)
    (refused : spec.formatter.format value = .error failure) :
    formatFields record ((name, spec) :: rest) = .error failure := by
  rw [formatFields, given, Option.getD_some, present, if_neg Bool.false_ne_true, refused]
  rfl

/-- A record is refused for a value that is not a number after formatting. -/
theorem formatFields_cons_of_isNaN (given : record.get? name = some value)
    (isNaN : value.isNaN = true) (same : spec.formatter.format value = .ok value) :
    formatFields record ((name, spec) :: rest) = .error (.invalid (.notNumber name value)) := by
  have present := Value.isUndefined_of_isNaN isNaN
  rw [formatFields, given, Option.getD_some, present, if_neg Bool.false_ne_true, same]
  show (if value.isUndefined = true then _ else if value.isNaN = true then _ else _) = _
  rw [present, isNaN, if_neg Bool.false_ne_true, if_pos rfl]
  rfl

end Refused

/-- What some fields get out of a row, they take back, unless one of them is stuck. The record can
have more than these fields, of which the others are already done. -/
theorem formatFields_of_loadFields {fields : Entries FieldSpec} (distinct : fields.AreDistinct)
    (apart : AreApart fields.keys) (preset : ∀ field ∈ fields, field.2.IsPreset) {row : Value}
    {whole found : Record} (loaded : loadFields row fields = .ok found)
    (same : ∀ key ∈ fields.keys, whole.get? key = found.get? key) :
    ¬SomeStrand fields row ∧ formatFields whole fields = .ok found ∨
      SomeStrand fields row ∧ ∃ fault, formatFields whole fields = .error (.invalid fault) := by
  induction fields generalizing found with
  | nil =>
    cases loaded
    exact .inl ⟨by simp [SomeStrand], rfl⟩
  | cons field rest inductionHypothesis =>
    obtain ⟨name, spec⟩ := field
    obtain ⟨different, distinctRest⟩ := List.pairwise_cons.mp distinct
    obtain ⟨presetHere, presetRest⟩ := List.forall_mem_cons.mp preset
    obtain ⟨sameHere, sameRest⟩ := List.forall_mem_cons.mp same
    have apartRest : AreApart (Entries.keys rest) := fun first firstIn second secondIn =>
      apart first (List.mem_cons_of_mem _ firstIn) second (List.mem_cons_of_mem _ secondIn)
    have itself : name.equal name = true :=
      (apart name List.mem_cons_self name List.mem_cons_self).mpr rfl
    have otherThan : ∀ key ∈ Entries.keys rest, name.equal key = false := by
      intro key member
      obtain ⟨field, among, rfl⟩ := List.mem_map.mp member
      exact different field among
    obtain ⟨value, others, taken, later, rfl⟩ := loadFields_cons loaded
    -- the other fields find nothing of the first one in the record
    have sameLater : ∀ key ∈ Entries.keys rest, whole.get? key = others.get? key := by
      intro key member
      rw [sameRest key member]
      split
      · rfl
      · rw [Entries.get?, otherThan key member, if_neg Bool.false_ne_true]
    have continued := inductionHypothesis distinctRest apartRest presetRest later sameLater
    have given (present : value.isUndefined = false) : whole.get? name = some value := by
      rw [sameHere, present, if_neg Bool.false_ne_true, Entries.get?, if_pos itself]
    cases FieldSpec.returns_loadedValue presetHere taken with
    | absent missing free =>
      have unknown : others.get? name = none := by
        refine Entries.get?_eq_none fun own member => Bool.eq_false_iff.mpr fun equal => ?_
        have among := (keys_loadFields later).subset member
        have isName := (apart own (List.mem_cons_of_mem _ among) name List.mem_cons_self).mp equal
        rw [isName] at among
        exact Bool.false_ne_true ((otherThan name among).symm.trans itself)
      rw [missing, if_pos rfl] at sameHere ⊢
      rw [formatFields_cons_of_absent (sameHere.trans unknown), someStrand_cons_iff,
        or_iff_right free]
      exact continued
    | kept present isNumber kept free =>
      rw [present, if_neg Bool.false_ne_true, someStrand_cons_iff, or_iff_right free,
        formatFields_cons_of_kept (given present) present isNumber kept]
      rcases continued with ⟨free, back⟩ | ⟨stuck, fault, refused⟩
      · rw [back]
        exact .inl ⟨free, rfl⟩
      · rw [refused]
        exact .inr ⟨stuck, fault, rfl⟩
    | refused present unformatted stuck =>
      exact .inr ⟨someStrand_cons_iff.mpr (.inl stuck), _,
        formatFields_cons_of_error (given present) present unformatted⟩
    | notNumber present isNaN kept stuck =>
      exact .inr ⟨someStrand_cons_iff.mpr (.inl stuck), _,
        formatFields_cons_of_isNaN (given present) isNaN kept⟩

/-- A row that can be read can be written back: what it is read as is its own strict form, and so
is the strict form again. Excepted are the rows that hold for a declared field what the field takes
and does not take back, and these are refused. Names are told apart, and defaults are formatted. -/
theorem strictForm_toData {schema : Schema} (apart : AreApart schema.fieldNames)
    (preset : ∀ field ∈ schema.fields, field.2.IsPreset) {row : Value} {data : Record}
    (read : schema.toData row = .ok data) :
    ¬SomeStrand schema.fields row ∧ (∃ once, schema.strictForm (.dict data) = .ok once ∧
        once = data ∧ schema.strictForm (.dict once) = .ok once) ∨
      SomeStrand schema.fields row ∧
        ∃ fault, schema.strictForm (.dict data) = .error (.invalid fault) := by
  rcases formatFields_of_loadFields schema.distinct apart preset read fun _ _ => rfl with
    ⟨free, back⟩ | ⟨stuck, refused⟩
  · exact .inl ⟨free, data, back, rfl, back⟩
  · exact .inr ⟨stuck, refused⟩

/-- Users with a key, a profile and a flag for those that are hidden. -/
def profiles : Schema where
  fields := [(.text "id", ⟨.integer, .undefined⟩), (.text "profile", ⟨.json, .undefined⟩),
    (.text "deleted", ⟨.boolean, .bool false⟩)]
  hiddenFlag := some (.text "deleted")
  primaryKey := some (.text "id")
  distinct := by decide
  flag_declared := by
    intro flag same
    cases same
    exact ⟨_, rfl, rfl⟩
  key_declared := by
    intro key same
    cases same
    rfl

/-- A profile of lists and mappings comes back. One that spells a not-a-number is read, and then
refused. -/
theorem strictForm_toData_profiles :
    let row : Value := .dict [(.text "id", .text "7"), (.text "profile", .text "[\x7b\x7d, 1]")]
    let data : Record := [(.text "id", .int 7), (.text "profile", .list [.dict [], .int 1]),
      (.text "deleted", .bool false)]
    let odd : Value := .dict [(.text "profile", .text "NaN")]
    let oddData : Record := [(.text "profile", .float .nan), (.text "deleted", .bool false)]
    profiles.toData row = .ok data ∧ (∃ once, profiles.strictForm (.dict data) = .ok once ∧
        once = data ∧ profiles.strictForm (.dict once) = .ok once) ∧
      profiles.toData odd = .ok oddData ∧
        ∃ fault, profiles.strictForm (.dict oddData) = .error (.invalid fault) := by
  intro row data odd oddData
  have apart : AreApart profiles.fieldNames := by
    intro first member second _
    obtain ⟨field, declared, rfl⟩ := List.mem_map.mp member
    have isText : ∃ name, field.1 = .text name := by
      revert field
      simp [profiles]
    obtain ⟨name, isText⟩ := isText
    rw [isText, Value.text_equal_iff]
    exact eq_comm
  have preset : ∀ field ∈ profiles.fields, field.2.IsPreset := by
    simp only [profiles, List.forall_mem_cons, List.not_mem_nil, false_implies, implies_true,
      and_true]
    exact ⟨.inl rfl, .inl rfl, .inr rfl⟩
  have read : profiles.toData row = .ok data := by cbv
  have readOdd : profiles.toData odd = .ok oddData := by cbv
  have spelled : Json.read "NaN" = .ok (.float .nan) := by cbv
  have stuck : SomeStrand profiles.fields odd :=
    ⟨_, List.mem_cons_of_mem _ List.mem_cons_self, .given rfl (.nonFinite rfl spelled (.float rfl))⟩
  refine ⟨read, ?_, readOdd, ?_⟩
  · rcases strictForm_toData apart preset read with ⟨-, back⟩ | ⟨-, fault, refused⟩
    · exact back
    · have kept : profiles.strictForm (.dict data) = .ok data := by cbv
      cases kept.symm.trans refused
  · rcases strictForm_toData apart preset readOdd with ⟨free, -⟩ | ⟨-, refused⟩
    · exact absurd stuck free
    · exact refused

end Schema

end TableGateway
